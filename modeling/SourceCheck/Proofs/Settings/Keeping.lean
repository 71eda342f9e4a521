import SourceCheck.Proofs.Machine.Directories
import SourceCheck.Proofs.Settings.Saving

/-!
# A machine that keeps settings

Saving settings once makes a machine on which they can be saved again and again: the directories
above the file are there, and the file that stands at the end of the path may be read and written.
What is loaded in between is what was saved last.

* `Settings.Keeps`: the state of a machine after saving.
* `Keeps.load`, `Keeps.save`: what is loaded, and saving once more.
* `Settings.Vacant`, `Vacant.save`: where nothing is kept yet, and saving for the first time.
* `Settings.Stands`: either of the two, so that loading and saving can alternate.
-/

namespace SourceCheck

open FileAction

/-! ## 1. Room for a file -/

namespace Machine

theorem hasRoom_files {m : Machine} {files : FileTree} {bytes : List UInt8} :
    HasRoom { m with files := files } bytes ↔ m.HasRoom bytes := Iff.rfl

end Machine

namespace Settings

variable {m m' : Machine} {explicit : Option Path} {file : Path} {s s' : Settings}

/-- The bytes of the settings file. -/
def fileBytes (s : Settings) : List UInt8 := Text.Utf8.encode s.fileText.toList

theorem onlyFiles_save (s : Settings) (explicit : Option Path) : OnlyFiles (save s explicit) := by
  refine onlyFiles_get_bind fun m => ?_
  split
  · exact onlyFiles_throw _
  · refine onlyFiles_bind ?_ fun _ => onlyFiles_pure _
    refine onlyFiles_tryCatch ?_ fun _ => onlyFiles_throw _
    exact onlyFiles_bind (Machine.onlyFiles_makeDirectories _) fun _ =>
      Machine.onlyFiles_writeBytes _ _

/-- Saving neither makes nor takes room. -/
theorem hasRoom_of_save {bytes : List UInt8} (h : on (save s explicit) m = (.ok file, m')) :
    m'.HasRoom bytes ↔ m.HasRoom bytes := by
  rw [(onlyFiles_save s explicit).eq h, Machine.hasRoom_files]

/-! ## 2. Keeping settings -/

/-- **A machine that keeps settings**: the path of the settings file leads to a file with their
bytes, which may be read and written, and the directories above it are there. -/
structure Keeps (m : Machine) (explicit : Option Path) (file : Path) (s : Settings) : Prop where
  location : location m explicit = .ok file
  parent : m.isDirectory? file.parent = .ok true
  stored : ∃ l mode, m.find file true = .ok ⟨l, some (.file mode s.fileBytes)⟩ ∧
    mode.testBit 7 = true ∧ mode.testBit 8 = true

/-- Writing where a file may be written makes a machine that keeps settings, if the file may be
written and read after that. -/
theorem exists_keeps {l : Location} {e : Option Entry} (hlocation : location m explicit = .ok file)
    (hparent : m.isDirectory? file.parent = .ok true) (hfind : m.find file true = .ok ⟨l, e⟩)
    (hover : m.Writable l e) (hwritable : (Machine.modeOver e).testBit 7 = true)
    (hreadable : (Machine.modeOver e).testBit 8 = true) (hroom : m.HasRoom s.fileBytes) :
    ∃ m', on (Machine.writeBytes file s.fileBytes) m = (.ok (), m') ∧ Keeps m' explicit file s := by
  have hfile : ∀ target, Entry.file (Machine.modeOver e) s.fileBytes ≠ .link target := nofun
  refine ⟨{ m with files := m.files.put l (.file (Machine.modeOver e) s.fileBytes) }, ?_,
    hlocation, ?_, l, _, Machine.find_put hfile hover.replaceable hfind, hwritable, hreadable⟩
  · rw [Machine.on_writeBytes_of_find hfind hover]
    exact Machine.on_fill_iff.mpr ⟨hroom, rfl⟩
  · refine Machine.isDirectory?_frame _ hparent ?_
    rw [Machine.lookup_of_find hfind]
    exact hover.replaceable

/-- **What is loaded** is what the machine keeps. -/
theorem Keeps.load [Library] (h : Keeps m explicit file s)
    (hfloat : Json.readChars (.file m.nesting .unfollowed) (Json.writeNumber s.timeout) =
      .ok (.number s.timeout))
    (hs : s.Expressible) : load m explicit = .ok (s, []) := by
  obtain ⟨l, mode, hfind, -, hreadable⟩ := h.stored
  have hread : m.readBytes file = .ok s.fileBytes := by
    simp only [Machine.readBytes, hfind, Entry.contents, hreadable, if_true]
  have hobject : ofObject (byKey s.document) = .settings s :=
    ofObject_eq_settings_iff.mpr ((ofMembers_eq_self_iff (spells_byKey s)).mpr hs)
  rw [load_eq_readFile h.location (Machine.isFile?_of_find hfind), readFile, hread]
  dsimp only
  rw [fileBytes, ofBytes_fileText hfloat, hobject]

/-- **Saving once more**, on a machine that keeps settings, makes it keep others. -/
theorem Keeps.save (h : Keeps m explicit file s) (hroom : m.HasRoom s'.fileBytes) :
    ∃ m', on (Settings.save s' explicit) m = (.ok file, m') ∧ Keeps m' explicit file s' := by
  obtain ⟨l, mode, hfind, hwritable, hreadable⟩ := h.stored
  obtain ⟨m', hwritten, hkeeps⟩ :=
    exists_keeps h.location h.parent hfind hwritable hwritable hreadable hroom
  have hmade := Machine.on_makeDirectories_of_isDirectory? h.parent
  exact ⟨m', on_save_iff.mpr ⟨h.location, m, hmade, hwritten⟩, hkeeps⟩

/-! ## 3. Where nothing is kept yet -/

/-- **A path that settings can be written to and where there are none yet**: the directories above
it can be made, and then it leads to nothing, in a directory that may be written. -/
structure Vacant (m : Machine) (explicit : Option Path) (file : Path) : Prop where
  location : location m explicit = .ok file
  absent : m.isFile? file = .ok false
  makeable : ∃ m₁ l, on (Machine.makeDirectories file.parent) m = (.ok (), m₁) ∧
    m₁.find file true = .ok ⟨l, none⟩ ∧ m₁.Writable l none

theorem Vacant.load [Library] (h : Vacant m explicit file) : load m explicit = .ok (default, []) :=
  load_of_not_isFile h.location h.absent

/-- **Saving for the first time** makes a machine that keeps settings. -/
theorem Vacant.save (h : Vacant m explicit file) (hroom : m.HasRoom s.fileBytes) :
    ∃ m', on (Settings.save s explicit) m = (.ok file, m') ∧ Keeps m' explicit file s := by
  obtain ⟨m₁, l, hmade, hfind, hover⟩ := h.makeable
  have hfiles := (Machine.onlyFiles_makeDirectories _).eq hmade
  have hlocation : Settings.location m₁ explicit = .ok file := by
    rw [hfiles, location_files]
    exact h.location
  have hroom₁ : m₁.HasRoom s.fileBytes := by
    rw [hfiles]
    exact hroom
  obtain ⟨m', hwritten, hkeeps⟩ := exists_keeps hlocation
    (Machine.isDirectory?_of_makeDirectories hmade) hfind hover (by decide) (by decide) hroom₁
  exact ⟨m', on_save_iff.mpr ⟨h.location, m₁, hmade, hwritten⟩, hkeeps⟩

/-! ## 4. Loading and saving in turn -/

/-- **A machine for which some settings hold**: it keeps them, or it keeps none and they are the
default ones. -/
def Stands (m : Machine) (explicit : Option Path) (file : Path) (s : Settings) : Prop :=
  (Vacant m explicit file ∧ s = default) ∨ Keeps m explicit file s

theorem Stands.load [Library] (h : Stands m explicit file s)
    (hfloat : Json.readChars (.file m.nesting .unfollowed) (Json.writeNumber s.timeout) =
      .ok (.number s.timeout))
    (hs : s.Expressible) : load m explicit = .ok (s, []) := by
  rcases h with ⟨hvacant, rfl⟩ | hkeeps
  · exact hvacant.load
  · exact hkeeps.load hfloat hs

theorem Stands.save (h : Stands m explicit file s) (hroom : m.HasRoom s'.fileBytes) :
    ∃ m', on (Settings.save s' explicit) m = (.ok file, m') ∧ Stands m' explicit file s' := by
  have hsave : ∃ m', on (Settings.save s' explicit) m = (.ok file, m') ∧
      Keeps m' explicit file s' := by
    rcases h with ⟨hvacant, -⟩ | hkeeps
    · exact hvacant.save hroom
    · exact hkeeps.save hroom
  obtain ⟨m', hsaved, hkeeps⟩ := hsave
  exact ⟨m', hsaved, .inr hkeeps⟩

end Settings

end SourceCheck
