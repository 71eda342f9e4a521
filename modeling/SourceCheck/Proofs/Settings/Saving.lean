import SourceCheck.Proofs.Json.RoundTrip
import SourceCheck.Proofs.Machine.Writing
import SourceCheck.Proofs.Settings.Document
import SourceCheck.Proofs.Settings.Loading
import SourceCheck.Proofs.Text.Utf8

/-!
# Settings read back from their file

What is loaded after settings were saved is decided by three things.  The text of the file must be
read as the document that was written, the document must be read as the settings, and the path must
lead to a file that may be read: a file that may only be written, or a device, takes the settings
and gives nothing back.

* `ofBytes_fileText`: what the bytes of a settings file are read as.
* `save_succeeds`: what a machine looks like after saving.
* `read_back_iff`: the settings that their document and their file give back.
-/

namespace SourceCheck.Settings

open FileAction Text

variable {s : Settings} {depth : Depth}

/-! ## 1. The text of the file -/

theorem spells_byKey (s : Settings) : Spells (byKey s.document) s :=
  (document_spells s).perm (List.mergeSort_perm _ _).symm

/-- The values of a document of settings are truth values, but for the deadline. -/
theorem Spells.value_cases {ms : Json.Members} (h : Spells ms s) {e : String × Json}
    (he : e ∈ ms) : e.2 = .number s.timeout ∨ ∃ b, e.2 = .bool b := by
  have hv : s.valueOf? e.1 = some e.2 := by
    rw [← h.get?, Table.get?_eq_some_iff h.nodup]
    exact he
  rw [valueOf?] at hv
  split at hv
  · exact .inl (Option.some.inj hv).symm
  · split at hv
    · exact .inr ⟨true, (Option.some.inj hv).symm⟩
    · split at hv
      · exact .inr ⟨s.disable, (Option.some.inj hv).symm⟩
      · cases hv

theorem Spells.fits {ms : Json.Members} (h : Spells ms s)
    (hfloat : Json.readChars (.file depth .unfollowed) (Json.writeNumber s.timeout) =
      .ok (.number s.timeout)) :
    Json.Fits (.file depth .unfollowed) 0 (.object ms) := by
  rw [Json.Fits.eq_def]
  have hdepth : (Json.Dialect.file depth .unfollowed).allows 0 = true :=
    decide_eq_true (by have := depth.enough; omega)
  refine ⟨.inr hdepth, h.nodup, Json.membersFit_of_forall fun e he => ?_⟩
  rcases h.value_cases he with hv | ⟨b, hv⟩
  · rw [hv, Json.Fits.eq_def]
    exact hfloat
  · rw [hv, Json.Fits.eq_def]
    exact trivial

/-- Documents of settings are flat. -/
theorem Spells.levels {ms : Json.Members} (h : Spells ms s) : (Json.object ms).levels = 1 := by
  have hflat : ∀ ms' : Json.Members, (∀ e ∈ ms', e ∈ ms) → Json.memberLevels ms' = 0 := by
    intro ms' hsub
    induction ms' with
    | nil => rfl
    | cons e ms' ih =>
      have hrest := ih fun e' he' => hsub e' (List.mem_cons_of_mem e he')
      have hfirst : e.2.levels = 0 := by
        rcases h.value_cases (hsub e List.mem_cons_self) with hv | ⟨b, hv⟩ <;> rw [hv] <;> rfl
      rw [Json.memberLevels, hfirst, hrest]
      rfl
  rw [Json.levels, hflat ms fun e he => he]

/-- The text of a settings file is read as the document that was written. -/
theorem readChars_fileText
    (hfloat : Json.readChars (.file depth .unfollowed) (Json.writeNumber s.timeout) =
      .ok (.number s.timeout)) :
    Json.readChars (.file depth .unfollowed) s.fileText.toList =
      .ok (.object (byKey s.document)) := by
  rw [fileText, String.toList_append, Json.pretty, String.toList_ofList]
  exact Json.readChars_write ((spells_byKey s).fits hfloat) 0 rfl

/-- **The bytes of a settings file** say what its document is read as. -/
theorem ofBytes_fileText [Library]
    (hfloat : Json.readChars (.file depth .unfollowed) (Json.writeNumber s.timeout) =
      .ok (.number s.timeout)) :
    ofBytes depth (Utf8.encode s.fileText.toList) = ofObject (byKey s.document) := by
  rw [ofBytes_object (Utf8.decode?_encode _) (readChars_fileText hfloat), (spells_byKey s).levels]
  exact if_pos (by have := depth.enough; omega)

/-! ## 2. Saving -/

variable {m m' : Machine} {explicit : Option Path} {file : Path}

/-- Where the settings file is does not depend on the files. -/
theorem location_files (m : Machine) (files : FileTree) (explicit : Option Path) :
    location { m with files := files } explicit = location m explicit := rfl

/-- **Saving settings** is making the directories above the file and writing it. -/
theorem on_save_iff :
    on (save s explicit) m = (.ok file, m') ↔ location m explicit = .ok file ∧
      ∃ m₁, on (Machine.makeDirectories file.parent) m = (.ok (), m₁) ∧
        on (Machine.writeBytes file (Utf8.encode s.fileText.toList)) m₁ = (.ok (), m') := by
  rw [save, on_bind, on_get]
  dsimp only
  cases hlocation : location m explicit with
  | error f => exact iff_of_false (fun h => by cases h) fun h => by cases h.1
  | ok file' =>
    constructor
    · intro h
      obtain ⟨_, m₂, hstored, hreturn⟩ := of_on_bind h
      obtain ⟨_, m₁, hmade, hwritten⟩ := of_on_bind (of_on_tryCatch_throw hstored)
      cases hreturn
      exact ⟨rfl, m₁, hmade, hwritten⟩
    · rintro ⟨hfile, m₁, hmade, hwritten⟩
      cases hfile
      simp only [on_bind, on_tryCatch, hmade, hwritten]
      rfl

/-- **After settings are saved** the path still designates the settings file, and it leads to a file
with the bytes, or to a device that took them. -/
theorem save_succeeds (h : on (save s explicit) m = (.ok file, m')) :
    location m' explicit = .ok file ∧
    ∃ l e, m'.find file true = .ok ⟨l, some e⟩ ∧
      ((∃ mode, e = .file mode (Utf8.encode s.fileText.toList)) ∨ e.isFile = false) := by
  obtain ⟨hlocation, m₁, hmade, hwritten⟩ := on_save_iff.mp h
  refine ⟨?_, Machine.find_writeBytes hwritten⟩
  rw [(Machine.onlyFiles_writeBytes _ _).eq hwritten, location_files,
    (Machine.onlyFiles_makeDirectories _).eq hmade, location_files, hlocation]

/-! ## 3. Loading what was saved -/

section Loading

variable [Library]

/-- Where the path leads to no regular file, the default settings hold. -/
theorem load_of_not_isFile (hlocation : location m explicit = .ok file)
    (hfile : m.isFile? file = .ok false) : load m explicit = .ok (default, []) := by
  simp only [load, hlocation, hfile, bind, Except.bind, Bool.false_eq_true, if_false]
  rfl

/-- From a file that may not be read, the default settings are loaded. -/
theorem load_of_not_readable (hlocation : location m explicit = .ok file)
    (hfile : m.isFile? file = .ok true) {f : Fault} (hread : m.readBytes file = .error f) :
    load m explicit = .ok (default, [ignored file (.unreadable f)]) := by
  rw [load_eq_readFile hlocation hfile, readFile, hread]

/-- What an object says is settings exactly if it is read as them. -/
theorem ofObject_eq_settings_iff {ms : Json.Members} :
    ofObject ms = .settings s ↔ ofMembers ms = .ok s := by
  unfold ofObject
  cases ofMembers ms with
  | ok s' => simp
  | error r => cases r <;> simp

/-- From a file with the bytes of settings, these settings are loaded if they can be expressed. -/
theorem load_fileText_iff
    (hfloat : Json.readChars (.file m.nesting .unfollowed) (Json.writeNumber s.timeout) =
      .ok (.number s.timeout))
    (hlocation : location m explicit = .ok file) (hfile : m.isFile? file = .ok true)
    (hread : m.readBytes file = .ok (Utf8.encode s.fileText.toList)) :
    (∃ logs, load m explicit = .ok (s, logs)) ↔ s.Expressible := by
  have hself : ofObject (byKey s.document) = .settings s ↔ s.Expressible :=
    ofObject_eq_settings_iff.trans (ofMembers_eq_self_iff (spells_byKey s))
  rw [← hself, load_eq_readFile hlocation hfile, readFile, hread]
  dsimp only
  rw [ofBytes_fileText hfloat]
  cases hbytes : ofObject (byKey s.document) with
  | settings s' => simp
  | unusable why =>
    constructor
    · -- Only the default settings come with a warning, and their own text is accepted.
      rintro ⟨logs, hload⟩
      cases hload
      exact hbytes ▸ hself.mpr expressible_default
    · intro hread
      cases hread
  | failed f => simp

/-- **The settings that are given back.**  Their document gives back exactly the settings that it
can express.  So does the file in which they were saved, provided that the deadline is read back by
itself, and that it is a regular file that may be read; anything else gives back the default
settings, whatever was saved. -/
theorem read_back_iff (s : Settings) :
    (ofDocument (.object s.document) = .ok s ↔ s.Expressible) ∧
    (∀ (m m' : Machine) (explicit : Option Path) (file : Path),
      Json.readChars (.file m'.nesting .unfollowed) (Json.writeNumber s.timeout) =
        .ok (.number s.timeout) →
      on (save s explicit) m = (.ok file, m') →
      ((∃ logs, load m' explicit = .ok (s, logs)) ↔
        s = default ∨ (s.Expressible ∧ m'.isFile? file = .ok true ∧
          ∃ bytes, m'.readBytes file = .ok bytes))) := by
  refine ⟨ofDocument_eq_ok_iff.trans ?_, fun m m' explicit file hfloat hsave => ?_⟩
  · rw [← ofMembers_eq_self_iff (document_spells s)]
    simp
  · obtain ⟨hlocation, l, e, hfind, hentry⟩ := save_succeeds hsave
    have hfile := Machine.isFile?_of_find hfind
    have hdefault : ∀ logs, load m' explicit = .ok (default, logs) →
        ((∃ logs, load m' explicit = .ok (s, logs)) ↔ s = default) := by
      intro logs hload
      rw [hload]
      constructor
      · rintro ⟨logs', hlogs⟩
        cases hlogs
        rfl
      · rintro rfl
        exact ⟨logs, rfl⟩
    rcases hentry with ⟨mode, rfl⟩ | hnone
    · cases hread : m'.readBytes file with
      | ok bytes =>
        have hbytes := (Machine.readBytes_of_find hfind).mp ⟨bytes, hread⟩
        rw [load_fileText_iff hfloat hlocation hfile hbytes]
        constructor
        · exact fun hs => .inr ⟨hs, hfile, bytes, rfl⟩
        · rintro (rfl | ⟨hs, -⟩)
          · exact expressible_default
          · exact hs
      | error f =>
        rw [hdefault _ (load_of_not_readable hlocation hfile hread)]
        simp
    · rw [hnone] at hfile
      rw [hdefault _ (load_of_not_isFile hlocation hfile), hfile]
      simp

end Loading

/-- A machine without files. -/
def emptyMachine : Machine := { files := ⟨[]⟩ }

/-- Settings in which one language is switched off. -/
def goOff : Settings := { default with flags := .ofList ["Go"] }

theorem read_back_iff_goOff :
    ∃ file m', on (save goOff (some (Path.ofString "/config.json"))) emptyMachine = (.ok file, m') ∧
      ∃ logs, load m' (some (Path.ofString "/config.json")) = .ok (goOff, logs) := by
  let after := (on (save goOff (some (Path.ofString "/config.json"))) emptyMachine).2
  have hsave : on (save goOff (some (Path.ofString "/config.json"))) emptyMachine =
      (.ok (Path.ofString "/config.json"), after) :=
    Prod.ext (by decide) rfl
  have hfloat : Json.readChars (.file after.nesting .unfollowed)
      (Json.writeNumber goOff.timeout) = .ok (.number goOff.timeout) := by
    decide
  have hreadable : (after.readBytes (Path.ofString "/config.json")).isOk = true := by
    decide
  obtain ⟨bytes, hbytes⟩ : ∃ bytes, after.readBytes (Path.ofString "/config.json") = .ok bytes := by
    cases hr : after.readBytes (Path.ofString "/config.json") with
    | ok bytes => exact ⟨bytes, rfl⟩
    | error f =>
      rw [hr] at hreadable
      cases hreadable
  refine ⟨_, after, hsave, ((read_back_iff goOff).2 _ _ _ _ hfloat hsave).mpr (.inr ?_)⟩
  exact ⟨by decide, by decide, bytes, hbytes⟩

/-- **Not all settings that a document gives are read back** from their own. -/
theorem exists_not_read_back :
    ¬ ∀ (ms : Json.Members) (s : Settings), ofMembers ms = .ok s →
      ofDocument (.object s.document) = .ok s := by
  intro h
  have hread : ofMembers [(flagsKey, .array [.string listFlag])] =
      .ok { default with flags := .ofList [listFlag] } := rfl
  exact absurd ((ofMembers_eq_self_iff (document_spells _)).mp (h _ _ hread)) (by decide)

end SourceCheck.Settings
