import SourceCheck.Proofs.Json.Equality
import SourceCheck.Proofs.Output.Returning
import SourceCheck.Proofs.Text.Utf8
import SourceCheck.Settings.Store

/-!
# What the settings file gives

An existing file is read in one of three ways.  If its bytes are accepted, its settings hold and
nothing is logged.  If they are rejected, the default settings hold and one warning is logged, which
says why.  And there are bytes whose reading breaks off, so that there are no settings at all: a
document that is nested too deeply, and a list of flags that is `true` or a number other than zero.
What becomes of a file that is not followed to its end, nobody says.

* `Settings.listedFlags_fails_iff`: the values from which no flags can be taken.
* `Settings.Accepted`, `Settings.Rejected`, `Settings.Breaking`: the three, `Settings.Followed` for
  all of them.
* `Settings.load_existing`: which of the three takes place.
-/

namespace SourceCheck

namespace Settings

open Text

/-! ## 1. The list of flags -/

/-- **A value from which no flags can be taken**: it stands for something, and it is no
collection. -/
def Unlistable : Json → Prop
  | .bool b => b = true
  | .int n => n ≠ 0
  | .number x => x.isZero = false
  | _ => False

instance : DecidablePred Unlistable := fun v => by
  cases v <;> unfold Unlistable <;> infer_instance

/-- **Taking the flags from a value fails** exactly for these values. -/
theorem listedFlags_fails_iff {v : Json} :
    (∃ f, listedFlags v = .error f) ↔ Unlistable v := by
  cases v with
  | null => simp [listedFlags, isVoid, Unlistable]
  | bool b => cases b <;> simp [listedFlags, isVoid, Unlistable]
  | int n => by_cases h : n = 0 <;> simp [listedFlags, isVoid, Unlistable, h]
  | number x => cases h : x.isZero <;> simp [listedFlags, isVoid, Unlistable, h]
  | string s =>
    simp only [Unlistable, iff_false, not_exists]
    intro f hf
    unfold listedFlags at hf
    split at hf <;> cases hf
  | array vs =>
    simp only [Unlistable, iff_false, not_exists]
    intro f hf
    unfold listedFlags at hf
    split at hf <;> cases hf
  | object ms =>
    simp only [Unlistable, iff_false, not_exists]
    intro f hf
    unfold listedFlags at hf
    split at hf <;> cases hf

section Reading

variable [Library]

/-- The values of the other keys are refused as problems, never as a failure. -/
theorem ofFields_ne_failed {flags : FlagSet} {ms : Json.Members} {f : Fault} :
    ofFields flags ms ≠ .error (.failed f) := by
  unfold ofFields
  split <;> simp

/-- **Reading the settings of an object fails** only over the list of flags. -/
theorem ofMembers_failed_iff {ms : Json.Members} {f : Fault} :
    ofMembers ms = .error (.failed f) ↔
      listedFlags ((Table.get? ms flagsKey).getD .null) = .error f := by
  unfold ofMembers
  cases listedFlags ((Table.get? ms flagsKey).getD .null) with
  | error g => simp
  | ok listed =>
    simp only [reduceCtorEq, iff_false]
    cases turnFlags (.ofList listed) ms with
    | error p => simp
    | ok flags => exact ofFields_ne_failed

/-! ## 2. The bytes of a file -/

/-- **Bytes that are followed to their end**: there is no half surrogate pair in their strings, and
levels enough are left for what is wrong with them. -/
def Followed (depth : Depth) (bytes : List UInt8) : Prop :=
  ofBytes depth bytes ≠ .failed .unfollowed

/-- **Bytes that are accepted**: they are UTF-8, the text is a document, the document is an object,
and it stands for these settings. -/
def Accepted (depth : Depth) (bytes : List UInt8) (s : Settings) : Prop :=
  ∃ text ms, Utf8.decode? bytes = some text ∧
    Json.readChars (.file depth .unfollowed) text = .ok (.object ms) ∧ ofMembers ms = .ok s

/-- **Bytes that are rejected**, and why. -/
inductive Rejected (depth : Depth) (bytes : List UInt8) : Unusable → Prop
  | undecodable (hd : Utf8.decode? bytes = none) : Rejected depth bytes (.undecodable bytes)
  | malformed (text : List Char) (hd : Utf8.decode? bytes = some text)
      (hr : Json.readChars (.file depth .unfollowed) text = .error .malformed) :
      Rejected depth bytes (.malformed text)
  | tooManyDigits (text : List Char) (count : Nat) (hd : Utf8.decode? bytes = some text)
      (hr : Json.readChars (.file depth .unfollowed) text = .error (.tooManyDigits count)) :
      Rejected depth bytes (.tooManyDigits count)
  | noObject (text : List Char) (v : Json) (hd : Utf8.decode? bytes = some text)
      (hr : Json.readChars (.file depth .unfollowed) text = .ok v) (hv : ∀ ms, v ≠ .object ms) :
      Rejected depth bytes .noObject
  | invalid (text : List Char) (ms : Json.Members) (ps : List SettingsProblem)
      (hd : Utf8.decode? bytes = some text)
      (hr : Json.readChars (.file depth .unfollowed) text = .ok (.object ms))
      (hp : ofMembers ms = .error (.problems ps)) : Rejected depth bytes (.invalid ps ms)

/-- **Bytes whose reading breaks off.** -/
inductive Breaking (depth : Depth) (bytes : List UInt8) : Prop
  /-- The document is nested too deeply. -/
  | nested (text : List Char) (isObject : Bool) (hd : Utf8.decode? bytes = some text)
      (hr : Json.readChars (.file depth .unfollowed) text = .error (.tooDeep isObject))
  /-- No flags can be taken from the value that lists them. -/
  | listed (text : List Char) (ms : Json.Members) (v : Json)
      (hd : Utf8.decode? bytes = some text)
      (hr : Json.readChars (.file depth .unfollowed) text = .ok (.object ms))
      (hv : Table.get? ms flagsKey = some v) (hu : Unlistable v)

theorem ofDocument_eq_ok_iff {v : Json} {s : Settings} :
    ofDocument v = .ok s ↔ ∃ ms, v = .object ms ∧ ofMembers ms = .ok s := by
  cases v <;> simp [ofDocument]

/-- No flags can be taken from what an object lists. -/
theorem exists_unlistable {ms : Json.Members} {f : Fault} (h : ofMembers ms = .error (.failed f)) :
    ∃ v, Table.get? ms flagsKey = some v ∧ Unlistable v := by
  have hfails := listedFlags_fails_iff.mp ⟨f, ofMembers_failed_iff.mp h⟩
  cases hv : Table.get? ms flagsKey with
  | none =>
    rw [hv] at hfails
    exact hfails.elim
  | some v =>
    rw [hv] at hfails
    exact ⟨v, rfl, hfails⟩

variable {depth : Depth} {bytes : List UInt8} {text : List Char} {ms : Json.Members} {s : Settings}
  {why : Unusable}

/-- The bytes of an object are followed if levels enough are left. -/
theorem ofBytes_object (hd : Utf8.decode? bytes = some text)
    (hr : Json.readChars (.file depth .unfollowed) text = .ok (.object ms)) :
    ofBytes depth bytes =
      if (Json.object ms).levels + depth.reserve ≤ depth.levels then ofObject ms
      else .failed .unfollowed := by
  simp only [ofBytes, hd, ofText, hr]

/-- Where bytes are followed, an object is read as what it says. -/
theorem Followed.ofBytes_object (h : Followed depth bytes) (hd : Utf8.decode? bytes = some text)
    (hr : Json.readChars (.file depth .unfollowed) text = .ok (.object ms)) :
    ofBytes depth bytes = ofObject ms := by
  rw [Followed, Settings.ofBytes_object hd hr] at h
  rw [Settings.ofBytes_object hd hr]
  split at h
  · rename_i hlevels
    rw [if_pos hlevels]
  · exact absurd rfl h

theorem Accepted.ofBytes_eq (h : Accepted depth bytes s) (hfollowed : Followed depth bytes) :
    ofBytes depth bytes = .settings s := by
  obtain ⟨text, ms, hd, hr, hs⟩ := h
  rw [hfollowed.ofBytes_object hd hr, ofObject, hs]

theorem Rejected.ofBytes_eq (h : Rejected depth bytes why) (hfollowed : Followed depth bytes) :
    ofBytes depth bytes = .unusable why := by
  cases h with
  | undecodable hd => simp only [ofBytes, hd]
  | malformed text hd hr => simp only [ofBytes, hd, ofText, hr]
  | tooManyDigits text count hd hr => simp only [ofBytes, hd, ofText, hr]
  | noObject text v hd hr hv =>
    cases v with
    | object ms => exact absurd rfl (hv ms)
    | _ => simp only [ofBytes, hd, ofText, hr]
  | invalid text ms ps hd hr hp => rw [hfollowed.ofBytes_object hd hr, ofObject, hp]

theorem Breaking.ofBytes_eq (h : Breaking depth bytes) : ∃ f, ofBytes depth bytes = .failed f := by
  cases h with
  | nested text isObject hd hr =>
    exact ⟨.nestedTooDeeply isObject, by simp only [ofBytes, hd, ofText, hr]⟩
  | listed text ms v hd hr hv hu =>
    obtain ⟨f, hf⟩ : ∃ f, listedFlags ((Table.get? ms flagsKey).getD .null) = .error f := by
      rw [listedFlags_fails_iff, hv]
      exact hu
    rw [Settings.ofBytes_object hd hr, ofObject, ofMembers_failed_iff.mpr hf]
    split
    · exact ⟨f, rfl⟩
    · exact ⟨.unfollowed, rfl⟩

/-- **Bytes that are followed to their end are one of the three.** -/
theorem Followed.cases (h : Followed depth bytes) :
    (∃ s, Accepted depth bytes s) ∨ (∃ why, Rejected depth bytes why) ∨ Breaking depth bytes := by
  cases hd : Utf8.decode? bytes with
  | none => exact .inr (.inl ⟨_, .undecodable hd⟩)
  | some text =>
    cases hr : Json.readChars (.file depth .unfollowed) text with
    | error e =>
      cases e with
      | malformed => exact .inr (.inl ⟨_, .malformed text hd hr⟩)
      | tooManyDigits count => exact .inr (.inl ⟨_, .tooManyDigits text count hd hr⟩)
      | tooDeep isObject => exact .inr (.inr (.nested text isObject hd hr))
      | unfollowed => exact absurd (by simp only [ofBytes, hd, ofText, hr]) h
    | ok v =>
      by_cases hv : ∃ ms, v = .object ms
      · obtain ⟨ms, rfl⟩ := hv
        cases hs : ofMembers ms with
        | ok s => exact .inl ⟨s, text, ms, hd, hr, hs⟩
        | error r =>
          cases r with
          | problems ps => exact .inr (.inl ⟨_, .invalid text ms ps hd hr hs⟩)
          | failed f =>
            obtain ⟨w, hw, hu⟩ := exists_unlistable hs
            exact .inr (.inr (.listed text ms w hd hr hw hu))
      · exact .inr (.inl ⟨_, .noObject text v hd hr fun ms hms => hv ⟨ms, hms⟩⟩)

/-! ## 3. Loading -/

variable {m : Machine} {explicit : Option Path} {file : Path}

theorem load_eq_readFile (hfile : location m explicit = .ok file)
    (hregular : m.isFile? file = .ok true) : load m explicit = readFile m file := by
  simp only [load, hfile, hregular, bind, Except.bind, if_true]

/-- **What an existing file gives**, if it is followed to its end.  Accepted bytes give their
settings without a record in the log, bytes whose reading breaks off, and no others, give no
settings, and all the rest give the default settings with one warning, which says why they are
rejected. -/
theorem load_existing (hfile : location m explicit = .ok file)
    (hregular : m.isFile? file = .ok true) (hread : m.readBytes file = .ok bytes)
    (hfollowed : Followed m.nesting bytes) :
    (∀ s, Accepted m.nesting bytes s → load m explicit = .ok (s, [])) ∧
    ((∀ s, ¬ Accepted m.nesting bytes s) → ¬ Breaking m.nesting bytes →
      ∃ why, Rejected m.nesting bytes why ∧
        load m explicit = .ok (default, [ignored file why])) ∧
    ((∃ f, load m explicit = .error f) ↔ Breaking m.nesting bytes) := by
  rw [load_eq_readFile hfile hregular, readFile, hread]
  dsimp only
  refine ⟨fun s hs => ?_, fun hs hb => ?_, fun ⟨f, hf⟩ => ?_, fun hb => ?_⟩
  · rw [hs.ofBytes_eq hfollowed]
  · rcases hfollowed.cases with ⟨s, haccepted⟩ | ⟨why, hwhy⟩ | hbreaking
    · exact absurd haccepted (hs s)
    · exact ⟨why, hwhy, by rw [hwhy.ofBytes_eq hfollowed]⟩
    · exact absurd hbreaking hb
  · rcases hfollowed.cases with ⟨s, haccepted⟩ | ⟨why, hwhy⟩ | hbreaking
    · rw [haccepted.ofBytes_eq hfollowed] at hf
      cases hf
    · rw [hwhy.ofBytes_eq hfollowed] at hf
      cases hf
    · exact hbreaking
  · obtain ⟨f, hf⟩ := hb.ofBytes_eq
    rw [hf]
    exact ⟨f, rfl⟩

end Reading

/-- A machine with one file, which its owner may read and write. -/
def oneFile (name text : String) : Machine :=
  { files := ⟨[([name], .file FileTree.fileMode (Utf8.encode text.toList))]⟩ }

/-- A file that switches one language off. -/
def switchText : String := "\x7b\"disableGo\": true\x7d"

theorem load_existing_switch :
    load (oneFile "config.json" switchText) (some (Path.ofString "/config.json")) =
      .ok (⟨false, .ofList ["Go"], defaultTimeout, by decide⟩, []) := by
  let room := (oneFile "config.json" switchText).nesting
  have hdecoded : Utf8.decode? (Utf8.encode switchText.toList) = some switchText.toList :=
    Utf8.decode?_encode _
  have hobject : Json.readChars (.file room .unfollowed) switchText.toList =
      .ok (.object [("disableGo", .bool true)]) := by
    decide +kernel
  have haccepted : Accepted room (Utf8.encode switchText.toList)
      ⟨false, .ofList ["Go"], defaultTimeout, by decide⟩ := ⟨_, _, hdecoded, hobject, rfl⟩
  have hfollowed : Followed room (Utf8.encode switchText.toList) := by
    rw [Followed, ofBytes_object hdecoded hobject]
    nofun
  have hfile : location (oneFile "config.json" switchText) (some (Path.ofString "/config.json")) =
      .ok (Path.ofString "/config.json") := by
    decide +kernel
  exact (load_existing hfile (by decide +kernel) (by decide +kernel) hfollowed).1 _ haccepted

/-- A file that lists `true`. -/
def listText : String := "\x7b\"disabled_languages\": true\x7d"

/-- **Not every existing file gives settings.** -/
theorem exists_load_fails :
    ¬ ∀ (m : Machine) (explicit : Option Path) (file : Path) (bytes : List UInt8),
      location m explicit = .ok file → m.isFile? file = .ok true →
      m.readBytes file = .ok bytes → ∃ r, load m explicit = .ok r := by
  intro h
  obtain ⟨r, hr⟩ := h (oneFile "config.json" listText) (some (Path.ofString "/config.json"))
    (Path.ofString "/config.json") (Utf8.encode listText.toList) (by decide +kernel)
    (by decide +kernel) (by decide +kernel)
  have hfails : (load (oneFile "config.json" listText)
      (some (Path.ofString "/config.json"))).isOk = false := by
    decide +kernel
  rw [hr] at hfails
  cases hfails

end Settings

end SourceCheck
