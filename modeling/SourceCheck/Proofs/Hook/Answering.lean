import SourceCheck.Hook
import SourceCheck.Proofs.Report.Agreement

/-!
# Which events are answered, and how

An event may be any text.  It asks for a check only if it can be read, describes an edit, and names
a regular file; whatever else comes, the hook ends quietly and has done nothing.  An event that asks
is answered by one engine and one check, with the exit code of its result and with its message.
What is left to go wrong is the message itself: a result whose numbers are too long to be written
has none, and then the hook has no outcome either.

* `Describes`, `Touches`, `Asks`: the events that ask for a check, and of which file.
* `describes_payloadOf`: a payload for every event.
* `runIn_handle_of_asks`, `runIn_handle_of_not_asks`: what the hook does.
* `handle_answers`: all of it, and when there is no outcome.
-/

namespace SourceCheck

namespace HookEvent

variable {payload : String} {ev : HookEvent} {m : Machine} {file : Path}

/-! ## 1. The event in a payload -/

/-- **A payload that describes an event**: what the library reads in it is an object with three
members of the right kinds.  Nothing is asked of any other member. -/
def Describes [Library] (payload : String) (ev : HookEvent) : Prop :=
  ∃ members input, Library.eventDocument? payload = some (.object members) ∧
    Table.get? members "tool_name" = some (.string ev.toolName) ∧
    Table.get? members "tool_input" = some (.object input) ∧
    Table.get? input "file_path" = some (.string ev.filePath) ∧
    Table.get? members "cwd" = some (.string ev.directory)

theorem textAt?_eq_some_iff {key s : String} {v : Json} :
    textAt? key v = some s ↔ ∃ ms, v = .object ms ∧ Table.get? ms key = some (.string s) := by
  cases v with
  | object ms =>
    simp only [textAt?, Json.member?, Json.object.injEq, exists_eq_left']
    cases Table.get? ms key with
    | none => simp
    | some w => cases w <;> simp
  | _ => simp [textAt?, Json.member?]

theorem ofDocument?_eq_some_iff {v : Json} : ofDocument? v = some ev ↔
    ∃ members input, v = .object members ∧
      Table.get? members "tool_name" = some (.string ev.toolName) ∧
      Table.get? members "tool_input" = some (.object input) ∧
      Table.get? input "file_path" = some (.string ev.filePath) ∧
      Table.get? members "cwd" = some (.string ev.directory) := by
  simp only [ofDocument?, Option.bind_eq_bind, Option.bind_eq_some_iff, textAt?_eq_some_iff,
    Option.pure_def, Option.some.injEq]
  constructor
  · rintro ⟨tool, ⟨members, rfl, htool⟩, _, hinput, path, ⟨input, rfl, hpath⟩, directory,
      ⟨_, hmembers, hdirectory⟩, rfl⟩
    cases hmembers
    exact ⟨members, input, rfl, htool, hinput, hpath, hdirectory⟩
  · rintro ⟨members, input, rfl, htool, hinput, hpath, hdirectory⟩
    exact ⟨_, ⟨_, rfl, htool⟩, _, hinput, _, ⟨_, rfl, hpath⟩, _, ⟨_, rfl, hdirectory⟩, rfl⟩

theorem ofPayload?_eq_some_iff [Library] :
    ofPayload? payload = some ev ↔ Describes payload ev := by
  rw [ofPayload?, Describes]
  cases Library.eventDocument? payload with
  | none => simp
  | some v => simp only [Option.bind_some, ofDocument?_eq_some_iff, Option.some.injEq]

/-! ## 2. Events that ask for a check -/

/-- **The file that an event touches**: the home directory is filled in, and only a path that is
still relative is seen from the editor's directory. -/
def Touches (m : Machine) (ev : HookEvent) (file : Path) : Prop :=
  ∃ p, m.expandHome (.ofString ev.filePath) = .ok p ∧
    file = if p.isAbsolute then p else (Path.ofString ev.directory).join p

theorem target_eq_ok_iff : ev.target m = .ok file ↔ Touches m ev file := by
  have hjoin : ∀ base p : Path, base.join p = if p.isAbsolute then p else base.join p := by
    intro base p
    split
    · exact Path.join_absolute ‹_›
    · rfl
  rw [target, Touches]
  cases m.expandHome (.ofString ev.filePath) with
  | error f => simp [Except.map]
  | ok p =>
    simp only [Except.map, Except.ok.injEq, exists_eq_left']
    rw [← hjoin, eq_comm]

/-- **An event that asks for a check** of a file: a payload that describes it, an edit, and a path
that leads to a regular file. -/
structure Asks [Library] (m : Machine) (eventName payload : String) (ev : HookEvent)
    (file : Path) : Prop where
  described : Describes payload ev
  name : eventName = "PostToolUse"
  tool : ev.toolName ∈ ["Edit", "MultiEdit", "Write"]
  touched : Touches m ev file
  there : m.isFile? file = .ok true

theorem isEdit_iff {eventName : String} : ev.isEdit eventName = true ↔
    eventName = "PostToolUse" ∧ ev.toolName ∈ ["Edit", "MultiEdit", "Write"] := by
  rw [isEdit, Bool.and_eq_true, beq_iff_eq, List.contains_iff_mem]
  rfl

theorem fileToCheck?_eq_some_iff {eventName : String} :
    Hook.fileToCheck? m eventName ev = some file ↔
      ev.isEdit eventName = true ∧ ev.target m = .ok file ∧ m.isFile? file = .ok true := by
  rw [Hook.fileToCheck?]
  split
  · rename_i hedit
    cases htarget : ev.target m with
    | error f => simp
    | ok target =>
      dsimp only
      split
      · rename_i hthere
        simp only [Option.some.injEq, hedit, true_and, Except.ok.injEq]
        constructor
        · rintro rfl
          exact ⟨rfl, hthere⟩
        · exact And.left
      · rename_i hno
        simp only [reduceCtorEq, hedit, true_and, Except.ok.injEq, false_iff, not_and]
        rintro rfl
        exact hno
  · rename_i hedit
    simp [hedit]

theorem asks_iff [Library] {eventName : String} : Asks m eventName payload ev file ↔
    ofPayload? payload = some ev ∧ Hook.fileToCheck? m eventName ev = some file := by
  rw [ofPayload?_eq_some_iff, fileToCheck?_eq_some_iff, isEdit_iff, target_eq_ok_iff]
  constructor
  · exact fun h => ⟨h.described, ⟨h.name, h.tool⟩, h.touched, h.there⟩
  · exact fun ⟨hdescribed, ⟨hname, htool⟩, htouched, hthere⟩ =>
      ⟨hdescribed, hname, htool, htouched, hthere⟩

end HookEvent

namespace Hook

open HookEvent

variable {τ : Type} {eventName payload : String} {makeEngine : Traced τ (Engine τ)}
  {ev : HookEvent} {file : Path} {w : World τ} {t : Trace}

/-! ## 3. What the hook does -/

/-- **One check by one engine**, and the answer to the editor. -/
def answer (makeEngine : Traced τ (Engine τ)) (file directory : Path) : Traced τ HookOutcome := do
  let engine ← makeEngine
  match outcome (← engine.check file (some directory)) with
  | .ok o => return o
  | .error f => throw f

/-- **An event that asks is answered**, and nothing else is done. -/
theorem runIn_handle_of_asks [Library] (h : Asks w.machine eventName payload ev file) :
    (handle eventName payload makeEngine).runIn w t =
      (answer makeEngine file (.ofString ev.directory)).runIn w t := by
  obtain ⟨hpayload, hfile⟩ := asks_iff.mp h
  rw [handle, hpayload]
  dsimp only
  rw [Traced.runIn_bind, Traced.runIn_get]
  dsimp only
  rw [hfile]
  rfl

/-- **Whatever does not ask ends quietly**, and nothing has been done. -/
theorem runIn_handle_of_not_asks [Library]
    (h : ∀ ev file, ¬ Asks w.machine eventName payload ev file) :
    (handle eventName payload makeEngine).runIn w t = (.ok quiet, w, t) := by
  rw [handle]
  cases hpayload : ofPayload? payload with
  | none => rfl
  | some ev =>
    dsimp only
    rw [Traced.runIn_bind, Traced.runIn_get]
    dsimp only
    cases hfile : fileToCheck? w.machine eventName ev with
    | none => rfl
    | some file => exact absurd (asks_iff.mpr ⟨hpayload, hfile⟩) (h ev file)

/-- Without an engine there is no answer. -/
theorem runIn_answer_of_no_engine {directory : Path} {f : Fault} {w₁ : World τ} {t₁ : Trace}
    (hengine : makeEngine.runIn w t = (.error f, w₁, t₁)) :
    (answer makeEngine file directory).runIn w t = (.error f, w₁, t₁) := by
  rw [answer, Traced.runIn_bind, hengine]

/-- **An answer has the exit code of the result and its message**, if there is one. -/
theorem runIn_answer {directory : Path} {e : Engine τ} {w₁ w₂ : World τ} {t₁ t₂ : Trace}
    {r : CheckResult} (hengine : makeEngine.runIn w t = (.ok e, w₁, t₁))
    (hcheck : (e.check file (some directory)).runIn w₁ t₁ = (.ok r, w₂, t₂)) :
    (answer makeEngine file directory).runIn w t =
      ((Report.message? r).map fun m => ⟨r.exitCode, m.getD "", some r⟩, w₂, t₂) := by
  rw [answer, Traced.runIn_bind, hengine]
  dsimp only
  rw [Traced.runIn_bind, hcheck]
  dsimp only
  rw [outcome]
  cases Report.message? r <;> rfl

theorem exitCode_cases (r : CheckResult) : r.exitCode = 0 ∨ r.exitCode = 2 := by
  rw [CheckResult.exitCode]
  split
  · exact .inr rfl
  · exact .inl rfl

/-! ## 4. All of it -/

/-- **How the hook answers.**  An event that does not ask for a check changes nothing and ends
quietly, and no engine is made.  One that does is answered by one engine and one check of the
touched file, with the editor's directory for a root; the outcome has the exit code of the result,
and its message or none.  There is such an outcome exactly if the findings that need attention can
be sent. -/
theorem handle_answers [Library] (eventName payload : String) (makeEngine : Traced τ (Engine τ))
    (w : World τ) (t : Trace) :
    ((∀ ev file, ¬ Asks w.machine eventName payload ev file) →
      (handle eventName payload makeEngine).runIn w t = (.ok ⟨0, "", none⟩, w, t)) ∧
    ∀ ev file, Asks w.machine eventName payload ev file →
      (∀ f w₁ t₁, makeEngine.runIn w t = (.error f, w₁, t₁) →
        (handle eventName payload makeEngine).runIn w t = (.error f, w₁, t₁)) ∧
      ∀ e w₁ t₁ r w₂ t₂, makeEngine.runIn w t = (.ok e, w₁, t₁) →
        (e.check file (some (.ofString ev.directory))).runIn w₁ t₁ = (.ok r, w₂, t₂) →
        (∀ m, Report.message? r = .ok m →
          (handle eventName payload makeEngine).runIn w t =
            (.ok ⟨r.exitCode, m.getD "", some r⟩, w₂, t₂)) ∧
        (r.exitCode = 0 ∨ r.exitCode = 2) ∧
        ((∃ o, (handle eventName payload makeEngine).runIn w t = (.ok o, w₂, t₂)) ↔
          (r.status = .completed → r.tally.needsAttention = true → Report.Sendable r)) := by
  refine ⟨runIn_handle_of_not_asks, fun ev file hasks => ⟨?_, ?_⟩⟩
  · intro f w₁ t₁ hengine
    rw [runIn_handle_of_asks hasks]
    exact runIn_answer_of_no_engine hengine
  · intro e w₁ t₁ r w₂ t₂ hengine hcheck
    rw [runIn_handle_of_asks hasks, runIn_answer hengine hcheck]
    refine ⟨?_, exitCode_cases r, ?_⟩
    · intro m hm
      rw [hm]
      rfl
    · rw [← Report.returns_message?_iff]
      simp only [Prod.mk.injEq, and_true]
      exact returns_map

/-! ## 5. An event from its payload, and a message that cannot be written -/

/-- The members of an event's document. -/
def membersOf (ev : HookEvent) : Json.Members :=
  [("tool_name", .string ev.toolName), ("tool_input", .object [("file_path", .string ev.filePath)]),
    ("cwd", .string ev.directory)]

/-- **A payload for an event.** -/
def payloadOf (ev : HookEvent) : String := .ofList (Json.write .line 0 (.object (membersOf ev)))

/-- Whatever an event says can be announced to the library of the program. -/
theorem describes_payloadOf (ev : HookEvent) : Describes (payloadOf ev) ev := by
  have hinput : Json.Fits .event 1 (.object [("file_path", .string ev.filePath)]) :=
    Json.fits_object rfl (by simp [Table.keys])
      (List.forall_mem_singleton.mpr (Json.fits_string _ _))
  have hfits : Json.Fits .event 0 (.object (membersOf ev)) := by
    refine Json.fits_object rfl (by simp [membersOf, Table.keys]) ?_
    simp only [membersOf, List.forall_mem_cons]
    exact ⟨Json.fits_string _ _, hinput, Json.fits_string _ _, List.forall_mem_nil _⟩
  have hread : Json.readChars .event (Json.write .line 0 (.object (membersOf ev)) ++ []) =
      .ok (.object (membersOf ev)) := Json.readChars_write hfits 0 rfl
  rw [List.append_nil] at hread
  refine ⟨membersOf ev, [("file_path", .string ev.filePath)], ?_, rfl, rfl, rfl, rfl⟩
  have hpayload : Json.read .event (payloadOf ev) = .ok (.object (membersOf ev)) := by
    rw [payloadOf, Json.read, String.toList_ofList, hread]
  exact congrArg Except.toOption hpayload

/-- An edit of a file. -/
def edit : HookEvent := ⟨"Edit", "a.lua", "/"⟩

theorem asks_edit : Asks (Engine.luaWorld Engine.unmarked).machine "PostToolUse" (payloadOf edit) edit
    Engine.luaFile where
  described := describes_payloadOf edit
  name := rfl
  tool := by decide
  touched := ⟨_, rfl, by decide⟩
  there := rfl

theorem handle_answers_edit :
    Asks (Engine.luaWorld Engine.unmarked).machine "PostToolUse" (payloadOf edit) edit
      Engine.luaFile ∧
    ∃ message w' t', (handle "PostToolUse" (payloadOf edit)
        (pure (Report.findingEngine Report.unused))).runIn (Engine.luaWorld Engine.unmarked) .empty =
      (.ok ⟨2, message, some (Report.findingResult Report.unused)⟩, w', t') := by
  obtain ⟨w', t', hcheck⟩ := Report.runIn_findingEngine Report.unused
  obtain ⟨-, hasked⟩ := handle_answers "PostToolUse" (payloadOf edit)
    (pure (Report.findingEngine Report.unused)) (Engine.luaWorld Engine.unmarked) .empty
  obtain ⟨hsent, -, -⟩ := (hasked edit Engine.luaFile asks_edit).2 _ _ _ _ _ _ rfl hcheck
  exact ⟨asks_edit, _, w', t', hsent _ rfl⟩

/-- A position with one digit too many. -/
def farPosition : Position := .ofNat (Nat.pow 10 Fault.digitLimit)

/-- An error that no message can tell. -/
def farAway : Diagnostic := ⟨farPosition, .first, .error, "unexpected", none⟩

theorem not_placed_farAway : ¬ Report.Placed farAway := by
  intro h
  have hlt : farPosition.value < Nat.pow 10 Fault.digitLimit := Number.isWritable_iff_lt.mp h.line
  have hle : Nat.pow 10 Fault.digitLimit ≤ farPosition.value := Nat.le_max_left _ _
  omega

/-- **There are events without an outcome**: the check of the touched file gives a result, and the
hook fails. -/
theorem exists_handle_fails :
    ∃ (makeEngine : Traced Unit (Engine Unit)) (w : World Unit) (eventName payload : String)
      (ev : HookEvent) (file : Path), Asks w.machine eventName payload ev file ∧
      (∃ e w₁ t₁ r w₂ t₂, makeEngine.runIn w .empty = (.ok e, w₁, t₁) ∧
        (e.check file (some (.ofString ev.directory))).runIn w₁ t₁ = (.ok r, w₂, t₂)) ∧
      ∃ f, ((handle eventName payload makeEngine).runIn w .empty).1 = .error f := by
  obtain ⟨w', t', hcheck⟩ := Report.runIn_findingEngine farAway
  have hanswer : (answer (pure (Report.findingEngine farAway)) Engine.luaFile
      (.ofString edit.directory)).runIn (Engine.luaWorld Engine.unmarked) .empty = _ :=
    runIn_answer rfl hcheck
  refine ⟨pure (Report.findingEngine farAway), Engine.luaWorld Engine.unmarked, "PostToolUse",
    payloadOf edit, edit, Engine.luaFile, asks_edit, ⟨_, _, _, _, w', t', rfl, hcheck⟩, ?_⟩
  rw [runIn_handle_of_asks asks_edit, hanswer]
  cases hm : Report.message? (Report.findingResult farAway) with
  | error f => exact ⟨f, rfl⟩
  | ok m =>
    have hsend := Report.returns_message?_iff.mp ⟨m, hm⟩ rfl rfl
    exact absurd (hsend.positions farAway List.mem_cons_self) not_placed_farAway

end Hook

end SourceCheck
