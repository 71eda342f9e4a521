import SourceCheck.World
import SourceCheck.Diagnostic

/-!
# Backends

A backend is what a language brings along: it tells whether a project configures its tool, it
writes the arguments for a check, and it reads the tool's output.  Backends are not trusted: each
of the three may change the world, fail, and give nonsense.
-/

namespace SourceCheck

/-- **What an argument builder is told about a check.** -/
structure CheckContext where
  file : Path
  root : Path
  /-- The program that will be run. -/
  tool : String
  /-- Whether the project configures the tool. -/
  configured : Bool
  /-- A directory for the tool to write to. -/
  scratch : Path
  deriving DecidableEq, Repr

/-- **What an output parser is told about a check.** -/
structure ToolOutput where
  stdout : String
  stderr : String
  file : Path
  root : Path
  deriving DecidableEq, Repr

/-- **What an output parser gives**: a diagnostic, or something that is none. -/
inductive Finding
  | diagnostic (d : Diagnostic)
  | foreign
  deriving DecidableEq, Repr

namespace Finding

/-- The diagnostics, if all findings are. -/
def diagnostics? : List Finding → Option (List Diagnostic)
  | [] => some []
  | diagnostic d :: rest => (diagnostics? rest).map (d :: ·)
  | foreign :: _ => none

/-- Exactly lists of diagnostics are accepted, as they are. -/
theorem diagnostics?_eq_some_iff {fs : List Finding} {ds : List Diagnostic} :
    diagnostics? fs = some ds ↔ fs = ds.map diagnostic := by
  induction fs generalizing ds with
  | nil => cases ds <;> simp [diagnostics?]
  | cons f fs ih =>
    cases f with
    | diagnostic d =>
      cases ds with
      | nil => simp [diagnostics?]
      | cons e es =>
        simp only [diagnostics?, Option.map_eq_some_iff, ih, List.cons.injEq, List.map_cons,
          diagnostic.injEq]
        constructor
        · rintro ⟨a, rfl, rfl, rfl⟩; exact ⟨rfl, rfl⟩
        · rintro ⟨rfl, rfl⟩; exact ⟨es, rfl, rfl, rfl⟩
    | foreign => cases ds <;> simp [diagnostics?]

end Finding

/-- **What a language brings along.** -/
structure Backend (τ : Type) where
  /-- Whether the project with the given root configures the tool. -/
  detect : Path → Action τ Bool
  /-- The arguments of the tool for a check. -/
  arguments : CheckContext → Action τ (List String)
  /-- The findings in the tool's output. -/
  findings : ToolOutput → Action τ (List Finding)

end SourceCheck
