import SourceCheck.Check.Trace
import SourceCheck.Settings.Basic

/-!
# Which tools are there

Every language's tool is asked for its version; a tool that answers in time and without complaint
is there.  The status table has a line for each language.

* `Probe.probe`: asks the tools of some languages.
* `Probe.statusLines`: the status table.
-/

namespace SourceCheck

open Number (Binary64)

/-- **What is known about a language's tool.** -/
structure ToolProbe where
  language : Language
  available : Bool
  disabled : Bool
  deriving DecidableEq, Repr

namespace Probe

variable {τ : Type}

/-- How many seconds a tool may take to answer. -/
def timeout : Binary64 := .finite false (5 * Nat.pow 2 50) (-50)

/-- The command that asks a tool for its version. -/
def question (l : Language) : Command :=
  { arguments := l.tool :: l.versionArguments, directory := none, environment := none
    timeout := some timeout }

/-- Whether an answer shows that the tool is there. -/
def isPresent : Except Fault RunResult → Bool
  | .ok r => r.status = .completed && r.returnCode == 0
  | .error _ => false

/-- Asks one tool; a question that cannot be put counts as unanswered. -/
def ask (runner : Runner τ) (l : Language) : Traced τ Bool := do
  return isPresent (← tryCatch (Except.ok <$> Traced.call runner (question l)) fun f =>
    return Except.error f)

/-- **Asks the tools of some languages**, in order. -/
def probe (runner : Runner τ) (settings : Settings) : List Language → Traced τ (List ToolProbe)
  | [] => return []
  | l :: rest => do
    let available ← ask runner l
    let others ← probe runner settings rest
    return ⟨l, available, settings.isDisabled l⟩ :: others

/-! ## 1. The status table -/

/-- The line of a language. -/
def statusLine (p : ToolProbe) : String :=
  let label := p.language.name ++ " (" ++ p.language.code ++ ")"
  if p.disabled then "  🚫 " ++ label ++ ": DISABLED via config"
  else if p.available then "  ✅ " ++ label ++ ": Available"
  else "  ❌ " ++ label ++ ": Not found - " ++ p.language.installHint

/-- **The status table.** -/
def statusLines (probes : List ToolProbe) (settings : Settings) : List String :=
  "Current Status:" ::
    (if settings.disable then ["  🚫 All language checking is DISABLED via config"] else []) ++
    probes.map statusLine

end Probe

end SourceCheck
