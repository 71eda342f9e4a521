import SourceCheck.Builtin.Arguments
import SourceCheck.Project.Markers
import SourceCheck.Output.Compiler
import SourceCheck.Output.GoVet
import SourceCheck.Output.TypeScript
import SourceCheck.Output.Pyright
import SourceCheck.Output.Scala
import SourceCheck.Output.Php
import SourceCheck.Output.Luac
import SourceCheck.Output.Elixir
import SourceCheck.Output.Terraform

/-!
# The backends that come along

A language that comes along is configured where one of its marker files stands, its tool gets the
arguments of `Builtin.arguments`, and its output is read from the streams that the tool writes its
findings to.
-/

namespace SourceCheck.Builtin

/-- **The diagnostics in the output of a language's tool.** -/
def diagnostics (b : Builtin) (m : Machine) (o : ToolOutput) : Except Fault (List Diagnostic) :=
  match b with
  | typeScript => Output.typeScript m o.stdout o.stderr o.file o.root
  | python => Output.pyright m o.stdout o.file o.root
  | go => Output.goVet [o.stdout, o.stderr]
  | rust | cpp => Output.compiler [o.stdout, o.stderr]
  | java => Output.javac [o.stderr, o.stdout]
  | php => Output.php [o.stderr, o.stdout]
  | scala => Output.scala [o.stderr, o.stdout]
  | lua => Output.luac [o.stderr, o.stdout]
  | elixir => Output.elixir [o.stderr, o.stdout]
  | terraform => Output.terraform o.stdout o.stderr
  | zig => Output.compiler [o.stderr]

variable {τ : Type}

/-- **The backend of a language that comes along.** -/
def backend (b : Builtin) : Backend τ where
  detect root := Action.ask fun m => m.holdsAny root b.markers
  arguments c := return b.arguments c
  findings o := Action.ask fun m => (b.diagnostics m o).map fun ds => ds.map .diagnostic

/-- A backend that knows no project, gives no arguments and finds nothing. -/
def idleBackend : Backend τ where
  detect _ := return false
  arguments _ := return []
  findings _ := return []

/-- The backend of a language; one that did not come along gets the idle one. -/
def backendOf (l : Language) : Backend τ :=
  match ofLanguage? l with
  | some b => b.backend
  | none => idleBackend

theorem backendOf_language (b : Builtin) :
    (backendOf b.language : Backend τ) = b.backend := by
  cases b <;> rfl

end SourceCheck.Builtin
