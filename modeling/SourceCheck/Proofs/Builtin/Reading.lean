import SourceCheck.Proofs.Output.OwnFindings

/-!
# Which output the languages that come along can read

The readers that come along are total but for the numbers, the paths and the documents in the
output: whatever else a tool writes, its findings come out or are passed over.  `Builtin.Reads`
collects, language by language, what the output has to keep to; the theorem says that a reader
returns exactly if it does.  Left out is a document that is not followed to its end
(`Builtin.Follows`): what is read of it, nobody says.
-/

namespace SourceCheck.Builtin

open Text

/-! ## 1. What the output keeps to -/

/-- What the output of the TypeScript compiler keeps to: the path of every finding can be compared
with the checked file, and the numbers of those that designate it are not too long. -/
def ReadsTypeScript (m : Machine) (o : ToolOutput) : Prop :=
  ∀ h ∈ (outputLines [o.stdout, o.stderr]).filterMap TypeScriptHeader.ofLine?,
    m.Comparable (some (String.ofList h.path)) o.file o.root ∧
    (m.sameFile (some (String.ofList h.path)) o.file o.root = .ok true →
      Short h.line ∧ Short h.column)

/-- What the output of Pyright keeps to: it does not pass the limits of documents, and every entry
of the document in it can be read. -/
def ReadsPyright (m : Machine) (o : ToolOutput) : Prop :=
  Json.Searchable (.file m.nesting .unfollowed) o.stdout ∧
    ∀ document, Json.inOutput? (.file m.nesting .unfollowed) o.stdout = .ok document →
      ∀ entry ∈ Pyright.entries document, Pyright.Readable m o.file o.root entry

/-- **Output that the reader of a language can read.**  For all but two of the languages the numbers
in it are not too long; nothing else is asked of it. -/
def Reads (b : Builtin) (m : Machine) (o : ToolOutput) : Prop :=
  match b with
  | typeScript => ReadsTypeScript m o
  | python => ReadsPyright m o
  | go => ∀ n ∈ Output.goVetNumerals [o.stdout, o.stderr], Short n
  | rust | cpp => ∀ n ∈ Output.compilerNumerals [o.stdout, o.stderr], Short n
  | java => ∀ n ∈ Output.javacNumerals [o.stderr, o.stdout], Short n
  | php => ∀ n ∈ Output.phpNumerals [o.stderr, o.stdout], Short n
  | scala => ∀ n ∈ Output.scalaNumerals [o.stderr, o.stdout], Short n
  | lua => ∀ n ∈ Output.luacNumerals [o.stderr, o.stdout], Short n
  | elixir => ∀ n ∈ Output.elixirNumerals [o.stderr, o.stdout], Short n
  | terraform => ∀ n ∈ Output.terraformNumerals o.stdout o.stderr, Short n
  | zig => ∀ n ∈ Output.compilerNumerals [o.stderr], Short n

/-- **Output that is followed to its end**: only documents may not be. -/
def Follows (b : Builtin) (m : Machine) (o : ToolOutput) : Prop :=
  b = python → Json.inOutput? (.file m.nesting .unfollowed) o.stdout ≠ .error .unfollowed

/-! ## 2. The readers -/

/-- **A reader returns diagnostics exactly if it can read the output**, whatever the output that is
followed to its end, the checked file, the project root and the machine, and wherever the levels of
documents end. -/
theorem diagnostics_returns_iff (b : Builtin) (m : Machine) (o : ToolOutput)
    (h : b.Follows m o) : (∃ ds, b.diagnostics m o = .ok ds) ↔ b.Reads m o := by
  change Returns (b.diagnostics m o) ↔ _
  cases b with
  | typeScript => exact Output.returns_typeScript
  | python => exact Output.returns_pyright (h rfl)
  | go => exact Output.returns_goVet _
  | rust => exact Output.returns_compiler _
  | java => exact Output.returns_javac _
  | cpp => exact Output.returns_compiler _
  | php => exact Output.returns_php _
  | scala => exact Output.returns_scala _
  | lua => exact Output.returns_luac _
  | elixir => exact Output.returns_elixir _
  | terraform => exact Output.returns_terraform _ _
  | zig => exact Output.returns_compiler _

/-- A report of Pyright with one finding, in some line. -/
def lineReport (line : String) : ToolOutput :=
  ⟨"\x7b\"generalDiagnostics\": [\x7b\"file\": \"/w/a.py\", \"severity\": \"warning\", " ++
    "\"message\": \"unused\", \"range\": \x7b\"start\": " ++
    "\x7b\"line\": \"" ++ line ++ "\", \"character\": 4\x7d\x7d\x7d]\x7d",
    "", Path.ofString "/w/a.py", Path.ofString "/w"⟩

/-- A machine without files. -/
def emptyMachine : Machine := { files := ⟨[]⟩ }

theorem diagnostics_returns_line :
    python.Follows emptyMachine (lineReport "12") ∧
      (∃ ds, python.diagnostics emptyMachine (lineReport "12") = .ok ds) ∧
      python.Reads emptyMachine (lineReport "12") := by
  have hread : (Json.inOutput? (.file emptyMachine.nesting .unfollowed)
      (lineReport "12").stdout).isOk = true := by
    decide +kernel
  have hfollows : python.Follows emptyMachine (lineReport "12") := by
    intro _ hno
    rw [hno] at hread
    cases hread
  have hreturns : ∃ ds, python.diagnostics emptyMachine (lineReport "12") = .ok ds := by
    have hok : (python.diagnostics emptyMachine (lineReport "12")).isOk = true := by
      decide +kernel
    cases hds : python.diagnostics emptyMachine (lineReport "12") with
    | ok ds => exact ⟨ds, rfl⟩
    | error f =>
      rw [hds] at hok
      cases hok
  exact ⟨hfollows, hreturns, (diagnostics_returns_iff python _ _ hfollows).mp hreturns⟩

/-- **Not every output is read**: a superscript counts as a digit and yet writes no number. -/
theorem exists_diagnostics_fails :
    ¬ ∀ (b : Builtin) (m : Machine) (o : ToolOutput), ∃ ds, b.diagnostics m o = .ok ds := by
  intro h
  obtain ⟨ds, hds⟩ := h python emptyMachine (lineReport "²")
  have hfails : (python.diagnostics emptyMachine (lineReport "²")).isOk = false := by
    decide +kernel
  rw [hds] at hfails
  cases hfails

end SourceCheck.Builtin
