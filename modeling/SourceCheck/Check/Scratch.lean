import SourceCheck.Check.Trace

/-!
# Scratch directories

A tool may write files while it checks one.  Every check has a directory of its own for that: it is
made before the command is written, and removed with all that is in it after the command ran.  Both
can be refused.

* `Scratch`: how such a directory is made and removed.
* `Scratch.around`: something that is done with a scratch directory.
* `Scratch.standard`: scratch directories among the temporary files of the machine.
-/

namespace SourceCheck

/-- **How scratch directories are made and removed.** -/
structure Scratch (τ : Type) where
  /-- Makes a directory that was not there before. -/
  make : Action τ Path
  /-- Removes a directory and all that is in it. -/
  remove : Path → Action τ Unit

namespace Scratch

variable {τ : Type}

/-- **Something that is done with a scratch directory**, which is removed in any case. -/
def around {α : Type} (s : Scratch τ) (body : Path → Traced τ α) : Traced τ α := do
  let scratch ← Traced.lift s.make
  Traced.andThenAlways (body scratch) (s.remove scratch)

/-- A number in eight digits. -/
def eightDigits (n : Nat) : String :=
  let ds := Nat.toDigits 10 (n % Nat.pow 10 8)
  String.ofList (List.replicate (8 - ds.length) '0' ++ ds)

/-- The scratch directory with a given number. -/
def numbered (n : Nat) : Location := ["tmp", "polycheck-" ++ eightDigits n]

/-- **A place for a scratch directory**: the first one where nothing stands yet. -/
def fresh (t : FileTree) : Location :=
  let candidates := (List.range (t.entries.length + 1)).map numbered
  (candidates.find? fun l => (t.lookup l).isNone).getD (numbered 0)

/-- **Scratch directories among the temporary files.** -/
def standard : Scratch τ where
  make := do
    let l := fresh (← get).machine.files
    Action.act (Machine.changeFiles (·.put l (.directory 0o700)))
    return Path.ofLocation l
  remove scratch := Action.act (Machine.changeFiles (·.erase scratch.parts))

end Scratch

end SourceCheck
