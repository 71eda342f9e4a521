import SourceCheck.Shell.State

/-!
# Opening files

A redirection opens a file, or makes a stream lead where another one leads.  The paths `/dev/stdin`,
`/dev/stdout`, `/dev/stderr` and `/dev/fd/…` name streams of the shell.

* `State.openFile`: opens a file for a stream.
* `copyOf`: what the target of a copied stream asks for.
* `State.unread?`, `State.advance`, `State.awaitEnd`: reading from a stream.
-/

namespace SourceCheck.Shell

/-- Why a file cannot be opened. -/
def openingWords (e : SystemError) (writing : Bool) : String :=
  match e with
  | .missing | .notADirectory => if writing then "Directory nonexistent" else "No such file"
  | e => e.words

/-- Why a file cannot be read. -/
def readingWords : Fault → String
  | .system e _ => openingWords e false
  | f => f.message

/-- The stream that a path names. -/
def namedStream? (path : Path) : Option Nat :=
  if !path.isAbsolute then none
  else match path.parts with
    | ["dev", "stdin"] => some 0
    | ["dev", "stdout"] => some 1
    | ["dev", "stderr"] => some 2
    | ["dev", "fd", n] => Arithmetic.numberIn? 10 n.toList
    | _ => none

/-- **What the target of a copied stream asks for.** -/
inductive Copy
  | close
  | of (number : Nat)
  | nonsense
  deriving DecidableEq

/-- What a target such as `2` or `-` asks for. -/
def copyOf : List Char → Copy
  | ['-'] => .close
  | [c] => if c.isDigit then .of (c.toNat - 48) else .nonsense
  | _ => .nonsense

namespace State

/-- The permission bits of a file that is made now. -/
def newFileMode (sh : State) : Nat := 0o666 - (0o666 &&& sh.frame.mask)

/-- Makes a stream lead to a file from its start. -/
def attach (sh : State) (number : Nat) (opening : Opening) (place : Location) : State :=
  let (k, sh) := sh.openChannel (.file place 0 opening)
  sh.setStream number (some (.channel k))

/-- Empties a file, new or old. -/
def emptied (sh : State) (place : Location) (mode : Nat) : State :=
  { sh with machine := { sh.machine with files := sh.machine.files.put place (.file mode []) } }

/-- Opens what stands at a place. -/
def openPlace (sh : State) (number : Nat) (opening : Opening) (place : Place) :
    Except SystemError State :=
  let writes := opening != .reading
  match place.entry with
  | some .nullDevice => .ok (sh.setStream number (some .nowhere))
  | some (.directory _) =>
    if writes then .error .isADirectory
    else .ok (sh.attach number opening place.location)
  | some (.link _) => .error .missing
  | some (.program _) =>
    if writes then .error .forbidden else .ok (sh.attach number opening place.location)
  | none =>
    if !writes then .error .missing
    else if sh.machine.files.isWritable place.location.dropLast then
      .ok ((sh.emptied place.location sh.newFileMode).attach number opening place.location)
    else .error .forbidden
  | some (.file mode _) =>
    if opening = .writing && sh.has 'C' then .error .alreadyThere
    else if writes && !mode.testBit 7 then .error .forbidden
    else if (opening = .reading || opening = .updating) && !mode.testBit 8 then .error .forbidden
    else match opening with
      | .writing | .overwriting =>
        .ok ((sh.emptied place.location mode).attach number opening place.location)
      | _ => .ok (sh.attach number opening place.location)

/-- Opens what another stream leads to. -/
def openStream (sh : State) (number : Nat) (opening : Opening) (source : Nat) :
    Except SystemError State :=
  match sh.stream? source with
  | none => .error .missing
  | some (.channel k) =>
    match sh.channel? k with
    | some (.file place _ _) =>
      sh.openPlace number opening ⟨place, sh.machine.files.lookup place⟩
    | _ => .ok (sh.setStream number (some (.channel k)))
  | some s => .ok (sh.setStream number (some s))

/-- **Opens a file** for a stream. -/
def openFile (sh : State) (number : Nat) (opening : Opening) (name : List Char) :
    Except SystemError State :=
  let path := Path.ofString (textOf name)
  if name.isEmpty then .error .missing
  else match namedStream? path with
    | some source => sh.openStream number opening source
    | none =>
      match sh.view.find path true with
      | .error (.system e _) => .error e
      | .error _ => .error .missing
      | .ok place => sh.openPlace number opening place

/-- What a stream still has to give; nothing at all if it cannot be read. -/
def unread? (sh : State) (number : Nat) : Option (List Char) :=
  match sh.stream? number with
  | some .nowhere => some []
  | some (.channel k) =>
    match sh.channel? k with
    | some (.pipe ready waiting) => some (Channel.pipe ready waiting).unread
    | some (.file place position opening) =>
      if !(Channel.file place position opening).isReadable then none
      else match sh.machine.files.lookup place with
        | some (.directory _) => none
        | _ => some (ofBytes ((sh.bytesAt place).drop position))
    | none => none
  | _ => none

/-- **Waits for the end of a stream**: as long as there is time if somebody might still write. -/
def awaitEnd (sh : State) (number : Nat) : State :=
  match sh.stream? number, sh.deadline with
  | some (.channel k), some d =>
    if sh.endless.contains k then { sh with clock := max sh.clock (d + 1) } else sh
  | _, _ => sh

/-- Reads on in a stream. -/
def advance (sh : State) (number count : Nat) : State :=
  match sh.stream? number with
  | some (.channel k) => sh.changeChannel k (·.advance count)
  | _ => sh

end State

end SourceCheck.Shell
