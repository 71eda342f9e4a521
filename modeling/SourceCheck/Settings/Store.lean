import SourceCheck.Settings.Validation
import SourceCheck.Machine.Basic
import SourceCheck.Json.Reader
import SourceCheck.Json.Writer
import SourceCheck.LogRecord

/-!
# The settings file

The settings live in one file.  Reading is tolerant: without a file the settings are the default
ones, and a file that cannot be used is ignored with a warning.  Writing makes the directories
above the file and writes the document with its keys in order.

* `Settings.location`: where the file is.
* `Settings.load`: what the file says.
* `Settings.save`: writes the file.
-/

namespace SourceCheck.Settings

/-- The variable that says where the settings file is. -/
def locationVariable : String := "POLYCHECK_CONFIG"

/-- Where the settings file is unless anybody says otherwise. -/
def defaultLocation : Path := Path.ofString "~/.config/polycheck/config.json"

/-- The path of the settings file before the home directory is filled in. -/
def designatedLocation (m : Machine) (explicit : Option Path) : Path :=
  match explicit with
  | some p => p
  | none =>
    match m.environmentValue? locationVariable with
    | some s => if s == "" then defaultLocation else Path.ofString s
    | none => defaultLocation

/-- **Where the settings file is**: an explicit path, else what the environment says, else the
default place. -/
def location (m : Machine) (explicit : Option Path) : Except Fault Path :=
  m.expandHome (designatedLocation m explicit)

/-! ## 1. Reading -/

variable [Library]

/-- **Why a settings file cannot be used.** -/
inductive Unusable
  /-- It cannot be read. -/
  | unreadable (fault : Fault)
  /-- Its bytes are no text. -/
  | undecodable (bytes : List UInt8)
  /-- The text is no document. -/
  | malformed (text : List Char)
  /-- A whole number has more digits than are read. -/
  | tooManyDigits (count : Nat)
  /-- The document is no object. -/
  | noObject
  /-- Members of the object have problems. -/
  | invalid (ps : List SettingsProblem) (ms : Json.Members)
  deriving Repr

/-- The words for it. -/
def Unusable.words : Unusable → String
  | unreadable f => f.message
  | undecodable bytes => Library.undecodableWords bytes
  | malformed text => Library.malformedWords text
  | tooManyDigits count => (Fault.tooManyDigits count).message
  | noObject => "top-level JSON value must be an object"
  | invalid ps ms => Library.invalidWords ps ms

/-- **The warning about a settings file that cannot be used.** -/
def ignored (file : Path) (why : Unusable) : LogRecord :=
  ⟨.warning, .settings, "ignoring unreadable settings file " ++ file.text ++ ": " ++ why.words⟩

/-- What reading a file's bytes gives: settings, an unusable file, or a failure. -/
inductive Reading
  | settings (s : Settings)
  | unusable (why : Unusable)
  | failed (fault : Fault)
  deriving Repr

/-- What an object says about the settings. -/
def ofObject (ms : Json.Members) : Reading :=
  match ofMembers ms with
  | .ok s => .settings s
  | .error (.problems ps) => .unusable (.invalid ps ms)
  | .error (.failed f) => .failed f

/-- What a text says about the settings.  Where so few levels are left that the values of an object
may not be put into words, nothing is followed any further. -/
def ofText (depth : Depth) (text : List Char) : Reading :=
  match Json.readChars (.file depth .unfollowed) text with
  | .error .malformed => .unusable (.malformed text)
  | .error (.tooManyDigits count) => .unusable (.tooManyDigits count)
  | .error (.tooDeep isObject) => .failed (.nestedTooDeeply isObject)
  | .error .unfollowed => .failed .unfollowed
  | .ok (.object ms) =>
    if (Json.object ms).levels + depth.reserve ≤ depth.levels then ofObject ms
    else .failed .unfollowed
  | .ok _ => .unusable .noObject

/-- **What bytes say about the settings.** -/
def ofBytes (depth : Depth) (bytes : List UInt8) : Reading :=
  match Text.Utf8.decode? bytes with
  | none => .unusable (.undecodable bytes)
  | some text => ofText depth text

/-- What a file says about the settings, with the warning if it cannot be used. -/
def readFile (m : Machine) (file : Path) : Except Fault (Settings × List LogRecord) :=
  match m.readBytes file with
  | .error f => .ok (default, [ignored file (.unreadable f)])
  | .ok bytes =>
    match ofBytes m.nesting bytes with
    | .settings s => .ok (s, [])
    | .unusable why => .ok (default, [ignored file why])
    | .failed f => .error f

/-- **The settings that the file gives**, and what is to be logged about it. -/
def load (m : Machine) (explicit : Option Path) : Except Fault (Settings × List LogRecord) := do
  let file ← location m explicit
  if ← m.isFile? file then readFile m file else return (default, [])

/-! ## 2. Writing -/

/-- The members of a document in the order of their keys. -/
def byKey (ms : Json.Members) : Json.Members := ms.mergeSort fun a b => decide (a.1 ≤ b.1)

/-- **The text of the settings file.** -/
def fileText (s : Settings) : String := Json.pretty (.object (byKey s.document)) ++ "\n"

/-- Failures of the file system while writing are told with the file's path. -/
def unwritable (file : Path) (f : Fault) : Fault :=
  if f.isOfSystem then .settingsUnwritable file.text f.message else f

/-- **Writes the settings file**, and gives its path. -/
def save (s : Settings) (explicit : Option Path) : FileAction Path := do
  match location (← get) explicit with
  | .error f => throw f
  | .ok file =>
    tryCatch
      (do
        Machine.makeDirectories file.parent
        Machine.writeBytes file (Text.Utf8.encode s.fileText.toList))
      fun f => throw (unwritable file f)
    return file

end SourceCheck.Settings
