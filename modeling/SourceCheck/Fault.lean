import SourceCheck.Text.Quoted

/-!
# Failures

Everything that can go wrong is named by its cause; `Fault.message` gives the words that a log, a
result's detail or the command line shows.  A failure of a part of the program that is not ours may
also fail to give its words.

* `SystemError`: a request that the file system or the process table refuses, with the path that
  the request named.
* `Fault`: the causes of a failed action.
* `Fault.text`: the words of a failure, if it can tell them.
-/

namespace SourceCheck

/-- **Why the operating system refuses a request.** -/
inductive SystemError
  /-- A component of the path does not exist. -/
  | missing
  /-- An argument is too long to be handed to a program. -/
  | argumentsTooLong
  /-- The file is executable but in no format that can be started. -/
  | notAProgram
  /-- The permission bits forbid it. -/
  | forbidden
  /-- Something is already there. -/
  | alreadyThere
  /-- A component that should be a directory is something else. -/
  | notADirectory
  /-- The path designates a directory. -/
  | isADirectory
  /-- A component, or the whole path, is too long. -/
  | nameTooLong
  /-- Too many symbolic links in a row. -/
  | linkLoop
  /-- Anything else, with the number and the words for it. -/
  | other (number : Nat) (words : String)
  deriving Repr, DecidableEq

namespace SystemError

/-- The number under which the system reports the cause. -/
def number : SystemError → Nat
  | missing => 2
  | argumentsTooLong => 7
  | notAProgram => 8
  | forbidden => 13
  | alreadyThere => 17
  | notADirectory => 20
  | isADirectory => 21
  | nameTooLong => 36
  | linkLoop => 40
  | other number _ => number

/-- The system's words for the cause. -/
def words : SystemError → String
  | missing => "No such file or directory"
  | argumentsTooLong => "Argument list too long"
  | notAProgram => "Exec format error"
  | forbidden => "Permission denied"
  | alreadyThere => "File exists"
  | notADirectory => "Not a directory"
  | isADirectory => "Is a directory"
  | nameTooLong => "File name too long"
  | linkLoop => "Too many levels of symbolic links"
  | other _ words => words

/-- A refused request. -/
def summary (e : SystemError) : String := "[Errno " ++ toString e.number ++ "] " ++ e.words

/-- **A refused request with the path that it named.** -/
def message (e : SystemError) (path : String) : String := e.summary ++ ": " ++ Text.quoted path

end SystemError

/-- **The causes of a failed action.** -/
inductive Fault
  /-- The operating system refused a request about `path`. -/
  | system (error : SystemError) (path : String)
  /-- The operating system refused a request that named no path. -/
  | refused (error : SystemError)
  /-- A path or an argument holds the null character. -/
  | nullCharacter
  /-- A file would grow beyond its limit. -/
  | fileTooLarge
  /-- A symbolic link leads back to itself. -/
  | linkCycle (path : String)
  /-- A leading `~` designates no known home directory. -/
  | homeUnknown
  /-- A text is no whole number. -/
  | notAnInteger (text : String)
  /-- A whole number has more digits than are read. -/
  | tooManyDigits (count : Nat)
  /-- A whole number has more digits than are written. -/
  | tooLongToWrite
  /-- A document is nested too deeply; whether the innermost level is an object or an array. -/
  | nestedTooDeeply (isObject : Bool)
  /-- A document of which it is not followed what becomes of it. -/
  | unfollowed
  /-- A value that is neither text nor number was taken for a number; `type` names its kind. -/
  | notANumber (type : String)
  /-- A number without a whole part was taken for a whole number. -/
  | noWholePart (infinite : Bool)
  /-- A value that is no collection was taken for one; `type` names its kind. -/
  | notACollection (type : String)
  /-- An output parser gave something other than diagnostics. -/
  | foreignFindings (language : String)
  /-- A command without a program. -/
  | emptyCommand
  /-- A variable of a command's environment has a name that none may have. -/
  | badVariableName
  /-- The working directory for a command is no directory. -/
  | noWorkingDirectory (path : String)
  /-- A deadline too far away to wait for. -/
  | deadlineTooFar (detail : String)
  /-- No language owns the suffix. -/
  | unknownSuffix (suffix : String)
  /-- A text names no check status. -/
  | unknownStatus (text : String)
  /-- The settings could not be written to `path`. -/
  | settingsUnwritable (path : String) (cause : String)
  /-- A failure that a backend or a runner reports in its own words. -/
  | raised (text : String)
  /-- A failure of a backend or a runner that fails again when it is asked for its words. -/
  | untold (cause : Fault)
  deriving Repr, DecidableEq

namespace Fault

/-- The most digits of a whole number that are read or written. -/
def digitLimit : Nat := 4300

/-- At most this much of a quoted text is shown in a message. -/
def quoteLimit : Nat := 200

/-- **The words for a failure.** -/
def message : Fault → String
  | system e path => e.message path
  | refused e => e.summary
  | nullCharacter => "embedded null byte"
  | fileTooLarge => "[Errno 27] File too large"
  | linkCycle path => "Symlink loop from " ++ Text.quoted path
  | homeUnknown => "Could not determine home directory."
  | notAnInteger text =>
    "invalid literal for int() with base 10: " ++
      String.ofList ((Text.quoteChars text.toList).take quoteLimit)
  | tooManyDigits count =>
    "Exceeds the limit (" ++ toString digitLimit ++
      " digits) for integer string conversion: value has " ++ toString count ++
      " digits; use sys.set_int_max_str_digits() to increase the limit"
  | tooLongToWrite =>
    "Exceeds the limit (" ++ toString digitLimit ++
      " digits) for integer string conversion; use sys.set_int_max_str_digits() to increase the limit"
  | nestedTooDeeply isObject =>
    "maximum recursion depth exceeded while decoding a JSON " ++
      (if isObject then "object" else "array") ++ " from a unicode string"
  | unfollowed => "document not followed"
  | notANumber type =>
    "int() argument must be a string, a bytes-like object or a real number, not '" ++ type ++ "'"
  | noWholePart true => "cannot convert float infinity to integer"
  | noWholePart false => "cannot convert float NaN to integer"
  | notACollection type => "'" ++ type ++ "' object is not iterable"
  | foreignFindings language => language ++ " parser returned non-Diagnostic values"
  | emptyCommand => "subprocess command requires at least one argument"
  | badVariableName => "illegal environment variable name"
  | noWorkingDirectory path => "working directory does not exist: " ++ path
  | deadlineTooFar detail => detail
  | unknownSuffix suffix => Text.quoted suffix
  | unknownStatus text => Text.quoted text ++ " is not a valid CheckStatus"
  | settingsUnwritable path cause => "could not write settings to " ++ path ++ ": " ++ cause
  | raised text => text
  | untold _ => ""

/-- **The words that a failure tells when it is asked**, or what it fails with then. -/
def text : Fault → Except Fault String
  | untold cause => .error cause
  | f => .ok f.message

/-- Whether it is a request to the operating system that failed. -/
def isOfSystem : Fault → Bool
  | system _ _ | refused _ | fileTooLarge => true
  | _ => false

end Fault

end SourceCheck
