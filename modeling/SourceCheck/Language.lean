import SourceCheck.Text.Blank
import SourceCheck.Text.Lower

/-!
# Languages

A language is described by what the program needs to know without asking anybody: its names, the
tool that checks it, the suffixes of its files and where a project keeps its own copy of the tool.
Two languages may be described alike and still be two; their keys tell them apart.
-/

namespace SourceCheck

/-- **A language that files can be checked for.** -/
structure Language where
  /-- Tells the language from others that are described alike. -/
  key : Nat
  /-- The name that reports show. -/
  name : String
  /-- The name on the command line. -/
  code : String
  /-- The name in the settings. -/
  flag : String
  /-- The program that checks a file. -/
  tool : String
  /-- The suffixes of the language's files. -/
  extensions : List String
  /-- Where a project may keep its own copy of the tool, seen from its root. -/
  localPaths : List String
  /-- What the tool is asked to find out whether it is there. -/
  versionArguments : List String
  /-- How to get the tool; may be empty. -/
  installHint : String
  deriving Repr, DecidableEq

namespace Language

/-- An identifier as it is compared: in lower case and without outer white space. -/
def normalIdentifier (identifier : String) : String :=
  String.ofList (Text.lower (Text.trim identifier.toList))

/-- The identifiers of a language, in lower case. -/
def identifiers (l : Language) : List String :=
  [Text.lowered l.code, Text.lowered l.name, Text.lowered l.flag]

/-- **Whether an identifier designates the language**: by code, name or flag, in any case. -/
def isNamed (l : Language) (identifier : String) : Bool :=
  l.identifiers.contains (normalIdentifier identifier)

end Language

end SourceCheck
