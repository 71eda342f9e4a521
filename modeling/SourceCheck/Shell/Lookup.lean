import SourceCheck.Execution.Start
import SourceCheck.Shell.Flags
import SourceCheck.Shell.Token

/-!
# What the names of commands stand for

A name stands for a reserved word, an alias, a function, a command of the shell or a program.  Where
a program was found is remembered until the search path changes.

* `meaningOf`: what a name stands for.
* `describe`: what is said about a name.
* `setAliases`, `dropAliases`, `locate`: aliases and places of programs.
-/

namespace SourceCheck.Shell

/-- Commands that the shell knows itself, beside the special ones. -/
def plainNames : List String := [
  "[", "alias", "bg", "cd", "chdir", "command", "echo", "false", "fg", "getopts", "hash", "jobs",
  "kill", "printf", "pwd", "read", "test", "true", "type", "ulimit", "umask", "unalias", "wait"]

/-- **What the name of a command stands for.** -/
inductive Meaning
  | reserved
  | alias (text : List Char)
  | function
  | builtin (special : Bool)
  /-- A program with its path; `known` says that it was found before. -/
  | program (path : List Char) (known : Bool)
  | unknown

/-- Where the shell looks for programs. -/
def searchPath (sh : State) : String := textOf ((sh.value? "PATH").getD [])

/-- The first path under which a program is found; a path of its own only has to lead somewhere. -/
def programPath? (path : String) (word : List Char) (sh : State) : Option (List Char) :=
  let isThere := fun p => match sh.view.exists? (Path.ofString p) with
    | .ok b => b
    | .error _ => false
  if word.contains '/' then if isThere (textOf word) then some word else none
  else ((Machine.candidates path (textOf word)).find? fun p =>
    sh.view.isExecutable (Path.ofString p)).map bytesOf

/-- **What a name stands for** where programs are looked for in some directories. -/
def meaningOf (path : String) (word : List Char) (sh : State) : Meaning :=
  let name := textOf word
  if reservedWords.contains name then .reserved
  else match Table.get? sh.frame.aliases name with
    | some text => .alias text
    | none =>
      if (Table.get? sh.frame.functions name).isSome then .function
      else if specialNames.contains name then .builtin true
      else if plainNames.contains name then .builtin false
      else match Table.get? sh.frame.located name with
        | some found => .program found true
        | none =>
          match programPath? path word sh with
          | some found => .program found false
          | none => .unknown

/-- An alias as a script would write it. -/
def aliasText (name text : List Char) : List Char := name ++ '=' :: inQuotes text ++ ['\n']

/-- What is said about a name, at length. -/
def Meaning.sentence (word : List Char) : Meaning → List Char
  | .reserved => word ++ " is a shell keyword\n".toList
  | .alias text => word ++ " is an alias for ".toList ++ text ++ ['\n']
  | .function => word ++ " is a shell function\n".toList
  | .builtin special =>
    word ++ (if special then " is a special shell builtin\n" else " is a shell builtin\n").toList
  | .program path known =>
    word ++ (if known then " is a tracked alias for " else " is ").toList ++ path ++ ['\n']
  | .unknown => word ++ ": not found\n".toList

/-- What a name comes to, in short. -/
def Meaning.short (word : List Char) : Meaning → List Char
  | .alias text => "alias ".toList ++ aliasText word text
  | .program path _ => path ++ ['\n']
  | .unknown => []
  | _ => word ++ ['\n']

/-- Says what a name stands for. -/
def describe (atLength : Bool) (path : String) (word : List Char) (sh : State) : State :=
  let m := meaningOf path word sh
  let sh := sh.print (if atLength then m.sentence word else m.short word)
  match m with
  | .unknown => sh.withStatus 127
  | _ => sh

/-- Says what some names stand for. -/
def describeAll (words : List (List Char)) (sh : State) : State :=
  words.foldl (fun sh word => describe true (searchPath sh) word sh) sh

/-! ## Aliases -/

/-- Sets an alias, or shows one. -/
def setAlias (sh : State) (word : List Char) : State :=
  let name := word.takeWhile (· != '=')
  match word.dropWhile (· != '='), name with
  | _ :: text, _ :: _ =>
    sh.withFrame fun f => { f with aliases := Table.put (textOf name) text f.aliases }
  | _, _ =>
    match Table.get? sh.frame.aliases (textOf word) with
    | some text => sh.print (aliasText word text)
    | none => (sh.say ("alias: ".toList ++ word ++ " not found\n".toList)).withStatus 1

/-- Sets aliases, or shows them. -/
def setAliases (words : List (List Char)) (sh : State) : State :=
  if words.isEmpty then
    sh.print (sh.frame.aliases.flatMap fun a => aliasText (bytesOf a.1) a.2)
  else words.foldl setAlias sh

/-- Forgets an alias. -/
def dropAlias (sh : State) (word : List Char) : State :=
  if (Table.get? sh.frame.aliases (textOf word)).isSome then
    sh.withFrame fun f => { f with aliases := f.aliases.filter fun a => a.1 != textOf word }
  else (sh.say ("unalias: ".toList ++ word ++ " not found\n".toList)).withStatus 1

/-- Forgets aliases. -/
def dropAliases (arguments : List (List Char)) (sh : State) : State :=
  match flags "a" arguments with
  | .error problem => sh.failing 2 "unalias: " problem
  | .ok ([], words) => words.foldl dropAlias sh
  | .ok _ => sh.withFrame fun f => { f with aliases := [] }

/-! ## Places of programs -/

/-- Remembers where a program was found. -/
def remember (word path : List Char) (sh : State) : State :=
  if word.contains '/' then sh
  else sh.withFrame fun f => { f with located := Table.put (textOf word) path f.located }

/-- Looks a program up and remembers it. -/
def locateOne (sh : State) (word : List Char) : State :=
  match meaningOf (searchPath sh) word sh with
  | .program path _ => remember word path sh
  | .unknown => (sh.complain ("hash: ".toList ++ word ++ ": not found".toList)).withStatus 1
  | _ => sh

/-- Looks programs up, or shows those that were found. -/
def locate (arguments : List (List Char)) (sh : State) : State :=
  match flags "r" arguments with
  | .error problem => sh.failing 2 "hash: " problem
  | .ok ([], []) => sh.print (sh.frame.located.flatMap fun p => p.2 ++ ['\n'])
  | .ok ([], words) => words.foldl locateOne sh
  | .ok _ => sh.withFrame fun f => { f with located := [] }

end SourceCheck.Shell
