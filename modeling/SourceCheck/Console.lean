import SourceCheck.Report
import SourceCheck.Text.Columns
import SourceCheck.Text.Lower

/-!
# Printing on a console

A console takes lines.  Characters that would move the cursor are left out, tabs become spaces, and
on a terminal each part of a styled line stands between an escape sequence that turns the style on
and one that turns it off.

* `Console.line`: what is written for one line.
-/

namespace SourceCheck

namespace Style

/-- The numbers that turn a style on. -/
def code : Style → String
  | boldRed => "1;31"
  | red => "31"
  | green => "32"
  | yellow => "33"
  | cyan => "36"
  | dim => "2"

end Style

namespace Console

/-- The variable that names the kind of a terminal. -/
def kindVariable : String := "TERM"

/-- Kinds of terminals that show no styles. -/
def plainKinds : List String := ["dumb", "unknown"]

/-- **Whether a terminal of a kind shows styles**; one of no known kind does. -/
def showsStyles (kind : Option String) : Bool :=
  !plainKinds.contains (Text.lowered (kind.getD ""))

/-- Characters that are left out: the bell, backspace, and those that move the cursor without
ending the line. -/
def isLeftOut (c : Char) : Bool :=
  c == '\x07' || c == '\x08' || c == '\x0b' || c == '\x0c' || c == '\r'

/-- A piece of a line in a style. -/
def styled (style : Option Style) (piece : List Char) : List Char :=
  match style with
  | some s => ("\x1b[" ++ s.code ++ "m").toList ++ piece ++ "\x1b[0m".toList
  | none => piece

/-- The parts of a text between line feeds. -/
def parts (text : List Char) : List (List Char) := Text.fields '\n' text

/-- One part of a line, with spaces in place of tabs. -/
def part (style : Option Style) (text : List Char) : List Char :=
  (Text.tabPieces text).flatMap (styled style)

/-- Parts with line feeds between them. -/
def joined : List (List Char) → List Char
  | [] => []
  | [p] => p
  | p :: ps => p ++ '\n' :: joined ps

/-- **What is written for one line**; `colour` says whether styles are shown. -/
def line (colour : Bool) (l : ReportLine) : String :=
  let style := if colour then l.style else none
  let kept := l.text.toList.filter fun c => !isLeftOut c
  String.ofList (joined ((parts kept).map (part style)) ++ ['\n'])

/-- **What is written for some lines.** -/
def lines (colour : Bool) (ls : List ReportLine) : String :=
  ls.foldl (fun out l => out ++ line colour l) ""

end Console

end SourceCheck
