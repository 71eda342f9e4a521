import SourceCheck.Number.Leading
import SourceCheck.Shell.Opening
import SourceCheck.Shell.ProgramFlags
import SourceCheck.Text.Columns

/-!
# Programs beside the shell

* `sleep`: time passes.
* `wordCount`: lines, words and bytes are counted.
-/

namespace SourceCheck.Shell

/-- A program complains under its own name. -/
def programSays (own message : List Char) (sh : State) : State :=
  sh.say (own ++ ": ".toList ++ message ++ ['\n'])

/-- A program refuses its arguments. -/
def programRefuses (own : List Char) (messages : List (List Char)) (sh : State) : State :=
  let sh := messages.foldl (fun sh m => programSays own m sh) sh
  (sh.say ("Try '".toList ++ own ++ " --help' for more information.\n".toList)).withStatus 1

/-- A text between typographic quotation marks. -/
def displayed (s : List Char) : List Char := bytesOf "\u2018" ++ s ++ bytesOf "\u2019"

/-! ## 1. Sleeping -/

/-- **A duration**: so many microseconds, or forever. -/
inductive Duration
  | microseconds (n : Nat)
  | forever

/-- Two durations, one after the other. -/
def Duration.add : Duration → Duration → Duration
  | .microseconds m, .microseconds n => .microseconds (m + n)
  | _, _ => .forever

/-- The seconds of a unit of time. -/
def unitSeconds? : List Char → Option Nat
  | [] | ['s'] => some 1
  | ['m'] => some 60
  | ['h'] => some 3600
  | ['d'] => some 86400
  | _ => none

/-- **The duration that a text writes**: a number and perhaps a unit. -/
def duration? (s : List Char) : Option Duration := do
  let r ← Number.leadingNumber s
  let unit ← unitSeconds? r.rest
  match r.number with
  | .infinity false => return .forever
  | .finite negative m e =>
    let q := Number.Binary64.ratio m e
    if negative && m != 0 then none
    else return .microseconds (q.1 * unit * 1000000 / q.2)
  | _ => none

/-- Sleeping takes no flags. -/
def sleepFlags : ProgramFlags := ⟨[], []⟩

/-- Sleeps; the first argument is the name of the program. -/
def sleep (own : List Char) (arguments : List (List Char)) (sh : State) : Flow × State :=
  match sleepFlags.read arguments with
  | .error problem => (.next, programRefuses own [problem.words] sh)
  | .ok (_, []) => (.next, programRefuses own ["missing operand".toList] sh)
  | .ok (_, words) =>
    let wrong := words.filter fun w => (duration? w).isNone
    if !wrong.isEmpty then
      (.next, programRefuses own (wrong.map fun w =>
        "invalid time interval ".toList ++ displayed w) sh)
    else
      match (words.filterMap duration?).foldl Duration.add (.microseconds 0) with
      | .forever => (.stopped, sh)
      | .microseconds n =>
        let sh := sh.wait n
        if sh.isLate then (.stopped, sh) else (.next, sh.withStatus 0)

/-! ## 2. Counting -/

/-- The flags of the word count. -/
def countFlags : ProgramFlags := ⟨"lwcmL".toList, [
  ("bytes", 'c'), ("chars", 'm'), ("lines", 'l'), ("words", 'w'), ("max-line-length", 'L')]⟩

/-- **What is counted**: the characters of some bytes, and the bytes where no character is. -/
abbrev Counted := List (Option Char)

/-- The number of line feeds. -/
def countLines (s : Counted) : Nat := s.countP (· == some '\n')

/-- White space between words; the information separators and the next line are none, the word
joiner is some. -/
def isWordGap (c : Char) : Bool :=
  let n := c.toNat
  (Text.isBlank c && !(28 ≤ n && n ≤ 31) && n != 0x85) || n == 0x2060

/-- Characters that can be seen: neither control characters nor places that never get a
character. -/
def isVisible (c : Char) : Bool :=
  let n := c.toNat
  32 ≤ n && !(127 ≤ n && n < 160) && n % 65536 < 65534 && !(0xfdd0 ≤ n && n ≤ 0xfdef)

/-- The number of words; what can not be seen neither starts nor ends one. -/
def countWords (inside : Bool) : Counted → Nat
  | [] => 0
  | none :: xs => countWords inside xs
  | some c :: xs =>
    if isWordGap c then countWords false xs
    else if !isVisible c then countWords inside xs
    else (if inside then 0 else 1) + countWords true xs

/-- The columns of the longest line; `column` is where the current one has come to. -/
def longestLine (column : Nat) : Counted → Nat
  | [] => column
  | none :: xs => longestLine column xs
  | some c :: xs =>
    if c == '\n' || c == '\r' || c == '\x0c' then max column (longestLine 0 xs)
    else if c == '\t' then longestLine (column + Text.tabStop - column % Text.tabStop) xs
    else if !isVisible c then longestLine column xs
    else longestLine (column + Text.columnsOf c) xs

/-- The counts that some flags ask for, in the order in which they are shown. -/
def countsFor (letters : List Char) (bytes : List UInt8) : List Nat :=
  let all := letters.isEmpty
  let s := Text.Utf8.units bytes
  (if all || letters.contains 'l' then [countLines s] else []) ++
    (if all || letters.contains 'w' then [countWords false s] else []) ++
    (if letters.contains 'm' then [s.countP (·.isSome)] else []) ++
    (if all || letters.contains 'c' then [bytes.length] else []) ++
    (if letters.contains 'L' then [longestLine 0 s] else [])

/-- A number in a column. -/
def inColumn (width n : Nat) : List Char :=
  let ds := (toString n).toList
  List.replicate (width - ds.length) ' ' ++ ds

/-- The counts on a line with a name behind them. -/
def countLine (width : Nat) (counts : List Nat) (name : List Char) : List Char :=
  ((counts.map (inColumn width)).intersperse [' ']).flatten ++
    (if name.isEmpty then [] else ' ' :: name) ++ ['\n']

/-- **Something to be counted.** -/
structure CountSource where
  name : List Char
  bytes : List UInt8
  /-- The size that is known beforehand. -/
  size : Option Nat
  /-- Why it cannot be read. -/
  problem : Option String
  /-- Whether there is nothing at all. -/
  absent : Bool

/-- What the program reads if no file is named. -/
def standardSource (name : List Char) (sh : State) : CountSource :=
  let bytes := toBytes ((sh.unread? 0).getD [])
  let size := match sh.stream? 0 with
    | some (.channel k) =>
      match sh.channel? k with
      | some (.file place _ _) => some (sh.bytesAt place).length
      | _ => none
    | _ => none
  ⟨name, bytes, size, none, false⟩

/-- A file to be counted. -/
def fileSource (name : List Char) (sh : State) : CountSource :=
  let refused := fun (e : SystemError) => (⟨name, [], none, some e.words, true⟩ : CountSource)
  if name.isEmpty then refused .missing
  else match sh.view.find (Path.ofString (textOf name)) true with
    | .error (.system e _) => refused e
    | .error _ | .ok ⟨_, none⟩ => refused .missing
    | .ok ⟨_, some (.directory _)⟩ => ⟨name, [], none, some SystemError.isADirectory.words, false⟩
    | .ok ⟨_, some (.file mode bytes)⟩ =>
      if mode.testBit 8 then ⟨name, bytes, some bytes.length, none, false⟩
      else { refused .forbidden with size := some bytes.length }
    | .ok ⟨_, some _⟩ => ⟨name, [], none, none, false⟩

/-- The width of the columns: that of the sum of all sizes, and more where a size is not known
beforehand. -/
def countWidth (letters : List Char) (sources : List CountSource) : Nat :=
  let isSingle := sources.length == 1 && (countsFor letters []).length == 1
  let isAbsent := (sources.head?).any fun s => s.absent && s.size.isNone
  if isSingle || isAbsent then 1
  else
    let total := (sources.filterMap (·.size)).foldl (· + ·) 0
    let least := if sources.any fun s => s.size.isNone && !s.absent then 7 else 1
    max least (toString total).length

/-- Counts one source. -/
def countSource (own letters : List Char) (width : Nat) (sh : State) (s : CountSource) : State :=
  let sh := match s.problem with
    | some words =>
      (programSays own (s.name ++ ": ".toList ++ words.toList) sh).withStatus 1
    | none => sh
  if s.absent then sh else sh.print (countLine width (countsFor letters s.bytes) s.name)

/-- Counts lines, words and bytes; the first argument is the name of the program. -/
def wordCount (own : List Char) (arguments : List (List Char)) (sh : State) : State :=
  match countFlags.read arguments with
  | .error problem => programRefuses own [problem.words] sh
  | .ok (found, names) =>
    let letters := found.map (·.1)
    let isStandard := fun (name : List Char) => name == ['-'] || names.isEmpty
    let sources := (if names.isEmpty then [[]] else names).map fun name =>
      if isStandard name then standardSource name sh else fileSource name sh
    let width := countWidth letters sources
    let readsStandard := sources.any (isStandard ·.name)
    let sh := (if readsStandard then sh.awaitEnd 0 else sh).withStatus 0
    if sh.isLate then sh
    else
    let sh := sources.foldl (countSource own letters width) sh
    let sh := if readsStandard then sh.advance 0 ((sh.unread? 0).getD []).length else sh
    if sources.length < 2 then sh
    else
      let counted := sources.filter fun s => !s.absent
      let total := counted.foldl (fun sums s => List.zipWith (· + ·) sums (countsFor letters s.bytes))
        ((countsFor letters []).map fun _ => 0)
      sh.print (countLine width total "total".toList)

/-- What comes of a program that could not print its counts. -/
def afterCounting (own : List Char) (sh : State) : State :=
  if sh.unprinted then
    (programSays own "write error: Bad file descriptor".toList
      { sh with unprinted := false }).withStatus 1
  else sh

end SourceCheck.Shell
