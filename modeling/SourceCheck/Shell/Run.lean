import SourceCheck.Shell.Builtin
import SourceCheck.Shell.Nesting
import SourceCheck.Shell.Programs
import SourceCheck.Shell.Reader

/-!
# Running scripts

A script runs on the machine's files and on a clock that only sleeping and starting programs moves
to any extent.  Whatever would happen behind the deadline does not happen.  The first argument of
the functions below bounds the run: whoever runs out of it counts as not having ended.

* `run`: what a script does.
* `runText`: what a text does, line by line.
* `runProgram`: what a program of the machine does.
-/

namespace SourceCheck.Shell

/-! ## 1. Small steps -/

/-- How long it takes to start a program. -/
def startTime : Nat := 1000

/-- How long a command of the shell itself takes. -/
def stepTime : Nat := 1

/-- How long the left side of a pipe may take before its right side is run. -/
def glanceTime : Nat := 20000

/-- How many functions may call each other. -/
def callLimit : Nat := 1000

/-- How deep texts and programs may be run by each other before there is no room left. -/
def depthLimit : Nat := 1200

/-- A shell whose commands are part of so many more conditions. -/
def tested (k : Nat) (sh : State) : State := sh.withFrame fun f => { f with tested := f.tested + k }

/-- A shell whose commands are part of so many fewer conditions. -/
def untested (k : Nat) (sh : State) : State :=
  sh.withFrame fun f => { f with tested := f.tested - k }

/-- What something does when no condition depends on it. -/
def onItsOwn (run : State → Flow × State) (sh : State) : Flow × State :=
  let (flow, done) := run (sh.withFrame fun f => { f with tested := 0 })
  (flow, done.withFrame fun f => { f with tested := sh.frame.tested })

/-- What something does as a trap of a shell that had some status before. -/
def inTrap (before : Nat) (run : State → Flow × State) (sh : State) : Flow × State :=
  let (flow, done) := onItsOwn run (sh.withFrame fun f => { f with beforeTrap := some before })
  (flow, done.withFrame fun f => { f with beforeTrap := sh.frame.beforeTrap })

/-- A shell that takes note of a job that has ended. -/
def jobEnded (number status : Nat) (sh : State) : State :=
  sh.withFrame fun f =>
    let (earlier, later) := f.ended.partition fun e => e.1 < number
    { f with ended := earlier ++ (number, status) :: later.filter fun e => e.1 != number }

/-- A shell that starts another process: that takes the place of a job that has ended. -/
def spawning (sh : State) : State := sh.withFrame fun f => { f with ended := f.ended.drop 1 }

/-- A command has ended; a failure that nobody asks about may end the shell. -/
def checked (flow : Flow) (sh : State) : Flow × State :=
  let isOver := flow = .next || flow = .returning
  if isOver && sh.has 'e' && sh.frame.status != 0 && sh.frame.tested == 0 then (.exit, sh)
  else (flow, sh)

/-- The shell enters a loop. -/
def inLoop (sh : State) : State := sh.withFrame fun f => { f with loops := f.loops + 1 }

/-- The shell leaves a loop. -/
def outOfLoop (sh : State) : State := sh.withFrame fun f => { f with loops := f.loops - 1 }

/-- Whether the words of the current command have ended the shell. -/
def isRefused (sh : State) : Bool := sh.frame.verdict != .next

/-- The streams that some redirections are about lead again where they led before. -/
def closeAll (redirections : List Redirection) (before : State) (sh : State) : State :=
  redirections.foldl (fun sh r => match r with
    | .mk number _ _ => sh.setStream number (before.stream? number)) sh

/-- **What a simple command runs.** -/
structure Target where
  /-- Whether functions are passed over. -/
  direct : Bool
  /-- Whether programs are looked for where they always are. -/
  standard : Bool
  words : List (List Char)

/-- The words behind `command` and its flags, unless it is asked to say something itself. -/
def behindCommand : List (List Char) → Option (Bool × List (List Char))
  | [] => none
  | ['-', '-'] :: rest => if rest.isEmpty then none else some (false, rest)
  | ('-' :: c :: cs) :: rest =>
    if (c :: cs).all (· == 'p') then (behindCommand rest).map fun r => (true, r.2) else none
  | rest => some (false, rest)

/-- The target of some words, with a bound on their number. -/
def targetUpTo (sh : State) : Nat → Target → Target
  | 0, t => t
  | n + 1, t =>
    let isFunction := (Table.get? sh.frame.functions "command").isSome && !t.direct
    match t.words, isFunction with
    | word :: rest, false =>
      if word == "command".toList then
        match behindCommand rest with
        | some (standard, words) => targetUpTo sh n ⟨true, t.standard || standard, words⟩
        | none => t
      else t
    | _, _ => t

/-- **The target of some words.** -/
def targetOf (sh : State) (words : List (List Char)) : Target :=
  targetUpTo sh words.length ⟨false, false, words⟩

/-- Whether some words start with a special command of the shell. -/
def isSpecial (sh : State) (words : List (List Char)) : Bool :=
  match words with
  | word :: _ =>
    specialNames.contains (textOf word) && (Table.get? sh.frame.functions (textOf word)).isNone
  | [] => false

/-- Whether a program is called by its path, or there is a file where it is looked for. -/
def isLocated (m : Machine) (paths : List String) (name : List Char) : Bool :=
  name.contains '/' || paths.any fun p => (m.isFile? (Path.ofString p)).toOption.getD false

/-- Words behind a mark, on one line. -/
def traced (mark : List Char) (words : List (List Char)) : List Char :=
  mark ++ spaced words ++ ['\n']

mutual

/-- What comes of a piece of a word. -/
def expandPiece : Nat → Piece → State → List Atom × State
  | 0, _, sh => ([], sh)
  | n + 1, piece, sh =>
    match piece with
    | .text cs => (Atom.plain cs, sh)
    | .quotedText cs => (.mark :: Atom.quoted cs, sh)
    | .parameter "@" quoted => (Atom.arguments quoted sh.frame.arguments, sh)
    | .parameter "*" quoted =>
      if quoted then
        let joint := ((separators sh).head?.map ([·])).getD []
        (Atom.value true (sh.frame.arguments.intersperse joint).flatten, sh)
      else (Atom.arguments false sh.frame.arguments, sh)
    | .parameter name quoted =>
      match sh.value? name with
      | some v => (Atom.value quoted v, sh)
      | none =>
        (Atom.value quoted [], if sh.has 'u' then
          sh.refuse (bytesOf name ++ ": parameter not set".toList) else sh)
    | .nonsense => ([], sh.refuse "Bad substitution".toList)
    | .altered name how argument quoted => alter n name how argument quoted sh
    | .output script lineFeeds quoted =>
      let (text, sh) := outputOf n script lineFeeds sh
      (Atom.value quoted text, sh)
    | .arithmetic expression quoted =>
      let (atoms, sh) := expandPieces n expression sh
      let text := plainText (oneField atoms)
      match Arithmetic.evaluate numbers sh text with
      | .ok (v, sh) => (Atom.value quoted (toString v).toList, sh)
      | .error problem => ([], sh.refuse (problem.words text))
termination_by structural n => n

/-- What comes of a parameter that is altered before it is put in. -/
def alter : Nat → String → Alteration → List Piece → Bool → State → List Atom × State
  | 0, _, _, _, _, sh => ([], sh)
  | n + 1, name, how, argument, quoted, sh =>
    let isList := name == "@" || name == "*"
    let joint := if name == "*" && quoted then ((separators sh).head?.map ([·])).getD [] else [' ']
    let value := if isList then some (sh.frame.arguments.intersperse joint).flatten
      else sh.value? name
    let asItIs := fun (sh : State) =>
      if isList then expandPiece n (.parameter name quoted) sh
      else (Atom.value quoted (value.getD []), sh)
    let isApart := isList && !(name == "*" && quoted)
    let isMissing := fun (orEmpty : Bool) => match value with
      | none => true
      | some v => orEmpty && v.isEmpty
    let pattern := fun (atoms : List Atom) => Pattern.ofMarked (oneField atoms)
    let whenSet := fun (result : State → List Atom × State) =>
      if value.isNone && sh.has 'u' then
        ([], sh.refuse (bytesOf name ++ ": parameter not set".toList))
      else result sh
    match how with
    | .orElse orEmpty =>
      if isMissing orEmpty then
        let (atoms, sh) := expandPieces n argument sh
        (Atom.standIn quoted atoms, sh)
      else asItIs sh
    | .assign orEmpty =>
      if isMissing orEmpty then
        let (atoms, sh) := expandPieces n argument sh
        (Atom.value quoted (plainText (oneField atoms)),
          sh.assign name (plainText (oneField atoms)))
      else asItIs sh
    | .instead orEmpty =>
      if isMissing orEmpty then (Atom.value quoted [], sh)
      else
        let (atoms, sh) := expandPieces n argument sh
        (Atom.standIn quoted atoms, sh)
    | .withoutStart longest => whenSet fun sh =>
      let (atoms, sh) := expandPieces n argument sh
      (if isApart then
          Atom.arguments quoted (withoutStarts (pattern atoms) longest sh.frame.arguments)
        else Atom.value quoted (Pattern.dropStart (pattern atoms) longest (value.getD [])), sh)
    | .withoutEnd longest => whenSet fun sh =>
      let (atoms, sh) := expandPieces n argument sh
      (if isApart then
          Atom.arguments quoted (withoutEnds (pattern atoms) longest sh.frame.arguments)
        else Atom.value quoted (Pattern.dropEnd (pattern atoms) longest (value.getD [])), sh)
    | .length => whenSet fun sh =>
      (Atom.value quoted (toString (value.getD []).length).toList, sh)
    | .orFail orEmpty =>
      if isMissing orEmpty then
        let (atoms, sh) := expandPieces n argument sh
        let words := if argument.isEmpty then
            ("parameter not set" ++ if orEmpty then " or null" else "").toList
          else plainText (oneField atoms)
        ([], sh.refuse (bytesOf name ++ ": ".toList ++ words))
      else asItIs sh
termination_by structural n => n

/-- What comes of the pieces of a word. -/
def expandPieces : Nat → List Piece → State → List Atom × State
  | 0, _, sh => ([], sh)
  | _ + 1, [], sh => ([], sh)
  | n + 1, p :: ps, sh =>
    let (first, sh) := expandPiece n p sh
    if isRefused sh then (first, sh)
    else
      let (rest, sh) := expandPieces n ps sh
      (first ++ rest, sh)
termination_by structural n => n

/-- What comes of a word, with a leading tilde replaced. -/
def expandWord : Nat → List Piece → State → List Atom × State
  | 0, _, sh => ([], sh)
  | n + 1, word, sh =>
    match word with
    | .text ('~' :: cs) :: rest =>
      let part := cs.takeWhile (· != '/')
      let home := if part.isEmpty then some ((sh.value? "HOME").getD ['~'])
        else (sh.machine.users.find? fun u => u.1 == textOf part).map fun u => bytesOf u.2
      let isWhole := part.length < cs.length || rest.isEmpty
      match home, isWhole with
      | some home, true =>
        let (atoms, sh) := expandPieces n (.text (cs.drop part.length) :: rest) sh
        (Atom.quoted home ++ atoms, sh)
      | _, _ => expandPieces n word sh
    | word => expandPieces n word sh
termination_by structural n => n

/-- The text of a word that is not split. -/
def textOfWord : Nat → List Piece → State → List Char × State
  | 0, _, sh => ([], sh)
  | n + 1, word, sh =>
    let (atoms, sh) := expandWord n word sh
    (plainText (oneField atoms), sh)
termination_by structural n => n

/-- The fields of some words, with file names for patterns. -/
def expandWords : Nat → List (List Piece) → State → List (List Char) × State
  | 0, _, sh => ([], sh)
  | _ + 1, [], sh => ([], sh)
  | n + 1, w :: ws, sh =>
    let (atoms, sh) := expandWord n w sh
    let fields := (fieldsOf (separators sh) atoms).flatMap fun field =>
      if sh.has 'f' then [plainText field] else names sh.view field
    if isRefused sh then (fields, sh)
    else
      let (rest, sh) := expandWords n ws sh
      (fields ++ rest, sh)
termination_by structural n => n

/-- The output of a script, without line feeds at its end. -/
def outputOf : Nat → Script → Option Nat → State → List Char × State
  | 0, _, _, sh => ([], sh)
  | n + 1, script, lineFeeds, sh =>
    let sh := spawning sh
    let (k, opened) := sh.openChannel (.pipe [] [])
    let start := opened.withFrame fun f =>
      { innerFrameWith 1 (.channel k) f with
        lineFeeds := lineFeeds.getD f.lineFeeds, tested := 0 }
    let (flow, done) := run n script start
    let (flow, done) := atEnd n flow done
    let status := done.frame.status
    let (late, done) := settle n k { done with frame := sh.frame }
    let text := ((done.channel? k).map Channel.unread).getD [] |>.filter (· != '\x00')
    let kept := (text.reverse.dropWhile (· == '\n')).reverse
    (kept, (done.dropChannel k).withFrame fun f =>
      { f with lastOutput := some status, verdict := if late = .next then outer flow else late })
termination_by structural n => n

/-- Runs the background jobs that still write into a channel. -/
def settle : Nat → Nat → State → Flow × State
  | 0, _, sh => (.stopped, sh)
  | n + 1, k, sh =>
    match sh.jobs.find? fun j => (streamsOfJob n j sh).any (·.2 == .channel k) with
    | none => (.next, sh)
    | some j =>
      let rest := { sh with jobs := sh.jobs.filter fun i => i.number != j.number }
      let (flow, done) := runJob n j rest
      let back := { done with frame := sh.frame, deadline := sh.deadline
                              clock := max sh.clock done.clock }
      if flow = .stopped && j.killed.isNone then (.stopped, back) else settle n k back
termination_by structural n => n

/-- The streams of a background job once its redirections are made. -/
def streamsOfJob : Nat → Job → State → List (Nat × Stream)
  | 0, j, _ => j.frame.streams
  | n + 1, j, sh =>
    match j.script with
    | .redirected _ _ rs | .simple _ _ _ rs =>
      (openAll n true rs { sh with frame := j.frame }).2.frame.streams
    | _ => j.frame.streams
termination_by structural n => n

/-- Opens redirections in order, once all their targets are known; a failure is complained about.
`keeps` says that the streams are moved aside to be taken up again. -/
def openAll : Nat → Bool → List Redirection → State → Bool × State
  | 0, _, _, sh => (false, sh)
  | n + 1, keeps, redirections, sh =>
    let (names, sh) := targets n redirections sh
    if isRefused sh then (false, sh) else openEach n keeps [] (redirections.zip names) sh
termination_by structural n => n

/-- The targets of redirections; a text that stands in the script is left for later. -/
def targets : Nat → List Redirection → State → List (List Char) × State
  | 0, _, sh => ([], sh)
  | _ + 1, [], sh => ([], sh)
  | n + 1, .mk _ .hereText _ :: rest, sh =>
    let (names, sh) := targets n rest sh
    ([] :: names, sh)
  | n + 1, .mk _ opening target :: rest, sh =>
    let (name, sh) := textOfWord n target sh
    if isRefused sh then ([], sh)
    else if opening = .copying && copyOf name = .nonsense then
      ([], sh.refuseReading "Syntax error: Bad fd number".toList)
    else
      let (names, sh) := targets n rest sh
      (name :: names, sh)
termination_by structural n => n

/-- Opens redirections with their targets; `moved` are the streams that were redirected before. -/
def openEach :
    Nat → Bool → List Nat → List (Redirection × List Char) → State → Bool × State
  | 0, _, _, _, sh => (false, sh)
  | _ + 1, _, _, [], sh => (true, sh)
  | n + 1, keeps, moved, (.mk number opening target, name) :: rest, sh =>
    let next := openEach n keeps (number :: moved) rest
    match opening with
    | .copying =>
      match copyOf name with
      | .close => next (sh.setStream number none)
      | .nonsense => (false, sh)
      | .of source =>
        match sh.stream? source with
        | some s => next (sh.setStream number (some s))
        | none =>
          let isUnheard := keeps && number == 2 && !moved.contains 2
          if source == number then next sh
          else if isUnheard then (false, sh.withStatus 2)
          else (false, sh.failingWithin 2
            ((toString source).toList ++ ": Bad file descriptor".toList))
    | .hereText =>
      let (text, sh) := textOfWord n target sh
      if isRefused sh then (false, sh)
      else
        let (k, sh) := sh.openChannel (.pipe text [])
        next (sh.setStream number (some (.channel k)))
    | opening =>
      match sh.openFile number opening name with
      | .ok sh => next sh
      | .error e =>
        let verb := if opening = .reading then "cannot open " else "cannot create "
        (false, sh.failingWithin 2 (verb.toList ++ name ++ ": ".toList ++
          (openingWords e (opening != .reading)).toList))
termination_by structural n => n

/-- **What a script does.** -/
def run : Nat → Script → State → Flow × State
  | 0, _, sh => (.stopped, sh)
  | n + 1, script, sh =>
    if sh.has 'n' && script.isReadable then (.next, sh)
    else match script with
    | .nothing => (.next, sh)
    | .unreadable below problem =>
      (.failed, (sh.withFrame fun f => { f with below }).failingWithin 2 problem)
    | .simple below assignments words redirections =>
      let sh := (sh.withFrame fun f => { f with below }).wait stepTime
      if sh.isLate then (.stopped, sh)
      else
        let (flow, sh) := simpleCommand n assignments words redirections sh
        attend n (if flow = .next && isRefused sh then (sh.frame.verdict, sh) else checked flow sh)
    | .negated s =>
      match run n s (tested 1 sh) with
      | (.next, sh) => (.next, (untested 1 sh).withStatus (if sh.frame.status == 0 then 1 else 0))
      | (flow, sh) => (flow, untested 1 sh)
    | .pipe first second => attend n (pipe n first second sh)
    | .both first second =>
      match run n first (tested 1 sh) with
      | (.next, sh) =>
        let sh := untested 1 sh
        if sh.frame.status == 0 then run n second sh else (.next, sh)
      | (flow, sh) => (flow, untested 1 sh)
    | .either first second =>
      match run n first (tested 1 sh) with
      | (.next, sh) =>
        let sh := untested 1 sh
        if sh.frame.status == 0 then (.next, sh) else run n second sh
      | (flow, sh) => (flow, untested 1 sh)
    | .sequence first second =>
      match run n first sh with
      | (.next, sh) => run n second sh
      | other => other
    | .background s =>
      let sh := spawning sh
      let frame := { innerFrameWith 0 .nowhere sh.frame with tested := 0 }
      let job : Job := ⟨sh.nextJob, s, frame, sh.clock, none⟩
      (.next, ({ sh with jobs := sh.jobs ++ [job], nextJob := sh.nextJob + 1 }.withFrame
        fun f => { f with
          lastJob := some sh.nextJob, started := sh.nextJob :: f.started, status := 0 }))
    | .subshell s =>
      let sh := spawning sh
      let (flow, done) := run n s (sh.withFrame innerFrame)
      let (flow, done) := atEnd n flow done
      attend n
        (checked (outer flow) { done with frame := { sh.frame with status := done.frame.status } })
    | .redirected below s redirections =>
      let sh := sh.withFrame fun f => { f with below }
      match openAll n (!s.isSubshell) redirections sh with
      | (true, inner) =>
        let (flow, done) := run n s inner
        (flow, closeAll redirections sh done)
      | (false, failed) => (failed.frame.verdict, closeAll redirections sh failed)
    | .choice condition yes no =>
      match run n condition (tested 1 sh) with
      | (.next, sh) =>
        let sh := untested 1 sh
        if sh.frame.status == 0 then run n yes sh
        else match no with
          | .nothing => (.next, sh.withStatus 0)
          | no => run n no sh
      | (flow, sh) => (flow, untested 1 sh)
    | .loop whileTrue condition body =>
      let (flow, sh) := loop n whileTrue condition body 0 (inLoop sh)
      (flow, outOfLoop sh)
    | .each below name words body =>
      let (values, sh) := expandWords n words (sh.withFrame fun f => { f with below })
      if isRefused sh then (sh.frame.verdict, sh)
      else
        let sh := if values.isEmpty then sh.withStatus 0 else sh
        let (flow, sh) := each n name values body (inLoop sh)
        (flow, outOfLoop sh)
    | .select below word arms =>
      let (text, sh) := textOfWord n word (sh.withFrame fun f => { f with below })
      if isRefused sh then (sh.frame.verdict, sh)
      else select n text arms sh
    | .define name body =>
      (.next, (sh.withFrame fun f =>
        { f with functions := Table.put name ⟨body, f.lineFeeds⟩ f.functions }).withStatus 0)
termination_by structural n => n

/-- Runs what writes into a new pipe up to some time; the answer says whether it has ended then, and
the pipe's number. -/
def feed : Nat → Option Nat → Script → State → Bool × Nat × State
  | 0, _, _, sh => (false, 0, sh)
  | n + 1, upTo, first, sh =>
    let (k, opened) := { sh with deadline := upTo }.openChannel (.pipe [] [])
    let (flow, done) := run n first (opened.withFrame (innerFrameWith 1 (.channel k)))
    let (flow, done) := atEnd n flow done
    let (late, done) := settle n k { done with frame := sh.frame }
    (flow != .stopped && late != .stopped, k, { done with deadline := sh.deadline })
termination_by structural n => n

/-- Runs what reads from a pipe. -/
def drain : Nat → Nat → Script → State → Flow × State
  | 0, _, _, sh => (.stopped, sh)
  | n + 1, k, second, sh =>
    let (flow, done) := run n second (sh.withFrame (innerFrameWith 0 (.channel k)))
    atEnd n flow done
termination_by structural n => n

/-- A pipe.  If the writer goes on for long, the reader gets to see what there is so far: if it ends
before the writer writes on, nobody reads any more, and the writer ends with it. -/
def pipe : Nat → Script → Script → State → Flow × State
  | 0, _, _, sh => (.stopped, sh)
  | n + 1, first, second, sh =>
    let sh := spawning sh
    let ended := fun (k : Nat) (flow : Flow) (done : State) =>
      checked (outer flow)
        { done.dropChannel k with frame := { sh.frame with status := done.frame.status } }
    let endless := fun (k : Nat) (done : State) =>
      { done with frame := sh.frame, clock := sh.clock, endless := k :: done.endless }
    let glance := match sh.deadline with
      | some d => min d (sh.clock + glanceTime)
      | none => sh.clock + glanceTime
    match feed n (some glance) first sh with
    | (true, k, done) =>
      let (flow, done) := drain n k second done
      if flow = .stopped then (.stopped, done.dropChannel k) else ended k flow done
    | (false, k, done) =>
      let (flow, ahead) := drain n k second (endless k { done with deadline := some glance })
      let ahead := { ahead with deadline := sh.deadline }
      let isBroken := (done.channel? k).any (·.isWrittenAfter ahead.clock)
      if flow != .stopped && ahead.clock ≤ glance && isBroken then ended k flow ahead
      else match feed n sh.deadline first sh with
        | (true, k, done) =>
          let (flow, done) := drain n k second done
          if flow = .stopped then (.stopped, done.dropChannel k) else ended k flow done
        | (false, k, done) =>
          (.stopped, ((drain n k second (endless k done)).2).dropChannel k)
termination_by structural n => n

/-- A loop; `last` is the status that its body left. -/
def loop : Nat → Bool → Script → Script → Nat → State → Flow × State
  | 0, _, _, _, _, sh => (.stopped, sh)
  | n + 1, whileTrue, condition, body, last, sh =>
    match run n condition (tested 1 sh) with
    | (.next, sh) =>
      let sh := untested 1 sh
      if sh.has 'n' then (.next, sh)
      else if (sh.frame.status == 0) == whileTrue then
        match run n body sh with
        | (flow, sh) =>
          if goesOn flow then loop n whileTrue condition body sh.frame.status sh
          else (leave flow, sh)
      else (.next, sh.withStatus last)
    | (flow, sh) =>
      let sh := untested 1 sh
      if goesOn flow then loop n whileTrue condition body last sh
      else match flow with
        | .breaking _ | .continuing _ => (leave flow, sh.withStatus last)
        | flow => (leave flow, sh)
termination_by structural n => n

/-- A loop over values. -/
def each : Nat → String → List (List Char) → Script → State → Flow × State
  | 0, _, _, _, sh => (.stopped, sh)
  | _ + 1, _, [], _, sh => (.next, sh)
  | n + 1, name, v :: vs, body, sh =>
    let sh := sh.assign name v
    if isRefused sh then (sh.frame.verdict, sh)
    else
      match run n body sh with
      | (flow, sh) => if goesOn flow then each n name vs body sh else (leave flow, sh)
termination_by structural n => n

/-- The first arm that a text fits. -/
def select : Nat → List Char → List (List (List Piece) × Script) → State → Flow × State
  | 0, _, _, sh => (.stopped, sh)
  | _ + 1, _, [], sh => (.next, sh.withStatus 0)
  | n + 1, text, (patterns, body) :: rest, sh =>
    let (fits, sh) := fitsAny n text patterns sh
    if isRefused sh then (sh.frame.verdict, sh)
    else if !fits then select n text rest sh
    else match body with
      | .nothing => (.next, sh.withStatus 0)
      | body => run n body sh
termination_by structural n => n

/-- Whether a text fits one of some patterns. -/
def fitsAny : Nat → List Char → List (List Piece) → State → Bool × State
  | 0, _, _, sh => (false, sh)
  | _ + 1, _, [], sh => (false, sh)
  | n + 1, text, p :: ps, sh =>
    let (atoms, sh) := expandWord n p sh
    if Pattern.accepts (Pattern.ofMarked (oneField atoms)) text then (true, sh)
    else fitsAny n text ps sh
termination_by structural n => n

/-- Sets variables in order, visible to programs if that is asked for, and says how they were set.
-/
def assignAll : Nat → Bool → List (String × List Piece) → State → List (List Char) × State
  | 0, _, _, sh => ([], sh)
  | _ + 1, _, [], sh => ([], sh)
  | n + 1, visible, (name, value) :: rest, sh =>
    let (text, sh) := textOfWord n value sh
    if isRefused sh then ([], sh)
    else
      let sh := sh.assign name text
      let sh := if visible then sh.expose name else sh
      if isRefused sh then ([], sh)
      else
        let (more, sh) := assignAll n visible rest sh
        ((bytesOf name ++ '=' :: text) :: more, sh)
termination_by structural n => n

/-- Shows a command on a stream before it is run, if the shell is asked to. -/
def trace : Nat → Option Stream → List (List Char) → State → State
  | 0, _, _, sh => sh
  | n + 1, stream, words, sh =>
    if !sh.has 'x' then sh
    else
      let text := (sh.value? "PS4").getD []
      let quiet := sh.withFrame fun f => { f with options := turned false 'x' f.options }
      let (mark, shown) := match herePieces [] (depthOf text) textEscapes text with
        | .ok ps =>
          let (atoms, shown) := expandPieces n ps quiet
          (plainText (oneField atoms), shown)
        | .error _ => (text, quiet)
      let back := shown.withFrame fun f =>
        { f with options := sh.frame.options, status := sh.frame.status
                 lastOutput := sh.frame.lastOutput }
      (back.write? stream (traced mark words)).getD back
termination_by structural n => n

/-- A simple command. -/
def simpleCommand : Nat → List (String × List Piece) → List (List Piece) →
    List Redirection → State → Flow × State
  | 0, _, _, _, sh => (.stopped, sh)
  | n + 1, assignments, words, redirections, sh =>
    let sh := sh.withFrame fun f => { f with lastOutput := none }
    let (fields, sh) := expandWords n words sh
    if isRefused sh then (sh.frame.verdict, sh)
    else match attend n (.next, sh) with
    | (.next, sh) => fieldsCommand n assignments fields redirections sh
    | other => other
termination_by structural n => n

/-- A simple command whose words have come to fields. -/
def fieldsCommand : Nat → List (String × List Piece) → List (List Char) →
    List Redirection → State → Flow × State
  | 0, _, _, _, sh => (.stopped, sh)
  | n + 1, assignments, fields, redirections, sh =>
    let special := isSpecial sh fields
    let target := targetOf sh fields
    let closed := closeAll redirections sh
    match openAll n true redirections sh with
    | (false, failed) =>
      (if isRefused failed then failed.frame.verdict else if special then .failed else .next,
        closed failed)
    | (true, inner) =>
      let stays := fields.isEmpty || special
      let isExec := target.words.head? == some "exec".toList
      let visible := !stays || (isExec && 1 < target.words.length)
      let formers := if stays then [] else assignments.map fun a => sh.former a.1
      let (values, own) := assignAll n visible assignments inner
      if isRefused own then (own.frame.verdict, closed own)
      else
        let own := trace n (sh.stream? 2) (values ++ fields) own
        match target.words with
        | [] => (.next, (closed own).withStatus (own.frame.lastOutput.getD 0))
        | name :: arguments =>
          let (flow, done) := call n target.direct target.standard name arguments own
          let flow := if flow = .failed && target.direct then .next else flow
          let done := if flow = .next then
              done.withFrame fun f => { f with verdict := .next }
            else done
          let done := if isExec && arguments.isEmpty then done else closed done
          (flow, formers.foldl State.restore done)
termination_by structural n => n

/-- A function with its arguments. -/
def callFunction : Nat → Routine → List (List Char) → State → Flow × State
  | 0, _, _, sh => (.stopped, sh)
  | n + 1, routine, arguments, sh =>
    if callLimit ≤ sh.frame.calls then
      (.failed, sh.failingWithin 2 ("Maximum function recursion depth (".toList ++
        (toString callLimit).toList ++ ") reached".toList))
    else
      let (flow, done) := run n routine.body (sh.withFrame fun f =>
        { f with arguments, calls := f.calls + 1, loops := 0, hidden := some []
                 optionPlace := State.firstOption, lineFeeds := routine.lineFeeds })
      let back := (done.frame.hidden.getD []).foldl State.restore done
      (if flow = .returning then .next else flow, back.withFrame fun f =>
        { f with arguments := sh.frame.arguments, calls := sh.frame.calls
                 loops := sh.frame.loops, hidden := sh.frame.hidden
                 optionPlace := sh.frame.optionPlace
                 lineFeeds := sh.frame.lineFeeds, below := sh.frame.below })
termination_by structural n => n

/-- What a text does, line by line; lines of a file may be shown before they are run. -/
def runLines : Nat → Bool → List Char → State → Flow × State
  | 0, _, _, sh => (.stopped, sh)
  | n + 1, isFile, text, sh =>
    let shows := isFile && sh.has 'v'
    match readFirst sh.frame.aliases text with
    | none => (.next, if shows then sh.say text else sh)
    | some (script, rest) =>
      let sh := if shows then sh.say (text.take (text.length - rest.length)) else sh
      let reached := sh.lineOf (lineFeeds rest)
      match run n script (sh.withFrame fun f => { f with reached }) with
      | (.next, sh) => runLines n isFile rest sh
      | other => other
termination_by structural n => n

/-- **What a text does** as part of a command that messages name. -/
def runText : Nat → List Char → Bool → List Char → State → Flow × State
  | 0, _, _, _, sh => (.stopped, sh)
  | n + 1, within, isFile, text, sh =>
    if depthLimit < sh.frame.depth then (.killed 11, sh)
    else
      let start := sh.withFrame fun f =>
        { f with within, lineFeeds := lineFeeds text, depth := f.depth + 1 }
      let isEmpty := (readFirst sh.frame.aliases text).isNone
      let (flow, done) := runLines n isFile text (if isEmpty then start.withStatus 0 else start)
      (flow, done.withFrame fun f =>
        { f with within := sh.frame.within, depth := sh.frame.depth
                 lineFeeds := sh.frame.lineFeeds, below := sh.frame.below
                 reached := sh.frame.reached })
termination_by structural n => n

/-- A script in a file that the shell runs itself. -/
def callFile : Nat → List Char → State → Flow × State
  | 0, _, sh => (.stopped, sh)
  | n + 1, name, sh =>
    let isReadable := fun p => (sh.view.readBytes (Path.ofString p)).isOk
    match (Machine.candidates (searchPath sh) (textOf name)).find? isReadable with
    | none =>
      if name.contains '/' then
        specialFailure "." ("cannot open ".toList ++ name ++ ": No such file".toList) sh
      else specialFailure "." (name ++ ": not found".toList) sh
    | some p =>
      match sh.view.readBytes (Path.ofString p) with
      | .error _ => (.next, sh)
      | .ok bytes =>
        let (flow, done) := onItsOwn (runText n (bytesOf p ++ ": ".toList) true (ofBytes bytes)) sh
        (if flow = .returning then .next else flow, done)
termination_by structural n => n

/-- A command by its name: a function, a command of the shell, or a program.  If it is called
directly, functions are passed over; programs may be looked for where they always are. -/
def call : Nat → Bool → Bool → List Char → List (List Char) → State → Flow × State
  | 0, _, _, _, _, sh => (.stopped, sh)
  | n + 1, direct, standard, name, arguments, sh =>
    let function := if direct then none else Table.get? sh.frame.functions (textOf name)
    match function with
    | some routine => callFunction n routine arguments sh
    | none =>
      match plainBuiltin (textOf name) arguments sh with
      | some (flow, sh) => (flow, afterPrinting name sh)
      | none =>
        let place := if standard then ownSearchPath else searchPath sh
        match textOf name with
        | "eval" => runText n "eval: ".toList false (spaced arguments) sh
        | "." =>
          match flags "" arguments with
          | .error problem => specialFailure "." problem sh
          | .ok (_, []) => (.next, sh.withStatus 0)
          | .ok (_, file :: _) => callFile n file sh
        | "exec" =>
          match flags "" arguments with
          | .error problem => specialFailure "exec" problem sh
          | .ok (_, []) => (.next, sh.withStatus 0)
          | .ok (_, program :: rest) =>
            match external n true place program rest sh with
            | (.next, sh) => (.exit, sh)
            | other => other
        | "command" =>
          match flags "pvV" arguments with
          | .error problem => (.next, sh.failing 2 "command: " problem)
          | .ok (found, word :: _) =>
            let place := if found.any (·.1 == 'p') then ownSearchPath else place
            (.next, describe (found.getLast?.any (·.1 == 'V')) place word (sh.withStatus 0))
          | .ok (_, []) => (.next, sh.withStatus 0)
        | "wait" =>
          match flags "" arguments with
          | .error problem => (.next, sh.failing 2 "wait: " problem)
          | .ok (_, words) => waitFor n words sh
        | "kill" =>
          match sendingOf arguments with
          | .send signal targets => sendAll n signal targets (sh.withStatus 0)
          | .list => (.next, (sh.print listSignals).withStatus 0)
          | .name signal => (.next, (sh.print (signalName signal ++ "\n").toList).withStatus 0)
          | .refused problem => (.next, sh.failing 2 "kill: " problem)
        | _ => external n false place name arguments sh
termination_by structural n => n

/-- Sends a signal to several targets. -/
def sendAll : Nat → Nat → List (List Char) → State → Flow × State
  | 0, _, _, sh => (.stopped, sh)
  | _ + 1, _, [], sh => (.next, sh)
  | n + 1, signal, target :: rest, sh =>
    let digits := if target.head? == some '-' then target.drop 1 else target
    match Arithmetic.numberIn? 10 digits with
    | some number =>
      if number == State.ownNumber && sh.frame.inner then
        sendAll n signal rest { sh with pending := sh.pending ++ [signal] }
      else if number == State.ownNumber || number == 0 then
        match receive n signal sh with
        | (.next, sh) => sendAll n signal rest sh
        | other => other
      else if sh.jobs.any fun j => j.number == number then
        sendAll n signal rest (if isHarmless signal then sh else killJob number signal sh)
      else sendAll n signal rest (sh.failing 1 "kill: No such process\n" [])
    | none =>
      if target.head? == some '%' then (.next, sh.failing 2 "kill: No such job: " target)
      else (.next, sh.failing 2 "kill: Illegal number: " digits)
termination_by structural n => n

/-- The shell gets a signal itself. -/
def receive : Nat → Nat → State → Flow × State
  | 0, _, sh => (.stopped, sh)
  | n + 1, signal, sh =>
    let action := if signal == 9 || signal == 19 then none
      else (sh.frame.traps.find? fun t => t.1 == signal).map (·.2)
    match action with
    | some [] => (.next, sh)
    | some text =>
      let before := sh.frame.beforeTrap.getD sh.frame.status
      match inTrap before (runText n sh.frame.within false text) sh with
      | (.next, done) => (.next, done.withStatus before)
      | other => other
    | none =>
      if isHarmless signal then (.next, sh)
      else if isHalting signal then (.stopped, sh)
      else (.killed signal, sh)
termination_by structural n => n

/-- A shell heeds the signals that it got while a subshell ran. -/
def attend : Nat → Flow × State → Flow × State
  | 0, r => r
  | n + 1, (flow, sh) =>
    match sh.pending with
    | [] => (flow, sh)
    | signal :: rest =>
      let isOver := match flow with
        | .killed _ | .stopped => true
        | _ => false
      if sh.frame.inner || isOver then (flow, sh)
      else match receive n signal { sh with pending := rest } with
        | (.next, sh) => attend n (flow, sh)
        | other => other
termination_by structural n => n

/-- What is still done when a shell ends. -/
def atEnd : Nat → Flow → State → Flow × State
  | 0, _, sh => (.stopped, sh)
  | n + 1, flow, sh =>
    match flow with
    | .killed _ | .stopped => (flow, sh)
    | _ =>
      match (sh.frame.traps.find? fun t => t.1 == 0).map (·.2) with
      | none | some [] => (flow, sh)
      | some text =>
        let before := sh.withFrame fun f =>
          { f with traps := f.traps.filter fun t => t.1 != 0, verdict := .next }
        match inTrap sh.frame.status (runText n [] false text) before with
        | (.killed s, done) => (.killed s, done)
        | (.stopped, done) => (.stopped, done)
        | (.exit, done) | (.failed, done) => (flow, done)
        | (_, done) => (flow, done.withStatus sh.frame.status)
termination_by structural n => n

/-- Waits for all background jobs, or for those with some numbers. -/
def waitFor : Nat → List (List Char) → State → Flow × State
  | 0, _, sh => (.stopped, sh)
  | n + 1, [], sh =>
    match waitForJobs n (sh.jobs.filter fun j => sh.frame.started.contains j.number) sh with
    | (.next, sh) => (.next, sh.withStatus 0)
    | other => other
  | n + 1, words, sh => waitForNumbers n words sh
termination_by structural n => n

/-- Waits for the background jobs with some numbers. -/
def waitForNumbers : Nat → List (List Char) → State → Flow × State
  | 0, _, sh => (.stopped, sh)
  | _ + 1, [], sh => (.next, sh)
  | n + 1, word :: rest, sh =>
    match Arithmetic.numberIn? 10 word with
    | none =>
      (.next, if word.head? == some '%' then sh.failing 2 "wait: No such job: " word
        else sh.failing 2 "wait: Illegal number: " word)
    | some number =>
      let known := (sh.frame.ended.find? fun e => e.1 == number).map (·.2)
      let own := sh.jobs.filter fun j => j.number == number && sh.frame.started.contains number
      match waitForJobs n own (sh.withStatus (known.getD 127)) with
      | (.next, sh) => waitForNumbers n rest sh
      | other => other
termination_by structural n => n

/-- Waits for background jobs; the status is that of the last one. -/
def waitForJobs : Nat → List Job → State → Flow × State
  | 0, _, sh => (.stopped, sh)
  | _ + 1, [], sh => (.next, sh)
  | n + 1, j :: js, sh =>
    let (flow, done) := runJob n j { sh with jobs := sh.jobs.filter fun k => k.number != j.number }
    let clock := max sh.clock done.clock
    let back := { done with clock, frame := sh.frame, deadline := sh.deadline }
    let back := match flow, j.killed with
      | .killed s, _ => noted s back
      | _, some k => noted k.signal back
      | _, none => back.withStatus done.frame.status
    let back := jobEnded j.number back.frame.status back
    if flow = .stopped && j.killed.isNone then (.stopped, back) else waitForJobs n js back
termination_by structural n => n

/-- Runs a background job from its start on. -/
def runJob : Nat → Job → State → Flow × State
  | 0, _, sh => (.stopped, sh)
  | n + 1, j, sh =>
    let deadline := match sh.deadline, j.killed with
      | some d, some k => some (min d k.time)
      | some d, none => some d
      | none, k => k.map (·.time)
    let (flow, done) := run n j.script { sh with frame := j.frame, clock := j.start, deadline }
    let (flow, done) := atEnd n flow done
    match j.killed with
    | some k => (flow, { done with clock := min k.time done.clock })
    | none => (flow, done)
termination_by structural n => n

/-- A program that is looked for in some directories and started; `replacing` says that it takes the
shell's place. -/
def external :
    Nat → Bool → String → List Char → List (List Char) → State → Flow × State
  | 0, _, _, _, _, sh => (.stopped, sh)
  | n + 1, replacing, place, name, arguments, sh =>
    let paths := Machine.candidates place (textOf name)
    let sh := match programPath? place name sh with
      | some path => if replacing then sh else remember name path sh
      | none => sh
    let start := fun (program : Program) (called : List (List Char)) =>
      match runProgram n program called (if replacing then sh else spawning sh) with
      | (.killed s, sh) => if replacing then (.killed s, sh) else (.next, noted s sh)
      | (flow, sh) => (flow, sh)
    let failure := fun (status : Nat) (words : String) =>
      let about := name ++ (": " ++ words).toList
      (Flow.next, if replacing then sh.failing status "exec: " about
        else sh.failingWithin status about)
    match Machine.loadFirst sh.view none paths with
    | .ok l =>
      start l.program (if l.inPlace.isEmpty then name :: arguments
        else l.inPlace.map bytesOf ++ arguments)
    | .error .notAProgram =>
      match paths.find? fun p => sh.view.isExecutable (Path.ofString p) with
      | some p => start .shell (['s', 'h'] :: bytesOf p :: arguments)
      | none => failure 127 "not found"
    | .error e =>
      if Machine.isAbsence e then failure 127 "not found"
      else failure (if replacing || isLocated sh.view paths name then 126 else 127) e.words
termination_by structural n => n

/-- **What a program of the machine does**, called with some arguments. -/
def runProgram : Nat → Program → List (List Char) → State → Flow × State
  | 0, _, _, sh => (.stopped, sh)
  | n + 1, program, called, sh =>
    let sh := sh.wait startTime
    let own := called.headD []
    if sh.isLate then (.stopped, sh)
    else match program with
      | .sleep => sleep own called.tail sh
      | .wordCount => (.next, afterCounting own (wordCount own called.tail sh))
      | .shell =>
        match shellCall sh called.tail with
        | .error message =>
          (.next, (sh.say (own ++ ": 0: ".toList ++ message ++ ['\n'])).withStatus 2)
        | .ok c =>
          if depthLimit < sh.frame.depth then (.killed 11, sh)
          else
            let frame := newFrame sh (c.name.getD own) c.arguments c.options
            let inner := { c.reader with frame := { frame with lineFeeds := lineFeeds c.script } }
            let (flow, done) := runLines n c.isFile c.script inner
            let (flow, done) := atEnd n flow done
            (outer flow, { done with frame := { sh.frame with status := done.frame.status } })
termination_by structural n => n

end

end SourceCheck.Shell
