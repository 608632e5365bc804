import Taskweave.Dict
import Taskweave.Disk.Path
import Taskweave.Execution.Process
import Taskweave.Shell.Arithmetic
import Taskweave.Shell.Code
import Taskweave.Shell.Tool

/-!
# Running shell scripts

`Shell.run` runs the code of a script. What it reads, writes and remembers is a `Shell.State`; no
time passes but while it sleeps, and no file is touched. Output goes to numbered buffers, of which
the first two are standard output and errors, and each pipe has one of its own.

`Shell.host` is the host whose processes are scripts that are run so.
-/

namespace Taskweave.Shell

open Tool (Bytes bytes text)

/-- What a running script reads, writes and remembers. -/
structure State where
  bindings : Dict Bytes
  /-- What is left to read. -/
  input : Bytes
  /-- What has been written to each buffer, the last piece first. -/
  buffers : List (List Bytes)
  /-- The buffer of descriptor 1, unless that is closed. -/
  out : Option Nat
  /-- The buffer of descriptor 2, unless that is closed. -/
  err : Option Nat
  /-- The result of the last command, 0 for success. -/
  status : Nat
  /-- Whether a failure ends the script. -/
  strict : Bool
  /-- The nanoseconds slept. -/
  slept : Nat

/-- How a script goes on. -/
inductive Flow where
  | next
  /-- Leaves the loop. -/
  | leave
  /-- Starts the next turn of the loop. -/
  | again
  | exit
  | killed (signal : Nat)
  /-- Runs on for good. -/
  | endless
deriving DecidableEq, Repr

namespace State

/-- The state at the start. -/
def start (environment : List (String × String)) (input : String) : State :=
  ⟨Dict.ofList (environment.map fun (k, v) => (k, bytes v)), bytes input, [[], []], some 0, some 1,
    0, false, 0⟩

/-- Writes to a buffer. -/
def put (st : State) (buffer : Option Nat) (b : Bytes) : State :=
  match buffer with
  | none => st
  | some i => { st with buffers := st.buffers.modify i (b :: ·) }

/-- Writes to descriptor 1. -/
def say (st : State) (b : Bytes) : State := st.put st.out b

/-- Writes a message to descriptor 2. -/
def complain (st : State) (line : Nat) (message : String) : State :=
  st.put st.err (bytes ("sh: " ++ toString line ++ ": " ++ message ++ "\n"))

/-- Sets the result of the last command. -/
def result (st : State) (status : Nat) : State := { st with status }

/-- What has been written to a buffer. -/
def written (st : State) (i : Nat) : Bytes := ((st.buffers[i]?.getD []).reverse).flatten

/-- Binds a variable. -/
def bind (st : State) (name : String) (value : Bytes) : State :=
  { st with bindings := Dict.insert st.bindings name value }

/-- The number of the process, as a text. -/
def processId : String := "4242"

/-- The value of a parameter. -/
def parameter (st : State) (name : String) : Bytes :=
  match name with
  | "?" => bytes (toString st.status)
  | "$" => bytes processId
  | "#" => bytes "0"
  | "0" => bytes "sh"
  | name => (Dict.find? st.bindings name).getD []

/-- Whether a parameter has a value. -/
def isSet (st : State) (name : String) : Bool :=
  ["?", "$", "#", "0"].contains name || (Dict.find? st.bindings name).isSome

/-- Goes on with everything of `st` that a subshell can change. -/
def afterSubshell (st inner : State) : State :=
  { inner with
    bindings := st.bindings, out := st.out, err := st.err, strict := st.strict }

end State

/-- Whether a byte separates fields. -/
def isSeparator (b : UInt8) : Bool := b == 32 || b == 9 || b == 10

/-- Fields of which the last one may go on: the finished ones, and the one that goes on in
reverse. -/
abbrev Fields := List Bytes × Option Bytes

/-- Adds bytes to the last field. -/
def Fields.add (f : Fields) (b : Bytes) : Fields := (f.1, some (b.reverse ++ f.2.getD []))

/-- Ends the last field. -/
def Fields.close (f : Fields) : Fields :=
  match f.2 with
  | some b => (b.reverse :: f.1, none)
  | none => f

/-- Adds bytes, which are split at separators. -/
def Fields.split (f : Fields) (b : Bytes) : Fields :=
  b.foldl
    (fun f x => if isSeparator x then f.close else (f.1, some (x :: f.2.getD []))) f

/-- The output of a script without its NULs and the line feeds at the end. -/
def outputText (b : Bytes) : Bytes :=
  ((b.filter (· != 0)).reverse.dropWhile (· == Tool.newline)).reverse

/-- Adds the value of a piece that is not modified. `capture` gives the output of a script. -/
def expandPlain (capture : String → State → Bytes × State) (acc : Fields × State) (p : Piece) :
    Fields × State :=
  let (f, st) := acc
  let add (value : Bytes) (quoted : Bool) : Fields := if quoted then f.add value else f.split value
  match p with
  | .text s _ => (f.add (bytes s), st)
  | .parameter "@" _ | .modified _ _ _ _ | .arithmetic _ _ => (f, st)
  | .parameter name quoted => (add (st.parameter name) quoted, st)
  | .output script quoted =>
    let (b, st) := capture script st
    (add (outputText b) quoted, st)

/-- The value of a word after the sign of a parameter. -/
def expandAfterSign (capture : String → State → Bytes × State) (word : String) (st : State) :
    Bytes × State :=
  match readQuoted 1 (word.length + 2) [] [] (word.toList ++ ['"']) with
  | .error _ => ([], st)
  | .ok (pieces, _) =>
    let (f, st) := pieces.reverse.foldl (expandPlain capture) (([], none), st)
    ((Fields.close f).1.flatten, st)

/-- Adds the value of a piece. -/
def expandPiece (capture : String → State → Bytes × State) (acc : Fields × State) (p : Piece) :
    Fields × State :=
  match p with
  | .modified name sign word quoted =>
    let (f, st) := acc
    let value := st.parameter name
    let missing := !st.isSet name || (sign.startsWith ":" && value.isEmpty)
    let (value, st) : Bytes × State :=
      if sign = "#" then (bytes (toString value.length), st)
      else if sign.endsWith "+" then
        if missing then ([], st) else expandAfterSign capture word st
      else if !missing then (value, st)
      else
        let (value, st) := expandAfterSign capture word st
        (value, if sign.endsWith "=" then st.bind name value else st)
    (if quoted then f.add value else f.split value, st)
  | .arithmetic expression quoted =>
    let (f, st) := acc
    let (expression, st) := expandAfterSign capture expression st
    let value := match Arithmetic.value? (fun name => text (st.parameter name)) (text expression) with
      | some n => bytes (toString n)
      | none => []
    (if quoted then f.add value else f.split value, st)
  | p => expandPlain capture acc p

/-- The fields of some words. -/
def expand (capture : String → State → Bytes × State) (words : List Word) (st : State) :
    List Bytes × State :=
  let word (acc : List Bytes × State) (w : Word) : List Bytes × State :=
    let (f, st) := w.foldl (expandPiece capture) (([], none), acc.2)
    ((Fields.close f).1 ++ acc.1, st)
  let (fields, st) := words.foldl word ([], st)
  (fields.reverse, st)

/-- The value of a word that is not split. -/
def expandWhole (capture : String → State → Bytes × State) (w : Word) (st : State) :
    Bytes × State :=
  let quote : Piece → Piece
    | .text s _ => .text s true
    | .parameter name _ => .parameter name true
    | .modified name sign word _ => .modified name sign word true
    | .arithmetic expression _ => .arithmetic expression true
    | .output script _ => .output script true
  let (f, st) := (w.map quote).foldl (expandPiece capture) (([], none), st)
  (((Fields.close f).1).flatten, st)

/-- A pattern as its characters, each with whether it may stand for others. -/
def patternOf (capture : String → State → Bytes × State) (w : Word) (st : State) :
    List (Char × Bool) :=
  w.flatMap fun
    | .text s quoted => s.toList.map fun c => (c, !quoted && (c = '*' || c = '?'))
    | p => (text (expandWhole capture [p] st).1).toList.map fun c => (c, false)

/-- Whether a text fits a pattern: `*` stands for any characters and `?` for one. -/
def fits : List (Char × Bool) → List Char → Bool
  | [], cs => cs.isEmpty
  | ('*', true) :: ps, [] => fits ps []
  | ('*', true) :: ps, c :: cs => fits ps (c :: cs) || fits (('*', true) :: ps) cs
  | (p, special) :: ps, c :: cs => (special || p = c) && fits ps cs
  | _ :: _, [] => false
termination_by ps cs => ps.length + cs.length

/-- Applies the redirections of a command. A target that is no descriptor and no `/dev/null` is
refused. -/
def redirect (capture : String → State → Bytes × State) (line : Nat) (rs : List Redirect)
    (st : State) : Bool × State :=
  let one (acc : Bool × State) (r : Redirect) : Bool × State :=
    if !acc.1 then acc
    else
      let (target, st) := expandWhole capture r.target acc.2
      let target := text target
      let send (buffer : Option Nat) : Bool × State :=
        match r.descriptor with
        | 1 => (true, { st with out := buffer })
        | 2 => (true, { st with err := buffer })
        | _ => (true, st)
      match r.sign, target with
      | ">&", "1" => send st.out
      | ">&", "2" => send st.err
      | ">&", "-" => send none
      | ">", "/dev/null" => send none
      | ">>", "/dev/null" => send none
      | ">", "/dev/stderr" => send st.err
      | ">", "/dev/stdout" => send st.out
      | "<", "/dev/null" => (true, { st with input := [] })
      | "<&", _ => (true, st)
      | "<", _ => (false, st.complain line ("cannot open " ++ target ++ ": No such file"))
      | ">&", _ => (false, st.complain line (target ++ ": Bad file descriptor"))
      | _, _ => (false, st.complain line ("cannot create " ++ target ++ ": Permission denied"))
  rs.foldl one (true, st)

/-- The number of a signal, by name or number. -/
def signal? (s : String) : Option Nat :=
  let name := if s.startsWith "SIG" then (s.drop 3).toString else s
  match name with
  | "HUP" => some 1
  | "INT" => some 2
  | "QUIT" => some 3
  | "ABRT" => some 6
  | "KILL" => some 9
  | "USR1" => some 10
  | "SEGV" => some 11
  | "USR2" => some 12
  | "PIPE" => some 13
  | "ALRM" => some 14
  | "TERM" => some 15
  | name => name.toNat?

/-- What is said of a script that a signal has killed. -/
def signalText : Nat → String
  | 1 => "Hangup"
  | 3 => "Quit"
  | 6 => "Aborted"
  | 9 => "Killed"
  | 10 => "User defined signal 1"
  | 11 => "Segmentation fault"
  | 12 => "User defined signal 2"
  | 14 => "Alarm clock"
  | 15 => "Terminated"
  | n => "Signal " ++ toString n

/-- Sends a signal to the script itself. -/
def kill (line : Nat) (args : List String) (st : State) : Flow × State :=
  let (signal, targets) : Option Nat × List String :=
    match args with
    | "-s" :: s :: rest => (signal? s, rest)
    | s :: rest => if s.startsWith "-" then (signal? (s.drop 1).toString, rest) else (some 15, args)
    | [] => (some 15, [])
  match signal with
  | none => (.next, (st.complain line "kill: Illegal option").result 2)
  | some n =>
    if targets.contains State.processId then
      if n = 0 then (.next, st.result 0) else (.killed n, st)
    else (.next, (st.complain line "kill: No such process").result 1)

/-- Reads a line into variables, the last of which takes what is left of it. -/
def readLine (names : List String) (st : State) : State :=
  let names := names.filter (· != "-r")
  let line := st.input.takeWhile (· != Tool.newline)
  let rest := st.input.drop line.length
  let st := { st with input := rest.tail }
  let trim (b : Bytes) : Bytes := ((b.dropWhile isSeparator).reverse.dropWhile isSeparator).reverse
  let step (acc : Bytes × State) (name : String) : Bytes × State :=
    let field := acc.1.takeWhile (!isSeparator ·)
    ((acc.1.drop field.length).dropWhile isSeparator, acc.2.bind name field)
  let (left, st) := names.dropLast.foldl step (line.dropWhile isSeparator, st)
  let st := match names.getLast? with
    | some name => st.bind name (trim left)
    | none => st
  st.result (if rest.isEmpty then 1 else 0)

/-- How much `yes` writes into a pipe before nobody reads any more. -/
def yesLimit : Nat := 1048576

/-- Repeats a line, without end unless it goes into a pipe. -/
def yes (line : Bytes) (st : State) : Flow × State :=
  match st.out with
  | some (_ + 2) =>
    let turns := yesLimit / line.length
    (.next, (st.say ((List.replicate turns line).flatten)).result 0)
  | _ => (.endless, st)

/-- Commands that are programs of their own, which can be called by their path too. -/
def programs : List String :=
  ["cat", "echo", "env", "false", "grep", "head", "ls", "printenv", "printf", "seq", "sh", "sleep",
    "sort", "tail", "tee", "test", "tr", "true", "wc", "yes"]

/-- The name of a program without the path of the folders in which programs are. -/
def bareName (name : String) : String :=
  match Path.names name with
  | ["", "bin", program] | ["", "usr", "bin", program] =>
    if programs.contains program then program else name
  | _ => name

/-- Folders that are there on every host. -/
def knownFolders : List String := ["/", ".", "..", "/tmp"]

/-- Runs a command by its name. -/
def command (line : Nat) (name : String) (args : List Bytes) (st : State) : Flow × State :=
  let texts := args.map text
  let ok (st : State) : Flow × State := (.next, st.result 0)
  let say (b : Bytes) (st : State) : Flow × State := ok (st.say b)
  let fail (status : Nat) (message : String) : Flow × State :=
    (.next, (st.complain line message).result status)
  match name with
  | ":" | "true" | "umask" | "wait" => ok st
  | "cd" =>
    match texts.filter fun folder => !knownFolders.contains folder with
    | [] => ok st
    | folder :: _ => fail 2 ("cd: can't cd to " ++ folder)
  | "ls" =>
    let complaint := (texts.filter fun f => !f.startsWith "-").map fun f =>
      "ls: cannot access '" ++ f ++ "': No such file or directory\n"
    if complaint.isEmpty then ok st
    else (.next, (st.put st.err (bytes (String.join complaint))).result 2)
  | "false" => (.next, st.result 1)
  | "break" => (.leave, st.result 0)
  | "continue" => (.again, st.result 0)
  | "exit" | "return" =>
    match texts with
    | [] => (.exit, st)
    | s :: _ =>
      match s.toNat? with
      | some n => (.exit, st.result (n % 256))
      | none => (.exit, (st.complain line (name ++ ": Illegal number: " ++ s)).result 2)
  | "kill" => kill line texts st
  | "set" =>
    let strict := match texts with
      | [] => st.strict
      | s :: _ =>
        if s.startsWith "-" && s.toList.contains 'e' then true
        else if s.startsWith "+" && s.toList.contains 'e' then false
        else st.strict
    ok { st with strict }
  | "export" | "readonly" | "local" =>
    ok (texts.foldl
      (fun st s =>
        match s.splitOn "=" with
        | name :: v :: vs => st.bind name (bytes ("=".intercalate (v :: vs)))
        | _ => st)
      st)
  | "unset" => ok { st with bindings := texts.foldl Dict.erase st.bindings }
  | "read" =>
    if texts.isEmpty then fail 2 "read: arg count" else (.next, readLine texts st)
  | "echo" => say (Tool.echo args) st
  | "printf" =>
    match if texts.head? = some "--" then args.tail else args with
    | [] => fail 2 "printf: usage: printf format [arg ...]"
    | format :: args => say (Tool.printf format args) st
  | "cat" =>
    if texts.all (· == "-") then say st.input { st with input := [] }
    else
      let missing := texts.filter (· != "-")
      let complaint := missing.map fun f => "cat: " ++ f ++ ": No such file or directory\n"
      (.next, (st.put st.err (bytes (String.join complaint))).result 1)
  | "wc" =>
    let letters := (String.join texts).toList.filter (· != '-')
    say (Tool.count letters st.input) { st with input := [] }
  | "tee" =>
    let st := if texts.contains "/dev/stderr" then st.put st.err st.input else st
    say st.input { st with input := [] }
  | "grep" =>
    match Tool.grep texts st.input with
    | some (shown, found) => (.next, ({ st with input := [] }.say shown).result (if found then 0 else 1))
    | none => fail 2 "grep: invalid arguments"
  | "head" =>
    let zeros := texts.getLast? = some "/dev/zero"
    match Tool.extent? (if zeros then texts.dropLast else texts) with
    | some (.bytes n) =>
      if zeros then say (List.replicate n 0) st
      else say (st.input.take n) { st with input := st.input.drop n }
    | some extent => let (shown, rest) := Tool.head st.input extent; say shown { st with input := rest }
    | none => fail 1 "head: invalid arguments"
  | "tail" =>
    match Tool.extent? texts with
    | some extent => say (Tool.tail st.input extent) { st with input := [] }
    | none => fail 1 "tail: invalid arguments"
  | "tr" =>
    match texts, args with
    | ["-d", _], [_, set] => say (Tool.remove set st.input) { st with input := [] }
    | _, [source, target] => say (Tool.substitute source target st.input) { st with input := [] }
    | _, _ => fail 1 "tr: invalid arguments"
  | "sort" =>
    let ls := (Tool.lines st.input).map fun l => if l.getLast? = some 10 then l else l ++ [10]
    let letters := (String.join texts).toList
    let ls := ls.mergeSort fun a b => decide (a ≤ b)
    let ls := if letters.contains 'u' then ls.eraseDups else ls
    say (if letters.contains 'r' then ls.reverse else ls).flatten { st with input := [] }
  | "seq" =>
    match texts.mapM Tool.int? with
    | some [high] => say (Tool.sequence 1 1 high) st
    | some [low, high] => say (Tool.sequence low 1 high) st
    | some [low, step, high] => say (Tool.sequence low step.toNat high) st
    | _ => fail 1 "seq: invalid arguments"
  | "yes" => yes ((if args.isEmpty then bytes "y" else Tool.joined (bytes " ") args) ++ [10]) st
  | "env" | "printenv" =>
    match texts with
    | [] => say (st.bindings.flatMap fun (k, v) => bytes k ++ 61 :: v ++ [10]) st
    | name :: _ =>
      match Dict.find? st.bindings name with
      | some v => say (v ++ [10]) st
      | none => (.next, st.result 1)
  | "sleep" =>
    match Tool.sleep? texts with
    | some time => ok { st with slept := st.slept + time }
    | none => fail 1 "sleep: invalid time interval"
  | "test" | "[" =>
    if name = "[" && texts.getLast? != some "]" then fail 2 "[: missing ]"
    else
      match Tool.test? (if name = "[" then texts.dropLast else texts) with
      | some holds => (.next, st.result (if holds then 0 else 1))
      | none => fail 2 (name ++ ": " ++ Tool.testFault texts)
  | name => fail 127 (name ++ ": not found")

/-- Assigns values to variables. -/
def assign (capture : String → State → Bytes × State) (assignments : List (String × Word))
    (st : State) : State :=
  assignments.foldl
    (fun st (name, w) => let (value, st) := expandWhole capture w st; st.bind name value) st

/-- Ends a strict script after a failure that is not looked at. -/
def checked (tested : Bool) (r : Flow × State) : Flow × State :=
  match r with
  | (.next, st) =>
    if st.strict && !tested && st.status != 0 then (.exit, st) else (.next, st)
  | r => r

/-- Goes on in the shell around a subshell. -/
def leaveSubshell (st : State) (r : Flow × State) : Flow × State :=
  match r with
  | (.killed n, inner) => (.killed n, inner)
  | (.endless, inner) => (.endless, inner)
  | (_, inner) => (.next, st.afterSubshell inner)

/-- Runs code. `tested` tells whether somebody looks at the result. Each turn of a loop takes fuel. -/
def run : (fuel : Nat) → (tested : Bool) → Code → State → Flow × State
  | 0, _, _, st => (.endless, st)
  | fuel + 1, tested, code, st =>
    let script (s : String) (st : State) : Flow × State :=
      match Code.read s with
      | .ok c => run fuel tested c st
      | .error f => (.exit, (st.complain f.line f.message).result 2)
    let capture (s : String) (st : State) : Bytes × State :=
      let i := st.buffers.length
      let (_, inner) := script s { st with buffers := st.buffers ++ [[]], out := some i }
      (inner.written i, { st.afterSubshell inner with buffers := inner.buffers.take i })
    match code with
    | .nothing => (.next, st)
    | .simple line assignments words redirects =>
      let (fields, st) := expand capture words st
      let (ready, inner) := redirect capture line redirects st
      if !ready then checked tested (.next, st.afterSubshell (inner.result 2))
      else
        match fields with
        | [] =>
          let st := assign capture assignments (if assignments.isEmpty then st else st.result 0)
          checked tested (.next, st)
        | name :: args =>
          let inner := assign capture assignments inner
          -- `exec` alone changes where the rest of the script writes.
          let lasting := text name = "exec" && args.isEmpty
          let (flow, after) : Flow × State :=
            match bareName (text name), args with
            | "eval", args => script (text (Tool.joined (bytes " ") args)) inner
            | "exec", [] => (.next, inner.result 0)
            | "exec", name :: args =>
              let (flow, after) := command line (text name) args inner
              (if flow = .next then .exit else flow, after)
            | "sh", dash :: c :: _ =>
              if text dash = "-c" then
                match script (text c) { inner with status := 0 } with
                | (.killed n, after) =>
                  (.next, (inner.afterSubshell (after.put inner.err (bytes (signalText n ++ "\n")))).result
                    (128 + n))
                | r => leaveSubshell inner r
              else (.next, inner.result 2)
            | name, args => command line name args inner
          checked tested (flow, { after with
            bindings := if assignments.isEmpty then after.bindings else st.bindings
            out := if lasting then inner.out else st.out
            err := if lasting then inner.err else st.err
            input := if redirects.any (·.sign == "<") then st.input else after.input })
    | .redirected line c redirects =>
      let (ready, inner) := redirect capture line redirects st
      if !ready then checked tested (.next, st.afterSubshell (inner.result 2))
      else
        let (flow, after) := run fuel tested c inner
        (flow, { after with out := st.out, err := st.err })
    | .pipe a b =>
      let i := st.buffers.length
      let left := { st with buffers := st.buffers ++ [[]], out := some i }
      match run fuel tested a left with
      | (.endless, after) => (.endless, after)
      | (.killed n, after) => (.killed n, after)
      | (_, after) =>
        let right := { st.afterSubshell after with
          input := after.written i
          buffers := after.buffers.take i
          slept := st.slept }
        let (flow, last) := leaveSubshell st (run fuel tested b right)
        checked tested
          (flow, { last with input := after.input, slept := max after.slept last.slept })
    | .invert c =>
      match run fuel true c st with
      | (.next, st) => (.next, st.result (if st.status = 0 then 1 else 0))
      | r => r
    | .both a b =>
      match run fuel true a st with
      | (.next, st) => if st.status = 0 then run fuel tested b st else (.next, st)
      | r => r
    | .either a b =>
      match run fuel true a st with
      | (.next, st) => if st.status = 0 then (.next, st) else run fuel tested b st
      | r => r
    | .sequence a b =>
      match run fuel tested a st with
      | (.next, st) => run fuel tested b st
      | r => r
    | .subshell c => checked tested (leaveSubshell st (run fuel tested c st))
    | .branch condition yes no =>
      match run fuel true condition st with
      | (.next, st) =>
        if st.status = 0 then run fuel tested yes st else run fuel tested no (st.result 0)
      | r => r
    | .loop whileFails condition body =>
      match run fuel true condition st with
      | (.next, st) =>
        if (st.status != 0) = whileFails then
          match run fuel tested body st with
          | (.next, st) | (.again, st) => run fuel tested (.loop whileFails condition body) st
          | (.leave, st) => (.next, st)
          | r => r
        else (.next, st.result 0)
      | r => r
    | .select word arms =>
      let (value, st) := expandWhole capture word st
      let chosen := arms.find? fun (patterns, _) =>
        patterns.any fun w => fits (patternOf capture w st) (text value).toList
      match chosen with
      | some (_, c) => run fuel tested c (st.result 0)
      | none => (.next, st.result 0)
    | .each name words body =>
      let (fields, st) := expand capture words st
      let turn (acc : Flow × State) (value : Bytes) : Flow × State :=
        match acc with
        | (.next, st) | (.again, st) => run fuel tested body (st.bind name value)
        | r => r
      match fields.foldl turn (.next, st.result 0) with
      | (.leave, st) | (.again, st) => (.next, st)
      | r => r

/-- How many turns of loops a script may take before it counts as endless. -/
def turns : Nat := 100000

/-- The time of a process that is never over. -/
def forever : Duration := ⟨Nat.pow 10 30⟩

/-- Runs a script to its end. -/
def runScript (script : String) (environment : List (String × String)) (input : String) :
    FinishedProcess × Duration :=
  let st := State.start environment input
  let (flow, st) := match Code.read script with
    | .ok c => run turns false c st
    | .error f => (.exit, (st.complain f.line f.message).result 2)
  let status := match flow with
    | .killed n => ExitStatus.killed n
    | _ => .exited st.status
  (⟨status, st.written 0, st.written 1⟩, if flow = .endless then forever else ⟨st.slept⟩)

/-- A host whose processes are shell scripts. -/
def host : Host := fun r => do
  r.check
  return runScript r.command r.environment r.input

end Taskweave.Shell
