import Taskweave.Shell.Token

/-!
# Shell code

`Shell.Code` is the tree of a script: simple commands joined by pipes, conditions, loops and lists.
`Code.read` builds it from the tokens. The helpers go down the grammar, from lists over pipelines to
single commands; the fuel bounds how deep.
-/

namespace Taskweave.Shell

/-- A redirection with its target. -/
structure Redirect where
  descriptor : Nat
  sign : String
  target : Word
deriving DecidableEq, Repr

/-- Code that can be run. -/
inductive Code where
  | nothing
  /-- Assignments, and a command with its arguments. -/
  | simple (line : Nat) (assignments : List (String × Word)) (words : List Word)
      (redirects : List Redirect)
  | redirected (line : Nat) (c : Code) (redirects : List Redirect)
  | pipe (a b : Code)
  | invert (c : Code)
  | both (a b : Code)
  | either (a b : Code)
  | sequence (a b : Code)
  | subshell (c : Code)
  | branch (condition yes no : Code)
  /-- Runs the body as long as the condition succeeds, or as long as it fails. -/
  | loop (whileFails : Bool) (condition body : Code)
  | each (name : String) (words : List Word) (body : Code)
  /-- Runs the code of the first arm one of whose patterns the word fits. -/
  | select (word : Word) (arms : List (List Word × Code))
deriving Repr

namespace Code

/-- Tokens with their lines. -/
abbrev Tokens := List (Token × Nat)

/-- Words with a meaning of their own where a command starts. -/
def reserved : List String :=
  ["if", "then", "elif", "else", "fi", "while", "until", "for", "do", "done", "case", "esac", "\x7b", "\x7d", "!"]

/-- The text of a word that consists of one piece that is not quoted. -/
def plain? : Token → Option String
  | .word [.text s false] => some s
  | _ => none

/-- The reserved word that tokens start with. -/
def reserved? : Tokens → Option String
  | (t, _) :: _ => (plain? t).filter reserved.contains
  | [] => none

/-- The name of the first token in messages. -/
def firstName : Tokens → String
  | [] => "end of file"
  | (.operator "\n", _) :: _ => "newline"
  | (.operator s, _) :: _ => "\"" ++ s ++ "\""
  | (.redirect _ _, _) :: _ => "redirection"
  | ts =>
    match reserved? ts with
    | some s => "\"" ++ s ++ "\""
    | none => "word"

/-- The line of the first token, or of the end. -/
def firstLine (last : Nat) : Tokens → Nat
  | (_, line) :: _ => line
  | [] => last

/-- The first token is not one that can stand here. -/
def unexpected (last : Nat) (ts : Tokens) : Fault :=
  ⟨firstLine last ts, "Syntax error: " ++ firstName ts ++ " unexpected"⟩

/-- The first token is not the one that must stand here. -/
def expecting (last : Nat) (ts : Tokens) (s : String) : Fault :=
  ⟨firstLine last ts,
    "Syntax error: " ++ firstName ts ++ " unexpected (expecting \"" ++ s ++ "\")"⟩

/-- The tokens after the line ends at the start. -/
def skipLines : Tokens → Tokens
  | (.operator "\n", _) :: ts => skipLines ts
  | ts => ts

/-- The tokens after a reserved word or an operator. -/
def expect (last : Nat) (s : String) (ts : Tokens) : Except Fault Tokens :=
  match ts with
  | (.operator s', _) :: rest => if s' = s then .ok rest else .error (expecting last ts s)
  | _ :: rest => if reserved? ts = some s then .ok rest else .error (expecting last ts s)
  | [] => .error (expecting last ts s)

/-- Whether a list of commands ends before the first token. -/
def endsList (ts : Tokens) : Bool :=
  match ts with
  | [] => true
  | (.operator s, _) :: _ => s == ")" || s == ";;"
  | _ =>
    match reserved? ts with
    | some s => ["then", "elif", "else", "fi", "do", "done", "esac", "\x7d"].contains s
    | none => false

/-- The name and the value of an assignment. -/
def assignment? (w : Word) : Option (String × Word) :=
  match w with
  | .text s false :: rest =>
    let cs := s.toList
    let name := String.ofList (cs.takeWhile (· != '='))
    match cs.dropWhile (· != '=') with
    | _ :: value =>
      if isName name then
        some (name, if value.isEmpty then rest else .text (String.ofList value) false :: rest)
      else none
    | [] => none
  | _ => none

/-- The redirections at the start of the tokens, after those of `read`, in reverse. -/
def readRedirects (last : Nat) (read : List Redirect) :
    Tokens → Except Fault (List Redirect × Tokens)
  | (.redirect descriptor sign, _) :: (.word target, _) :: ts =>
    readRedirects last (⟨descriptor, sign, target⟩ :: read) ts
  | (.redirect _ _, _) :: ts => .error (unexpected last ts)
  | ts => .ok (read.reverse, ts)

/-- The rest of a simple command. -/
def readSimple (last line : Nat) (assignments : List (String × Word)) (words : List Word)
    (redirects : List Redirect) : Tokens → Except Fault (Code × Tokens)
  | (.redirect descriptor sign, _) :: (.word target, _) :: ts =>
    readSimple last line assignments words (⟨descriptor, sign, target⟩ :: redirects) ts
  | (.redirect _ _, _) :: ts => .error (unexpected last ts)
  | (.word w, _) :: ts =>
    match if words.isEmpty then assignment? w else none with
    | some a => readSimple last line (a :: assignments) words redirects ts
    | none => readSimple last line assignments (w :: words) redirects ts
  | (.operator "(", at') :: ts =>
    .error (unexpected last ((.operator "(", at') :: ts))
  | ts => .ok (.simple line assignments.reverse words.reverse redirects.reverse, ts)

/-- The words at the start of the tokens, after those of `read`, in reverse. -/
def readWords (read : List Word) : Tokens → List Word × Tokens
  | (.word w, _) :: ts => readWords (w :: read) ts
  | ts => (read.reverse, ts)

/-- The items of a loop: those after `in`, or none. -/
def readItems (last : Nat) (ts : Tokens) : Except Fault (List Word × Tokens) :=
  match ts with
  | (.word [.text "in" false], _) :: ts =>
    let (items, ts) := readWords [] ts
    match ts with
    | (.operator ";", _) :: ts | (.operator "\n", _) :: ts => .ok (items, ts)
    | ts => .error (unexpected last ts)
  | (.operator ";", _) :: ts => .ok ([], ts)
  | ts => .ok ([], ts)

/-- The patterns of an arm, after those of `read`, in reverse, up to the parenthesis. -/
def readPatterns (last : Nat) (read : List Word) : Tokens → Except Fault (List Word × Tokens)
  | (.word w, _) :: (.operator "|", _) :: ts => readPatterns last (w :: read) ts
  | (.word w, _) :: (.operator ")", _) :: ts => .ok ((w :: read).reverse, ts)
  | (.word _, _) :: ts => .error (expecting last ts ")")
  | ts => .error (unexpected last ts)

mutual

/-- Commands one after the other. -/
def readList (last : Nat) : (fuel : Nat) → Tokens → Except Fault (Code × Tokens)
  | 0, ts => .error (unexpected last ts)
  | fuel + 1, ts => do
    let ts := skipLines ts
    if endsList ts then return (.nothing, ts)
    let (c, ts) ← readJoined last fuel ts
    match ts with
    | (.operator s, _) :: rest =>
      if s = ";" || s = "&" || s = "\n" then
        let (d, ts) ← readList last fuel rest
        return (.sequence c d, ts)
      else return (c, ts)
    | ts => return (c, ts)

/-- A list that is not empty, before the word or operator `closing`. -/
def readBody (last : Nat) (closing : String) : (fuel : Nat) → Tokens →
    Except Fault (Code × Tokens)
  | 0, ts => .error (unexpected last ts)
  | fuel + 1, ts => do
    let start := skipLines ts
    if start.isEmpty then throw (expecting last start closing)
    if endsList start then throw (unexpected last start)
    readList last fuel start

/-- Pipelines joined by `&&` and `||`. -/
def readJoined (last : Nat) : (fuel : Nat) → Tokens → Except Fault (Code × Tokens)
  | 0, ts => .error (unexpected last ts)
  | fuel + 1, ts => do
    let (c, ts) ← readPipeline last fuel ts
    readJoinedRest last fuel c ts

/-- What is joined to a pipeline. -/
def readJoinedRest (last : Nat) : (fuel : Nat) → Code → Tokens → Except Fault (Code × Tokens)
  | 0, _, ts => .error (unexpected last ts)
  | fuel + 1, c, ts =>
    match ts with
    | (.operator "&&", _) :: ts => do
      let (d, ts) ← readPipeline last fuel (skipLines ts)
      readJoinedRest last fuel (.both c d) ts
    | (.operator "||", _) :: ts => do
      let (d, ts) ← readPipeline last fuel (skipLines ts)
      readJoinedRest last fuel (.either c d) ts
    | ts => .ok (c, ts)

/-- Commands joined by pipes, the result of which may be inverted. -/
def readPipeline (last : Nat) : (fuel : Nat) → Tokens → Except Fault (Code × Tokens)
  | 0, ts => .error (unexpected last ts)
  | fuel + 1, ts => do
    if reserved? ts = some "!" then
      let (c, ts) ← readPipeline last fuel ts.tail
      return (.invert c, ts)
    let (c, ts) ← readCommand last fuel ts
    readPipelineRest last fuel c ts

/-- What follows a command in its pipeline. -/
def readPipelineRest (last : Nat) : (fuel : Nat) → Code → Tokens → Except Fault (Code × Tokens)
  | 0, _, ts => .error (unexpected last ts)
  | fuel + 1, c, ts =>
    match ts with
    | (.operator "|", _) :: ts => do
      let (d, ts) ← readCommand last fuel (skipLines ts)
      readPipelineRest last fuel (.pipe c d) ts
    | ts => .ok (c, ts)

/-- A single command. -/
def readCommand (last : Nat) : (fuel : Nat) → Tokens → Except Fault (Code × Tokens)
  | 0, ts => .error (unexpected last ts)
  | fuel + 1, ts =>
    let line := firstLine last ts
    let finish (c : Code) (ts : Tokens) : Except Fault (Code × Tokens) := do
      let (redirects, ts) ← readRedirects last [] ts
      return (if redirects.isEmpty then c else .redirected line c redirects, ts)
    match ts with
    | (.operator "(", _) :: ts => do
      let (c, ts) ← readBody last ")" fuel ts
      finish (.subshell c) (← expect last ")" ts)
    | [] | (.operator _, _) :: _ => .error (unexpected last ts)
    | _ =>
      match reserved? ts with
      | none => readSimple last line [] [] [] ts
      | some "\x7b" => do
        let (c, ts) ← readBody last "\x7d" fuel ts.tail
        finish c (← expect last "\x7d" ts)
      | some "if" => do
        let (c, ts) ← readBranch last fuel ts.tail
        finish c ts
      | some "for" => do
        match ts.tail with
        | (.word [.text name false], _) :: ts =>
          let (items, ts) ← readItems last (skipLines ts)
          let ts ← expect last "do" (skipLines ts)
          let (body, ts) ← readBody last "done" fuel ts
          finish (.each name items body) (← expect last "done" ts)
        | ts => throw ⟨firstLine last ts, "Syntax error: Bad for loop variable"⟩
      | some "case" => do
        match ts.tail with
        | (.word w, _) :: ts =>
          match skipLines ts with
          | (.word [.text "in" false], _) :: ts =>
            let (arms, ts) ← readArms last fuel ts
            finish (.select w arms) ts
          | ts => throw (expecting last ts "in")
        | ts => throw (unexpected last ts)
      | some s =>
        if s = "while" || s = "until" then do
          let (c, ts) ← readBody last "do" fuel ts.tail
          let ts ← expect last "do" ts
          let (body, ts) ← readBody last "done" fuel ts
          finish (.loop (s == "until") c body) (← expect last "done" ts)
        else .error (unexpected last ts)

/-- The arms of a choice up to its end. -/
def readArms (last : Nat) : (fuel : Nat) → Tokens →
    Except Fault (List (List Word × Code) × Tokens)
  | 0, ts => .error (unexpected last ts)
  | fuel + 1, ts => do
    let ts := skipLines ts
    if reserved? ts = some "esac" then return ([], ts.tail)
    let ts := match ts with
      | (.operator "(", _) :: rest => rest
      | ts => ts
    let (patterns, ts) ← readPatterns last [] ts
    let (c, ts) ← readList last fuel ts
    match ts with
    | (.operator ";;", _) :: rest =>
      let (arms, ts) ← readArms last fuel rest
      return ((patterns, c) :: arms, ts)
    | ts => return ([(patterns, c)], ← expect last "esac" ts)

/-- The condition of a branch and all that follows it. -/
def readBranch (last : Nat) : (fuel : Nat) → Tokens → Except Fault (Code × Tokens)
  | 0, ts => .error (unexpected last ts)
  | fuel + 1, ts => do
    let (condition, ts) ← readBody last "then" fuel ts
    let (yes, ts) ← readBody last "fi" fuel (← expect last "then" ts)
    match reserved? ts with
    | some "elif" => do
      let (no, ts) ← readBranch last fuel ts.tail
      return (.branch condition yes no, ts)
    | some "else" => do
      let (no, ts) ← readBody last "fi" fuel ts.tail
      return (.branch condition yes no, ← expect last "fi" ts)
    | _ => return (.branch condition yes .nothing, ← expect last "fi" ts)

end

/-- Reads a script. -/
def read (script : String) : Except Fault Code := do
  let ts ← tokens script
  let last := lineCount script.toList + 1
  let (c, rest) ← readList last (8 * ts.length + 8) ts
  if rest.isEmpty then return c else throw (unexpected last rest)

end Code

end Taskweave.Shell
