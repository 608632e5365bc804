/-!
# Tokens of shell scripts

A script is read as words, operators and redirections, each with the number of its line. A word is a
list of pieces: text, parameters such as `$NAME`, and the output of scripts in `$(…)`. Whether a
piece was quoted is kept, since only what was not quoted is split into fields.

`Shell.tokens` reads a whole script. Each of its helpers takes the characters that are left; the fuel
is their number at the start.
-/

namespace Taskweave.Shell

/-- A piece of a word. -/
inductive Piece where
  | text (s : String) (quoted : Bool)
  | parameter (name : String) (quoted : Bool)
  /-- A parameter with a sign and a word after its name. -/
  | modified (name sign word : String) (quoted : Bool)
  /-- The value of an expression. -/
  | arithmetic (expression : String) (quoted : Bool)
  /-- The output of a script. -/
  | output (script : String) (quoted : Bool)
deriving DecidableEq, Repr

/-- A word, before its parameters are replaced. -/
abbrev Word := List Piece

/-- A token. -/
inductive Token where
  | word (w : Word)
  | operator (s : String)
  /-- A descriptor and the sign after it: `<`, `>`, `>>`, `<&` or `>&`. -/
  | redirect (descriptor : Nat) (sign : String)
deriving DecidableEq, Repr

/-- Why a script is refused, and the line on which that is seen. -/
structure Fault where
  line : Nat
  message : String
deriving DecidableEq, Repr

namespace Fault

/-- A quote without an end. -/
def unterminated (line : Nat) : Fault := ⟨line, "Syntax error: Unterminated quoted string"⟩

/-- A brace without an end. -/
def missingBrace (line : Nat) : Fault := ⟨line, "Syntax error: Missing '\x7d'"⟩

/-- Braces around something else than a name. -/
def badSubstitution (line : Nat) : Fault := ⟨line, "Bad substitution"⟩

/-- A parenthesis without an end. -/
def unclosed (line : Nat) : Fault :=
  ⟨line, "Syntax error: end of file unexpected (expecting \")\")"⟩

end Fault

/-- Whether a name can start with a character. -/
def isNameStart (c : Char) : Bool := c.isAlpha || c == '_'

/-- Whether a name can hold a character. -/
def isNameChar (c : Char) : Bool := c.isAlphanum || c == '_'

/-- Whether a text is a name. -/
def isName (s : String) : Bool :=
  match s.toList with
  | c :: cs => isNameStart c && cs.all isNameChar
  | [] => false

/-- Parameters that are written with one character. -/
def specialParameters : List Char := ['?', '$', '#', '@', '*', '!', '-']

/-- Whether a character ends a word that is not quoted. -/
def endsWord (c : Char) : Bool :=
  [' ', '\t', '\n', ';', '&', '|', '(', ')', '<', '>'].contains c

/-- The number of lines that end in some characters. -/
def lineCount (cs : List Char) : Nat := cs.count '\n'

/-- The characters up to a closing quote, in reverse after those of `read`, and what is left. -/
def untilQuote (quote : Char) (read : List Char) : List Char → Option (List Char × List Char)
  | [] => none
  | c :: cs => if c = quote then some (read, cs) else untilQuote quote (c :: read) cs

/-- The characters up to the parenthesis that closes one, in reverse after those of `read`, and what
is left. Parentheses within quotes do not count. -/
def untilClosed (depth : Nat) (quote : Option Char) (read : List Char) :
    List Char → Option (List Char × List Char)
  | [] => none
  | '\\' :: c :: cs =>
    if quote = some '\'' then untilClosed depth quote ('\\' :: read) (c :: cs)
    else untilClosed depth quote (c :: '\\' :: read) cs
  | c :: cs =>
    match quote with
    | some q => untilClosed depth (if c = q then none else quote) (c :: read) cs
    | none =>
      if c = '\'' || c = '"' then untilClosed depth (some c) (c :: read) cs
      else if c = '(' then untilClosed (depth + 1) none (c :: read) cs
      else if c = ')' then
        if depth = 0 then some (read, cs) else untilClosed (depth - 1) none (c :: read) cs
      else untilClosed depth none (c :: read) cs
termination_by cs => cs.length

/-- The piece that some characters between `$(` and `)`, in reverse, stand for: an expression if they
stand in parentheses once more, else a script. -/
def inParentheses (quoted : Bool) (read : List Char) : Piece :=
  match read, read.reverse with
  | ')' :: _, '(' :: cs => .arithmetic (String.ofList cs.dropLast) quoted
  | _, cs => .output (String.ofList cs) quoted

/-- The characters up to the brace that closes one, in reverse after those of `read`, and what is
left. -/
def untilBrace (depth : Nat) (read : List Char) : List Char → Option (List Char × List Char)
  | [] => none
  | c :: cs =>
    if c = '\x7b' then untilBrace (depth + 1) (c :: read) cs
    else if c = '\x7d' then
      if depth = 0 then some (read, cs) else untilBrace (depth - 1) (c :: read) cs
    else untilBrace depth (c :: read) cs

/-- What may stand between the name of a parameter and a word: the word is taken in the place of a
value that is missing (`-`), and kept as the value (`=`), or in the place of one that is not missing
(`+`). After a colon an empty value counts as missing. -/
def parameterSigns : List String := [":-", ":=", ":+", "-", "=", "+"]

/-- The name of a parameter at the start of some characters. -/
def parameterName (cs : List Char) : List Char :=
  match cs with
  | c :: _ =>
    if isNameStart c then cs.takeWhile isNameChar
    else if c.isDigit || specialParameters.contains c then [c]
    else []
  | [] => []

/-- The parameter that is written between braces. `#` before a name asks for the length. -/
def braced? (quoted : Bool) (cs : List Char) : Option Piece :=
  let name := parameterName cs
  let rest := cs.drop name.length
  if name.isEmpty then none
  else if rest.isEmpty then some (.parameter (String.ofList name) quoted)
  else if name = ['#'] && (parameterName rest).length = rest.length then
    some (.modified (String.ofList rest) "#" "" quoted)
  else
    (parameterSigns.find? fun s => s.toList.isPrefixOf rest).map fun s =>
      .modified (String.ofList name) s (String.ofList (rest.drop s.length)) quoted

/-- What a dollar sign stands for together with the characters after it, and what is left. -/
def readParameter (line : Nat) (quoted : Bool) (cs : List Char) :
    Except Fault (Piece × List Char) :=
  match cs with
  | '(' :: rest =>
    match untilClosed 0 none [] rest with
    | some (read, rest) => .ok (inParentheses quoted read, rest)
    | none => .error (.unclosed line)
  | '\x7b' :: rest =>
    match untilBrace 0 [] rest with
    | none => .error (.missingBrace line)
    | some (read, rest) =>
      match braced? quoted read.reverse with
      | some piece => .ok (piece, rest)
      | none => .error (.badSubstitution line)
  | c :: rest =>
    if isNameStart c then
      let name := cs.takeWhile isNameChar
      .ok (.parameter (String.ofList name) quoted, cs.drop name.length)
    else if c.isDigit || specialParameters.contains c then
      .ok (.parameter c.toString quoted, rest)
    else .ok (.text "$" true, cs)
  | [] => .ok (.text "$" true, [])

/-- Adds the characters of `text`, which are in reverse, to the pieces, which are too. -/
def flush (quoted : Bool) (pieces : List Piece) (text : List Char) : List Piece :=
  if text.isEmpty then pieces else .text (String.ofList text.reverse) quoted :: pieces

/-- The pieces up to a closing double quote, in reverse, and what is left. -/
def readQuoted (line : Nat) : (fuel : Nat) → (pieces : List Piece) → (text : List Char) →
    List Char → Except Fault (List Piece × List Char)
  | 0, _, _, _ => .error (.unterminated line)
  | _ + 1, _, _, [] => .error (.unterminated line)
  | fuel + 1, pieces, text, c :: cs =>
    match c with
    | '"' => .ok (flush true pieces text, cs)
    | '\\' =>
      match cs with
      | '\n' :: cs => readQuoted line fuel pieces text cs
      | d :: cs =>
        if ['$', '"', '\\', Char.ofNat 0x60].contains d then readQuoted line fuel pieces (d :: text) cs
        else readQuoted line fuel pieces (d :: '\\' :: text) cs
      | [] => .error (.unterminated line)
    | '$' => do
      let (piece, cs) ← readParameter line true cs
      readQuoted line fuel (piece :: flush true pieces text) [] cs
    | c => readQuoted line fuel pieces (c :: text) cs

/-- The pieces of a word, in reverse, and what is left after it. -/
def readWord (line : Nat) : (fuel : Nat) → (pieces : List Piece) → (text : List Char) →
    List Char → Except Fault (List Piece × List Char)
  | 0, pieces, text, cs => .ok (flush false pieces text, cs)
  | _ + 1, pieces, text, [] => .ok (flush false pieces text, [])
  | fuel + 1, pieces, text, c :: cs =>
    match c with
    | '\'' =>
      match untilQuote '\'' [] cs with
      | none => .error (.unterminated line)
      | some (read, cs) =>
        readWord line fuel (.text (String.ofList read.reverse) true :: flush false pieces text) [] cs
    | '"' => do
      let before := .text "" true :: flush false pieces text
      let (pieces, cs) ← readQuoted line (cs.length + 1) before [] cs
      readWord line fuel pieces [] cs
    | '\\' =>
      match cs with
      | '\n' :: cs => readWord line fuel pieces text cs
      | d :: cs => readWord line fuel (.text d.toString true :: flush false pieces text) [] cs
      | [] => readWord line fuel (.text "\\" true :: flush false pieces text) [] []
    | '$' => do
      let (piece, cs) ← readParameter line false cs
      readWord line fuel (piece :: flush false pieces text) [] cs
    | c =>
      if c.toNat = 0x60 then
        match untilQuote (Char.ofNat 0x60) [] cs with
        | none => .error (.unterminated line)
        | some (read, cs) =>
          readWord line fuel
            (.output (String.ofList read.reverse) false :: flush false pieces text) [] cs
      else if endsWord c then .ok (flush false pieces text, c :: cs)
      else readWord line fuel pieces (c :: text) cs

/-- An operator at the start of some characters, and what is left. -/
def operator? : List Char → Option (String × List Char)
  | '&' :: '&' :: cs => some ("&&", cs)
  | '|' :: '|' :: cs => some ("||", cs)
  | ';' :: ';' :: cs => some (";;", cs)
  | c :: cs => if ['\n', ';', '&', '|', '(', ')'].contains c then some (c.toString, cs) else none
  | [] => none

/-- The sign of a redirection at the start of some characters, and what is left. -/
def sign? : List Char → Option (String × List Char)
  | '>' :: '>' :: cs => some (">>", cs)
  | '>' :: '&' :: cs => some (">&", cs)
  | '<' :: '&' :: cs => some ("<&", cs)
  | '>' :: cs => some (">", cs)
  | '<' :: cs => some ("<", cs)
  | _ => none

/-- A redirection at the start of some characters, its descriptor written or not, and what is
left. -/
def redirect? (cs : List Char) : Option (Token × List Char) :=
  let digits := cs.takeWhile Char.isDigit
  match sign? (cs.drop digits.length) with
  | none => none
  | some (sign, rest) =>
    let usual := if sign.startsWith "<" then 0 else 1
    let descriptor := if digits.isEmpty then usual else (String.ofList digits).toNat?.getD usual
    some (.redirect descriptor sign, rest)

/-- The tokens of some characters, after those of `read`, in reverse. -/
def tokensFrom : (fuel : Nat) → (line : Nat) → (read : List (Token × Nat)) → List Char →
    Except Fault (List (Token × Nat))
  | 0, _, read, _ => .ok read.reverse
  | _ + 1, _, read, [] => .ok read.reverse
  | fuel + 1, line, read, c :: cs =>
    if c = ' ' || c = '\t' then tokensFrom fuel line read cs
    else if c = '#' then tokensFrom fuel line read (cs.dropWhile (· != '\n'))
    else if c = '\\' && cs.head? = some '\n' then tokensFrom fuel (line + 1) read cs.tail
    else
      match operator? (c :: cs) with
      | some (s, rest) =>
        tokensFrom fuel (if s = "\n" then line + 1 else line) ((.operator s, line) :: read) rest
      | none =>
        match redirect? (c :: cs) with
        | some (t, rest) => tokensFrom fuel line ((t, line) :: read) rest
        | none => do
          let (pieces, rest) ← readWord line (cs.length + 1) [] [] (c :: cs)
          let lines := lineCount ((c :: cs).take (cs.length + 1 - rest.length))
          tokensFrom fuel (line + lines) ((.word pieces.reverse, line) :: read) rest

/-- The tokens of a script, each with its line. -/
def tokens (script : String) : Except Fault (List (Token × Nat)) :=
  let cs := script.toList
  tokensFrom (cs.length + 1) 1 [] cs

end Taskweave.Shell
