import Taskweave.Pattern.Match
import Taskweave.Text.Utf8
import Taskweave.Time.Duration

/-!
# Tools

What the commands of a script do with bytes: `Tool.echo` and `Tool.printf` write their arguments,
`Tool.count`, `Tool.head`, `Tool.tail`, `Tool.substitute` and `Tool.grep` work on input, `Tool.test?`
decides a condition and `Tool.sleep?` reads a time. None of them knows of a shell.
-/

namespace Taskweave.Shell.Tool

/-- Bytes that are read or written. -/
abbrev Bytes := List UInt8

/-- The bytes of a text. -/
def bytes (s : String) : Bytes := Utf8.encode s

/-- Bytes as a text. -/
def text (b : Bytes) : String := Utf8.decodeLossy b

/-- A line feed. -/
def newline : UInt8 := 10

/-- A backslash. -/
def backslash : UInt8 := 92

/-- An octal digit. -/
def octal? (b : UInt8) : Option Nat := if 48 ≤ b ∧ b ≤ 55 then some (b.toNat - 48) else none

/-- The byte of at most some octal digits after a value, and what is left. -/
def octalByte (value : Nat) : (digits : Nat) → Bytes → UInt8 × Bytes
  | 0, bs => (UInt8.ofNat value, bs)
  | _ + 1, [] => (UInt8.ofNat value, [])
  | n + 1, b :: bs =>
    match octal? b with
    | some d => octalByte (value * 8 + d) n bs
    | none => (UInt8.ofNat value, b :: bs)

/-- The byte that a letter after a backslash stands for. -/
def control? (b : UInt8) : Option UInt8 :=
  match Char.ofNat b.toNat with
  | '\\' => some 92
  | 'a' => some 7
  | 'b' => some 8
  | 'f' => some 12
  | 'n' => some 10
  | 'r' => some 13
  | 't' => some 9
  | 'v' => some 11
  | _ => none

/-- What a backslash and the bytes after it stand for, and what is left. -/
def escape (bs : Bytes) : UInt8 × Bytes :=
  match bs with
  | [] => (backslash, [])
  | b :: rest =>
    if (octal? b).isSome then octalByte 0 3 bs
    else
      match control? b with
      | some c => (c, rest)
      | none => (backslash, bs)

/-- Replaces escapes, those of octal digits starting with a zero more. The flag tells whether `\c` has
ended the output. `out` is what has been written, in reverse. -/
def unescape : (fuel : Nat) → (out : Bytes) → Bytes → Bytes × Bool
  | 0, out, _ => (out.reverse, false)
  | _ + 1, out, [] => (out.reverse, false)
  | fuel + 1, out, b :: bs =>
    if b = backslash then
      match bs with
      | 99 :: _ => (out.reverse, true)
      | 48 :: rest => let (c, rest) := octalByte 0 3 rest; unescape fuel (c :: out) rest
      | _ => let (c, rest) := escape bs; unescape fuel (c :: out) rest
    else unescape fuel (b :: out) bs

/-- `sep` between each two of some byte sequences. -/
def joined (sep : Bytes) : List Bytes → Bytes
  | [] => []
  | [b] => b
  | b :: bs => b ++ sep ++ joined sep bs

/-- The arguments with blanks between them and a line feed at the end, escapes replaced; `-n` first
leaves the line feed out. -/
def echo (args : List Bytes) : Bytes :=
  let quiet := args.head? == some (bytes "-n")
  let line := joined (bytes " ") (if quiet then args.tail else args)
  let (out, ended) := unescape (line.length + 1) [] line
  if quiet || ended then out else out ++ [newline]

/-- An integer at the start of a text, 0 where there is none. -/
def leadingInt (s : String) : Int :=
  let number (cs : List Char) : Int := ((String.ofList (cs.takeWhile Char.isDigit)).toNat?.getD 0 : Nat)
  match s.toList.dropWhile (· == ' ') with
  | '-' :: cs => -number cs
  | '+' :: cs => number cs
  | cs => number cs

/-- A conversion of a format. -/
structure Conversion where
  leftAligned : Bool
  zeros : Bool
  width : Nat
  precision : Option Nat
  letter : Char

/-- The conversion after a percent sign, and what is left. -/
def conversion? (bs : Bytes) : Option (Conversion × Bytes) :=
  let char (b : UInt8) : Char := Char.ofNat b.toNat
  let number (ds : Bytes) : Nat := (String.ofList (ds.map char)).toNat?.getD 0
  let isDigit (b : UInt8) : Bool := (char b).isDigit
  let flags := bs.takeWhile fun b => ['-', '0', '+', ' ', '#'].contains (char b)
  let bs := bs.drop flags.length
  let width := bs.takeWhile isDigit
  let bs := bs.drop width.length
  let (precision, bs) : Option Nat × Bytes :=
    match bs with
    | 46 :: rest =>
      let digits := rest.takeWhile isDigit
      (some (number digits), rest.drop digits.length)
    | _ => (none, bs)
  match bs with
  | [] => none
  | b :: rest =>
    some (⟨flags.contains 45, flags.contains 48, number width, precision, char b⟩, rest)

/-- Fills bytes up to the width of a conversion. -/
def pad (c : Conversion) (b : Bytes) : Bytes :=
  let missing := c.width - b.length
  if c.leftAligned then b ++ List.replicate missing 32
  else if c.zeros && c.letter != 's' && c.letter != 'c' then
    match b with
    | 45 :: digits => 45 :: List.replicate missing 48 ++ digits
    | _ => List.replicate missing 48 ++ b
  else List.replicate missing 32 ++ b

/-- An argument under a conversion, and whether the output ends with it. -/
def converted (c : Conversion) (arg : Bytes) : Bytes × Bool :=
  let n := leadingInt (text arg)
  match c.letter with
  | 's' => (pad c (match c.precision with | some p => arg.take p | none => arg), false)
  | 'b' => let (b, ended) := unescape (arg.length + 1) [] arg; (pad c b, ended)
  | 'c' => (pad c (arg.take 1), false)
  | 'd' | 'i' | 'u' => (pad c (bytes (toString n)), false)
  | 'x' => (pad c (bytes (String.ofList (Nat.toDigits 16 n.toNat))), false)
  | 'o' => (pad c (bytes (String.ofList (Nat.toDigits 8 n.toNat))), false)
  | _ => ([], false)

/-- One pass through a format: what it writes, in reverse after `out`, the arguments that are left,
whether it took any, and whether the output has ended. -/
def formatPass : (fuel : Nat) → (out : Bytes) → (used : Bool) → (format : Bytes) →
    (args : List Bytes) → Bytes × List Bytes × Bool × Bool
  | 0, out, used, _, args => (out, args, used, false)
  | _ + 1, out, used, [], args => (out, args, used, false)
  | fuel + 1, out, used, b :: bs, args =>
    if b = backslash then
      let (c, rest) := escape bs
      formatPass fuel (c :: out) used rest args
    else if b = 37 then
      if bs.head? = some 37 then formatPass fuel (37 :: out) used bs.tail args
      else
        match conversion? bs with
        | none => (37 :: out, args, used, false)
        | some (c, rest) =>
          let (shown, ended) := converted c (args.headD [])
          if ended then (shown.reverse ++ out, args.tail, true, true)
          else formatPass fuel (shown.reverse ++ out) true rest args.tail
    else formatPass fuel (b :: out) used bs args

/-- Passes through a format until no argument is left. -/
def formatPasses (format : Bytes) : (fuel : Nat) → (out : Bytes) → (args : List Bytes) → Bytes
  | 0, out, _ => out.reverse
  | fuel + 1, out, args =>
    let (out, rest, used, ended) := formatPass (format.length + 1) out false format args
    if ended || rest.isEmpty || !used then out.reverse else formatPasses format fuel out rest

/-- A format with its conversions replaced by arguments, repeated as long as there are some. -/
def printf (format : Bytes) (args : List Bytes) : Bytes :=
  formatPasses format (args.length + 1) [] args

/-- The number of words between blanks; `inWord` tells whether one has started. -/
def wordCount (n : Nat) (inWord : Bool) : Bytes → Nat
  | [] => n
  | b :: bs =>
    let blank := b = 32 || (9 ≤ b && b ≤ 13)
    if blank then wordCount n false bs else wordCount (if inWord then n else n + 1) true bs

/-- The counts of lines, words and bytes that the letters ask for, on one line. -/
def count (letters : List Char) (input : Bytes) : Bytes :=
  let letters := if letters.isEmpty then ['l', 'w', 'c'] else letters
  let counts :=
    [('l', input.count newline), ('w', wordCount 0 false input), ('c', input.length)].filterMap
      fun (l, n) => if letters.contains l then some (toString n) else none
  let column (s : String) : String :=
    if counts.length = 1 then s else String.ofList (List.replicate (7 - s.length) ' ') ++ s
  bytes (" ".intercalate (counts.map column) ++ "\n")

/-- The lines of some bytes, each with its line feed, after those of `read`; both they and the bytes
of `line` are in reverse. -/
def linesFrom (read : List Bytes) (line : Bytes) : Bytes → List Bytes
  | [] => (if line.isEmpty then read else line.reverse :: read).reverse
  | b :: bs =>
    if b = newline then linesFrom ((b :: line).reverse :: read) [] bs
    else linesFrom read (b :: line) bs

/-- The lines of some bytes, each with its line feed. -/
def lines (input : Bytes) : List Bytes := linesFrom [] [] input

/-- How much of the input `head` and `tail` show. -/
inductive Extent where
  | lines (n : Nat)
  | bytes (n : Nat)

/-- The extent in some arguments: `-c N`, `-n N` or `-N`; ten lines where nothing is said. -/
def extent? : List String → Option Extent
  | [] => some (.lines 10)
  | [arg] =>
    match arg.toList with
    | '-' :: 'c' :: n => (String.ofList n).toNat?.map .bytes
    | '-' :: 'n' :: n => (String.ofList n).toNat?.map .lines
    | '-' :: n => (String.ofList n).toNat?.map .lines
    | _ => none
  | ["-c", n] => n.toNat?.map .bytes
  | ["-n", n] => n.toNat?.map .lines
  | _ => none

/-- The start of the input, and what is left of it. -/
def head (input : Bytes) : Extent → Bytes × Bytes
  | .lines n => (((lines input).take n).flatten, [])
  | .bytes n => (input.take n, input.drop n)

/-- The end of the input. -/
def tail (input : Bytes) : Extent → Bytes
  | .lines n => let ls := lines input; (ls.drop (ls.length - n)).flatten
  | .bytes n => input.drop (input.length - n)

/-- The bytes of a set: ranges with dashes, and escapes. -/
def byteSet : (fuel : Nat) → (set : Bytes) → Bytes
  | 0, _ => []
  | _ + 1, [] => []
  | fuel + 1, b :: bs =>
    let (low, rest) := if b = backslash then escape bs else (b, bs)
    match rest with
    | 45 :: high :: rest =>
      (List.range (high.toNat + 1 - low.toNat)).map (fun i => UInt8.ofNat (low.toNat + i)) ++
        byteSet fuel rest
    | rest => low :: byteSet fuel rest

/-- Replaces the bytes of one set by those at the same places of another, whose last one stands for
all further places. -/
def substitute (source target input : Bytes) : Bytes :=
  let source := byteSet (source.length + 1) source
  let target := byteSet (target.length + 1) target
  let last := target.getLastD 0
  input.map fun b =>
    match source.idxOf? b with
    | some i => target[i]?.getD last
    | none => b

/-- Removes the bytes of a set. -/
def remove (set input : Bytes) : Bytes :=
  let set := byteSet (set.length + 1) set
  input.filter fun b => !set.contains b

/-- A pattern of the older kind, in which brackets, bars and some repetitions are meant as such only
after a backslash. -/
def basicPattern (cs : List Char) (out : List Char) : List Char :=
  match cs with
  | [] => out.reverse
  | '\\' :: c :: cs =>
    if ['(', ')', '\x7b', '\x7d', '|', '+', '?'].contains c then basicPattern cs (c :: out)
    else basicPattern cs (c :: '\\' :: out)
  | c :: cs =>
    if ['(', ')', '\x7b', '\x7d', '|', '+', '?'].contains c then basicPattern cs (c :: '\\' :: out)
    else basicPattern cs (c :: out)
termination_by cs.length

/-- The pattern for a text with the given option letters. -/
def grepPattern (letters : List Char) (s : String) : String :=
  let body :=
    if letters.contains 'F' then
      s.toList.flatMap fun c => if c.isAlphanum || 0x7F < c.toNat then [c] else ['\\', c]
    else if letters.contains 'E' then s.toList
    else basicPattern s.toList []
  let text := String.ofList body
  (if letters.contains 'i' then "(?i)" else "") ++
    (if letters.contains 'x' then "^(?:" ++ text ++ ")$" else text)

/-- The lines in which a pattern is found, and whether there are any; `none` if the arguments are no
pattern with options. `-v` inverts the choice, `-c` counts the lines, `-n` numbers them and `-q`
writes nothing. -/
def grep (args : List String) (input : Bytes) : Option (Bytes × Bool) := do
  let (options, rest) := args.partition fun a => a.startsWith "-" && a.length ≠ 1
  let letters := (options.flatMap String.toList).filter (· != '-')
  let [pattern] := rest | none
  let matcher ← Matcher.read? (grepPattern letters pattern)
  let chosen := (lines input).zipIdx.filter fun (line, _) =>
    let line := if line.getLast? = some newline then line.dropLast else line
    matcher.isMatch (text line) != letters.contains 'v'
  let shown : Bytes :=
    if letters.contains 'q' then []
    else if letters.contains 'c' then bytes (toString chosen.length ++ "\n")
    else
      chosen.flatMap fun (line, i) =>
        let line := if line.getLast? = some newline then line else line ++ [newline]
        if letters.contains 'n' then bytes (toString (i + 1) ++ ":") ++ line else line
  return (shown, !chosen.isEmpty)

/-- The numbers from one to another in steps, each on a line. -/
def sequence (low : Int) (step : Nat) (high : Int) : Bytes :=
  (List.range ((high - low + step) / step).toNat).flatMap fun (i : Nat) =>
    bytes (toString (low + i * step) ++ "\n")

/-- The nanoseconds of a time in seconds, or in the unit of its last letter. -/
def sleepTime? (s : String) : Option Nat :=
  let cs := s.toList
  let (cs, unit) : List Char × Nat :=
    match cs.getLast? with
    | some 's' => (cs.dropLast, 1)
    | some 'm' => (cs.dropLast, 60)
    | some 'h' => (cs.dropLast, 3600)
    | _ => (cs, 1)
  let whole := cs.takeWhile Char.isDigit
  let fraction := match cs.drop whole.length with
    | '.' :: ds => some ds
    | [] => some []
    | _ => none
  match fraction with
  | none => none
  | some ds =>
    if (whole.isEmpty && ds.isEmpty) || !ds.all Char.isDigit then none
    else
      let number (ds : List Char) : Nat := (String.ofList ds).toNat?.getD 0
      some ((number whole * Duration.second +
        number (ds.take 9) * Nat.pow 10 (9 - min 9 ds.length)) * unit)

/-- The nanoseconds of several times together. -/
def sleep? (args : List String) : Option Nat :=
  if args.isEmpty then none else (args.mapM sleepTime?).map fun times => times.foldl (· + ·) 0

/-- The integer that a text consists of. -/
def int? (s : String) : Option Int := (Text.trim s).toInt?

/-- Whether a comparison of two integers holds. -/
def compare? (sign : String) (a b : Int) : Option Bool :=
  match sign with
  | "-eq" => some (a == b)
  | "-ne" => some (a != b)
  | "-lt" => some (decide (a < b))
  | "-le" => some (decide (a ≤ b))
  | "-gt" => some (decide (b < a))
  | "-ge" => some (decide (b ≤ a))
  | _ => none

/-- The signs that compare integers. -/
def comparisons : List String := ["-eq", "-ne", "-lt", "-le", "-gt", "-ge"]

/-- What is said of texts that are no condition. -/
def testFault : List String → String
  | a :: sign :: b :: _ =>
    if !comparisons.contains sign then a ++ ": unexpected operator"
    else if (int? a).isNone then "Illegal number: " ++ a
    else if (int? b).isNone then "Illegal number: " ++ b
    else "unexpected operator"
  | _ => "unexpected operator"

/-- Whether a condition on texts holds; `none` where it is none. -/
def test? : List String → Option Bool
  | [] => some false
  | [s] => some (!s.isEmpty)
  | ["!", s] => some s.isEmpty
  | ["-n", s] => some (!s.isEmpty)
  | ["-z", s] => some s.isEmpty
  | [flag, _] => if ["-e", "-f", "-d", "-r", "-s", "-x"].contains flag then some false else none
  | ["!", a, b] => (test? [a, b]).map not
  | [a, "=", b] => some (a == b)
  | [a, "!=", b] => some (a != b)
  | [a, sign, b] =>
    match int? a, int? b with
    | some a, some b => compare? sign a b
    | _, _ => none
  | ["!", a, b, c] => (test? [a, b, c]).map not
  | _ => none

end Taskweave.Shell.Tool
