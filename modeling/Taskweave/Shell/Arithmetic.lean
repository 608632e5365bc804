import Taskweave.Shell.Token

/-!
# Arithmetic in shell scripts

`Arithmetic.value?` gives the value of an expression over integers: numbers, names, brackets, signs,
and the usual operators of two operands, which bind as tightly as `Arithmetic.strength?` says. A
comparison that holds is 1.
-/

namespace Taskweave.Shell.Arithmetic

/-- A part of an expression. -/
inductive Symbol where
  | number (n : Int)
  | sign (s : String)
deriving DecidableEq, Repr

/-- The operators and brackets, longer ones before those they start with. -/
def signs : List String :=
  ["<=", ">=", "==", "!=", "&&", "||", "+", "-", "*", "/", "%", "<", ">", "!", "(", ")"]

/-- The number that digits of a base spell. -/
def spelled (base : Nat) (digit? : Char → Option Nat) (cs : List Char) : Option Int :=
  if cs.isEmpty then none
  else (cs.foldlM (fun n c => (digit? c).map (n * base + ·)) 0).map Int.ofNat

/-- A digit of base 16. -/
def hexDigit? (c : Char) : Option Nat :=
  if c.isDigit then some (c.toNat - 48)
  else if 'a' ≤ c ∧ c ≤ 'f' then some (c.toNat - 87)
  else if 'A' ≤ c ∧ c ≤ 'F' then some (c.toNat - 55)
  else none

/-- A number: octal after a zero, of base 16 after `0x`, else decimal. -/
def number? : List Char → Option Int
  | '0' :: 'x' :: cs | '0' :: 'X' :: cs => spelled 16 hexDigit? cs
  | '0' :: c :: cs => spelled 8 (fun d => (hexDigit? d).filter (· < 8)) (c :: cs)
  | cs => spelled 10 (fun d => (hexDigit? d).filter (· < 10)) cs

/-- The symbols of an expression, after those of `read`, in reverse. `lookup` gives the text that a
name stands for; a name without one is 0. -/
def symbols (lookup : String → String) :
    (fuel : Nat) → (read : List Symbol) → List Char → Option (List Symbol)
  | 0, _, _ => none
  | _ + 1, read, [] => some read.reverse
  | fuel + 1, read, c :: cs =>
    if c = ' ' || c = '\t' || c = '\n' then symbols lookup fuel read cs
    else if isNameChar c then
      let word := (c :: cs).takeWhile isNameChar
      let rest := (c :: cs).drop word.length
      let text := if c.isDigit then word else (lookup (String.ofList word)).toList
      match if text.isEmpty then some 0 else number? text with
      | some n => symbols lookup fuel (.number n :: read) rest
      | none => none
    else
      match signs.find? fun s => s.toList.isPrefixOf (c :: cs) with
      | some s => symbols lookup fuel (.sign s :: read) ((c :: cs).drop s.length)
      | none => none

/-- How tightly an operator of two operands binds. -/
def strength? : String → Option Nat
  | "||" => some 1
  | "&&" => some 2
  | "==" | "!=" => some 3
  | "<" | "<=" | ">" | ">=" => some 4
  | "+" | "-" => some 5
  | "*" | "/" | "%" => some 6
  | _ => none

/-- The value of an operator; there is none for a division by zero. -/
def outcome? (op : String) (a b : Int) : Option Int :=
  let truth (p : Bool) : Option Int := some (if p then 1 else 0)
  match op with
  | "||" => truth (a != 0 || b != 0)
  | "&&" => truth (a != 0 && b != 0)
  | "==" => truth (a == b)
  | "!=" => truth (a != b)
  | "<" => truth (decide (a < b))
  | "<=" => truth (decide (a ≤ b))
  | ">" => truth (decide (b < a))
  | ">=" => truth (decide (b ≤ a))
  | "+" => some (a + b)
  | "-" => some (a - b)
  | "*" => some (a * b)
  | "/" => if b = 0 then none else some (Int.tdiv a b)
  | "%" => if b = 0 then none else some (Int.tmod a b)
  | _ => none

mutual

/-- An operand, and what is left. -/
def operand : (fuel : Nat) → List Symbol → Option (Int × List Symbol)
  | 0, _ => none
  | fuel + 1, ss =>
    match ss with
    | .number n :: rest => some (n, rest)
    | .sign "-" :: rest => (operand fuel rest).map fun (n, rest) => (-n, rest)
    | .sign "+" :: rest => operand fuel rest
    | .sign "!" :: rest =>
      (operand fuel rest).map fun (n, rest) => (if n = 0 then 1 else 0, rest)
    | .sign "(" :: rest =>
      match operation fuel 0 rest with
      | some (n, .sign ")" :: rest) => some (n, rest)
      | _ => none
    | _ => none

/-- An operand and the operators after it that bind more tightly than `least`, and what is left. -/
def operation : (fuel : Nat) → (least : Nat) → List Symbol → Option (Int × List Symbol)
  | 0, _, _ => none
  | fuel + 1, least, ss =>
    match operand fuel ss with
    | none => none
    | some (n, rest) => continued fuel least n rest

/-- What the operators after a value make of it, and what is left. -/
def continued : (fuel : Nat) → (least : Nat) → Int → List Symbol → Option (Int × List Symbol)
  | 0, _, _, _ => none
  | fuel + 1, least, a, ss =>
    match ss with
    | .sign op :: rest =>
      match strength? op with
      | none => some (a, ss)
      | some strength =>
        if strength ≤ least then some (a, ss)
        else
          match operation fuel strength rest with
          | none => none
          | some (b, rest) =>
            match outcome? op a b with
            | none => none
            | some n => continued fuel least n rest
    | _ => some (a, ss)

end

/-- The value of an expression. -/
def value? (lookup : String → String) (expression : String) : Option Int :=
  let cs := expression.toList
  match symbols lookup (cs.length + 1) [] cs with
  | none => none
  | some ss =>
    match operation (3 * ss.length + 3) 0 ss with
    | some (n, []) => some n
    | _ => none

end Taskweave.Shell.Arithmetic
