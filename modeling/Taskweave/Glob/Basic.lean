import Taskweave.Text.Utf8

/-!
# Globs

A `Glob` is a list of tokens, each of which stands for some texts: a literal character, any byte or
any run of bytes short of a slash, one byte of a class, or one of several globs. `Glob.accepts` asks
whether a text, taken as its UTF-8 bytes, is one that the tokens stand for. It works on the set of
what may be left of the text after a token (`Token.rests`).
-/

namespace Taskweave

/-- A part of a glob. -/
inductive Glob.Token where
  | literal (c : Char)
  /-- One byte other than a slash. -/
  | any
  /-- Any number of bytes other than a slash. -/
  | many
  /-- One byte of a class, or one outside of it. -/
  | byteClass (negated : Bool) (ranges : List (Char × Char))
  /-- One of several globs, of which none is empty. -/
  | oneOf (branches : List (List Glob.Token))

/-- A pattern for texts. -/
abbrev Glob := List Glob.Token

namespace Glob

/-- The byte that `any` and `many` stop at. -/
def slash : UInt8 := 0x2F

/-- Whether a byte is in a range of characters. A range with bytes of several characters has the
bytes of its ends, and those between the last byte of the one and the first byte of the other. -/
def inRange (b : UInt8) (low high : Char) : Bool :=
  let first := Utf8.encodeChar low
  let last := Utf8.encodeChar high
  first.contains b ||
    (low != high &&
      (last.contains b || (first.getLastD 0 ≤ b && b ≤ last.headD 0)))

/-- Whether a byte is in a class. -/
def inClass (b : UInt8) (ranges : List (Char × Char)) : Bool :=
  ranges.any fun r => inRange b r.1 r.2

/-- What is left of a text after a prefix. -/
def afterPrefix? : (lead text : List UInt8) → Option (List UInt8)
  | [], text => some text
  | a :: lead, b :: text => if a = b then afterPrefix? lead text else none
  | _ :: _, [] => none

/-- What may be left of a text after any number of bytes other than a slash. -/
def afterMany : List UInt8 → List (List UInt8)
  | [] => [[]]
  | b :: text => (b :: text) :: if b = slash then [] else afterMany text

/-- Suffixes of one text, each once: two of the same length are the same. -/
def distinct (rests : List (List UInt8)) : List (List UInt8) :=
  rests.foldr (fun r kept => if kept.any (·.length == r.length) then kept else r :: kept) []

mutual

/-- What may be left of a text after a token. -/
def Token.rests (text : List UInt8) : Token → List (List UInt8)
  | .literal c => (afterPrefix? (Utf8.encodeChar c) text).toList
  | .any =>
    match text with
    | b :: rest => if b = slash then [] else [rest]
    | [] => []
  | .many => afterMany text
  | .byteClass negated ranges =>
    match text with
    | b :: rest => if inClass b ranges != negated then [rest] else []
    | [] => []
  | .oneOf branches => distinct (restsOfAny text branches)

/-- What may be left of a text after one of several globs. -/
def restsOfAny (text : List UInt8) : List (List Token) → List (List UInt8)
  | [] => []
  | g :: gs => rests [text] g ++ restsOfAny text gs

/-- What may be left of some texts after a glob. -/
def rests (texts : List (List UInt8)) : List Token → List (List UInt8)
  | [] => texts
  | t :: ts => rests (distinct (texts.flatMap fun text => t.rests text)) ts

end

/-- Whether a glob stands for a text. -/
def accepts (g : Glob) (text : String) : Bool :=
  (rests [Utf8.encode text] g).any List.isEmpty

end Glob

end Taskweave
