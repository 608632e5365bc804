import Taskweave.Unicode.Folding
import Taskweave.Unicode.Property
import Taskweave.Unicode.Script

/-!
# Patterns

A `Pattern` describes a set of texts: single characters of a set, assertions about the characters
on both sides of a position, sequences, choices and repetitions. Since only the question whether a
line holds a match is ever asked, nothing is said about which of several matches is preferred.

`Pattern.named?` gives the sets that patterns refer to by the name of a category, a script or a
property.
-/

namespace Taskweave

open Unicode (Ranges)

/-- An assertion about a position in a text. -/
inductive Look where
  | textStart
  | textEnd
  | lineStart
  | lineEnd
  /-- After a line feed, or after a carriage return that no line feed follows. -/
  | crlfLineStart
  /-- Before a carriage return, or before a line feed that no carriage return precedes. -/
  | crlfLineEnd
  | wordBoundary (unicode : Bool)
  | notWordBoundary (unicode : Bool)
  | wordStart (unicode : Bool)
  | wordEnd (unicode : Bool)
  | wordStartHalf (unicode : Bool)
  | wordEndHalf (unicode : Bool)
deriving DecidableEq, Repr, Inhabited

/-- A set of texts. -/
inductive Pattern where
  | empty
  | set (ranges : Ranges)
  | look (l : Look)
  | seq (first second : Pattern)
  | alt (first second : Pattern)
  /-- From `least` to `most` repetitions; `none` sets no bound. -/
  | repeat (body : Pattern) (least : Nat) (most : Option Nat)
deriving Repr, Inhabited

namespace Pattern

/-- One text after the other. -/
def sequence : List Pattern → Pattern
  | [] => .empty
  | [p] => p
  | p :: rest => .seq p (sequence rest)

/-- Any of several patterns. -/
def choice : List Pattern → Pattern
  | [] => .empty
  | [p] => p
  | p :: rest => .alt p (choice rest)

/-- Whether a pattern matches no character, so that repeating it changes nothing. -/
def isEmptyOnly : Pattern → Bool
  | .empty | .look _ => true
  | .set _ => false
  | .seq a b | .alt a b => isEmptyOnly a && isEmptyOnly b
  | .repeat body _ most => most == some 0 || isEmptyOnly body

/-- A pattern under a repetition; one that matches no character is not repeated. -/
def repeated (body : Pattern) (least : Nat) (most : Option Nat) : Pattern :=
  if isEmptyOnly body then .repeat body (min least 1) (some (min (most.getD 1) 1))
  else .repeat body least most

/-! ## Named sets -/

/-- Decimal digits. -/
def digits : Ranges := Unicode.category ["Nd"]

/-- Blanks. -/
def blanks : Ranges := Unicode.whiteSpace

/-- Characters of words. -/
def wordCharacters : Ranges :=
  Ranges.normalize (Unicode.alphabetic ++ Unicode.category ["Mn", "Mc", "Me", "Nd", "Pc"] ++
    Unicode.joinControl)

/-- Decimal digits of ASCII. -/
def asciiDigits : Ranges := [(0x30, 0x39)]

/-- Blanks of ASCII. -/
def asciiBlanks : Ranges := [(0x09, 0x0D), (0x20, 0x20)]

/-- Characters of ASCII words. -/
def asciiWordCharacters : Ranges := [(0x30, 0x39), (0x41, 0x5A), (0x5F, 0x5F), (0x61, 0x7A)]

/-- The ASCII classes that are written between colons. -/
def asciiClass? : String → Option Ranges
  | "alnum" => some [(0x30, 0x39), (0x41, 0x5A), (0x61, 0x7A)]
  | "alpha" => some [(0x41, 0x5A), (0x61, 0x7A)]
  | "ascii" => some [(0x00, 0x7F)]
  | "blank" => some [(0x09, 0x09), (0x20, 0x20)]
  | "cntrl" => some [(0x00, 0x1F), (0x7F, 0x7F)]
  | "digit" => some asciiDigits
  | "graph" => some [(0x21, 0x7E)]
  | "lower" => some [(0x61, 0x7A)]
  | "print" => some [(0x20, 0x7E)]
  | "punct" => some [(0x21, 0x2F), (0x3A, 0x40), (0x5B, 0x60), (0x7B, 0x7E)]
  | "space" => some asciiBlanks
  | "upper" => some [(0x41, 0x5A)]
  | "word" => some asciiWordCharacters
  | "xdigit" => some [(0x30, 0x39), (0x41, 0x46), (0x61, 0x66)]
  | _ => none

/-- General categories and groups of them, with their names. Surrogates are no characters, so they
have no name here. -/
def categoryNames : List (List String × List String) :=
  [(["l", "letter"], ["Lu", "Ll", "Lt", "Lm", "Lo"]),
   (["lc", "casedletter"], ["Lu", "Ll", "Lt"]),
   (["lu", "uppercaseletter"], ["Lu"]), (["ll", "lowercaseletter"], ["Ll"]),
   (["lt", "titlecaseletter"], ["Lt"]), (["lm", "modifierletter"], ["Lm"]),
   (["lo", "otherletter"], ["Lo"]),
   (["m", "mark", "combiningmark"], ["Mn", "Mc", "Me"]),
   (["mn", "nonspacingmark"], ["Mn"]), (["mc", "spacingmark"], ["Mc"]),
   (["me", "enclosingmark"], ["Me"]),
   (["n", "number"], ["Nd", "Nl", "No"]),
   (["nd", "decimalnumber", "digit"], ["Nd"]), (["nl", "letternumber"], ["Nl"]),
   (["no", "othernumber"], ["No"]),
   (["p", "punctuation", "punct"], ["Pc", "Pd", "Ps", "Pe", "Pi", "Pf", "Po"]),
   (["pc", "connectorpunctuation"], ["Pc"]), (["pd", "dashpunctuation"], ["Pd"]),
   (["ps", "openpunctuation"], ["Ps"]), (["pe", "closepunctuation"], ["Pe"]),
   (["pi", "initialpunctuation"], ["Pi"]), (["pf", "finalpunctuation"], ["Pf"]),
   (["po", "otherpunctuation"], ["Po"]),
   (["s", "symbol"], ["Sm", "Sc", "Sk", "So"]),
   (["sm", "mathsymbol"], ["Sm"]), (["sc", "currencysymbol"], ["Sc"]),
   (["sk", "modifiersymbol"], ["Sk"]), (["so", "othersymbol"], ["So"]),
   (["z", "separator"], ["Zs", "Zl", "Zp"]),
   (["zs", "spaceseparator"], ["Zs"]), (["zl", "lineseparator"], ["Zl"]),
   (["zp", "paragraphseparator"], ["Zp"]),
   (["c", "other"], ["Cc", "Cf", "Co", "Cn"]),
   (["cc", "control", "cntrl"], ["Cc"]), (["cf", "format"], ["Cf"]),
   (["co", "privateuse"], ["Co"]), (["cn", "unassigned"], ["Cn"])]

/-- The category with the given name, in lower case and without separators. -/
def categoryNamed? (name : String) : Option Ranges :=
  if name = "any" then some [(0, Unicode.lastCodePoint)]
  else if name = "assigned" then some (Unicode.Ranges.complement (Unicode.category ["Cn"]))
  else if name = "ascii" then some [(0, 0x7F)]
  else (categoryNames.find? fun e => e.1.contains name).map fun e => Unicode.category e.2

/-- A name in lower case without separators and a leading `is`. -/
def looseName (name : List Char) : String :=
  let kept := name.filter fun c => c.toNat < 0x80 && !(c == ' ' || c == '_' || c == '-')
  let low := kept.map Char.toLower
  let bare := match name.map Char.toLower with
    | 'i' :: 's' :: _ => low.drop 2
    | _ => low
  -- `isc` names a category of its own, not the set `c`.
  if bare = ['c'] ∧ low = ['i', 's', 'c'] then "isc" else String.ofList bare

/-- The set with a single name: a property, a category or a script. -/
def namedAlone? (name : String) : Option Ranges :=
  let category := categoryNamed? name
  let byProperty :=
    if name = "cf" ∨ name = "sc" ∨ name = "lc" then none else Unicode.propertyNamed? name
  match byProperty, category with
  | some r, _ => some r
  | none, some r => some r
  | none, none => (Unicode.scriptNamed? name).map Unicode.script

/-- The set of characters for which a property has a value. -/
def namedValue? (property value : String) : Option Ranges :=
  if property = "gc" ∨ property = "generalcategory" then categoryNamed? value
  else if property = "sc" ∨ property = "script" then
    (Unicode.scriptNamed? value).map Unicode.script
  else if property = "scx" ∨ property = "scriptextensions" then
    (Unicode.scriptNamed? value).map Unicode.scriptExtension
  else none

/-- What comes before and after the first occurrence of `mark`. -/
def cut? (mark : List Char) : List Char → Option (List Char × List Char)
  | [] => none
  | c :: rest =>
    if mark.isPrefixOf (c :: rest) then some ([], (c :: rest).drop mark.length)
    else (cut? mark rest).map fun (before, after) => (c :: before, after)

/-- The set written between the braces of a named class, and whether the name negates it: a name
alone, or a property and a value joined by `=`, `:` or `!=`. -/
def named? (name : List Char) : Option (Ranges × Bool) :=
  let pair (property value : List Char) (negated : Bool) : Option (Ranges × Bool) :=
    (namedValue? (looseName property) (looseName value)).map fun r => (r, negated)
  match cut? ['!', '='] name, cut? [':'] name, cut? ['='] name with
  | some (property, value), _, _ => pair property value true
  | none, some (property, value), _ => pair property value false
  | none, none, some (property, value) => pair property value false
  | none, none, none => (namedAlone? (looseName name)).map fun r => (r, false)

end Pattern

end Taskweave
