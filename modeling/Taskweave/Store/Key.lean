import Taskweave.Error
import Taskweave.Text.Blank
import Taskweave.Time.Instant

/-!
# Keys

A key is a relative path with slashes. `Key.check` refuses one that is empty, absolute, or climbs up.
The versions of a key are kept under keys of their own: the key, a point and the stamp of the time of
saving (`Key.version`), and after it a number where that one is in use (`Key.candidate`). Beside each
version is a key for what is known about it (`Key.account`).
-/

namespace Taskweave.Key

/-- The characters that a check of a key cuts at. -/
def isSeparator (c : Char) : Bool := c == '/' || c == '\\'

/-- Whether a key is relative, not empty, and has no part that climbs up. -/
def isAllowed (path : String) : Bool :=
  !path.isEmpty && !(path.toList.head?.any isSeparator) &&
    !(Text.pieces isSeparator path).contains ".."

/-- Refuses a key that is not allowed. -/
def check (path : String) : Except Error Unit :=
  if isAllowed path then .ok () else .error (.config (.invalidPath path))

/-- The part of a key before its last slash and the part after it. -/
def split? (path : String) : Option (String × String) :=
  let cs := path.toList.reverse
  match cs.dropWhile (· != '/') with
  | [] => none
  | _ :: folder =>
    some (String.ofList folder.reverse, String.ofList (cs.takeWhile (· != '/')).reverse)

/-- The part of a key before its last slash. -/
def folder? (path : String) : Option String := (split? path).map (·.1)

/-- The key of a version, from the time at which it is saved. -/
def version (path : String) (now : Instant) : String := path ++ "." ++ now.stamp

/-- The candidates for the key of a version: the key itself, then that key with a number of at least
four digits. -/
def candidate (base : String) (n : Nat) : String :=
  if n = 0 then base else base ++ "-" ++ padded 4 n

/-- The first candidate from number `n` on that is not taken, `fuel` of which may be taken. -/
def firstFree (taken : String → Bool) (base : String) : (fuel n : Nat) → String
  | 0, n => candidate base n
  | fuel + 1, n =>
    if taken (candidate base n) then firstFree taken base fuel (n + 1) else candidate base n

/-- What the key of an account of a version ends in. -/
def metaSuffix : String := ".meta.json"

/-- The key of the account of a version. -/
def account (version : String) : String := version ++ metaSuffix

/-- Whether a key is that of an account. -/
def isMeta (path : String) : Bool := metaSuffix.toList.isSuffixOf path.toList

end Taskweave.Key
