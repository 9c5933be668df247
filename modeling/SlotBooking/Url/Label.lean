import SlotBooking.Url.Label.Context
import SlotBooking.Url.Label.LowerCase
import SlotBooking.Url.Punycode

/-!
# Labels of host names

A host name that is not plain ASCII is a sequence of labels of the kind that RFC 5891 permits.

* `Label.isSound`: the characters of a label, and how they stand together.
* `Label.ascii?`: the ASCII form of a label that is sound and short enough.
* `isAllowedName`: all labels of a host name have such forms, and so has the name.
-/

namespace SlotBooking.Url

namespace Label

/-- A label opens and ends with no hyphen, and has no two of them after its first two characters. -/
def hasSoundHyphens (cs : List Char) : Bool :=
  cs.head? ≠ some '-' && cs.getLast? ≠ some '-' && (cs.drop 2).take 2 ≠ ['-', '-']

/-- A label is not empty, opens with no mark, is in lower case, holds permitted characters only, is
composed, and is written in one direction. -/
def isSound (cs : List Char) : Bool :=
  match cs with
  | [] => false
  | c :: _ =>
    hasSoundHyphens cs && !isMark c && cs.flatMap lowerCase == cs && allFit [] cs && isComposed cs
      && isOneDirected cs

/-- The opening of a label that is written in ASCII. -/
def asciiMark : List Char := ['x', 'n', '-', '-']

/-- The greatest length of a label. -/
def maxLength : Nat := 63

/-- The ASCII form of a label of lower case, if the label is allowed. -/
def ascii? (cs : List Char) : Option (List Char) :=
  let form := if cs.all fun c => c.toNat < 0x80 then cs else asciiMark ++ Punycode.encode cs
  let label? :=
    if asciiMark.isPrefixOf cs then
      if cs.getLast? = some '-' then none else Punycode.decode? (cs.drop asciiMark.length)
    else some cs
  match label? with
  | some label => if isSound label && form.length ≤ maxLength then some form else none
  | none => none

end Label

/-- The full stops that end a label. -/
def fullStops : List Char := ['.', '\u3002', '\uFF0E', '\uFF61']

/-- The greatest length of a host name. -/
def maxNameLength : Nat := 253

/-- The host name, in any case, consists of allowed labels and is short enough. The last label may
end with a full stop. -/
def isAllowedName (cs : List Char) : Bool :=
  let labels := ((cs.flatMap Label.lowerCase).map fun c => if fullStops.contains c then '.' else c)
    |>.splitOn '.'
  let labels := if labels.getLast? = some [] then labels.dropLast else labels
  match labels.mapM Label.ascii? with
  | some forms => (['.'].intercalate forms).length ≤ maxNameLength
  | none => false

end SlotBooking.Url
