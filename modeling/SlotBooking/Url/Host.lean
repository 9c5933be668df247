import SlotBooking.Text.Digit
import SlotBooking.Url.Label

/-!
# Hosts

The host of an address on the network: an IPv4 address, an IPv6 address between brackets, or a name.

* `Host.error?`: why a host is none.
-/

namespace SlotBooking.Url

/-! ## IPv4 -/

namespace IPv4

/-- A text looks like an IPv4 address: four runs of digits with one character between each. -/
def looksAlike (cs : List Char) : Bool :=
  let step (states : List (Nat × Bool)) (c : Char) : List (Nat × Bool) :=
    (states.flatMap fun (run, hasDigit) =>
      (if c.isDigit then [(run, true)] else [])
        ++ if hasDigit && run < 3 then [(run + 1, false)] else []).eraseDups
  (cs.foldl step [(0, false)]).contains (3, true)

/-- A number from 0 to 255 without leading zeros. -/
def isOctet (cs : List Char) : Bool :=
  !cs.isEmpty && cs.length ≤ 3 && cs.all Char.isDigit && (cs.length = 1 || cs.head? ≠ some '0')
    && cs.foldl (fun n c => 10 * n + (c.toNat - 48)) 0 ≤ 255

/-- Four octets between points. -/
def isAddress (cs : List Char) : Bool :=
  let parts := cs.splitOn '.'
  parts.length = 4 && parts.all isOctet

end IPv4

/-! ## IPv6 -/

namespace IPv6

/-- One to four hexadecimal digits. -/
def isGroup (cs : List Char) : Bool :=
  !cs.isEmpty && cs.length ≤ 4 && cs.all fun c => (Text.hexValue? c).isSome

/-- Parts between colons, of which an IPv4 address at the end counts as two groups. -/
def groups? (cs : List Char) : Option (List (List Char)) :=
  let parts := cs.splitOn ':'
  match parts.getLast? with
  | some last =>
    if last.contains '.' then
      if IPv4.isAddress last then some (parts.dropLast ++ [['0'], ['0']]) else none
    else some parts
  | none => none

/-- Eight groups between colons, of which two colons in a row stand for those left out. -/
def isUnscoped (cs : List Char) : Bool :=
  match groups? cs with
  | none => false
  | some parts =>
    if (cs.splitOn ':').length < 3 ∨ 9 < parts.length then false
    else
      let inner := (parts.drop 1).dropLast
      if inner.all (!·.isEmpty) then parts.length = 8 && parts.all isGroup
      else
        let before := parts.take ((inner.takeWhile (!·.isEmpty)).length + 1)
        let after := parts.drop (before.length + 1)
        let before := if before = [[]] then [] else before
        let after := if after = [[]] then [] else after
        before.all isGroup && after.all isGroup && before.length + after.length < 8

/-- An IPv6 address, perhaps with a zone after a percent sign. -/
def isAddress (cs : List Char) : Bool :=
  let address := cs.takeWhile (· ≠ '%')
  isUnscoped address &&
    match cs.dropWhile (· ≠ '%') with
    | [] => true
    | _ :: zone => !zone.isEmpty && !zone.contains '%'

end IPv6

/-! ## Hosts -/

/-- Why a host is none. -/
inductive Host.Error where
  | ipv4 | ipv6 | name
deriving DecidableEq, Repr

/-- The address between brackets. -/
def Host.bracketed? : List Char → Option (List Char)
  | '[' :: rest => if rest.getLast? = some ']' then some rest.dropLast else none
  | _ => none

/-- Why a host is none. An ASCII name may hold anything. -/
def Host.error? (cs : List Char) : Option Host.Error :=
  if IPv4.looksAlike cs then if IPv4.isAddress cs then none else some .ipv4
  else
    match Host.bracketed? cs with
    | some address => if IPv6.isAddress address then none else some .ipv6
    | none =>
      if cs.all (fun c => c.toNat < 0x80) || isAllowedName cs then none else some .name

end SlotBooking.Url
