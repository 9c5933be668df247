import SlotBooking.Json.Lenient
import SlotBooking.Text.Quoted
import SlotBooking.Url.Host

/-!
# Addresses on the network

An address consists of a scheme, an authority, a path, a query and a fragment, of which all but the
path may be missing (RFC 3986). The authority holds a host, perhaps with a user before it and a
number after it.

* `Parts.ofText`: the parts of an address.
* `Url.check`: why a text is no address.
-/

namespace SlotBooking.Url

/-- The parts of an address; one that is missing is empty. -/
structure Parts where
  scheme : List Char
  user : List Char
  host : List Char
  /-- The number after the host. -/
  portNumber : List Char
  path : List Char
deriving DecidableEq, Repr

namespace Parts

/-- A character that a scheme may hold after its first. -/
def isSchemeChar (c : Char) : Bool := c.isAlphanum || c = '+' || c = '.' || c = '-'

/-- A scheme before a colon, which may be empty, and what follows. -/
def splitScheme (cs : List Char) : List Char × List Char :=
  let scheme := cs.takeWhile isSchemeChar
  match cs.dropWhile isSchemeChar with
  | ':' :: rest =>
    if scheme.head?.all Char.isAlpha then (scheme, rest) else ([], cs)
  | _ => ([], cs)

/-- An authority after two slashes and what follows. -/
def splitAuthority : List Char → List Char × List Char
  | '/' :: '/' :: rest =>
    let isPart c := c ≠ '/' && c ≠ '?' && c ≠ '#'
    (rest.takeWhile isPart, rest.dropWhile isPart)
  | cs => ([], cs)

/-- A text before the last occurrence of a mark, if there is one, and the text after it. -/
def splitLast (mark : Char) (cs : List Char) : List Char × List Char :=
  let rest := (cs.reverse.takeWhile (· ≠ mark)).reverse
  ((cs.take (cs.length - rest.length)).dropLast, rest)

/-- A host, and the number after a colon. A host between brackets ends with the last one. -/
def splitHost (cs : List Char) : List Char × List Char :=
  let (host, rest) :=
    if cs.head? = some '[' ∧ cs.contains ']' then
      let rest := (cs.reverse.takeWhile (· ≠ ']')).reverse
      (cs.take (cs.length - rest.length), rest)
    else (cs.takeWhile (· ≠ ':'), cs.dropWhile (· ≠ ':'))
  match rest with
  | ':' :: number => (host, number)
  | number => (host, number)

/-- The parts of an address. -/
def ofText (cs : List Char) : Parts :=
  let (scheme, rest) := splitScheme cs
  let (authority, rest) := splitAuthority rest
  let (user, rest') := splitLast '@' authority
  let (host, number) := splitHost rest'
  ⟨scheme, user, host, number, rest.takeWhile fun c => c ≠ '?' && c ≠ '#'⟩

end Parts

/-- Why a text is no address. -/
inductive Error where
  | tooLong
  | unprintable (c : Char) (position : Nat)
  | host (e : Host.Error) (text : String)
  | portNumber (text : String)
  /-- Without scheme and authority, the path opens with two slashes. -/
  | doubleSlash
  /-- Without scheme and authority, the path opens with a colon. -/
  | colon
deriving DecidableEq

/-- The message of an error. -/
def Error.message : Error → String
  | tooLong => "URL too long"
  | unprintable c position =>
    "Invalid non-printable ASCII character in URL, " ++ Text.quoted (String.singleton c)
      ++ " at position " ++ toString position ++ "."
  | host .ipv4 text => "Invalid IPv4 address: " ++ Text.quoted text
  | host .ipv6 text => "Invalid IPv6 address: " ++ Text.quoted text
  | host .name text => "Invalid IDNA hostname: " ++ Text.quoted text
  | portNumber text => "Invalid port: " ++ Text.quoted text
  | doubleSlash => "Relative URLs cannot have a path starting with '//'"
  | colon => "Relative URLs cannot have a path starting with ':'"

/-- The greatest length of an address. -/
def maxLength : Nat := 65536

/-- A control character of ASCII. -/
def isControl (c : Char) : Bool := c.toNat < 0x20 || c.toNat = 0x7F

/-- A number in decimal digits of any script, with an optional sign, underscores between digits and
blanks around it. -/
def isPortNumber (cs : List Char) : Bool :=
  let (_, digits) := Json.Lenient.splitSign (Json.Lenient.trim cs)
  match Json.Lenient.dropUnderscores? digits with
  | some ds =>
    !ds.isEmpty && ds.length ≤ Json.maxDigits && ds.all fun c => (Text.decimalValue? c).isSome
  | none => false

/-- Requires the parts of an address to be in order: first the host, then the number after it and
the path. -/
def Parts.check (p : Parts) : Except Error Unit :=
  match Host.error? p.host with
  | some e => .error (.host e (String.ofList p.host))
  | none =>
    if p.portNumber ≠ [] ∧ !isPortNumber p.portNumber then
      .error (.portNumber (String.ofList p.portNumber))
    else if p.scheme ≠ [] ∨ p.user ≠ [] ∨ p.host ≠ [] ∨ p.portNumber ≠ [] then .ok ()
    else if ['/', '/'].isPrefixOf p.path then .error .doubleSlash
    else if [':'].isPrefixOf p.path then .error .colon
    else .ok ()

/-- Requires a text to be an address. -/
def check (text : String) : Except Error Unit :=
  let cs := text.toList
  if maxLength < cs.length then .error .tooLong
  else
    match cs.dropWhile (!isControl ·) with
    | c :: rest => .error (.unprintable c (cs.length - rest.length - 1))
    | [] => (Parts.ofText cs).check

end SlotBooking.Url
