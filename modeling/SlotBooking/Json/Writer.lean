import SlotBooking.Json.Basic

/-!
# Writing JSON

`Json.render` writes a document on one line, without blanks. A binary64 number is written as a
string of the sixteen hexadecimal digits of its word, which keeps every bit, also those of
infinities and NaNs. Everything outside printable ASCII is written as it is, except for control
characters and lone surrogates, which are escaped.
-/

namespace SlotBooking.Json

/-- The written form of one symbol of a string. -/
def escapeSymbol : Symbol → List Char
  | .char c =>
    if c = '"' ∨ c = '\\' then ['\\', c]
    else if c.toNat < 0x20 then ['\\', 'u'] ++ Text.hexDigits 4 c.toNat
    else [c]
  | .lone half => ['\\', 'u'] ++ Text.hexDigits 4 (Symbol.lone half).code

/-- A string between double marks. -/
def renderString (t : Text) : String :=
  String.ofList ('"' :: t.symbols.flatMap escapeSymbol ++ ['"'])

mutual

/-- The text of a document. -/
def render : Json → String
  | null => "null"
  | bool b => if b then "true" else "false"
  | int n => toString n
  | float x => renderString x.hex
  | str t => renderString t
  | arr items => "[" ++ ",".intercalate (renderItems items) ++ "]"
  | obj members => "\x7b" ++ ",".intercalate (renderMembers members) ++ "\x7d"

/-- The texts of the items of an array. -/
def renderItems : List Json → List String
  | [] => []
  | item :: items => render item :: renderItems items

/-- The texts of the members of an object. -/
def renderMembers : List (Text × Json) → List String
  | [] => []
  | (name, value) :: members => (renderString name ++ ":" ++ render value) :: renderMembers members

end

end SlotBooking.Json
