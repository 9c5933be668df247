import SlotBooking.Json.Lenient

/-!
# Headers of web requests

The value of a header is sent as bytes, of which each is read as the character of its number. Names
are compared without regard to case; of several fields of one name the first counts.

* `Headers.value?`: the value of a name.
* `IsJsonType`: the content types of JSON.
-/

namespace SlotBooking.Web

/-- The fields of a header: their names, and the bytes of their values. -/
structure Headers where
  fields : List (String × List UInt8) := []

namespace Headers

/-- Fields whose values are texts, sent in UTF-8. -/
def ofTexts (fields : List (String × String)) : Headers :=
  ⟨fields.map fun (name, value) => (name, value.toUTF8.toList)⟩

instance : Coe (List (String × String)) Headers := ⟨ofTexts⟩

/-- The text that bytes are, one character each. -/
def textOf (bytes : List UInt8) : String := String.ofList (bytes.map fun b => Char.ofNat b.toNat)

/-- The value of a name, which is given in lower case. -/
def value? (h : Headers) (name : String) : Option String :=
  (h.fields.find? fun field => field.1.map Char.toLower == name).map fun field => textOf field.2

end Headers

/-! ## Content types -/

/-- What is left out around a content type: white space, and four separators of old data formats. -/
def isBlank (c : Char) : Bool :=
  Json.Lenient.isSpace c || (0x1C ≤ c.toNat && c.toNat ≤ 0x1F)

/-- The type and the subtype of a content type without its parameters, in lower case. What does not
have this form is plain text. -/
def mediaType (contentType : String) : List Char × List Char :=
  let name := (contentType.toList.takeWhile (· ≠ ';')).dropWhile isBlank
  let name := (name.reverse.dropWhile isBlank).reverse
  match (name.map Char.toLower).splitOn '/' with
  | [main, sub] => (main, sub)
  | _ => ("text".toList, "plain".toList)

/-- The content type is JSON, or a format that is written in JSON. -/
def IsJsonType (contentType : String) : Prop :=
  let (main, sub) := mediaType contentType
  main = "application".toList ∧ (sub = "json".toList ∨ "+json".toList <:+ sub)

instance (contentType : String) : Decidable (IsJsonType contentType) :=
  inferInstanceAs (Decidable (_ ∧ (_ ∨ _)))

end SlotBooking.Web
