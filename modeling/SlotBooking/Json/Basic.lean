import SlotBooking.Number.Binary64
import SlotBooking.Text.Basic

/-!
# JSON documents

Documents reach the library from collaborators, from the snapshot cache and from web requests, and
leave it as answers. Integers are unbounded and kept apart from binary64 numbers; the members of an
object keep their order, and of two with one name the later counts. Strings and names are texts,
which may hold lone surrogates.

* `member?`, `members?`, `items?`: looking into a document.
* `finite`: the document with `null` for what is no number.
* `texts`, `numbers`, `nesting`: what a document holds, and how deep.
-/

namespace SlotBooking

/-- A JSON document. -/
inductive Json where
  | null
  | bool (b : Bool)
  | int (n : Int)
  | float (x : Binary64)
  | str (t : Text)
  | arr (items : List Json)
  | obj (members : List (Text × Json))
deriving Inhabited

namespace Json

/-- The value of the last member of that name; `none` for what is not an object. -/
def member? (name : String) : Json → Option Json
  | obj members => (members.reverse.find? (·.1 == .ofString name)).map (·.2)
  | _ => none

/-- The members of an object. -/
def members? : Json → Option (List (Text × Json))
  | obj members => some members
  | _ => none

/-- The items of an array. -/
def items? : Json → Option (List Json)
  | arr items => some items
  | _ => none

/-- A value that may be missing, written as `null` then. -/
def ofOption {α : Type} (f : α → Json) : Option α → Json
  | none => null
  | some a => f a

mutual

/-- The document with `null` in place of every infinity and NaN. -/
def finite : Json → Json
  | float x => if x.IsFinite then float x else null
  | arr items => arr (finiteItems items)
  | obj members => obj (finiteMembers members)
  | j => j

/-- The items with `null` in place of every infinity and NaN. -/
def finiteItems : List Json → List Json
  | [] => []
  | item :: items => finite item :: finiteItems items

/-- The members with `null` in place of every infinity and NaN. -/
def finiteMembers : List (Text × Json) → List (Text × Json)
  | [] => []
  | (name, value) :: members => (name, finite value) :: finiteMembers members

end

/-! ## Contents -/

mutual

/-- The names and strings in a document, in order. -/
def texts : Json → List Text
  | str t => [t]
  | arr items => textsOfItems items
  | obj members => textsOfMembers members
  | _ => []

/-- The names and strings in items. -/
def textsOfItems : List Json → List Text
  | [] => []
  | item :: items => texts item ++ textsOfItems items

/-- The names and strings in members. -/
def textsOfMembers : List (Text × Json) → List Text
  | [] => []
  | (name, value) :: members => name :: texts value ++ textsOfMembers members

end

mutual

/-- The binary64 numbers in a document, in order. -/
def numbers : Json → List Binary64
  | float x => [x]
  | arr items => numbersOfItems items
  | obj members => numbersOfMembers members
  | _ => []

/-- The binary64 numbers in items. -/
def numbersOfItems : List Json → List Binary64
  | [] => []
  | item :: items => numbers item ++ numbersOfItems items

/-- The binary64 numbers in members. -/
def numbersOfMembers : List (Text × Json) → List Binary64
  | [] => []
  | (_, value) :: members => numbers value ++ numbersOfMembers members

end

mutual

/-- How many arrays and objects stand within each other. Empty ones do not count. -/
def nesting : Json → Nat
  | arr (item :: items) => max (nesting item) (nestingOfItems items) + 1
  | obj ((_, value) :: members) => max (nesting value) (nestingOfMembers members) + 1
  | _ => 0

/-- The deepest nesting of items. -/
def nestingOfItems : List Json → Nat
  | [] => 0
  | item :: items => max (nesting item) (nestingOfItems items)

/-- The deepest nesting of members. -/
def nestingOfMembers : List (Text × Json) → Nat
  | [] => 0
  | (_, value) :: members => max (nesting value) (nestingOfMembers members)

end

/-- The first run of lone surrogates in a document. -/
def unencodable? (j : Json) : Option Text.Unencodable := j.texts.findSome? Text.unencodable?

/-- A document that standard JSON can hold: all numbers are finite and all texts can be encoded. -/
def IsStandard (j : Json) : Prop := (∀ x ∈ j.numbers, x.IsFinite) ∧ j.unencodable? = none

instance (j : Json) : Decidable j.IsStandard := inferInstanceAs (Decidable (_ ∧ _))

@[simp] theorem ofOption_none {α : Type} (f : α → Json) : ofOption f none = null := rfl

@[simp] theorem ofOption_some {α : Type} (f : α → Json) (a : α) : ofOption f (some a) = f a := rfl

end Json

end SlotBooking
