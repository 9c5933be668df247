/-!
# Scopes of capacity rules

A capacity rule holds for a company, and may be narrowed to one address, to one service, or to one
service at one address. How it is narrowed is its level.

* `Scope.level`: from the service at an address, the most specific, to the whole company.
* `Scope.candidates`: the scopes that a look-up probes, the most specific first. A level that needs
  an id which the look-up does not give is left out.
-/

namespace SlotBooking.Capacity

/-- How far a scope is narrowed, the most specific level first. -/
inductive Level where
  | serviceAtAddress | address | service | global
deriving DecidableEq, Repr

/-- The written form of a level. -/
def Level.text : Level → String
  | serviceAtAddress => "service_at_address"
  | address => "address"
  | service => "service"
  | global => "global"

/-- What a rule holds for; an id that is not given stands for all. -/
structure Scope where
  company : Int
  address : Option Int := none
  service : Option Int := none
deriving DecidableEq, Repr

namespace Scope

/-- The level, by which ids are given; any integer is an id. -/
def level (s : Scope) : Level :=
  match s.address, s.service with
  | some _, some _ => .serviceAtAddress
  | some _, none => .address
  | none, some _ => .service
  | none, none => .global

/-- The scopes to probe for a look-up, the most specific first. -/
def candidates (s : Scope) : List Scope :=
  match s.address, s.service with
  | some a, some v => [⟨s.company, some a, some v⟩, ⟨s.company, some a, none⟩,
      ⟨s.company, none, some v⟩, ⟨s.company, none, none⟩]
  | some a, none => [⟨s.company, some a, none⟩, ⟨s.company, none, none⟩]
  | none, some v => [⟨s.company, none, some v⟩, ⟨s.company, none, none⟩]
  | none, none => [⟨s.company, none, none⟩]

/-- The ids that are given. -/
def ids (s : Scope) : List Int := s.company :: s.address.toList ++ s.service.toList

/-- An id, or `None` where none is given. -/
def idText : Option Int → String
  | some n => toString n
  | none => "None"

/-- The form in which messages name a scope. -/
def text (s : Scope) : String :=
  "company=" ++ toString s.company ++ " address=" ++ idText s.address ++ " service="
    ++ idText s.service

end Scope

end SlotBooking.Capacity
