import SlotBooking.Capacity.Scope
import SlotBooking.Capacity.Terms

/-!
# Capacity rules and what governs a look-up

A stored rule has an id, a scope and terms. What governs a look-up is the first stored rule at the
most specific candidate scope that has one, or else the standard terms.

* `resolve?`: the stored rule that governs, if there is one.
* `governing`: the terms that govern, with where they come from.
-/

namespace SlotBooking.Capacity

/-- A stored rule. -/
structure Rule where
  id : Int
  scope : Scope
  terms : Terms
deriving DecidableEq, Repr

/-- Where governing terms come from. -/
inductive Origin where
  /-- No rule is stored; the company that was asked about, if any. -/
  | standard (company : Option Int)
  /-- The stored rule of that id and scope. -/
  | stored (id : Int) (scope : Scope)
deriving DecidableEq, Repr

/-- Terms that govern a look-up. -/
structure Governing where
  terms : Terms
  origin : Origin
deriving DecidableEq, Repr

namespace Governing

/-- The terms of a stored rule. -/
def ofRule (r : Rule) : Governing := ⟨r.terms, .stored r.id r.scope⟩

/-- The standard terms, for a company. -/
def standard (company : Option Int) : Governing := ⟨.standard, .standard company⟩

/-- The id of the stored rule. -/
def id? (g : Governing) : Option Int :=
  match g.origin with
  | .standard _ => none
  | .stored id _ => some id

/-- The company of the rule or of the look-up. -/
def company? (g : Governing) : Option Int :=
  match g.origin with
  | .standard company => company
  | .stored _ scope => some scope.company

/-- The address to which the rule is narrowed. -/
def address? (g : Governing) : Option Int :=
  match g.origin with
  | .standard _ => none
  | .stored _ scope => scope.address

/-- The service to which the rule is narrowed. -/
def service? (g : Governing) : Option Int :=
  match g.origin with
  | .standard _ => none
  | .stored _ scope => scope.service

/-- The level of the rule; standard terms count as the whole company's. -/
def level (g : Governing) : Level :=
  match g.origin with
  | .standard _ => .global
  | .stored _ scope => scope.level

end Governing

/-- The first rule stored under exactly that scope. -/
def ruleFor? (rules : List Rule) (scope : Scope) : Option Rule :=
  rules.find? fun r => decide (r.scope = scope)

/-- The rule at the most specific candidate scope that has one. -/
def resolve? (rules : List Rule) (scope : Scope) : Option Rule :=
  scope.candidates.findSome? (ruleFor? rules)

/-- What governs a look-up. -/
def governing (rules : List Rule) (scope : Scope) : Governing :=
  match resolve? rules scope with
  | some r => .ofRule r
  | none => .standard (some scope.company)

end SlotBooking.Capacity
