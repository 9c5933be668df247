import SlotBooking.Directory.Lookup
import SlotBooking.Store

/-!
# Managing capacity rules

Managers create, change and delete the rules of their company. The manager is checked, and the
collaborators are asked, before the transaction that reads the rule again and writes it; the two
halves are functions of their own.

* `rule`, `effective`, `ofCompany`: reading. `effective` does not fall back to the standard terms.
* `create`, `update`, `delete`, `deleteFor`: writing, each a check followed by a commit.
-/

namespace SlotBooking.Capacity.Management

open Directory (Lookup)

/-! ## Reading -/

/-- What governs a look-up, if it is a stored rule. -/
def effective (store : Store) (scope : Scope) : Except Failure Governing := do
  match ← store.resolve? scope with
  | some r => return .ofRule r
  | none => refuse (.noRuleFor scope)

/-- The rules of a company, for its managers. -/
def ofCompany (store : Store) (company user : Int) : Lookup Failure (List Rule) := do
  let _ ← Directory.fetchManaged company user
  store.rulesOf company

/-! ## Creating -/

/-- Requires that a term is there and within its permitted range. -/
def requireTerm (f : Field) (n : Option Int) : Except Failure Int :=
  match n with
  | some n => if f.Permits n then .ok n else refuse (.outOfRange f)
  | none => refuse (.outOfRange f)

/-- The terms of a draft that has all of them within their ranges. -/
def requireTerms (d : Draft) : Except Failure Terms := do
  return {
    slotMinutes := ← requireTerm .slotMinutes d.slotMinutes
    maxConcurrent := ← requireTerm .maxConcurrent d.maxConcurrent
    advanceDays := ← requireTerm .advanceDays d.advanceDays
    noticeMinutes := ← requireTerm .noticeMinutes d.noticeMinutes }

/-- Checks who creates a rule, its terms and the address and service that it is for. -/
def checkCreate (user : Int) (scope : Scope) (d : Draft) : Lookup Failure Terms := do
  let c ← Directory.fetchManaged scope.company user
  let terms ← requireTerms d
  match scope.address with
  | some a => Directory.requireAddress c a
  | none => pure ()
  match scope.service with
  | some v =>
    let s ← Directory.fetchService scope.company v
    match scope.address with
    | some a => if s.IsOfferedAt a then pure () else throw (.refused .serviceNotOffered)
    | none => pure ()
  | none => pure ()
  return terms

/-- The transaction that adds a rule, unless there is one for the scope. -/
def commitCreate (store : Store) (scope : Scope) (terms : Terms) :
    Except Failure (Rule × Store) := do
  store.begin (.accessFailed .createRule)
  match ← store.ruleFor? scope with
  | some _ => refuse (.ruleExists scope)
  | none => store.addRule scope (.ofTerms terms)

/-- Creates a rule. -/
def create (store : Store) (user : Int) (scope : Scope) (d : Draft) :
    Lookup Failure (Rule × Store) := do
  let terms ← checkCreate user scope d
  commitCreate store scope terms

/-! ## Changing -/

/-- Changes by name; a value may be missing. -/
abbrev Changes := List (String × Option Int)

/-- The first name, in order of code points, that is no term. -/
def unknownName? (changes : Changes) : Option String :=
  (((changes.map (·.1)).filter fun n => (Field.ofName? n).isNone).mergeSort fun a b =>
    decide (a ≤ b)).head?

/-- A draft with the changes made. -/
def applyChanges (d : Draft) (changes : Changes) : Draft :=
  changes.foldl (fun d (name, n) =>
    match Field.ofName? name with
    | some f => d.set f n
    | none => d) d

/-- Checks who changes a rule, and that the changes name its terms. -/
def checkUpdate (store : Store) (id user : Int) (changes : Changes) : Lookup Failure Unit := do
  let r ← store.rule id
  let _ ← Directory.fetchManaged r.scope.company user
  match unknownName? changes with
  | some name => throw (.refused (.notUpdatable name))
  | none => pure ()

/-- The transaction that changes a rule, if the merged terms are permitted. -/
def commitUpdate (store : Store) (id : Int) (changes : Changes) :
    Except Failure (Rule × Store) := do
  store.begin (.accessFailed .updateRule)
  let r ← store.rule id
  let terms ← requireTerms (applyChanges (.ofTerms r.terms) changes)
  let r := { r with terms }
  return (r, store.putRule r)

/-- Changes some terms of a rule. -/
def update (store : Store) (id user : Int) (changes : Changes) :
    Lookup Failure (Rule × Store) := do
  checkUpdate store id user changes
  commitUpdate store id changes

/-! ## Deleting -/

/-- Checks who deletes a rule. -/
def checkDelete (store : Store) (id user : Int) : Lookup Failure Unit := do
  let r ← store.rule id
  let _ ← Directory.fetchManaged r.scope.company user

/-- The transaction that deletes a rule. -/
def commitDelete (store : Store) (id : Int) : Except Failure Store := do
  store.begin (.accessFailed .deleteRule)
  let r ← store.rule id
  return store.eraseRule r.id

/-- Deletes a rule. -/
def delete (store : Store) (id user : Int) : Lookup Failure Store := do
  checkDelete store id user
  commitDelete store id

/-- The transaction that deletes the rule stored under exactly a scope. -/
def commitDeleteFor (store : Store) (scope : Scope) : Except Failure Store := do
  store.begin (.accessFailed .deleteRule)
  match ← store.ruleFor? scope with
  | some r => return store.eraseRule r.id
  | none => refuse (.noRuleFor scope)

/-- Deletes the rule stored under exactly a scope. -/
def deleteFor (store : Store) (scope : Scope) (user : Int) : Lookup Failure Store := do
  let _ ← Directory.fetchManaged scope.company user
  commitDeleteFor store scope

end SlotBooking.Capacity.Management
