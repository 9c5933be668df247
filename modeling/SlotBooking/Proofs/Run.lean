import Mathlib.Data.List.Induction
import SlotBooking.Proofs.Effect

/-!
# Runs of the service

A run is a sequence of operations on one store. Between them the clock, the collaborators with their
cache, and the write lock of other sessions may change in any way, so an event brings its own.

* `Event.outcome`, `Event.next`: what an event ends with, and the store after it.
* `Event.next_cases`: an event fails and leaves the tables, or has an effect.
* `Store.run`: the store after a list of events.
-/

namespace SlotBooking

/-- An operation of a run, with the surroundings as it meets them. -/
structure Event where
  operation : Operation
  now : Instant
  collaborators : Directory.Collaborators
  /-- Another session holds the write lock. -/
  writeLocked : Bool

namespace Event

/-- The world in which an event happens. -/
def world (e : Event) (s : Store) : World :=
  ⟨{ s with writeLocked := e.writeLocked }, e.now, e.collaborators⟩

/-- What an event ends with. -/
def outcome (e : Event) (s : Store) : Except Failure Outcome :=
  ((e.world s).perform e.operation).1

/-- The store after an event. -/
def next (e : Event) (s : Store) : Store := ((e.world s).perform e.operation).2.store

/-- An event either fails, and then leaves the tables as they are, or has an effect. -/
theorem next_cases (e : Event) (s : Store) :
    (∃ f, e.outcome s = .error f ∧ e.next s = (e.world s).store) ∨
      ∃ out, e.outcome s = .ok out ∧
        Effect (e.world s).store e.now e.collaborators e.operation out (e.next s) :=
  (e.world s).perform_cases e.operation

end Event

namespace Store

/-- The store after a list of events. -/
def run (s : Store) (es : List Event) : Store := es.foldl (fun s e => e.next s) s

@[simp] theorem run_nil (s : Store) : s.run [] = s := rfl

@[simp] theorem run_concat (s : Store) (es : List Event) (e : Event) :
    s.run (es ++ [e]) = e.next (s.run es) := by
  simp [run]

theorem run_append (s : Store) (es es' : List Event) : s.run (es ++ es') = (s.run es).run es' := by
  simp [run]

end Store

end SlotBooking
