/-!
# Booking statuses

A booking has one of seven statuses. The store keeps their names as plain text, so every question
about a status is also asked of a text: a text that is no status counts as active and allows
nothing else.

* `Status.IsActive`: the booking takes up a place.
* `Status.IsCancellable`, `Status.IsCancelled`, `Status.IsCompleted`.
* `ActiveText` and its companions: the same of a stored text.
-/

namespace SlotBooking

/-- The status of a booking. -/
inductive Status where
  | pending | confirmed | inProgress | completed | cancelledByUser | cancelledByCompany | noShow
deriving DecidableEq, Repr

namespace Status

/-- All statuses. -/
def all : List Status :=
  [pending, confirmed, inProgress, completed, cancelledByUser, cancelledByCompany, noShow]

/-- The name of a status. -/
def text : Status → String
  | pending => "pending"
  | confirmed => "confirmed"
  | inProgress => "in_progress"
  | completed => "completed"
  | cancelledByUser => "cancelled_by_user"
  | cancelledByCompany => "cancelled_by_company"
  | noShow => "no_show"

/-- The status of that name. -/
def ofText? (s : String) : Option Status := all.find? fun t => t.text == s

@[simp] theorem ofText?_text (t : Status) : ofText? t.text = some t := by cases t <;> decide

theorem text_of_ofText? {s : String} {t : Status} (h : ofText? s = some t) : t.text = s := by
  have := List.find?_some h
  simpa using this

theorem text_injective {s t : Status} (h : s.text = t.text) : s = t := by
  have := congrArg ofText? h
  simpa using this

/-- The booking takes up a place. -/
def IsActive : Status → Prop
  | cancelledByUser | cancelledByCompany | noShow => False
  | _ => True

/-- The booking may still be cancelled. -/
def IsCancellable : Status → Prop
  | pending | confirmed => True
  | _ => False

/-- The booking was cancelled, by either side. -/
def IsCancelled : Status → Prop
  | cancelledByUser | cancelledByCompany => True
  | _ => False

/-- The booked time has passed, with or without the customer. -/
def IsCompleted : Status → Prop
  | completed | noShow => True
  | _ => False

instance (s : Status) : Decidable s.IsActive := by cases s <;> unfold IsActive <;> infer_instance
instance (s : Status) : Decidable s.IsCancellable := by
  cases s <;> unfold IsCancellable <;> infer_instance
instance (s : Status) : Decidable s.IsCancelled := by
  cases s <;> unfold IsCancelled <;> infer_instance
instance (s : Status) : Decidable s.IsCompleted := by
  cases s <;> unfold IsCompleted <;> infer_instance

theorem not_isActive_of_isCancelled {s : Status} (h : s.IsCancelled) : ¬ s.IsActive := by
  cases s <;> simp_all [IsCancelled, IsActive]

theorem isActive_of_isCancellable {s : Status} (h : s.IsCancellable) : s.IsActive := by
  cases s <;> simp_all [IsCancellable, IsActive]

/-! ## Stored texts -/

/-- A booking with this status text takes up a place. -/
def ActiveText (s : String) : Prop := ∀ t, ofText? s = some t → t.IsActive

/-- A booking with this status text may be cancelled. -/
def CancellableText (s : String) : Prop := ∃ t, ofText? s = some t ∧ t.IsCancellable

/-- The names of the statuses that take up no place. -/
def inactiveTexts : List String := ["cancelled_by_user", "cancelled_by_company", "no_show"]

/-- The status text of a cancelled booking. -/
def CancelledText (s : String) : Prop := ∃ t, ofText? s = some t ∧ t.IsCancelled

/-- The status text of a booking whose time has passed. -/
def CompletedText (s : String) : Prop := ∃ t, ofText? s = some t ∧ t.IsCompleted

/-- A property of the status that a text names is decidable if it is so of every status. -/
def decideText (s : String) (P : Status → Prop) [DecidablePred P] :
    Decidable (∃ t, ofText? s = some t ∧ P t) :=
  match h : ofText? s with
  | none => isFalse fun ⟨_, ht, _⟩ => by simp at ht
  | some t => if hp : P t then isTrue ⟨t, rfl, hp⟩ else isFalse fun ⟨u, hu, hpu⟩ => by
      cases hu; exact hp hpu

instance (s : String) : Decidable (CancellableText s) := decideText s _
instance (s : String) : Decidable (CancelledText s) := decideText s _
instance (s : String) : Decidable (CompletedText s) := decideText s _

instance (s : String) : Decidable (ActiveText s) :=
  match decideText s fun t => ¬ t.IsActive with
  | isTrue h => isFalse fun ha => let ⟨t, ht, hn⟩ := h; hn (ha t ht)
  | isFalse h => isTrue fun t ht => Decidable.of_not_not fun hn => h ⟨t, ht, hn⟩

@[simp] theorem activeText_text (t : Status) : ActiveText t.text ↔ t.IsActive := by
  simp [ActiveText]

/-- A text is active unless it names an inactive status. -/
theorem activeText_iff {s : String} : ActiveText s ↔ s ∉ inactiveTexts := by
  constructor
  · intro h hs
    have hinactive : ∀ t ∈ inactiveTexts, ¬ ActiveText t := by decide
    exact hinactive s hs h
  · intro h t ht
    have ht := text_of_ofText? ht
    cases t with
    | pending | confirmed | inProgress | completed => exact trivial
    | cancelledByUser | cancelledByCompany | noShow => exact absurd (ht ▸ by decide) h

@[simp] theorem cancellableText_text (t : Status) : CancellableText t.text ↔ t.IsCancellable := by
  simp [CancellableText]

@[simp] theorem cancelledText_text (t : Status) : CancelledText t.text ↔ t.IsCancelled := by
  simp [CancelledText]

end Status

end SlotBooking
