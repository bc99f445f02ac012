import CallAudio.Proofs.Controller.Move
import CallAudio.Proofs.Registry.Tracking

/-!
Routing focus follows the registry, but for one case. When the last call is removed and focus is
released, the queue may have no room left for the clearing of the device; the call is then kept, yet
without focus, and a call that is added to it gets none either. Only once the registry has been empty
does focus follow it again.
-/

namespace CallAudio

/-- The argument with which an item switches focus, if it does. -/
def Item.focus? : Item → Option (Option Int)
  | message m => if m.message = .switchFocus then some m.arg else none
  | task _ _ => none

namespace Controller

/-- The argument of the last message accepted that switches focus. -/
def lastFocus (c : Controller) : Option (Option Int) :=
  (c.accepted.filterMap Item.focus?).getLast?

theorem lastFocus_accept (c : Controller) (item : Item) :
    (c.accept item).lastFocus = item.focus?.or c.lastFocus := by
  cases h : item.focus? <;> simp [lastFocus, accept, h]

/-- Accepting items that do not switch focus leaves the last switch what it was. -/
theorem lastFocus_of_since {c c' : Controller} (grown : c.accepted <+: c'.accepted)
    (quiet : ∀ item ∈ since c.accepted c'.accepted, item.focus? = none) :
    c'.lastFocus = c.lastFocus := by
  obtain ⟨items, h⟩ := grown
  rw [← h, since_append] at quiet
  have none : items.filterMap Item.focus? = [] := List.filterMap_eq_nil_iff.2 quiet
  rw [lastFocus, ← h, List.filterMap_append, none, List.append_nil]
  rfl

end Controller

namespace Registry

open Controller (lastFocus_accept)

/-- The item by which the registry takes or gives back focus. -/
def focusItem (arg : Int) : Item :=
  Item.ofSubmission {} (.withArg .switchFocus arg)

/-- The item by which it has the active device cleared. -/
def clearItem : Item :=
  Item.ofSubmission {} (.task .clearActive)

theorem value_submit_focus (c : Controller) (arg : Int) :
    (Adapter.submit c [] (.withArg .switchFocus arg)).value = (c.enqueue (focusItem arg)).value :=
  rfl

theorem value_submit_clear (c : Controller) :
    (Adapter.submit c [] (.task .clearActive)).value = (c.enqueue clearItem).value :=
  rfl

/-- Both submissions of a release are refused, or only the second, or none. -/
theorem release_cases (c : Controller) :
    (release c).value = (.ok (), (c.accept (focusItem Focus.none)).accept clearItem) ∨
      (release c).value = (.error (.queueFull "task"), c.accept (focusItem Focus.none)) ∨
      ∃ e, e ≠ .queueFull "task" ∧ (release c).value = (.error e, c) := by
  have focus := Controller.value_enqueue c (focusItem Focus.none)
  have clear := Controller.value_enqueue c clearItem
  have clear' := Controller.value_enqueue (c.accept (focusItem Focus.none)) clearItem
  have still : (c.accept (focusItem Focus.none)).isRunning = c.isRunning := rfl
  simp only [value_release, value_submit_focus, value_submit_clear]
  rw [focus]
  cases running : c.isRunning with
  | false =>
    rw [running] at clear
    refine .inr (.inr ⟨.workerStopped, by decide, ?_⟩)
    simp [clear]
  | true =>
    cases room : c.mailbox.hasRoom with
    | false =>
      -- nothing runs between the two submissions, so the second finds no room either
      rw [running, room] at clear
      refine .inr (.inr ⟨.queueFull "SWITCH_FOCUS", by decide, ?_⟩)
      simp [clear]
      rfl
    | true =>
      rw [still, running] at clear'
      simp only [if_true, clear']
      split
      · exact .inl rfl
      · exact .inr (.inl rfl)

variable {half : Bool} {r : Registry} {c : Controller}

/-- The calls that are tracked hold focus unless they were half released. -/
def Holds (half : Bool) (r : Registry) (c : Controller) : Prop :=
  r.calls ≠ [] → (c.lastFocus = some (some Focus.active) ↔ half = false)

/-- Whether an answer says that there was no room to have the device cleared. -/
def uncleared (answer : Except RouteError Unit) : Bool :=
  match answer with
  | .error e => e == .queueFull "task"
  | .ok () => false

theorem calls_of_add_ok (r : Registry) {id : CallId} (h : (r.add c id).value.1 = .ok ()) :
    (r.add c id).value.2.1.calls ≠ [] := by
  rw [value_add] at h ⊢
  split at h <;> rename_i tracked
  · simpa [tracked] using calls_ne_nil_of_contains tracked
  · rw [if_neg tracked]
    split at h <;> rename_i some
    · simp [some, track]
    · rw [if_neg some]
      split at h <;> rename_i answered
      · cases h
      · simp [track]

/-- The first call takes focus, and the others share what there is. -/
theorem Holds.add (h : Holds half r c) (fresh : r.calls = [] → half = false) (id : CallId) :
    Holds half (r.add c id).value.2.1 (r.add c id).value.2.2 := by
  rw [value_add]
  split
  · exact h
  · split
    · rename_i some
      intro _
      exact h (by simpa [hasCalls] using some)
    · rename_i none
      have empty : r.calls = [] := by simpa [hasCalls] using none
      rw [value_submit_focus]
      rcases Controller.enqueue_cases c (focusItem Focus.active) with ok | ⟨e, refused⟩
      · rw [ok]
        intro _
        rw [lastFocus_accept]
        exact iff_of_true rfl (fresh empty)
      · rw [refused]
        exact h

theorem Holds.remove (h : Holds half r c) (id : CallId) :
    Holds (half || uncleared (r.remove c id).value.1) (r.remove c id).value.2.1
      (r.remove c id).value.2.2 := by
  rw [value_remove]
  split
  · rename_i tracked
    have calls := h (calls_ne_nil_of_contains tracked)
    split
    · rename_i one
      rcases release_cases c with ok | full | ⟨e, other, refused⟩
      · rw [ok]
        intro left
        exact absurd (calls_untrack_of_count tracked one) left
      · rw [full]
        intro _
        rw [lastFocus_accept]
        refine iff_of_false ?_ (by simp [uncleared])
        show some (some Focus.none) ≠ some (some Focus.active)
        decide
      · rw [refused]
        have name : (e == .queueFull "task") = false := beq_false_of_ne other
        simpa [uncleared, name] using h
    · intro _
      simpa [uncleared] using calls
  · simpa [uncleared] using h

end Registry

end CallAudio
