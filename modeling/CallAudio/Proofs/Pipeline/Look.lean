import CallAudio.Proofs.Pipeline.Run

/-!
Turns that look at a call: which call a turn looks at, how often, and what the answer of the turn
says of the last look.
-/

namespace CallAudio.Pipeline

open Controller (Moves)

/-! ## The call of a turn -/

/-- What a step answers of a call or a submission, if it is over. -/
def Answer.result? : Answer → Option (Except RouteError Unit)
  | outcome r => some r
  | begun _ r | polled r => r
  | _ => none

/-- Whether a step sees a call through to its end. -/
def Step.seesThrough : Step → Bool
  | await _ | finish _ => true
  | _ => false

/-- The call that a turn looks at. A call can be looked at only while there is a handle, and is seen
through only as far as the bound allows. -/
def Turn.look? (t : Turn) : Option WaitingCall :=
  if t.before.controller.held ∧ (t.step.seesThrough → 0 < t.fuel) then
    match t.step with
    | .await kind | .begin kind => some (t.before.controller.openCall kind).1
    | .poll slot | .finish slot => t.before.call? slot
    | _ => none
  else none

/-- How a turn looks at a call: once, or until the call is over. -/
inductive Turn.Looks (t : Turn) (w : WaitingCall) (c : Controller) : Prop
  | once (through : t.step.seesThrough = false)
      (result : t.seen.answer.result? = (ofOutcome (c.poll w).value.1).1)
      (after : t.after.controller = (c.poll w).value.2)
  | through (through : t.step.seesThrough = true) (looks : 0 < t.fuel)
      (result : t.seen.answer.result? = (c.complete t.fuel t.fuel w).value.1)
      (after : t.after.controller = ((c.complete t.fuel t.fuel w).value.2.drive t.fuel).value)

theorem result?_elim (answer : Option (Except RouteError Unit)) :
    (answer.elim Answer.nothing Answer.outcome).result? = answer := by
  cases answer <;> rfl

/-- The controller right after the looks of a turn at its call, before the worker runs on. -/
def Turn.looked (t : Turn) : Controller :=
  match t.step with
  | .await kind =>
    let opened := t.before.controller.openCall kind
    (opened.2.complete t.fuel t.fuel opened.1).value.2
  | .finish slot =>
    match t.before.call? slot with
    | none => t.after.controller
    | some w => (t.before.controller.complete t.fuel t.fuel w).value.2
  | _ => t.after.controller

theorem Turn.looked_of_once {t : Turn} (once : t.step.seesThrough = false) :
    t.looked = t.after.controller := by
  obtain ⟨p, fuel, s⟩ := t
  cases s with
  | await | finish => cases once
  | _ => rfl

/-- The call of a turn has its seat among the open calls. It is looked at in the controller as it
was, except for the ticket of a call just opened. -/
theorem Turn.seated {t : Turn} {w : WaitingCall} (h : t.look? = some w) :
    ∃ nextTicket before after,
      Attended.Course (fun kind => t.step.opens? = some kind) t.before.attended
        ⟨{ t.before.controller with nextTicket }, before ++ w :: after⟩ ∧
      t.Looks w { t.before.controller with nextTicket } ∧
      (t.step.seesThrough = true → t.looked =
        (Controller.complete t.fuel t.fuel { t.before.controller with nextTicket } w).value.2) := by
  obtain ⟨p, fuel, s⟩ := t
  unfold look? at h
  split at h
  · rename_i able
    obtain ⟨held, looks⟩ := able
    have done (needs : s.needsHandle = true) :
        (p.step fuel s).value = (heldStep fuel p s).value := by
      rw [value_step_of_needsHandle needs, if_pos held]
    cases s with
    | await kind =>
      cases h
      refine ⟨p.controller.nextTicket + 1, p.slots.reduceOption, [], .single (.openCall _ _ rfl),
        .through rfl (looks rfl) ?_ ?_, fun _ => rfl⟩
      · exact (congrArg (·.1.result?) (done rfl)).trans (result?_elim _)
      · exact congrArg (·.2.controller) (done rfl)
    | begin kind =>
      cases h
      have value := (done rfl).trans (value_heldStep_begin fuel p kind)
      exact ⟨p.controller.nextTicket + 1, p.slots.reduceOption, [], .single (.openCall _ _ rfl),
        .once rfl (congrArg (·.1.result?) value) (congrArg (·.2.controller) value), nofun⟩
    | poll slot =>
      obtain ⟨before, after, seat, _⟩ := reduceOption_set h
      have value := (done rfl).trans (value_heldStep_poll fuel h)
      refine ⟨p.controller.nextTicket, before, after, ?_,
        .once rfl (congrArg (·.1.result?) value) (congrArg (·.2.controller) value), nofun⟩
      rw [attended, seat]
    | finish slot =>
      obtain ⟨before, after, seat, _⟩ := reduceOption_set h
      have value := (done rfl).trans (value_heldStep_finish fuel h)
      refine ⟨p.controller.nextTicket, before, after, ?_, .through rfl (looks rfl) ?_ ?_, ?_⟩
      · rw [attended, seat]
      · exact (congrArg (·.1.result?) value).trans (result?_elim _)
      · exact congrArg (·.2.controller) value
      · intro _
        simp only [looked, show p.call? slot = some w from h]
    | _ => cases h
  · cases h

theorem Turn.looks {t : Turn} {w : WaitingCall} (h : t.look? = some w) :
    ∃ nextTicket, t.Looks w { t.before.controller with nextTicket } := by
  obtain ⟨nextTicket, _, _, _, looks, _⟩ := Turn.seated h
  exact ⟨nextTicket, looks⟩

variable {t : Turn} {w : WaitingCall} {c : Controller}

theorem Turn.Looks.moves (l : t.Looks w c) : Moves (c.poll w).value.2 t.after.controller := by
  cases l with
  | once _ _ after =>
    rw [after]
  | through _ looks _ after =>
    rw [after]
    exact (Controller.complete_moves_after_look looks).trans (Controller.drive_moves _ _)

/-- The answer is that of the last look, and the controller right after the looks is as that look
left it. -/
theorem Turn.last_look (look : t.look? = some w) {r : Except RouteError Unit}
    (answer : t.seen.answer.result? = some r) :
    ∃ before after d stage,
      Attended.Course (fun kind => t.step.opens? = some kind) t.before.attended
        ⟨d, before ++ { w with stage } :: after⟩ ∧
      (d.poll { w with stage }).value.1 = .done r ∧
      t.looked = (d.poll { w with stage }).value.2 := by
  obtain ⟨nextTicket, before, after, course, looks, looked⟩ := Turn.seated look
  cases looks with
  | once once result left =>
    rw [result] at answer
    refine ⟨before, after, _, w.stage, course, ?_, (looked_of_once once).trans left⟩
    cases finished : (Controller.poll { t.before.controller with nextTicket } w).value.1 with
    | pending w' => simp [finished, ofOutcome] at answer
    | done r' => simpa [finished, ofOutcome] using answer
  | through through _ result _ =>
    rw [result] at answer
    obtain ⟨d, stage, onward, finished, left⟩ := Attended.complete_answer answer before after
    exact ⟨before, after, d, stage, course.trans onward, finished, (looked through).trans left⟩

theorem Turn.moves_to_looked (look : t.look? = some w) : Moves t.before.controller t.looked := by
  obtain ⟨nextTicket, _, _, course, looks, looked⟩ := Turn.seated look
  cases looks with
  | once once =>
    rw [looked_of_once once]
    exact t.moves
  | through through =>
    rw [looked through]
    exact course.moves.controller.trans (Controller.complete_moves _ _ _ _)

/-- After the looks the worker may run on. -/
theorem Turn.looked_moves (look : t.look? = some w) : Moves t.looked t.after.controller := by
  obtain ⟨nextTicket, _, _, _, looks, looked⟩ := Turn.seated look
  cases looks with
  | once once => rw [looked_of_once once]
  | through through _ _ left =>
    rw [looked through, left]
    exact Controller.drive_moves _ _

/-- A call that is looked at was just opened or is one of the open calls. -/
theorem Turn.mem_calls_of_look? (h : t.look? = some w) :
    w.stage = .fresh ∨ w ∈ t.before.attended.calls := by
  have open_of_call? {slot : Nat} (h : t.before.call? slot = some w) :
      w ∈ t.before.attended.calls := by
    obtain ⟨before, after, split, _⟩ := reduceOption_set h
    rw [attended, split]
    exact List.mem_append_right _ List.mem_cons_self
  unfold look? at h
  split at h
  · split at h
    · cases h
      exact .inl rfl
    · cases h
      exact .inl rfl
    · exact .inr (open_of_call? h)
    · exact .inr (open_of_call? h)
    · cases h
  · cases h

end CallAudio.Pipeline
