import CallAudio.Proofs.Controller.LeftBehind
import CallAudio.Proofs.Pipeline.Look

/-!
Shutdowns and flushes along a run. A shutdown never has anything accepted and then dropped: it ends
the taking of submissions at once, and is over only when all that was accepted has been processed; a
flush that it leaves behind fails.
-/

namespace CallAudio.Pipeline

open Controller (Moves Misses Closes StopsWithin)

/-! ## Shutdowns -/

variable {setup : Setup} {past earlier later : List Turn} {p : Pipeline} {t : Turn}
  {w : WaitingCall}

/-- From the first look at a shutdown on nothing is accepted any more. -/
theorem Run.shut (h : Run setup past p) (split : past = earlier ++ t :: later)
    (look : t.look? = some w) (kind : w.kind = .shutdown) :
    p.controller.Shut t.before.controller.accepted := by
  obtain ⟨nextTicket, looks⟩ := Turn.looks look
  have accepting := Controller.accepting_poll { t.before.controller with nextTicket } w
  have shut : Controller.Shut t.before.controller.accepted
      ({ t.before.controller with nextTicket }.poll w).value.2 := by
    constructor
    · rw [accepting]
      by_cases first : w.stage = .fresh
      · simp [WaitingCall.begins, kind, first]
      · have open_call := (Turn.mem_calls_of_look? look).resolve_left first
        have begun := (h.before split).sound.stopsLast.begun w open_call kind first
        rw [show t.before.controller.accepting = false from begun, Bool.false_and]
    · obtain ⟨_, _, frame, _⟩ := Controller.poll_frame { t.before.controller with nextTicket } w
      rw [frame]
  have onward : Moves _ p.controller := looks.moves.trans (h.moves split)
  exact onward.keep Controller.Shut.move shut

/-- A shutdown that answers without an error has seen the worker end. -/
theorem Turn.ended_of_shutdown (look : t.look? = some w) (kind : w.kind = .shutdown)
    (answer : t.seen.answer.result? = some (.ok ())) :
    t.after.controller.phase.alive = false := by
  obtain ⟨_, _, d, stage, _, finished, left⟩ := Turn.last_look look answer
  have ended : t.looked.phase.alive = false := by
    rw [left, Controller.phase_poll]
    exact (Controller.looked_poll d { w with stage }).ended_of_shutdown kind finished
  rw [(Turn.looked_moves look).phase_of_ended ended]
  exact ended

/-! ## Flushes that are left behind -/

/-- The flush is open, and the marker of a shutdown is in the queue before its own, which may still
have to be put in. -/
def LeftBehind (p : Pipeline) (w : WaitingCall) : Prop :=
  w.kind = .flush ∧ some w ∈ p.slots ∧
    ∃ ahead behind, p.controller.mailbox.queue = ahead ++ .stop :: behind ∧
      (w.stage = .entered → w.command ∈ behind)

theorem LeftBehind.misses (h : p.LeftBehind w) (ticketed : p.attended.Ticketed) :
    Misses w.ticket p.controller := by
  obtain ⟨kind, slot, ahead, behind, queue, entered⟩ := h
  have marker : w.command.flush? = some w.ticket := by
    rw [WaitingCall.flush?_command, if_pos kind]
  have markers : p.controller.markers =
      (p.controller.acknowledged ++ ahead.filterMap Command.flush?) ++
        behind.filterMap Command.flush? := by
    rw [Controller.markers, queue, List.filterMap_append, List.filterMap_cons_none rfl,
      List.append_assoc]
  -- a marker behind that of the shutdown is not before it as well
  have missing : w.ticket ∉ p.controller.acknowledged ++ ahead.filterMap Command.flush? := by
    by_cases stage : w.stage = .entered
    · have once : p.controller.markers.Nodup := ticketed.once
      rw [markers] at once
      intro before
      exact List.disjoint_of_nodup_append once before
        (List.mem_filterMap.2 ⟨_, entered stage, marker⟩)
    · have outside : w.ticket ∉ p.controller.markers :=
        ticketed.outside w (List.reduceOption_mem_iff.2 slot) stage
      rw [markers, List.mem_append, not_or] at outside
      exact outside.1
  rw [List.mem_append, not_or] at missing
  refine ⟨missing.1, fun _ => ⟨ahead, behind, queue, ?_⟩⟩
  intro early
  exact missing.2 (List.mem_filterMap.2 ⟨_, early, rfl⟩)

/-- A missed flush answers nothing but that it failed. -/
theorem Turn.failed_of_misses (look : t.look? = some w) (kind : w.kind = .flush)
    (misses : Misses w.ticket t.before.controller) {r : Except RouteError Unit}
    (answer : t.seen.answer.result? = some r) : r = .error .workerStopped := by
  obtain ⟨_, _, d, stage, course, finished, _⟩ := Turn.last_look look answer
  have still : Misses w.ticket d := course.moves.controller.keep Misses.move misses
  exact Misses.answer (w := { w with stage }) still kind (Controller.looked_poll d _) finished

/-- It answers so as soon as the worker has ended, and always if it is seen through with a bound
that lets the worker come to the marker of the shutdown. -/
theorem Turn.answer_of_misses (look : t.look? = some w) (kind : w.kind = .flush)
    (misses : Misses w.ticket t.before.controller) (closes : Closes t.before.controller)
    (ends : t.before.controller.phase.alive = false ∨
      t.step.seesThrough = true ∧ t.before.controller.mailbox.queue.length < t.fuel) :
    t.seen.answer.result? = some (.error .workerStopped) := by
  obtain ⟨nextTicket, looks⟩ := Turn.looks look
  have misses : Misses w.ticket { t.before.controller with nextTicket } := misses
  have closes : Closes { t.before.controller with nextTicket } := ⟨closes.closed, closes.empty⟩
  by_cases finished : t.before.controller.phase.alive = false
  · cases looks with
    | once _ result =>
      rw [result, misses.answer_of_ended kind closes finished (Controller.looked_poll _ w)]
      rfl
    | through _ fuel result =>
      rw [result]
      exact misses.complete_of_ended kind closes finished t.fuel fuel
  · obtain ⟨through, bound⟩ := ends.resolve_left finished
    cases looks with
    | once once => cases once.symm.trans through
    | through _ fuel result =>
      have marker := misses.length_pos (by simpa using finished)
      rw [result]
      exact misses.complete_of_stopsWithin kind closes (misses.stopsWithin bound)
        (Nat.lt_of_le_of_lt marker bound)

/-! ## Nothing is accepted and then dropped -/

/-- Along a run in which no snapshot fails:

* from the first look at a shutdown on, nothing is accepted any more, be it submitted from outside
  or from within the worker;
* when the worker comes to the marker of a shutdown no items are left in the queue, and everything
  that was accepted has been processed; a worker that ends in order while there are handles comes to
  such a marker;
* a shutdown answers without an error only after the worker has ended in that way;
* a flush whose marker is left behind that of a shutdown never answers without an error; it fails as
  soon as the worker has ended, and does not wait for ever if it is seen through. -/
theorem shutdown_drops_nothing (h : Run setup past p)
    (published : ∀ t ∈ past, ∀ cause, t.after.controller.phase ≠ .crashed cause) :
    (∀ earlier t later w, past = earlier ++ t :: later → t.look? = some w → w.kind = .shutdown →
      p.controller.accepted = t.before.controller.accepted ∧
      ∀ scope s, (p.controller.submit scope s).value = (.error .workerStopped, p.controller)) ∧
    (∀ a, Attended.Moves p.attended a →
      (∀ rest, a.controller.mailbox.queue = .stop :: rest →
        (∀ x ∈ rest, x.item? = none) ∧ a.controller.executed = a.controller.accepted) ∧
      ∀ next, a.controller.step? = some next → next.value.phase = .stopped →
        (∃ rest, a.controller.mailbox.queue = .stop :: rest) ∨
          a.controller.mailbox.queue = [] ∧ a.controller.held = false) ∧
    (∀ t ∈ past, ∀ w, t.look? = some w → w.kind = .shutdown →
      t.seen.answer.result? = some (.ok ()) →
      t.after.controller.phase = .stopped ∧
        t.after.controller.executed = t.after.controller.accepted) ∧
    ∀ earlier t later w, past = earlier ++ t :: later → t.before.LeftBehind w →
      ∀ u ∈ t :: later, ∀ stage, u.look? = some { w with stage } →
        (∀ r, u.seen.answer.result? = some r → r = .error .workerStopped) ∧
        (u.before.controller.phase.alive = false ∨
            u.step.seesThrough = true ∧ u.before.controller.mailbox.queue.length < u.fuel →
          u.seen.answer.result? = some (.error .workerStopped)) := by
  refine ⟨?refused, ?drained, ?finished, ?behind⟩
  case refused =>
    intro earlier t later w split look kind
    have shut := h.shut split look kind
    exact ⟨shut.2, fun scope s =>
      Controller.submit_of_not_running (Controller.isRunning_of_not_accepting shut.1) scope s⟩
  case drained =>
    intro a moves
    refine ⟨fun rest => (moves.keep Attended.Sound.move h.sound).of_stop, ?_⟩
    intro next step
    exact (Controller.worked_of_step? step).ends_in_order
  case finished =>
    intro t ht w look kind answer
    obtain ⟨earlier, later, split⟩ := List.append_of_mem ht
    have ended := Turn.ended_of_shutdown look kind answer
    have stopped : t.after.controller.phase = .stopped := by
      cases phase : t.after.controller.phase with
      | stopped => rfl
      | crashed cause => exact absurd phase (published t ht cause)
      | fresh | running => cases ended.symm.trans (congrArg Phase.alive phase)
    exact ⟨stopped, (h.after split).sound.drained stopped⟩
  case behind =>
    intro earlier t later w split left u hu stage look
    have missed := left.misses (h.before split).ticketed
    have onward := h.moves_between split hu
    have misses : Misses w.ticket u.before.controller := onward.keep Misses.move missed
    have closes : Closes u.before.controller :=
      onward.keep Closes.move (h.before split).sound.closes
    exact ⟨fun r => Turn.failed_of_misses look left.1 misses,
      Turn.answer_of_misses look left.1 misses closes⟩

/-- A mailbox of two places, and a state machine without a diagnosis. -/
def narrow : Setup :=
  { config := { queueCapacity := 2 }, machine := { diagnosis := none } }

/-- Two messages fill the mailbox; a flush and a shutdown wait, are handed places in this order, and
use them the other way round. -/
def crossing : List Step :=
  [.send (.message .speakerOn), .send (.message .muteOn), .begin .flush, .begin .shutdown, .drive,
    .poll 1, .poll 0, .drive, .poll 0, .poll 1]

/-- The pipeline after the first `n` of these steps. -/
def crossed (n : Nat) : Pipeline :=
  (begun narrow {}).run 4 (crossing.take n)

/-- The flush is left behind and fails; the shutdown goes through, and both messages were processed.
-/
theorem crossed_flush_fails :
    ∃ past p, Run narrow past p ∧ past.map Turn.step = crossing ∧
      (∀ t ∈ past, ∀ cause, t.after.controller.phase ≠ .crashed cause) ∧
      (∃ earlier t u later flush, past = earlier ++ t :: u :: later ∧ t.before.LeftBehind flush ∧
        u.look? = some flush ∧ u.seen.answer.result? = some (.error .workerStopped)) ∧
      p.controller.phase = .stopped ∧ p.controller.executed = p.controller.accepted ∧
      p.controller.accepted.length = 2 := by
  have valid : narrow.config.validate = .ok () := validate_eq_ok_iff.2 (by decide)
  have run := @Run.ofSteps narrow {} valid (by decide) rfl 4 crossing
  have stopped : (crossed 10).controller.phase = .stopped := rfl
  have published := run.published fun cause crashed => by cases stopped.symm.trans crashed
  obtain ⟨_, _, finished, behind⟩ := shutdown_drops_nothing run published
  -- the worker is about to come to the marker of the shutdown, with that of the flush behind it
  have split : (begun narrow {}).turns 4 crossing =
      (begun narrow {}).turns 4 (crossing.take 7) ++
        [⟨crossed 7, 4, .drive⟩, ⟨crossed 8, 4, .poll 0⟩, ⟨crossed 9, 4, .poll 1⟩] := rfl
  have left : (crossed 7).LeftBehind ⟨.flush, 0, .entered⟩ :=
    ⟨rfl, List.mem_cons_self, [], [.flush 0], rfl, fun _ => List.mem_cons_self⟩
  have failed := (behind _ _ _ _ split left ⟨crossed 8, 4, .poll 0⟩ (by simp) .entered rfl).2
    (.inl rfl)
  have drained := finished ⟨crossed 9, 4, .poll 1⟩ (by rw [split]; simp) ⟨.shutdown, 1, .entered⟩
    rfl rfl rfl
  exact ⟨_, _, run, rfl, published, ⟨_, _, _, _, _, split, left, rfl, failed⟩, drained.1,
    drained.2, rfl⟩

end CallAudio.Pipeline
