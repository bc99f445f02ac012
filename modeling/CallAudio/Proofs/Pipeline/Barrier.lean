import CallAudio.Proofs.Controller.Refusal
import CallAudio.Proofs.Pipeline.Look
import CallAudio.Proofs.Pipeline.Publication

/-!
Flushes along a run. A flush that goes through has waited for everything that was accepted before
its first look; one that fails tells that the controller has stopped. Either way nothing else comes
of it.
-/

namespace CallAudio.Pipeline

open Controller (Moves Mirrors Closes Precedes Covered)

variable {setup : Setup} {past earlier later : List Turn} {p : Pipeline} {t u : Turn}
  {w : WaitingCall} {stage : WaitingCall.Stage}

/-- Nobody has the ticket of a flush that is looked at for the first time. -/
theorem Run.precedes (h : Run setup past p) (split : past = earlier ++ t :: later)
    (look : t.look? = some w) (first : w.stage = .fresh) :
    Precedes t.before.controller.accepted w.ticket t.before.controller := by
  obtain ⟨nextTicket, before, after, course, _⟩ := Turn.seated look
  have ticketed := course.moves.keep Attended.Ticketed.move (h.before split).ticketed
  have outside : w.ticket ∉ t.before.controller.markers :=
    ticketed.outside w (List.mem_append_right _ List.mem_cons_self) (by simp [first])
  exact Controller.precedes_of_notMem_markers outside

/-- Looking at a flush that goes through, everything accepted before its first look is covered. -/
theorem Run.covered_of_flush (h : Run setup past p) (split : past = earlier ++ t :: later)
    (look : t.look? = some w) (kind : w.kind = .flush) (first : w.stage = .fresh)
    (hu : u ∈ t :: later) (again : u.look? = some { w with stage })
    (answer : u.seen.answer.result? = some (.ok ())) :
    Covered t.before.controller.accepted u.looked := by
  have run := h.before split
  obtain ⟨_, _, d, stage, course, finished, left⟩ := Turn.last_look again answer
  have onward : Moves t.before.controller d :=
    (h.moves_between split hu).trans course.moves.controller
  have precedes := onward.precedes (h.precedes split look first) run.sound.conserves
    run.sound.closes run.mirrors
  have looked := Controller.looked_poll d { w with stage }
  have passed : w.ticket ∈ d.acknowledged := looked.acknowledged kind finished
  have mirrors : Mirrors d := onward.keep Mirrors.move run.mirrors
  rw [left]
  exact (precedes.passed passed).move mirrors (.poll d { w with stage })

/-- Looking at a call that fails, the controller has stopped. -/
theorem Run.stopped_of_call (h : Run setup past p) (split : past = earlier ++ u :: later)
    (look : u.look? = some w) {e : RouteError}
    (answer : u.seen.answer.result? = some (.error e)) :
    e = .workerStopped ∧ u.looked.isRunning = false := by
  have run := h.before split
  obtain ⟨before, after, d, stage, course, finished, left⟩ := Turn.last_look look answer
  have marked := course.moves.keep Attended.Marked.move run.marked
  have sound := course.moves.keep Attended.Sound.move run.sound
  rw [left]
  have looked := Controller.looked_poll d { w with stage }
  exact looked.failed_for_good sound.closes
    (marked _ (List.mem_append_right _ List.mem_cons_self)) finished

/-- Along every run, for every flush in it from its first look on, whatever else is open and however
the looks at it lie:

* if it goes through, then everything that was accepted before its first look has been processed and
  is counted in the published snapshot, from then on;
* if it fails, then because the worker has stopped, and the controller runs no more;
* a turn that looks at it once leaves everything as it was but for tickets and the entries of
  waiting calls in the mailbox; so does in general whatever is done for a flush: opening it, looking
  at it, giving it up and coming to its marker. -/
theorem flush_is_barrier (h : Run setup past p) :
    (∀ earlier t later w, past = earlier ++ t :: later → t.look? = some w → w.kind = .flush →
      w.stage = .fresh → ∀ u ∈ t :: later, ∀ stage r, u.look? = some { w with stage } →
        u.seen.answer.result? = some r →
        (r = .ok () → ∀ c, Moves u.looked c →
          t.before.controller.accepted <+: c.executed ∧
            t.before.controller.accepted.length ≤ c.published.processed) ∧
        ∀ e, r = .error e → e = .workerStopped ∧ ∀ c, Moves u.looked c → c.isRunning = false) ∧
    (∀ t ∈ past, ∀ w, t.look? = some w → w.kind = .flush → t.step.seesThrough = false →
      t.before.controller.Beside t.after.controller) ∧
    ∀ (c : Controller) (w : WaitingCall), w.kind = .flush →
      c.Beside (c.openCall .flush).2 ∧ c.Beside (c.poll w).value.2 ∧ c.Beside (c.cancel w) ∧
        ∀ next rest, c.phase = .running → c.mailbox.queue = w.command :: rest →
          c.step? = some next → c.Beside next.value := by
  refine ⟨?barrier, ?turn, ?beside⟩
  case barrier =>
    intro earlier t later w split look kind first u hu stage r again answer
    obtain ⟨between, rest, onto⟩ := List.append_of_mem hu
    have at_u : past = (earlier ++ between) ++ u :: rest := by
      rw [split, onto, List.append_assoc]
    have run := h.before at_u
    have onward := Turn.moves_to_looked again
    constructor
    · rintro rfl c moves
      have covered := h.covered_of_flush split look kind first hu again answer
      exact covered.moves (onward.keep Mirrors.move run.mirrors) moves
    · rintro e rfl
      obtain ⟨reason, stopped⟩ := h.stopped_of_call at_u again answer
      refine ⟨reason, fun c moves => ?_⟩
      exact moves.not_running (onward.keep Closes.move run.sound.closes) stopped
  case turn =>
    intro t _ w look kind once
    obtain ⟨nextTicket, looks⟩ := Turn.looks look
    cases looks with
    | once _ _ after =>
      obtain ⟨mailbox, acknowledged, next, frame, queued⟩ :=
        Controller.beside_poll (c := { t.before.controller with nextTicket }) kind
      exact ⟨mailbox, acknowledged, next, after.trans frame, queued⟩
    | through through => cases once.symm.trans through
  case beside =>
    intro c w kind
    refine ⟨Controller.beside_openCall c .flush, Controller.beside_poll kind,
      Controller.beside_cancel c w, ?_⟩
    intro next rest running marker step
    have command : w.command = .flush w.ticket := by rw [WaitingCall.command, kind]
    rw [command] at marker
    exact (Controller.worked_of_step? step).beside running marker

/-- The failing state machine, behind a mailbox of one place. -/
def tight : Setup :=
  { failing with config := { queueCapacity := 1 } }

/-- Two flushes, each of which has to wait for a message to make room for its marker; the worker
ends over the second message. -/
def barring : List Step :=
  [.send (.message .speakerOn), .begin .flush, .drive, .poll 0, .drive, .poll 0,
    .send (.message .muteOn), .begin .flush, .drive, .poll 1]

/-- The pipeline after the first `n` of these steps. -/
def barred (n : Nat) : Pipeline :=
  (begun tight { machineDump := "recorded 0 messages" }).run 4 (barring.take n)

/-- The first flush goes through once the first message is covered, the second one fails. -/
theorem barring_first_passes_second_fails :
    ∃ past p, Run tight past p ∧ past.map Turn.step = barring ∧
      (Turn.seen ⟨barred 5, 4, .poll 0⟩).answer.result? = some (.ok ()) ∧
      (barred 1).controller.accepted.length = 1 ∧
      (barred 1).controller.accepted <+: p.controller.executed ∧
      (barred 1).controller.accepted.length ≤ p.controller.published.processed ∧
      (Turn.seen ⟨barred 9, 4, .poll 1⟩).answer.result? = some (.error .workerStopped) ∧
      p.controller.isRunning = false ∧
      (barred 5).controller.Beside (barred 6).controller := by
  have valid : tight.config.validate = .ok () := validate_eq_ok_iff.2 (by decide)
  have run := @Run.ofSteps tight { machineDump := "recorded 0 messages" } valid (by decide) rfl 4
    barring
  have first : (begun tight { machineDump := "recorded 0 messages" }).turns 4 barring =
      [⟨barred 0, 4, .send (.message .speakerOn)⟩] ++ ⟨barred 1, 4, .begin .flush⟩ ::
        (barred 2).turns 4 (barring.drop 2) := rfl
  have second : (begun tight { machineDump := "recorded 0 messages" }).turns 4 barring =
      (barred 0).turns 4 (barring.take 7) ++ ⟨barred 7, 4, .begin .flush⟩ ::
        [⟨barred 8, 4, .drive⟩, ⟨barred 9, 4, .poll 1⟩] := rfl
  obtain ⟨barrier, turn, _⟩ := flush_is_barrier run
  have passed := (barrier _ _ _ ⟨.flush, 0, .fresh⟩ first rfl rfl rfl ⟨barred 5, 4, .poll 0⟩
    (List.mem_of_getElem? (i := 4) rfl) .entered _ rfl rfl).1 rfl
  have failed := (barrier _ _ _ ⟨.flush, 1, .fresh⟩ second rfl rfl rfl ⟨barred 9, 4, .poll 1⟩
    (by simp) .waiting _ rfl rfl).2 _ rfl
  have last : (begun tight { machineDump := "recorded 0 messages" }).turns 4 barring =
      (barred 0).turns 4 (barring.take 5) ++ ⟨barred 5, 4, .poll 0⟩ ::
        (barred 6).turns 4 (barring.drop 6) := rfl
  obtain ⟨executed, processed⟩ := passed _ (run.moves last)
  exact ⟨_, _, run, rfl, rfl, rfl, executed, processed, rfl, failed.2 _ .refl,
    turn ⟨barred 5, 4, .poll 0⟩ (by rw [last]; simp) ⟨.flush, 0, .entered⟩ rfl rfl rfl⟩

end CallAudio.Pipeline
