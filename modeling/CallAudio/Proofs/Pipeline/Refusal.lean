import CallAudio.Proofs.Pipeline.Barrier
import CallAudio.Proofs.Pipeline.Shutdown
import CallAudio.Proofs.Pipeline.Stoppable

/-!
Stopping along a run. A pipeline that has stopped stays so, whatever has stopped it, and its errors
tell: one that is called permanent is never followed by a success.
-/

namespace CallAudio

/-! ## Errors of steps -/

namespace Submits.Fails

variable {σ : Type} [Adapter σ] {e : RouteError} {r m r' : σ}

theorem after (before : Submits r m) (h : Fails e m r') : Fails e r r' := by
  obtain ⟨d, scope, s, early, refused, late⟩ := h
  exact ⟨d, scope, s, before.trans early, refused, late⟩

theorem before (h : Fails e r m) (after : Submits m r') : Fails e r r' := by
  obtain ⟨d, scope, s, early, refused, late⟩ := h
  exact ⟨d, scope, s, early, refused, late.trans after⟩

end Submits.Fails

namespace Pipeline

open Controller (Moves Found Closes Stopped Told)
open Submits (Fails)

variable {setup : Setup} {past earlier later : List Turn} {p : Pipeline} {t u : Turn}
  {w : WaitingCall} {e : RouteError}

/-- The error that a step answers, if it answers one. -/
def Answer.error? : Answer → Option RouteError
  | outcome (.error e) | begun _ (some (.error e)) | polled (some (.error e)) => some e
  | sent _ first => first
  | _ => none

theorem sendMany_fails {c : Controller} {s : Submission} {accepted n k : Nat}
    {first : Option RouteError}
    (h : (sendMany c s accepted first n).value.1 = .sent k (some e)) :
    first = some e ∨ Fails e c (sendMany c s accepted first n).value.2 := by
  induction n generalizing c accepted first with
  | zero =>
    cases h
    exact .inl rfl
  | succ n ih =>
    have one := Submits.one c Log.Scope.known_nil s
    simp only [sendMany, Log.Logged.value_bind] at h ⊢
    split at h <;> rename_i answer
    · exact (ih h).imp_right (Fails.after one)
    · rcases ih h with earlier | later
      · -- either the first error was there before, or it is this one
        cases first with
        | some e' => exact .inl earlier
        | none =>
          cases earlier
          exact .inr ((Fails.one answer).before (sendMany_submits _ _ _ _ _))
      · exact .inr (later.after one)

theorem withRegistry_fails {p : Pipeline}
    {f : Registry → Controller → Log.Logged (Except RouteError Unit × Registry × Controller)}
    (fails : ∀ r c, (f r c).value.1 = .error e → Fails e c (f r c).value.2.2)
    (h : (p.withRegistry f).value.1.error? = some e) :
    Fails e p.controller (p.withRegistry f).value.2.controller := by
  unfold withRegistry at h ⊢
  split at h <;> rename_i registry
  · cases h
  · rename_i r
    refine fails r p.controller ?_
    simp only [Log.Logged.value_bind, Log.Logged.value_pure] at h
    cases answer : (f r p.controller).value.1 with
    | ok =>
      rw [answer] at h
      cases h
    | error e' =>
      rw [answer] at h
      cases h
      rfl

/-- Whether a step is about a waiting call. -/
def Step.isCall : Step → Bool
  | await _ | begin _ | poll _ | finish _ => true
  | _ => false

theorem sendMany_sent (c : Controller) (s : Submission) (accepted n : Nat)
    (first : Option RouteError) :
    ∃ k last, (sendMany c s accepted first n).value.1 = .sent k last := by
  induction n generalizing c accepted first with
  | zero => exact ⟨accepted, first, rfl⟩
  | succ n ih =>
    simp only [sendMany, Log.Logged.value_bind]
    split
    · exact ih _ _ _
    · exact ih _ _ _

theorem heldStep_fails {s : Step} (other : s.isCall = false) {fuel : Nat}
    (error : (heldStep fuel p s).value.1.error? = some e) :
    Fails e p.controller (heldStep fuel p s).value.2.controller := by
  cases s with
  | await | begin | poll | finish => cases other
  | snapshot | state | dump | subscribe | report | drop => cases error
  | setDevices | decline | drive | changed | seen => cases error
  | cancel slot =>
    rw [heldStep] at error
    split at error <;> cases error
  | send s =>
    refine Fails.one ?_
    change (Answer.outcome (p.controller.submit [] s).value.1).error? = some e at error
    show (p.controller.submit [] s).value.1 = .error e
    cases answer : (p.controller.submit [] s).value.1 <;> rw [answer] at error <;> cases error
    rfl
  | sendMany n s =>
    obtain ⟨k, last, answer⟩ := sendMany_sent p.controller s 0 n none
    change (sendMany p.controller s 0 none n).value.1.error? = some e at error
    rw [answer] at error
    change last = some e at error
    rw [error] at answer
    exact (sendMany_fails answer).resolve_left (Option.some_ne_none e).symm
  | add id => exact withRegistry_fails (fun _ _ => Registry.add_fails) error
  | remove id => exact withRegistry_fails (fun _ _ => Registry.remove_fails) error
  | route route address =>
    refine withRegistry_fails (fun r c refused => ?_) error
    exact Registry.requestRoute_fails refused
  | mute on =>
    refine withRegistry_fails (fun r c refused => ?_) error
    exact Registry.setMuted_fails refused

/-- An error of a step that is not about a call is the answer to one of its submissions. -/
theorem Turn.fails (other : t.step.isCall = false) (error : t.seen.answer.error? = some e) :
    Fails e t.before.controller t.after.controller := by
  obtain ⟨p, fuel, s⟩ := t
  change (p.step fuel s).value.1.error? = some e at error
  show Fails e p.controller (p.step fuel s).value.2.controller
  cases needs : s.needsHandle with
  | false =>
    cases s with
    | setDevices | decline | drive => cases error
    | changed subscriber =>
      rw [Pipeline.step] at error
      split at error
      · cases error
      · split at error <;> cases error
    | seen subscriber =>
      rw [Pipeline.step] at error
      split at error <;> cases error
    | _ => cases needs
  | true =>
    rw [value_step_of_needsHandle needs] at error ⊢
    by_cases held : p.controller.held = true
    · rw [if_pos held] at error ⊢
      exact heldStep_fails other error
    · rw [if_neg held] at error
      cases error

/-- An error that is answered of a call is its result. -/
theorem heldStep_result {s : Step} (call : s.isCall = true) {fuel : Nat}
    (error : (heldStep fuel p s).value.1.error? = some e) :
    (heldStep fuel p s).value.1.result? = some (.error e) := by
  have of_complete {c : Controller} {w : WaitingCall}
      (error : (complete fuel c w).value.1.error? = some e) :
      (complete fuel c w).value.1.result? = some (.error e) := by
    rw [value_complete] at error ⊢
    dsimp only at error ⊢
    generalize (c.complete fuel fuel w).value.1 = r at error ⊢
    rcases r with _ | _ | _ <;> cases error
    rfl
  cases s with
  | await kind => exact of_complete error
  | begin kind =>
    rw [value_heldStep_begin] at error ⊢
    dsimp only at error ⊢
    generalize (ofOutcome _).1 = r at error ⊢
    rcases r with _ | _ | _ <;> cases error
    rfl
  | poll slot =>
    cases found : p.call? slot with
    | none =>
      rw [heldStep, found] at error
      cases error
    | some w =>
      rw [value_heldStep_poll fuel found] at error ⊢
      dsimp only at error ⊢
      generalize (ofOutcome _).1 = r at error ⊢
      rcases r with _ | _ | _ <;> cases error
      rfl
  | finish slot =>
    cases found : p.call? slot with
    | none =>
      rw [heldStep, found] at error
      cases error
    | some w =>
      rw [value_heldStep_finish fuel found] at error ⊢
      exact of_complete error
  | _ => cases call

/-- There is no result of a call but by looking at it. -/
theorem Turn.look_of_result (call : t.step.isCall = true) {r : Except RouteError Unit}
    (result : t.seen.answer.result? = some r) : ∃ w, t.look? = some w := by
  obtain ⟨p, fuel, s⟩ := t
  change (p.step fuel s).value.1.result? = some r at result
  have needs : s.needsHandle = true := by cases s <;> first | rfl | cases call
  rw [value_step_of_needsHandle needs] at result
  by_cases held : p.controller.held = true
  · rw [if_pos held] at result
    have some_fuel {c : Controller} {w : WaitingCall}
        (result : (complete fuel c w).value.1.result? = some r) : 0 < fuel := by
      cases fuel with
      | zero => cases result
      | succ fuel => exact Nat.succ_pos fuel
    unfold look?
    cases s with
    | await kind => exact ⟨_, if_pos ⟨held, fun _ => some_fuel result⟩⟩
    | begin kind => exact ⟨_, if_pos ⟨held, (absurd · Bool.false_ne_true)⟩⟩
    | poll slot =>
      cases found : p.call? slot with
      | none =>
        rw [heldStep, found] at result
        cases result
      | some w => exact ⟨w, (if_pos ⟨held, (absurd · Bool.false_ne_true)⟩).trans found⟩
    | finish slot =>
      cases found : p.call? slot with
      | none =>
        rw [heldStep, found] at result
        cases result
      | some w =>
        rw [value_heldStep_finish fuel found] at result
        exact ⟨w, (if_pos ⟨held, fun _ => some_fuel result⟩).trans found⟩
    | _ => cases call
  · rw [if_neg held] at result
    cases result

/-! ## What an error tells -/

/-- A permanent error tells that the controller has stopped, any other one that it was running. -/
theorem Run.error_cases (h : Run setup past p) (split : past = earlier ++ t :: later)
    (error : t.seen.answer.error? = some e) :
    e = .workerStopped ∧ t.after.controller.isRunning = false ∨
      (∃ name, e = .queueFull name) ∧ t.before.controller.isRunning = true := by
  cases call : t.step.isCall with
  | false => exact Controller.error_of_fails (Turn.fails call error)
  | true =>
    have result : t.seen.answer.result? = some (.error e) := by
      obtain ⟨p, fuel, s⟩ := t
      change (p.step fuel s).value.1.error? = some e at error
      show (p.step fuel s).value.1.result? = some (.error e)
      have needs : s.needsHandle = true := by cases s <;> first | rfl | cases call
      rw [value_step_of_needsHandle needs] at error ⊢
      by_cases held : p.controller.held = true
      · rw [if_pos held] at error ⊢
        exact heldStep_result call error
      · rw [if_neg held] at error
        cases error
    obtain ⟨w, look⟩ := Turn.look_of_result call result
    obtain ⟨reason, stopped⟩ := h.stopped_of_call split look result
    have closes : t.looked.Closes :=
      (Turn.moves_to_looked look).keep Closes.move (h.before split).sound.closes
    exact .inl ⟨reason, (Turn.looked_moves look).not_running closes stopped⟩

theorem Run.told (h : Run setup past p) : Told p.controller := by
  have both : Told p.controller ∧ Closes p.controller := by
    refine h.keep (P := fun c => Told c ∧ Closes c) ?_ ?_
    · intro _ published
      refine ⟨fun e told => ?_, ⟨rfl, fun ended => by cases ended⟩⟩
      cases told
    · exact fun ⟨told, closes⟩ m => ⟨told.move closes m, closes.move m⟩
  exact both.1

/-! ## What is answered once the pipeline has stopped -/

/-- Nothing but permanent errors is answered to submissions and to calls first looked at. -/
structure Turn.Refused (t : Turn) : Prop where
  send : ∀ s, t.step = .send s → t.before.controller.held = true →
    t.seen.answer = .outcome (.error .workerStopped)
  sendMany : ∀ n s, t.step = .sendMany n s → t.before.controller.held = true →
    t.seen.answer = .sent 0 (if n = 0 then none else some .workerStopped)
  call : ∀ w, t.look? = some w → w.stage = .fresh →
    t.seen.answer.result? = some (.error .workerStopped)
  error : ∀ e, t.seen.answer.error? = some e → e = .workerStopped

theorem Run.refused (h : Run setup past p) (split : past = earlier ++ t :: later)
    (stopped : t.before.controller.isRunning = false) : t.Refused := by
  have submit := (Controller.stopped_of_not_running stopped).submit
  constructor
  · intro s step held
    show (t.before.step t.fuel t.step).value.1 = _
    rw [step, value_step_of_needsHandle rfl, if_pos held]
    exact congrArg (fun result => Answer.outcome result.1) (submit [] s)
  · intro n s step held
    show (t.before.step t.fuel t.step).value.1 = _
    rw [step, value_step_of_needsHandle rfl, if_pos held]
    exact sendMany_of_refused (submit [] s) 0 none n
  · intro w look first
    obtain ⟨nextTicket, looks⟩ := Turn.looks look
    have done : (Controller.poll { t.before.controller with nextTicket } w).value.1 =
        .done (.error .workerStopped) := Controller.poll_of_not_running stopped first
    cases looks with
    | once _ result =>
      rw [result, done]
      rfl
    | through _ fuel result =>
      obtain ⟨n, hn⟩ : ∃ n, t.fuel = n + 1 := ⟨t.fuel - 1, by omega⟩
      rw [result, hn]
      exact congrArg Prod.fst (Controller.complete_of_done done)
  · intro e error
    rcases h.error_cases split error with ⟨reason, _⟩ | ⟨_, running⟩
    · exact reason
    · cases stopped.symm.trans running

/-- The error was answered, or given to a submission from within the worker. -/
def Turn.Reports (t : Turn) (e : RouteError) : Prop :=
  t.seen.answer.error? = some e ∨ Reply.outcome (.error e) ∈ t.seen.effects

theorem Run.stopped_of_reports (h : Run setup past p) (split : past = earlier ++ t :: later)
    (reports : t.Reports e) (permanent : e.isTransient = false) :
    t.after.controller.isRunning = false := by
  rcases reports with error | told
  · rcases h.error_cases split error with ⟨_, stopped⟩ | ⟨⟨name, rfl⟩, _⟩
    · exact stopped
    · cases permanent
  · have last : Reply.outcome (.error e) ∈ t.after.controller.effects := List.mem_of_mem_drop told
    exact (h.after split).told e last permanent

/-- Along every run, between any two moves of its controller and from within the item that is being
processed:

* a submission is refused for good if and only if the controller does not run;
* once it does not run it has stopped for good: every submission is refused for good, and so is every
  flush and every shutdown that is first looked at from then on;
* it has stopped as soon as a permanent error was answered to anybody, be it to a submission, from
  outside or from within the worker, to a flush or to a shutdown;
* it has stopped from the first look at a shutdown on, whatever becomes of the shutdown, when the
  worker has come to its marker, and when the worker was ended by a panic. -/
theorem stopping_is_final (h : Run setup past p) :
    (∀ b, Moves p.controller b → ∀ c, Found b c →
      (∀ scope s, (c.submit scope s).value.1 = .error .workerStopped ↔ c.isRunning = false) ∧
      (c.isRunning = false → ∀ b', Moves b b' → ∀ d, Found b' d → d.Stopped)) ∧
    (∀ earlier t later, past = earlier ++ t :: later →
      (t.before.controller.isRunning = false ∨ ∃ e, t.Reports e ∧ e.isTransient = false) →
      t.after.controller.Stopped ∧ p.controller.Stopped ∧
        ∀ u ∈ later, u.before.controller.Stopped ∧ u.Refused) ∧
    ((∃ t ∈ past, ∃ w, t.look? = some w ∧ w.kind = .shutdown) ∨ p.controller.phase = .stopped ∨
        (∃ cause, p.controller.phase = .crashed cause) →
      p.controller.isRunning = false) := by
  refine ⟨?anytime, ?told, ?ways⟩
  case anytime =>
    intro b moves c found
    refine ⟨Controller.submit_eq_workerStopped_iff c, fun stopped b' onward d later => ?_⟩
    have closes : b.Closes := moves.keep Closes.move h.sound.closes
    have between : b.isRunning = false := found.isRunning.symm.trans stopped
    exact Controller.stopped_of_not_running
      (later.isRunning.trans (onward.not_running closes between))
  case told =>
    intro earlier t later split why
    have closes : t.before.controller.Closes := (h.before split).sound.closes
    have stopped : t.after.controller.isRunning = false := by
      rcases why with before | ⟨e, reports, permanent⟩
      · exact t.moves.not_running closes before
      · exact h.stopped_of_reports split reports permanent
    have closed : t.after.controller.Closes := (h.after split).sound.closes
    refine ⟨Controller.stopped_of_not_running stopped,
      Controller.stopped_of_not_running ((h.moves split).not_running closed stopped), ?_⟩
    intro u hu
    obtain ⟨between, rest, onto⟩ := List.append_of_mem hu
    have at_u : past = (earlier ++ t :: between) ++ u :: rest := by
      rw [split, onto, List.append_assoc, List.cons_append]
    have still : u.before.controller.isRunning = false :=
      ((h.before at_u).moves rfl).not_running closed stopped
    exact ⟨Controller.stopped_of_not_running still, h.refused at_u still⟩
  case ways =>
    have closes : p.controller.Closes := h.sound.closes
    have ended (finished : p.controller.phase.alive = false) : p.controller.isRunning = false :=
      Controller.isRunning_of_closed (by rw [closes.closed, finished]; rfl)
    rintro (⟨t, ht, w, look, kind⟩ | stopped | ⟨cause, crashed⟩)
    · obtain ⟨earlier, later, split⟩ := List.append_of_mem ht
      exact Controller.isRunning_of_not_accepting (h.shut split look kind).1
    · exact ended (by rw [stopped]; rfl)
    · exact ended (by rw [crashed]; rfl)

/-- A mailbox of one place, which a message takes; a shutdown that has to wait for it is given up. A
message and a flush come too late all the same. -/
def tooLate : List Step :=
  [.send (.message .muteOn), .begin .shutdown, .cancel 0, .drive, .send (.message .muteOff),
    .begin .flush]

/-- The pipeline after the first `n` of these steps. -/
def late (n : Nat) : Pipeline :=
  (begun crowded { machineDump := "recorded 0 messages" }).run 4 (tooLate.take n)

/-- The worker is idle and alive, and yet nothing is taken any more. -/
theorem late_message_and_flush_fail :
    ∃ past p, Run crowded past p ∧ past.map Turn.step = tooLate ∧
      p.controller.phase.alive = true ∧ p.controller.isRunning = false ∧
      (p.controller.submit [] (.message .speakerOn)).value.1 = .error .workerStopped ∧
      (Turn.seen ⟨late 4, 4, .send (.message .muteOff)⟩).answer =
        .outcome (.error .workerStopped) ∧
      (Turn.seen ⟨late 5, 4, .begin .flush⟩).answer.result? = some (.error .workerStopped) ∧
      p.controller.Stopped := by
  have valid : crowded.config.validate = .ok () := validate_eq_ok_iff.2 (by decide)
  have run := @Run.ofSteps crowded { machineDump := "recorded 0 messages" } valid (by decide) rfl 4
    tooLate
  have split : (late 0).turns 4 tooLate =
      (late 0).turns 4 (tooLate.take 4) ++ ⟨late 4, 4, .send (.message .muteOff)⟩ ::
        [⟨late 5, 4, .begin .flush⟩] := rfl
  obtain ⟨anytime, told, ways⟩ := stopping_is_final run
  have stopped := ways (.inl ⟨⟨late 1, 4, .begin .shutdown⟩, List.mem_of_getElem? (i := 1) rfl,
    ⟨.shutdown, 0, .fresh⟩, rfl, rfl⟩)
  obtain ⟨_, last, later⟩ := told _ _ _ split (.inr ⟨.workerStopped, .inl rfl, rfl⟩)
  have refused := (later ⟨late 5, 4, .begin .flush⟩ List.mem_cons_self).2
  exact ⟨_, _, run, rfl, rfl, stopped, ((anytime _ .refl _ .between).1 [] _).2 stopped, rfl,
    refused.call ⟨.flush, 1, .fresh⟩ rfl rfl, last⟩

end Pipeline

end CallAudio
