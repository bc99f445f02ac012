import CallAudio.Proofs.Controller.Survival
import CallAudio.Proofs.Pipeline.Publication

/-!
What the worker lives through along a run: every panic of a message or a task, but not a panic over
the diagnostic text of the state machine.
-/

namespace CallAudio.Pipeline

variable {setup : Setup} {past : List Turn} {p : Pipeline}

/-- A pipeline that nobody shuts down and nobody drops stays in service. -/
theorem Run.inService (h : Run setup past p) (kept : ∀ t ∈ past, t.step ≠ .drop)
    (unbroken : ∀ t ∈ past, t.step.opens? ≠ some .shutdown) : p.attended.InService := by
  induction h with
  | start h =>
    obtain ⟨_, published, hp⟩ := begun_of_start h
    rw [hp, attended_begun]
    exact ⟨rfl, rfl, by simp [fresh], Phase.noConfusion, by simp⟩
  | @step past p _ fuel s ih =>
    have before := ih (fun t ht => kept t (List.mem_append_left _ ht))
      (fun t ht => unbroken t (List.mem_append_left _ ht))
    have last : (⟨p, fuel, s⟩ : Turn) ∈ past ++ [⟨p, fuel, s⟩] := List.mem_concat_self
    have flush (kind : WaitingCall.Kind) (opens : s.opens? = some kind) : kind = .flush := by
      cases kind with
      | flush => rfl
      | shutdown => exact absurd opens (unbroken _ last)
    show (p.step fuel s).value.2.attended.InService
    cases changes : s.changesPlatform with
    | true =>
      obtain ⟨system, after⟩ := step_platform changes fuel p
      rw [after]
      exact ⟨before.accepting, before.held, before.unmarked, before.phase, before.flushes⟩
    | false =>
      obtain ⟨_, _, _, early, left, same | ⟨dropped, _⟩, late⟩ := step_staged changes fuel p
      · rw [same] at late
        exact late.keep (Attended.InService.steady flush)
          ((early.keep (Attended.InService.steady flush) before).leaves left)
      · exact absurd dropped (kept _ last)

theorem Run.diagnosed (h : Run setup past p) : p.controller.Diagnosed setup.machine := by
  obtain ⟨first, current, moves⟩ := h.moves_from_start
  refine moves.diagnosed ⟨rfl, ?_⟩ ⟨fun _ => rfl, List.prefix_rfl, ?_⟩ (mirrors_fresh current)
  · intro items none proper
    exact absurd (List.prefix_nil.1 none) proper
  · exact (List.append_nil _).symm

/-- In service the worker ends over a diagnostic text that fails, and over nothing else. -/
theorem Run.alive_iff (h : Run setup past p) (service : p.attended.InService) :
    p.controller.phase.alive = true ↔ setup.machine.failsAfter p.controller.executed = false := by
  constructor
  · exact h.diagnosed.of_alive h.conserves h.mirrors
  · intro succeeds
    cases phase : p.controller.phase with
    | fresh | running => rfl
    | stopped => exact absurd phase service.phase
    | crashed cause =>
      have fails := h.diagnosed.of_crashed h.conserves h.mirrors phase
      cases succeeds.symm.trans fails

/-- Along every run in which nobody begins a shutdown or drops the handles, whatever panics the
messages and tasks of it raise:

* the controller runs as long as the state machine can give its diagnostic text, and no longer;
* once the worker is idle, everything that was accepted has been processed, unless the state machine
  fails to give the text with something still behind. -/
theorem survives_iff_diagnosed (h : Run setup past p) (kept : ∀ t ∈ past, t.step ≠ .drop)
    (unbroken : ∀ t ∈ past, t.step.opens? ≠ some .shutdown) :
    (p.controller.isRunning = true ↔ setup.machine.failsAfter p.controller.executed = false) ∧
    (p.controller.step? = none →
      (p.controller.executed = p.controller.accepted ↔
        ∀ items, items <+: p.controller.accepted → items ≠ p.controller.accepted →
          setup.machine.failsAfter items = false)) := by
  have service := h.inService kept unbroken
  have alive := h.alive_iff service
  refine ⟨?running, ?idle⟩
  case running =>
    have accepting : p.controller.accepting = true := service.accepting
    have closes : p.controller.Closes := h.sound.closes
    rw [← alive, Controller.isRunning, accepting, closes.closed, Bool.not_not, Bool.true_and]
  case idle =>
    intro idle
    constructor
    · intro same
      rw [← same]
      exact h.diagnosed.before
    · intro succeeds
      rcases Controller.idle_cases idle with ended | ⟨running, empty, _⟩
      · -- had the worker left something behind, the text would not have failed
        by_contra rest
        have last := succeeds p.controller.executed h.conserves.kept rest
        cases ended.symm.trans (alive.2 last)
      · rw [h.conserves.alive (by rw [running]; rfl), Controller.queued, empty]
        exact (List.append_nil _).symm

/-- A state machine that panics over every message. -/
def panicking : Setup :=
  { machine := { policy := fun _ => [.panic .other] } }

/-- Two messages and a task, all of which panic. -/
def troubled : List Step :=
  [.send (.message .speakerOn), .send (.message .muteOn),
    .send (.task (.script [.panic (.text "failed")])), .drive]

/-- The worker lives through all of them. -/
theorem troubled_survived :
    ∃ past p, Run panicking past p ∧ past.map Turn.step = troubled ∧
      (∀ t ∈ past, t.step ≠ .drop) ∧ (∀ t ∈ past, t.step.opens? ≠ some .shutdown) ∧
      p.controller.isRunning = true ∧ p.controller.step? = none ∧
      p.controller.accepted.length = 3 ∧ p.controller.executed = p.controller.accepted := by
  have valid : panicking.config.validate = .ok () := validate_eq_ok_iff.2 (by decide)
  have run := @Run.ofSteps panicking { machineDump := "recorded 0 messages" } valid (by decide)
    rfl 5 troubled
  have kept : ∀ t ∈ (begun panicking { machineDump := "recorded 0 messages" }).turns 5 troubled,
      t.step ≠ .drop := by
    simp [troubled, turns]
  have unbroken : ∀ t ∈ (begun panicking { machineDump := "recorded 0 messages" }).turns 5 troubled,
      t.step.opens? ≠ some .shutdown := by
    simp [troubled, turns, Step.opens?]
  obtain ⟨running, idle⟩ := survives_iff_diagnosed run kept unbroken
  exact ⟨_, _, run, rfl, kept, unbroken, running.2 rfl, rfl, rfl, (idle rfl).2 fun _ _ _ => rfl⟩

/-- A state machine that fails to give its text once it has recorded a message. -/
def speechless : Setup :=
  { machine := { diagnosis := some { failsFrom := some 1 } } }

/-- The worker ends over the first of two messages, and leaves the second one behind. -/
theorem speechless_leaves_message_behind :
    ∃ past p, Run speechless past p ∧
      past.map Turn.step = [.send (.message .muteOn), .send (.message .muteOff), .drive] ∧
      (∀ t ∈ past, t.step ≠ .drop) ∧ (∀ t ∈ past, t.step.opens? ≠ some .shutdown) ∧
      p.controller.isRunning = false ∧ p.controller.step? = none ∧
      p.controller.accepted.length = 2 ∧ p.controller.executed.length = 1 := by
  have valid : speechless.config.validate = .ok () := validate_eq_ok_iff.2 (by decide)
  have run := @Run.ofSteps speechless { machineDump := "recorded 0 messages" } valid (by decide) rfl
    4 [.send (.message .muteOn), .send (.message .muteOff), .drive]
  refine ⟨_, _, run, rfl, ?kept, ?unbroken, rfl, rfl, rfl, rfl⟩
  case kept => simp [turns]
  case unbroken => simp [turns, Step.opens?]

end CallAudio.Pipeline
