import CallAudio.Proofs.Controller.Sequential
import CallAudio.Proofs.Controller.Stopping

/-!
The outcome of a run depends on nothing but the order in which items were accepted. Where the worker
ran in between, and what else was done meanwhile, leaves no trace in the state that the worker owns:
that state is the left fold of what the items mean over the log of accepted items.
-/

namespace CallAudio.Pipeline

/-- The state that the worker starts with. -/
def Setup.workerState (setup : Setup) : WorkerState where
  system := .start setup.devices setup.kinds
  audioState := setup.machine.state
  recorded := setup.machine.recorded.map RoutedMessage.bare
  history := []
  processed := 0

/-- Two setups between which the worker cannot tell: the mailboxes may differ in capacity. -/
structure Setup.Alike (s s' : Setup) : Prop where
  devices : s.devices = s'.devices
  kinds : s.kinds = s'.kinds
  policy : s.machine.policy = s'.machine.policy
  hfpAvailable : s.machine.hfpAvailable = s'.machine.hfpAvailable
  state : s.machine.state = s'.machine.state
  recorded : s.machine.recorded = s'.machine.recorded
  historySize : s.config.historySize = s'.config.historySize

theorem Setup.Alike.workerState {s s' : Setup} (h : s.Alike s') :
    s.workerState = s'.workerState := by
  simp only [Setup.workerState, h.devices, h.kinds, h.state, h.recorded]

/-- A run that leaves the platform alone and in which no snapshot fails, and that has come to rest
with an empty queue. -/
structure Rests (setup : Setup) (past : List Turn) (p : Pipeline) : Prop where
  run : Run setup past p
  steady : ∀ t ∈ past, t.step.changesPlatform = false
  published : ∀ t ∈ past, ∀ cause, t.after.controller.phase ≠ .crashed cause
  empty : p.controller.mailbox.queue = []

variable {setup setup' : Setup} {past past' : List Turn} {p p' : Pipeline}

theorem Run.replays (h : Run setup past p) (steady : ∀ t ∈ past, t.step.changesPlatform = false) :
    p.controller.Replays setup.machine.policy setup.config.historySize setup.workerState := by
  refine h.attends (P := fun a => a.controller.Replays setup.machine.policy
    setup.config.historySize setup.workerState) ?_ Attended.Replays.move ?_
  · intro published
    exact ⟨rfl, rfl, Nat.zero_le _, rfl⟩
  · rintro ⟨t, ht, changes⟩
    cases (steady t ht).symm.trans changes

theorem Run.not_crashed (h : Run setup past p)
    (published : ∀ t ∈ past, ∀ cause, t.after.controller.phase ≠ .crashed cause) (cause : Panic) :
    p.controller.phase ≠ .crashed cause := by
  cases h with
  | start h =>
    obtain ⟨_, _, hp⟩ := begun_of_start h
    rw [hp, controller_begun]
    exact Phase.noConfusion
  | step h fuel s => exact published _ List.mem_concat_self cause

/-- At rest everything that was accepted has been processed. -/
theorem Rests.executed (h : Rests setup past p) :
    p.controller.executed = p.controller.accepted := by
  have sound := h.run.sound
  cases phase : p.controller.phase with
  | stopped => exact sound.drained phase
  | crashed cause => exact absurd phase (h.run.not_crashed h.published cause)
  | fresh | running =>
    have log := sound.conserves.alive (congrArg Phase.alive phase)
    have queued : p.attended.controller.queued = [] := by
      rw [Controller.queued, show p.attended.controller.mailbox.queue = _ from h.empty]
      rfl
    rw [queued, List.append_nil] at log
    exact log.symm

theorem Rests.state (h : Rests setup past p) :
    p.controller.workerState = p.controller.accepted.foldl
      (WorkerState.process setup.machine.policy setup.config.historySize) setup.workerState := by
  rw [← h.executed]
  exact (h.run.replays h.steady).state

/-- Two runs that start alike and have accepted the same items in the same order come to rest in the
same state, wherever the worker ran and whatever else was done along them: it is the left fold of
what the items mean over the log of what was accepted. -/
theorem outcome_of_accepted (alike : setup.Alike setup') (h : Rests setup past p)
    (h' : Rests setup' past' p')
    (log : p.controller.accepted.map Item.bare = p'.controller.accepted.map Item.bare) :
    p.controller.workerState = p'.controller.workerState ∧
    p.controller.workerState = p.controller.accepted.foldl
      (WorkerState.process setup.machine.policy setup.config.historySize) setup.workerState := by
  refine ⟨?_, h.state⟩
  rw [h.state, h'.state, ← WorkerState.foldl_process_bare, log, WorkerState.foldl_process_bare,
    alike.policy, alike.historySize, alike.workerState]

/-- A docked call goes to the speaker; other messages mute it. -/
def docking (capacity : Nat) : Setup where
  config := { queueCapacity := capacity }
  devices := [⟨.speaker, none⟩]
  machine :=
    { policy := fun m =>
        if m = .connectDock then [.operate (.request .speaker none)]
        else [.edit { muted := some true }]
      diagnosis := none }

/-- Both messages are sent at once and processed together. -/
def together : List Step :=
  [.send (.message .connectDock), .send (.message .muteOn), .drive]

/-- In a mailbox of one place the first message is reported by the dock, a flush waits behind it,
and the second message is rejected at first. -/
def apart : List Step :=
  [.report (.dock true), .begin .flush, .send (.message .muteOn), .drive, .poll 0, .subscribe,
    .drive, .poll 0, .dump, .mute true, .drive]

/-- Both runs come to the same state. -/
theorem together_eq_apart :
    ∃ past past' p p', (docking 2).Alike (docking 1) ∧ Rests (docking 2) past p ∧
      Rests (docking 1) past' p' ∧ past.map Turn.step = together ∧ past'.map Turn.step = apart ∧
      p.controller.accepted.map Item.bare = p'.controller.accepted.map Item.bare ∧
      p.controller.accepted.length = 2 ∧ p.controller.workerState = p'.controller.workerState := by
  have alike : (docking 2).Alike (docking 1) := ⟨rfl, rfl, rfl, rfl, rfl, rfl, rfl⟩
  have valid : (docking 2).config.validate = .ok () := validate_eq_ok_iff.2 (by decide)
  have valid' : (docking 1).config.validate = .ok () := validate_eq_ok_iff.2 (by decide)
  have run := @Run.ofSteps (docking 2) {} valid (by decide) rfl 4 together
  have run' := @Run.ofSteps (docking 1) {} valid' (by decide) rfl 4 apart
  have running : ((begun (docking 2) {}).run 4 together).controller.phase = .running := rfl
  have running' : ((begun (docking 1) {}).run 4 apart).controller.phase = .running := rfl
  have published := run.published fun cause crashed => by cases running.symm.trans crashed
  have published' := run'.published fun cause crashed => by cases running'.symm.trans crashed
  have rests : Rests (docking 2) _ _ :=
    ⟨run, by simp [turns, together, Step.changesPlatform], published, rfl⟩
  have rests' : Rests (docking 1) _ _ :=
    ⟨run', by simp [turns, apart, Step.changesPlatform], published', rfl⟩
  have log : ((begun (docking 2) {}).run 4 together).controller.accepted.map Item.bare =
      ((begun (docking 1) {}).run 4 apart).controller.accepted.map Item.bare := rfl
  exact ⟨_, _, _, _, alike, rests, rests', rfl, rfl, log, rfl,
    (outcome_of_accepted alike rests rests' log).1⟩

end CallAudio.Pipeline
