import CallAudio.Proofs.Controller.Publication

/-!
The published snapshot along a run. As long as the worker is alive it is never stale, whoever reads
it sees its numbers go up only, and what was last published outlives the worker.
-/

namespace CallAudio.Pipeline

open Controller (Moves Mirrors Publishes)

variable {setup : Setup} {past : List Turn} {p : Pipeline}

/-- A pipeline that was just brought up has published its first snapshot. -/
theorem mirrors_fresh {first : RouteSnapshot} (current : (fresh setup {}).current = .ok first) :
    (fresh setup first).Mirrors where
  current _ := current
  crashed _ crashed := by cases crashed
  processed := rfl
  version := by
    obtain ⟨_, _, _, _, processed⟩ := Controller.current_eq_ok_iff.1 current
    exact processed

theorem Run.moves_from_start (h : Run setup past p) :
    ∃ first, (fresh setup {}).current = .ok first ∧ Moves (fresh setup first) p.controller := by
  induction h with
  | @start started h =>
    obtain ⟨_, _, first, current, hp⟩ := start_iff.1 ⟨started, h, rfl⟩
    refine ⟨first, current, ?_⟩
    rw [hp, controller_begun]
  | @step past p _ fuel s ih =>
    obtain ⟨first, current, moves⟩ := ih
    exact ⟨first, current, moves.trans (Turn.moves ⟨p, fuel, s⟩)⟩

theorem Run.mirrors (h : Run setup past p) : p.controller.Mirrors := by
  obtain ⟨_, current, moves⟩ := h.moves_from_start
  exact moves.keep Mirrors.move (mirrors_fresh current)

/-! ## Readers -/

theorem sendMany_ne_snapshot (c : Controller) (s : Submission) (accepted : Nat)
    (firstError : Option RouteError) (n : Nat) (snapshot : RouteSnapshot) :
    (sendMany c s accepted firstError n).value.1 ≠ .snapshot snapshot := by
  induction n generalizing c accepted firstError with
  | zero => exact Answer.noConfusion
  | succ n ih =>
    simp only [sendMany, Log.Logged.value_bind]
    split <;> exact ih _ _ _

theorem complete_ne_snapshot (fuel : Nat) (c : Controller) (w : WaitingCall)
    (snapshot : RouteSnapshot) : (complete fuel c w).value.1 ≠ .snapshot snapshot := by
  simp only [complete, Log.Logged.value_bind]
  cases (c.complete fuel fuel w).value.1 <;> exact Answer.noConfusion

theorem eq_published_of_heldStep {fuel : Nat} {s : Step} {snapshot : RouteSnapshot}
    (h : (heldStep fuel p s).value.1 = .snapshot snapshot) : snapshot = p.controller.published := by
  cases s with
  | snapshot =>
    cases h
    rfl
  | sendMany n s => exact absurd h (sendMany_ne_snapshot _ _ _ _ _ _)
  | await kind => exact absurd h (complete_ne_snapshot _ _ _ _)
  | add | remove | route | mute =>
    simp only [heldStep, withRegistry] at h
    split at h <;> cases h
  | finish slot =>
    rw [heldStep] at h
    split at h
    · cases h
    · exact absurd h (complete_ne_snapshot _ _ _ _)
  | poll slot | cancel slot =>
    rw [heldStep] at h
    split at h <;> cases h
  | _ => cases h

/-- A snapshot that is read, by a caller or by a subscriber, is the published one. -/
theorem eq_published_of_step {fuel : Nat} {s : Step} {snapshot : RouteSnapshot}
    (h : (p.step fuel s).value.1 = .snapshot snapshot) : snapshot = p.controller.published := by
  cases s with
  | setDevices | decline | drive => cases h
  | changed subscriber =>
    rw [step] at h
    split at h
    · cases h
    · split at h <;> cases h
  | seen subscriber =>
    rw [step] at h
    split at h <;> cases h
    rfl
  | _ =>
    rw [value_step_of_needsHandle rfl] at h
    split at h
    · exact eq_published_of_heldStep h
    · cases h

/-- Later readers never see an earlier number. -/
theorem Run.processed_le (h : Run setup past p) {earlier later : List Turn} {t u : Turn}
    (split : past = earlier ++ t :: later) (hu : u ∈ t :: later) :
    t.before.controller.published.processed ≤ u.before.controller.published.processed := by
  have onward := h.moves_between split hu
  have before := (h.before split).mirrors
  have after : u.before.controller.Mirrors := onward.keep Mirrors.move before
  rw [before.version, after.version]
  exact onward.version_le

/-! ## The snapshot is never stale -/

/-- Along every run:

* wherever the worker stands, as long as it is alive, the published snapshot shows the audio state
  and the hands-free flag of the state machine, the selection of the arbiter, how many items have
  been processed, and the text that the state machine gives of itself now;
* that snapshot is what a caller is told of it, as a whole or in parts;
* the snapshots published so far are numbered 0, 1, 2, … without a gap or a repetition, and the last
  of them can be read; so whoever reads later sees no smaller number;
* once the worker has ended, however it did, what was published last stays. -/
theorem snapshot_never_stale (h : Run setup past p) :
    (∀ c, Moves p.controller c → c.phase.alive = true →
      c.published.audioState = c.machine.state ∧
      c.published.hfpAvailable = c.machine.hfpAvailable ∧
      c.published.selection = c.system.arbiter.selection ∧
      c.published.processed = c.executed.length ∧
      c.machine.dump = .ok c.published.machineDump) ∧
    (p.controller.held = true → ∀ fuel,
      (p.step fuel .snapshot).value.1 = .snapshot p.controller.published ∧
      (p.step fuel .state).value.1 = .state p.controller.published.audioState
        p.controller.published.hfpAvailable p.controller.config) ∧
    (∃ first, (∃ snapshots, (fresh setup first).Publishes snapshots p.controller) ∧
      ∀ snapshots, (fresh setup first).Publishes snapshots p.controller →
        (first :: snapshots).map RouteSnapshot.processed = List.range (snapshots.length + 1) ∧
        (first :: snapshots).getLast? = some p.controller.published) ∧
    (∀ earlier t later, past = earlier ++ t :: later → ∀ u ∈ t :: later, ∀ s s',
      t.seen.answer = .snapshot s → u.seen.answer = .snapshot s' → s.processed ≤ s'.processed) ∧
    ∀ t ∈ past, t.after.controller.phase.alive = false →
      ∀ c, Moves t.after.controller c → c.published = t.after.controller.published := by
  refine ⟨?fresh, ?told, ?numbered, ?read, ?kept⟩
  case fresh =>
    intro c moves alive
    have mirrors : Mirrors c := moves.keep Mirrors.move h.mirrors
    obtain ⟨dump, audioState, hfpAvailable, selection, processed⟩ :=
      Controller.current_eq_ok_iff.1 (mirrors.of_alive alive)
    exact ⟨audioState, hfpAvailable, selection, processed.trans mirrors.processed, dump⟩
  case told =>
    intro held fuel
    rw [value_step_of_needsHandle rfl, value_step_of_needsHandle rfl, if_pos held, if_pos held]
    exact ⟨rfl, rfl⟩
  case numbered =>
    obtain ⟨first, current, moves⟩ := h.moves_from_start
    refine ⟨first, moves.publishes, ?_⟩
    intro snapshots published
    obtain ⟨numbers, last, _⟩ := published.numbered (mirrors_fresh current)
    exact ⟨by rw [List.range_eq_range']; exact numbers, last⟩
  case read =>
    intro earlier t later split u hu s s' first second
    rw [eq_published_of_step first, eq_published_of_step second]
    exact h.processed_le split hu
  case kept =>
    intro t _ finished c moves
    exact congrArg Prod.snd (moves.publication_of_ended finished)

/-- A state machine that panics over `speakerOn`, and over its diagnostic text once it has recorded
two messages. -/
def failing : Setup where
  config := { queueCapacity := 3 }
  machine :=
    { policy := fun m => if m = .speakerOn then [.panic .other] else []
      diagnosis := some { failsFrom := some 2 } }

/-- Two messages, with a flush behind the first of them, and a subscriber that reads after each. -/
def watching : List Step :=
  [.subscribe, .send (.message .speakerOn), .begin .flush, .drive, .seen 0,
    .send (.message .muteOn), .drive, .seen 0]

/-- The pipeline after the first `n` of these steps. -/
def watched (n : Nat) : Pipeline :=
  (begun failing { machineDump := "recorded 0 messages" }).run 4 (watching.take n)

/-- The panic over the first message is caught and a snapshot published; the worker ends over the
second snapshot, and the first one stays. -/
theorem watching_reads_last_published :
    ∃ past p, Run failing past p ∧ past.map Turn.step = watching ∧
      (watched 4).controller.phase.alive = true ∧ (watched 4).controller.executed.length = 1 ∧
      (watched 4).controller.published.processed = (watched 4).controller.executed.length ∧
      (watched 7).controller.phase = .crashed (.text "dump failed") ∧
      (watched 7).controller.executed.length = 2 ∧
      p.controller.published = (watched 7).controller.published ∧
      (watched 4).controller.published.processed ≤ p.controller.published.processed := by
  have valid : failing.config.validate = .ok () := validate_eq_ok_iff.2 (by decide)
  have run := @Run.ofSteps failing { machineDump := "recorded 0 messages" } valid (by decide) rfl 4
    watching
  have split : (begun failing { machineDump := "recorded 0 messages" }).turns 4 watching =
      (watched 0).turns 4 (watching.take 4) ++ ⟨watched 4, 4, .seen 0⟩ ::
        [⟨watched 5, 4, .send (.message .muteOn)⟩, ⟨watched 6, 4, .drive⟩,
          ⟨watched 7, 4, .seen 0⟩] := rfl
  obtain ⟨current, _⟩ := snapshot_never_stale (run.before split)
  obtain ⟨_, _, _, processed, _⟩ := current _ .refl rfl
  obtain ⟨_, _, _, read, kept⟩ := snapshot_never_stale run
  have crash := kept ⟨watched 6, 4, .drive⟩ (by rw [split]; simp) rfl _ .refl
  have later := read _ _ _ split ⟨watched 7, 4, .seen 0⟩ (by simp) _ _ rfl rfl
  exact ⟨_, _, run, rfl, rfl, rfl, processed, rfl, rfl, crash, later⟩

end CallAudio.Pipeline
