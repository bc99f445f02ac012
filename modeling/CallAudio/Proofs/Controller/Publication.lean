import CallAudio.Proofs.Controller.Stopping

/-!
What a controller publishes of itself. While the worker is alive the published snapshot is what it
would publish now; a worker that crashed ended over a snapshot that could not be made, and leaves
the one before it. Snapshots are numbered by the items that were processed before them.
-/

namespace CallAudio.Controller

variable {c c' : Controller}

/-! ## Publishing -/

theorem publish_of_ok {published : RouteSnapshot} (h : c.current = .ok published) :
    c.publish = { c with published, version := c.version + 1 } := by
  rw [publish, h]

theorem publish_of_error {cause : Panic} (h : c.current = .error cause) :
    c.publish = { c with phase := .crashed cause, mailbox := c.mailbox.close } := by
  rw [publish, h]

/-- A snapshot can be made unless the state machine panics over its diagnostic text. -/
theorem current_eq_ok_iff {s : RouteSnapshot} :
    c.current = .ok s ↔
      c.machine.dump = .ok s.machineDump ∧ s.audioState = c.machine.state ∧
      s.hfpAvailable = c.machine.hfpAvailable ∧ s.selection = c.system.arbiter.selection ∧
      s.processed = c.processed := by
  unfold current
  cases c.machine.dump with
  | error cause => simp [Except.map]
  | ok text =>
    obtain ⟨audioState, hfpAvailable, selection, processed, machineDump⟩ := s
    simp only [Except.map, Except.ok.injEq, RouteSnapshot.mk.injEq]
    constructor
    · rintro ⟨rfl, rfl, rfl, rfl, rfl⟩
      exact ⟨rfl, rfl, rfl, rfl, rfl⟩
    · rintro ⟨rfl, rfl, rfl, rfl, rfl⟩
      exact ⟨rfl, rfl, rfl, rfl, rfl⟩

theorem current_eq_error_iff {cause : Panic} :
    c.current = .error cause ↔ c.machine.dump = .error cause := by
  unfold current
  cases c.machine.dump <;> simp [Except.map]

/-- The published snapshot against the state of the worker. -/
structure Mirrors (c : Controller) : Prop where
  current : (∀ cause, c.phase ≠ .crashed cause) → c.current = .ok c.published
  crashed : ∀ cause, c.phase = .crashed cause → c.current = .error cause
  processed : c.processed = c.executed.length
  version : c.published.processed = c.version

theorem not_crashed_of_alive (alive : c.phase.alive = true) (cause : Panic) :
    c.phase ≠ .crashed cause := by
  intro crashed
  rw [crashed] at alive
  cases alive

theorem Mirrors.of_alive (h : Mirrors c) (alive : c.phase.alive = true) :
    c.current = .ok c.published :=
  h.current (not_crashed_of_alive alive)

/-- While the worker is alive, as many snapshots were published as items were processed. -/
theorem Mirrors.processed_eq_version (h : Mirrors c) (alive : c.phase.alive = true) :
    c.processed = c.version := by
  obtain ⟨_, _, _, _, processed⟩ := current_eq_ok_iff.1 (h.of_alive alive)
  exact processed.symm.trans h.version

/-- One more item was counted; its snapshot is published, or the worker ends over it. -/
theorem mirrors_publish (alive : c.phase.alive = true) (processed : c.processed = c.executed.length)
    (next : c.processed = c.version + 1) (version : c.published.processed = c.version) :
    Mirrors c.publish := by
  cases h : c.current with
  | ok published =>
    rw [publish_of_ok h]
    refine ⟨fun _ => h, ?_, processed, ?_⟩
    · intro cause crashed
      exact absurd crashed (not_crashed_of_alive alive cause)
    · obtain ⟨_, _, _, _, count⟩ := current_eq_ok_iff.1 h
      exact count.trans next
  | error cause =>
    rw [publish_of_error h]
    refine ⟨fun live => absurd rfl (live cause), ?_, processed, version⟩
    intro _ crashed
    cases crashed
    exact h

theorem Mirrors.process (h : Mirrors c) (running : c.phase = .running) (item : Item) :
    Mirrors (c.process item).value := by
  have alive : c.phase.alive = true := by rw [running]; rfl
  have next := h.processed_eq_version alive
  have processed := h.processed
  obtain ⟨items, system, state, effects, frame⟩ := (execute_effects c item).frame
  rw [value_process, frame]
  cases item <;>
    exact mirrors_publish alive (by simp [count, note, processed]) (congrArg (· + 1) next) h.version

theorem Mirrors.worked (h : Mirrors c) (w : Worked c c') : Mirrors c' := by
  have current := h.of_alive w.alive
  cases w with
  | started | abandoned | stopped =>
    refine ⟨fun _ => current, ?_, h.processed, h.version⟩
    intro cause crashed
    cases crashed
  | acknowledged running =>
    refine ⟨fun _ => current, ?_, h.processed, h.version⟩
    intro cause crashed
    cases running.symm.trans crashed
  | @processed running item mailbox took =>
    exact Mirrors.process (c := { c with mailbox }) ⟨h.current, h.crashed, h.processed, h.version⟩
      running item

/-- Nothing but the worker touches what the snapshot shows. -/
theorem Mirrors.move (h : Mirrors c) (m : Move c c') : Mirrors c' := by
  cases m with
  | submit scope s =>
    exact submit_keep h (fun _ _ => ⟨h.current, h.crashed, h.processed, h.version⟩) scope s
  | poll w =>
    obtain ⟨_, _, frame, _⟩ := poll_frame c w
    rw [frame]
    exact ⟨h.current, h.crashed, h.processed, h.version⟩
  | cancel w =>
    obtain ⟨_, frame, _⟩ := cancel_frame c w
    rw [frame]
    exact ⟨h.current, h.crashed, h.processed, h.version⟩
  | work hw => exact h.worked (worked_of_step? hw)
  | openCall | setDevices | decline | letGo =>
    exact ⟨h.current, h.crashed, h.processed, h.version⟩

/-! ## The snapshots that were published -/

/-- What of the published snapshots can be read, with its number. -/
def publication (c : Controller) : Nat × RouteSnapshot :=
  (c.version, c.published)

theorem publication_process (c : Controller) (item : Item) :
    (c.process item).value.publication = c.publication ∨
      (c.process item).value.version = c.version + 1 := by
  obtain ⟨items, system, state, effects, frame⟩ := (execute_effects c item).frame
  rw [value_process, frame]
  rcases publish_cases (count _ item) with ⟨published, hp⟩ | ⟨cause, hp⟩ <;> rw [hp]
  · right
    cases item <;> rfl
  · left
    cases item <;> rfl

theorem Worked.publication (w : Worked c c') :
    c'.publication = c.publication ∨ c'.version = c.version + 1 := by
  cases w with
  | started | abandoned | acknowledged | stopped => exact .inl rfl
  | @processed _ item mailbox _ => exact publication_process { c with mailbox } item

/-- A move publishes the next snapshot, which a worker that has ended does not do, or none. -/
theorem Move.publication (m : Move c c') :
    c'.publication = c.publication ∨ c.phase.alive = true ∧ c'.version = c.version + 1 := by
  cases m with
  | submit scope s =>
    exact .inl (submit_keep (P := fun d => d.publication = c.publication) rfl (fun _ _ => rfl)
      scope s)
  | poll w =>
    obtain ⟨_, _, frame, _⟩ := poll_frame c w
    exact .inl (by rw [frame]; rfl)
  | cancel w =>
    obtain ⟨_, frame, _⟩ := cancel_frame c w
    exact .inl (by rw [frame]; rfl)
  | work hw =>
    have worked := worked_of_step? hw
    exact worked.publication.imp_right fun next => ⟨worked.alive, next⟩
  | openCall | setDevices | decline | letGo => exact .inl rfl

/-- What a worker has published stays readable once it has ended. -/
theorem Moves.publication_of_ended (h : Moves c c') (finished : c.phase.alive = false) :
    c'.publication = c.publication := by
  have kept : c'.phase = c.phase ∧ c'.publication = c.publication := by
    refine h.keep (P := fun d => d.phase = c.phase ∧ d.publication = c.publication) ?_ ⟨rfl, rfl⟩
    rintro d d' ⟨phase, same⟩ m
    have ended : d.phase.alive = false := by rw [phase]; exact finished
    refine ⟨(m.phase_of_ended ended).trans phase, ?_⟩
    rcases m.publication with quiet | ⟨alive, _⟩
    · exact quiet.trans same
    · cases ended.symm.trans alive
  exact kept.2

/-- `Publishes c snapshots c'`: on the way from `c` to `c'` these snapshots were published, in this
order. -/
inductive Publishes (c : Controller) : List RouteSnapshot → Controller → Prop
  | refl : Publishes c [] c
  | quiet {snapshots : List RouteSnapshot} {d d' : Controller} (h : Publishes c snapshots d)
      (m : Move d d') (same : d'.version = d.version) : Publishes c snapshots d'
  | next {snapshots : List RouteSnapshot} {d d' : Controller} (h : Publishes c snapshots d)
      (m : Move d d') (new : d'.version = d.version + 1) :
      Publishes c (snapshots ++ [d'.published]) d'

theorem Moves.publishes (h : Moves c c') : ∃ snapshots, Publishes c snapshots c' := by
  induction h with
  | refl => exact ⟨[], .refl⟩
  | @tail d d' _ m ih =>
    obtain ⟨snapshots, h⟩ := ih
    rcases m.publication with quiet | ⟨_, new⟩
    · exact ⟨snapshots, h.quiet m (congrArg Prod.fst quiet)⟩
    · exact ⟨snapshots ++ [d'.published], h.next m new⟩

theorem Publishes.mirrors {snapshots : List RouteSnapshot} (h : Publishes c snapshots c')
    (start : Mirrors c) : Mirrors c' := by
  induction h with
  | refl => exact start
  | quiet _ m _ ih | next _ m _ ih => exact ih.move m

/-- The snapshots published on the way are numbered on without a gap or a repetition, and the last
one can be read. -/
theorem Publishes.numbered {snapshots : List RouteSnapshot} (h : Publishes c snapshots c')
    (start : Mirrors c) :
    (c.published :: snapshots).map RouteSnapshot.processed =
      List.range' c.version (snapshots.length + 1) ∧
    (c.published :: snapshots).getLast? = some c'.published ∧
    c'.version = c.version + snapshots.length := by
  induction h with
  | refl => exact ⟨by simp [start.version], rfl, rfl⟩
  | @quiet snapshots d d' h m same ih =>
    obtain ⟨numbers, last, version⟩ := ih
    rcases m.publication with quiet | ⟨_, new⟩
    · refine ⟨numbers, ?_, same.trans version⟩
      rw [show d'.published = d.published from congrArg Prod.snd quiet]
      exact last
    · omega
  | @next snapshots d d' h m new ih =>
    obtain ⟨numbers, _, version⟩ := ih
    have latest : d'.published.processed = c.version + (snapshots.length + 1) := by
      rw [((h.next m new).mirrors start).version, new, version, Nat.add_assoc]
    refine ⟨?_, ?_, ?_⟩
    · rw [List.length_append, List.length_singleton, List.range'_concat, Nat.one_mul, ← numbers,
        ← List.cons_append, List.map_append, List.map_singleton, latest]
    · rw [← List.cons_append, List.getLast?_append, List.getLast?_singleton]
      rfl
    · rw [List.length_append, List.length_singleton, new, version, Nat.add_assoc]

theorem Moves.version_le (h : Moves c c') : c.version ≤ c'.version := by
  refine h.keep (P := fun d => c.version ≤ d.version) ?_ (Nat.le_refl _)
  intro d d' le m
  rcases m.publication with quiet | ⟨_, new⟩
  · rwa [show d'.version = d.version from congrArg Prod.fst quiet]
  · omega

end CallAudio.Controller
