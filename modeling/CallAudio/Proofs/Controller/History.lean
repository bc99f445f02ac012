import CallAudio.Proofs.Controller.Publication
import CallAudio.Proofs.Controller.Sequential

/-!
The history that the worker keeps of itself: the entries of the items it processed last, in the order
in which it processed them. What becomes of an item, a panic included, makes no difference, and the
entries of the mailbox that carry no item leave no trace.
-/

namespace CallAudio

/-- What the history keeps of an item. -/
def Item.entry (item : Item) : HistoryEntry :=
  ⟨item.description, item.session⟩

/-- What is made of a submission keeps its scope as the session it was made in. -/
theorem Item.session_ofSubmission (session : Session) (s : Submission) :
    (ofSubmission session s).session = session := by
  cases s <;> rfl

namespace Controller

/-! ## The last entries -/

theorem length_rtake {α : Type} (n : Nat) (xs : List α) :
    (xs.rtake n).length = min n xs.length := by
  rw [List.rtake, List.length_drop]
  omega

/-- Of the last ones and one more, the last ones are those of all. -/
theorem rtake_rtake_concat {α : Type} (n : Nat) (xs : List α) (x : α) :
    (xs.rtake n ++ [x]).rtake n = (xs ++ [x]).rtake n := by
  cases n with
  | zero => rw [List.rtake_zero, List.rtake_zero]
  | succ n =>
    rw [List.rtake_concat_succ, List.rtake_concat_succ, List.rtake_eq_reverse_take_reverse,
      List.rtake_eq_reverse_take_reverse, List.rtake_eq_reverse_take_reverse,
      List.reverse_reverse, List.take_take, Nat.min_eq_left (Nat.le_succ n)]

/-! ## What a step of the worker processes -/

variable {c c' : Controller}

/-- The history holds the entries of the items that were processed last, at most `limit` of them; and
a worker that crashed had processed one item more than it had published. -/
structure Recalls (limit : Nat) (c : Controller) : Prop where
  keeps : c.config.historySize = limit
  recent : c.history = (c.executed.map Item.entry).rtake limit
  unpublished : ∀ cause, c.phase = .crashed cause → c.published.processed + 1 = c.executed.length

variable {limit : Nat}

theorem Recalls.length_history_le (h : Recalls limit c) : c.history.length ≤ limit := by
  rw [h.recent, length_rtake]
  exact Nat.min_le_left _ _

/-- One more item was processed, and enters the history as the latest. -/
theorem Recalls.process (h : Recalls limit c) (mirrors : Mirrors c) (running : c.phase = .running)
    (item : Item) : Recalls limit (c.process item).value := by
  have alive : c.phase.alive = true := by rw [running]; rfl
  have published : c.published.processed = c.executed.length := by
    rw [mirrors.version, ← mirrors.processed_eq_version alive, mirrors.processed]
  have remembered : remember c.config.historySize c.history item.entry =
      ((c.executed ++ [item]).map Item.entry).rtake limit := by
    rw [h.keeps, remember_eq_rtake h.length_history_le, h.recent, rtake_rtake_concat,
      List.map_append, List.map_singleton]
  obtain ⟨items, system, state, effects, frame⟩ := (execute_effects c item).frame
  rw [value_process, frame]
  rcases publish_cases (count _ item) with ⟨_, hp⟩ | ⟨_, hp⟩ <;> rw [hp] <;> cases item
  -- a snapshot was published, so the worker did not crash over this item
  · exact ⟨h.keeps, remembered, fun _ crashed => by cases running.symm.trans crashed⟩
  · exact ⟨h.keeps, remembered, fun _ crashed => by cases running.symm.trans crashed⟩
  all_goals
    refine ⟨h.keeps, remembered, fun _ _ => ?_⟩
    show c.published.processed + 1 = (c.executed ++ [_]).length
    rw [published, List.length_append, List.length_singleton]

theorem Recalls.worked (h : Recalls limit c) (mirrors : Mirrors c) (w : Worked c c') :
    Recalls limit c' := by
  cases w with
  | started | abandoned | stopped =>
    exact ⟨h.keeps, h.recent, fun _ crashed => by cases crashed⟩
  | acknowledged => exact ⟨h.keeps, h.recent, h.unpublished⟩
  | @processed running item mailbox _ =>
    refine Recalls.process (c := { c with mailbox }) ⟨h.keeps, h.recent, h.unpublished⟩ ?_ running
      item
    exact ⟨mirrors.current, mirrors.crashed, mirrors.processed, mirrors.version⟩

/-- Nothing but the worker touches the history. -/
theorem Recalls.move (h : Recalls limit c) (mirrors : Mirrors c) (m : Move c c') :
    Recalls limit c' := by
  cases m with
  | submit scope s =>
    exact submit_keep h (fun _ _ => ⟨h.keeps, h.recent, h.unpublished⟩) scope s
  | poll w =>
    obtain ⟨_, _, frame, _⟩ := poll_frame c w
    rw [frame]
    exact ⟨h.keeps, h.recent, h.unpublished⟩
  | cancel w =>
    obtain ⟨_, frame, _⟩ := cancel_frame c w
    rw [frame]
    exact ⟨h.keeps, h.recent, h.unpublished⟩
  | work hw => exact h.worked mirrors (worked_of_step? hw)
  | openCall | setDevices | decline | letGo => exact ⟨h.keeps, h.recent, h.unpublished⟩

theorem Moves.recalls (moves : Moves c c') (h : Recalls limit c) (mirrors : Mirrors c) :
    Recalls limit c' := by
  have kept := moves.keep (P := fun d => Recalls limit d ∧ Mirrors d)
    (fun ⟨recalls, mirrors⟩ m => ⟨recalls.move mirrors m, mirrors.move m⟩) ⟨h, mirrors⟩
  exact kept.1

end Controller

end CallAudio
