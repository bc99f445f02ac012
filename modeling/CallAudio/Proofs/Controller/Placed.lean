import CallAudio.Proofs.Controller.Stoppable
import CallAudio.Proofs.Mailbox.Places

/-!
Whose places in the mailbox are. All that a controller does to its mailbox keeps the places rationed;
and every place that is held unused is held by an open call that waits to put its entry in, which
has but one. So a place never leaks, whoever is given up and whenever.
-/

namespace CallAudio

variable {c c' : Controller}

/-! ## What a controller does to its mailbox -/

namespace Controller

open Mailbox (Change Changes)

theorem submit_changes (c : Controller) (scope : Log.Scope) (s : Submission) :
    Changes c.mailbox (c.submit scope s).value.2.mailbox := by
  show Changes _ (c.enqueue _).value.2.mailbox
  rw [value_enqueue]
  split
  · split
    · rename_i room
      exact .single (.push _ _ room)
    · exact .refl
  · exact .refl

theorem Effects.changes (h : Effects c c') : Changes c.mailbox c'.mailbox := by
  induction h with
  | refl => exact .refl
  | tail _ next ih =>
    cases next with
    | submit scope s => exact ih.trans (submit_changes _ scope s)
    | operate | clearActive | edit | reply => exact ih

theorem process_changes (c : Controller) (item : Item) :
    Changes c.mailbox (c.process item).value.mailbox := by
  have carried := (execute_effects c item).changes
  rw [note_mailbox] at carried
  rw [value_process]
  rcases publish_cases ((c.execute item).value.2.count item) with ⟨_, hp⟩ | ⟨_, hp⟩ <;> rw [hp]
  · exact carried
  · exact carried.tail (.close _)

/-- While an item is processed nobody enters the line. -/
theorem line_process (c : Controller) (item : Item) :
    List.Subperm (c.process item).value.mailbox.line c.mailbox.line := by
  obtain ⟨_, _, _, _, frame⟩ := (execute_effects c item).frame
  have same : (c.execute item).value.2.mailbox.line = c.mailbox.line := by
    rw [frame, note_mailbox]
    rfl
  rw [value_process]
  rcases publish_cases ((c.execute item).value.2.count item) with ⟨_, hp⟩ | ⟨_, hp⟩ <;> rw [hp]
  · rw [← same]
    exact List.Subperm.refl _
  · rw [← same]
    exact Mailbox.line_close _

theorem Worked.changes (w : Worked c c') : Changes c.mailbox c'.mailbox := by
  cases w with
  | started => exact .refl
  | abandoned => exact .single (.close _)
  | @processed _ item mailbox took =>
    exact .head (.take took) (process_changes { c with mailbox } item)
  | acknowledged _ took => exact .single (.take took)
  | stopped _ took => exact .head (.take took) (.single (.close _))

theorem poll_changes (c : Controller) (w : WaitingCall) :
    Changes c.mailbox (c.poll w).value.2.mailbox := by
  rcases mailbox_poll c w with ⟨same, _⟩ | ⟨entered, _⟩
  · rw [same]
  · rw [entered]
    exact .single (.enter _ _ _)

/-- A look leaves the mailbox alone, for a call that is not waiting, or has the call try to put its entry
in. -/
theorem line_poll (c : Controller) (w : WaitingCall) :
    (c.poll w).value.2.mailbox = c.mailbox ∧ w.stage ≠ .waiting ∨
      (c.poll w).value.2.mailbox = (c.mailbox.enter w.ticket w.command).2 ∧
        ((c.mailbox.enter w.ticket w.command).1 = .waiting →
          (c.poll w).value.1 = .pending { w with stage := .waiting }) := by
  have tries (c : Controller) : (c.tryEnter w).value.2.mailbox =
      (c.mailbox.enter w.ticket w.command).2 ∧ ((c.mailbox.enter w.ticket w.command).1 = .waiting →
        (c.tryEnter w).value.1 = .pending { w with stage := .waiting }) := by
    refine ⟨(mailbox_tryEnter c w).1, fun waits => ?_⟩
    unfold tryEnter
    split <;> rename_i h <;> rw [h] at waits
    · cases waits
    · rfl
    · cases waits
  unfold poll
  split <;> rename_i stage
  · split
    · split
      · exact .inr (tries c)
      · exact .inr (tries { c with accepting := false })
    · exact .inl ⟨rfl, by simp [stage]⟩
  · exact .inr (tries c)
  · exact .inl ⟨rfl, by simp [stage]⟩

theorem cancel_changes (c : Controller) (w : WaitingCall) :
    Changes c.mailbox (c.cancel w).mailbox := by
  unfold cancel
  split
  · exact .single (.withdraw _ _)
  · exact .refl
  · exact .refl

theorem Move.changes (m : Move c c') : Changes c.mailbox c'.mailbox := by
  cases m with
  | submit scope s => exact submit_changes c scope s
  | poll w => exact poll_changes c w
  | cancel w => exact cancel_changes c w
  | work h => exact (worked_of_step? h).changes
  | openCall | setDevices | decline | letGo => exact .refl

theorem Moves.changes (h : Moves c c') : Changes c.mailbox c'.mailbox :=
  h.keep (P := fun d => Changes c.mailbox d.mailbox) (fun past m => past.trans m.changes) .refl

/-- The controller as a submission finds it: as it stands between two moves, or as the item that the
worker is carrying out has made it so far. -/
inductive Found (c : Controller) : Controller → Prop
  | between : Found c c
  | within (running : c.phase = .running) {item : Item} {mailbox : Mailbox Command}
      (took : c.mailbox.take? = some (.item item, mailbox)) {d : Controller}
      (carried : Effects ({ c with mailbox }.note item) d) : Found c d

theorem Found.changes (h : Found c c') : Changes c.mailbox c'.mailbox := by
  cases h with
  | between => exact .refl
  | @within _ item mailbox took _ carried =>
    have more := carried.changes
    rw [note_mailbox] at more
    exact .head (.take took) more

end Controller

/-! ## Whose places they are -/

/-- Whether a call holds a place of the mailbox that it has not used. -/
def WaitingCall.holds (mailbox : Mailbox Command) (w : WaitingCall) : Bool :=
  w.stage = .waiting ∧ w.ticket ∈ mailbox.granted

namespace Attended

open Mailbox (line_take line_close line_withdraw line_enter)

/-- Everybody in the line is there once, and is an open call that waits. -/
structure Owned (a : Attended) : Prop where
  once : a.controller.mailbox.line.Nodup
  owner : ∀ t ∈ a.controller.mailbox.line, ∃ w ∈ a.calls, w.stage = .waiting ∧ w.ticket = t

variable {a a' : Attended} {calls calls' : List WaitingCall}

/-- The line may lose members and get into another order. -/
theorem Owned.of_subperm (h : Owned ⟨c, calls⟩)
    (fewer : List.Subperm c'.mailbox.line c.mailbox.line) : Owned ⟨c', calls⟩ := by
  obtain ⟨kept, same, sublist⟩ := fewer
  constructor
  · exact same.nodup_iff.1 (h.once.sublist sublist)
  · intro t ht
    exact h.owner t (sublist.mem (same.mem_iff.2 ht))

theorem Owned.submit (h : Owned ⟨c, calls⟩) (scope : Log.Scope) (s : Submission) :
    Owned ⟨(c.submit scope s).value.2, calls⟩ :=
  Controller.submit_keep (P := fun d => Owned ⟨d, calls⟩) h (fun _ _ => ⟨h.once, h.owner⟩) scope s

theorem Owned.worked (h : Owned ⟨c, calls⟩) (w : Controller.Worked c c') : Owned ⟨c', calls⟩ := by
  cases w with
  | started => exact ⟨h.once, h.owner⟩
  | abandoned => exact h.of_subperm (line_close _)
  | acknowledged _ took => exact h.of_subperm (line_take took).subperm
  | stopped _ took => exact h.of_subperm ((line_close _).trans (line_take took).subperm)
  | @processed _ item mailbox took =>
    have processed := Controller.line_process { c with mailbox } item
    exact h.of_subperm (processed.trans (line_take took).subperm)

theorem mem_others {before after : List WaitingCall} {w x : WaitingCall}
    (hx : x ∈ before ++ w :: after) (apart : x ≠ w) : x ∈ before ++ after := by
  rw [List.mem_append, List.mem_cons] at hx
  rw [List.mem_append]
  exact hx.imp_right fun here => here.resolve_left apart

/-- A call may go once it is out of the line, and so may one that was never in it. -/
theorem Owned.leave {before after : List WaitingCall} {w : WaitingCall}
    (h : Owned ⟨c, before ++ w :: after⟩)
    (out : c'.mailbox.line.Perm (c.mailbox.line.erase w.ticket) ∨
      c'.mailbox = c.mailbox ∧ w.stage ≠ .waiting) : Owned ⟨c', before ++ after⟩ := by
  have once : c.mailbox.line.Nodup := h.once
  rcases out with erased | ⟨same, outside⟩
  · refine ⟨erased.nodup_iff.2 (once.erase _), ?_⟩
    intro t ht
    obtain ⟨differs, here⟩ := once.mem_erase_iff.1 (erased.mem_iff.1 ht)
    obtain ⟨x, hx, stage, rfl⟩ := h.owner t here
    exact ⟨x, mem_others hx fun same => differs (congrArg WaitingCall.ticket same), stage, rfl⟩
  · constructor
    · show c'.mailbox.line.Nodup
      rw [same]
      exact once
    · intro t ht
      change t ∈ c'.mailbox.line at ht
      rw [same] at ht
      obtain ⟨x, hx, stage, ticket⟩ := h.owner t ht
      exact ⟨x, mem_others hx fun same => outside (same ▸ stage), stage, ticket⟩

theorem Owned.more (h : Owned ⟨c, calls⟩) (sublist : List.Sublist calls calls') :
    Owned ⟨c, calls'⟩ := by
  refine ⟨h.once, fun t ht => ?_⟩
  obtain ⟨x, hx, stage, ticket⟩ := h.owner t ht
  exact ⟨x, sublist.mem hx, stage, ticket⟩

/-- The call that was looked at is in the line afterwards only if it is left waiting. -/
theorem Owned.look {before after : List WaitingCall} {w : WaitingCall}
    (h : Owned ⟨c, before ++ w :: after⟩) :
    Owned ⟨(c.poll w).value.2, before ++ ((c.poll w).value.1.left?.toList ++ after)⟩ := by
  have fewer (middle : List WaitingCall) : List.Sublist (before ++ after)
      (before ++ (middle ++ after)) := (List.sublist_append_right middle after).append_left before
  rcases Controller.line_poll c w with same | ⟨entered, waits⟩
  · exact (h.leave (.inr same)).more (fewer _)
  · rcases line_enter h.once w.ticket w.command with ⟨waiting, once, others⟩ | erased
    · rw [waits waiting]
      constructor
      · show (c.poll w).value.2.mailbox.line.Nodup
        rw [entered]
        exact once
      · intro t ht
        change t ∈ (c.poll w).value.2.mailbox.line at ht
        rw [entered] at ht
        by_cases own : t = w.ticket
        · exact ⟨{ w with stage := .waiting }, by simp, rfl, own.symm⟩
        · obtain ⟨x, hx, stage, ticket⟩ := h.owner t (others t ht own)
          have apart : x ≠ w := by
            rintro rfl
            exact own ticket.symm
          exact ⟨x, (fewer _).mem (mem_others hx apart), stage, ticket⟩
    · rw [← entered] at erased
      exact (h.leave (.inl erased)).more (fewer _)

theorem Owned.cancel {before after : List WaitingCall} {w : WaitingCall}
    (h : Owned ⟨c, before ++ w :: after⟩) : Owned ⟨c.cancel w, before ++ after⟩ := by
  refine h.leave ?_
  unfold Controller.cancel
  split <;> rename_i stage
  · exact .inl (line_withdraw h.once _)
  · exact .inr ⟨rfl, by simp [stage]⟩
  · exact .inr ⟨rfl, by simp [stage]⟩

/-! ## Calls that are not left alone -/

/-- A move by which no call is left alone: a call that goes is over or was given up. -/
inductive Tidy : Attended → Attended → Prop
  | steady {a a' : Attended} (m : Steady (fun _ => True) a a') : Tidy a a'
  | cancel (c : Controller) (before : List WaitingCall) (w : WaitingCall)
      (after : List WaitingCall) : Tidy ⟨c, before ++ w :: after⟩ ⟨c.cancel w, before ++ after⟩
  | letGo (c : Controller) (calls : List WaitingCall) :
      Tidy ⟨c, calls⟩ ⟨{ c with held := false }, calls⟩

/-- A sequence of such moves. -/
abbrev Tidily : Attended → Attended → Prop := Relation.ReflTransGen Tidy

/-- All that the places of the calls rest on: tickets are not shared, who waits is in the line, and
who is in the line waits. -/
structure Placed (a : Attended) : Prop where
  ticketed : a.Ticketed
  lined : a.Lined
  owned : a.Owned

theorem Placed.steady {opens : WaitingCall.Kind → Prop} (h : Placed a) (m : Steady opens a a') :
    Placed a' := by
  refine ⟨h.ticketed.move m.move, h.lined.move h.ticketed m.move, ?_⟩
  have owned := h.owned
  cases m with
  | submit c calls scope s => exact owned.submit scope s
  | work calls hw => exact owned.worked (Controller.worked_of_step? hw)
  | @openCall c calls kind =>
    have kept : Owned ⟨(c.openCall kind).2, calls⟩ := ⟨owned.once, owned.owner⟩
    exact kept.more (List.sublist_append_left _ _)
  | look c before w after => exact owned.look

theorem Placed.tidy (h : Placed a) (m : Tidy a a') : Placed a' := by
  cases m with
  | steady m => exact h.steady m
  | cancel c before w after =>
    have m : Move _ _ := .cancel c before w after
    exact ⟨h.ticketed.move m, h.lined.move h.ticketed m, h.owned.cancel⟩
  | letGo c calls =>
    obtain ⟨⟨issued, distinct, known, once, outside⟩, lined, ⟨nodup, owner⟩⟩ := h
    exact ⟨⟨issued, distinct, known, once, outside⟩, lined, ⟨nodup, owner⟩⟩

theorem Placed.tidily (h : Placed a) (moves : Tidily a a') : Placed a' := by
  induction moves with
  | refl => exact h
  | tail _ next ih => exact ih.tidy next

/-- The order of the calls is of no account. -/
theorem Placed.perm (h : Placed ⟨c, calls⟩) (same : calls.Perm calls') : Placed ⟨c, calls'⟩ := by
  obtain ⟨⟨issued, distinct, known, once, outside⟩, lined, ⟨nodup, owner⟩⟩ := h
  have back {w : WaitingCall} (hw : w ∈ calls') : w ∈ calls := same.mem_iff.2 hw
  refine ⟨⟨?_, ?_, known, once, ?_⟩, ?_, nodup, ?_⟩
  · exact fun w hw => issued w (back hw)
  · exact (same.map _).nodup_iff.1 distinct
  · exact fun w hw => outside w (back hw)
  · exact fun w hw => lined w (back hw)
  · intro t ht
    obtain ⟨w, hw, stage, ticket⟩ := owner t ht
    exact ⟨w, same.mem_iff.1 hw, stage, ticket⟩

/-- The places that are held unused are as many as the calls that hold one. -/
theorem Placed.length_granted (h : Placed ⟨c, calls⟩) :
    c.mailbox.granted.length = calls.countP (WaitingCall.holds c.mailbox) := by
  have once : c.mailbox.line.Nodup := h.owned.once
  have granted : c.mailbox.granted.Nodup := (List.nodup_append.1 once).2.1
  have holders : ((calls.filter (WaitingCall.holds c.mailbox)).map WaitingCall.ticket).Nodup :=
    h.ticketed.distinct.sublist (List.filter_sublist.map _)
  have same : ((calls.filter (WaitingCall.holds c.mailbox)).map WaitingCall.ticket).Perm
      c.mailbox.granted := by
    refine (List.perm_ext_iff_of_nodup holders granted).2 fun t => ?_
    simp only [List.mem_map, List.mem_filter, WaitingCall.holds, decide_eq_true_eq]
    constructor
    · rintro ⟨w, ⟨_, _, held⟩, rfl⟩
      exact held
    · intro held
      obtain ⟨w, hw, stage, rfl⟩ := h.owned.owner t (List.mem_append_right _ held)
      exact ⟨w, ⟨hw, stage, held⟩, rfl⟩
  rw [← same.length_eq, List.length_map, List.countP_eq_length_filter]

/-- A call that waits without a place is waited for by the mailbox, which is full. -/
theorem Placed.full (h : Placed ⟨c, calls⟩) (rationed : c.mailbox.Rationed)
    (opened : c.mailbox.closed = false) {w : WaitingCall} (hw : w ∈ calls)
    (stage : w.stage = .waiting) (without : w.ticket ∉ c.mailbox.granted) :
    c.mailbox.pending = c.mailbox.capacity := by
  have waits : w.ticket ∈ c.mailbox.waiting := (h.lined w hw stage opened).resolve_right without
  exact rationed.full (List.ne_nil_of_mem waits)

end Attended

end CallAudio
