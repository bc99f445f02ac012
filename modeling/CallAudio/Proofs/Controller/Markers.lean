import CallAudio.Proofs.Controller.Stopping
import Mathlib.Data.List.Nodup

/-!
The markers of flushes. Every open call has a ticket of its own, and puts its marker into the
mailbox at most once; so a flush whose marker does not come before the marker of a shutdown is
missed by the worker for good. The entries ahead of the marker of a shutdown are what the worker
still has to do before it ends.
-/

namespace CallAudio

/-- The ticket of a flush marker. -/
def Command.flush? : Command → Option Ticket
  | flush t => some t
  | item _ | stop => none

theorem WaitingCall.flush?_command {w : WaitingCall} :
    w.command.flush? = if w.kind = .flush then some w.ticket else none := by
  cases kind : w.kind <;> simp [command, kind, Command.flush?]

variable {c c' : Controller}

/-! ## Tickets -/

namespace Controller

/-- The tickets of the markers that the worker has come to, and of those that are queued. -/
def markers (c : Controller) : List Ticket :=
  c.acknowledged ++ c.mailbox.queue.filterMap Command.flush?

/-- Items in the queue are no markers. -/
theorem markers_of_items {rest : List Command} {items : List Item}
    (acknowledged : c'.acknowledged = c.acknowledged)
    (queue : c'.mailbox.queue = rest ++ items.map Command.item) :
    c'.markers = c.acknowledged ++ rest.filterMap Command.flush? := by
  have none : (items.map Command.item).filterMap Command.flush? = [] := by
    rw [List.filterMap_map]
    exact List.filterMap_eq_nil_iff.2 fun _ _ => rfl
  rw [markers, acknowledged, queue, List.filterMap_append, none, List.append_nil]

theorem markers_of_empty (acknowledged : c'.acknowledged = c.acknowledged)
    (empty : c'.mailbox.queue = []) : List.Sublist c'.markers c.markers := by
  rw [markers, markers, acknowledged, empty, List.filterMap_nil, List.append_nil]
  exact List.sublist_append_left _ _

theorem submit_markers (c : Controller) (scope : Log.Scope) (s : Submission) :
    (c.submit scope s).value.2.markers = c.markers := by
  refine submit_keep (P := fun d => d.markers = c.markers) rfl ?_ scope s
  intro _ item
  have queue : (c.accept item).mailbox.queue = c.mailbox.queue ++ [item].map Command.item := rfl
  exact markers_of_items (c := c) rfl queue

/-- The worker moves a marker from the queue to those it has come to; only where it ends it drops
some. -/
theorem Worked.markers (w : Worked c c') :
    c'.markers = c.markers ∨ c'.phase.alive = false ∧ List.Sublist c'.markers c.markers := by
  cases w with
  | started => exact .inl rfl
  | abandoned | stopped => exact .inr ⟨rfl, markers_of_empty rfl rfl⟩
  | acknowledged running took =>
    left
    rw [Controller.markers, Controller.markers, Mailbox.queue_of_take? took, List.append_assoc]
    rfl
  | @processed running item mailbox took =>
    obtain ⟨items, done⟩ := processed_process { c with mailbox } item
    obtain ⟨_, _, queue⟩ | ⟨_, phase, _, empty⟩ := done.published
    · left
      rw [markers_of_items done.acknowledged queue, Controller.markers,
        Mailbox.queue_of_take? took]
      rfl
    · exact .inr ⟨by rw [phase]; rfl, markers_of_empty done.acknowledged empty⟩

theorem Worked.markers_sublist (w : Worked c c') : List.Sublist c'.markers c.markers := by
  rcases w.markers with same | ⟨_, fewer⟩
  · rw [same]
  · exact fewer

theorem Worked.nextTicket (w : Worked c c') : c'.nextTicket = c.nextTicket := by
  cases w with
  | @processed running item mailbox took =>
    obtain ⟨_, done⟩ := processed_process { c with mailbox } item
    exact done.nextTicket
  | started | abandoned | acknowledged | stopped => rfl

/-- A look adds the marker of a flush that enters, and no other. -/
theorem Looked.markers {w : WaitingCall} {outcome : WaitingCall.Outcome}
    (l : Looked c w outcome c') :
    ∃ more, c'.markers = c.markers ++ more ∧ List.Sublist more [w.ticket] ∧
      (more ≠ [] → w.stage ≠ .entered) ∧
      ∀ x, outcome.left? = some x → x.stage ≠ .entered → w.stage ≠ .entered ∧ more = [] := by
  have unchanged {mailbox : Mailbox Command} {accepting : Bool}
      (queue : mailbox.queue = c.mailbox.queue) :
      Controller.markers { c with mailbox, accepting } = c.markers ++ [] := by
    rw [Controller.markers, Controller.markers, queue, List.append_nil]
  cases l with
  | late => exact ⟨[], (List.append_nil _).symm, List.nil_sublist _, by simp, by simp⟩
  | refused _ _ queue =>
    exact ⟨[], unchanged queue, List.nil_sublist _, by simp, by simp⟩
  | waits _ outside _ queue =>
    exact ⟨[], unchanged queue, List.nil_sublist _, by simp, fun _ _ _ => ⟨outside, rfl⟩⟩
  | settled =>
    refine ⟨[], (List.append_nil _).symm, List.nil_sublist _, by simp, ?_⟩
    intro x left stage
    rw [left?_settle left] at stage
    exact ⟨stage, rfl⟩
  | entered _ outside _ queue =>
    refine ⟨w.command.flush?.toList, ?_, ?_, fun _ => outside, ?_⟩
    · show c.acknowledged ++ List.filterMap _ _ = _
      rw [queue, List.filterMap_append, ← List.append_assoc]
      cases w.command <;> rfl
    · rw [WaitingCall.flush?_command]
      split
      · exact List.Sublist.refl _
      · exact List.nil_sublist _
    · intro x left stage
      rw [left?_settle left] at stage
      exact absurd rfl stage

end Controller

namespace Attended

open Controller (Worked Looked looked_poll)

/-- Tickets are never reused: each belongs to one open call at most, and to one marker at most; a
call whose entry is not in the mailbox has no marker. -/
structure Ticketed (a : Attended) : Prop where
  issued : ∀ w ∈ a.calls, w.ticket < a.controller.nextTicket
  distinct : (a.calls.map WaitingCall.ticket).Nodup
  known : ∀ t ∈ a.controller.markers, t < a.controller.nextTicket
  once : a.controller.markers.Nodup
  outside : ∀ w ∈ a.calls, w.stage ≠ .entered → w.ticket ∉ a.controller.markers

variable {a a' : Attended} {calls left : List WaitingCall}

theorem Ticketed.fewer (h : Ticketed ⟨c, calls⟩) (same : c'.nextTicket = c.nextTicket)
    (markers : List.Sublist c'.markers c.markers) (fewer : List.Sublist left calls) :
    Ticketed ⟨c', left⟩ where
  issued w hw := Nat.lt_of_lt_of_eq (h.issued w (fewer.mem hw)) same.symm
  distinct := h.distinct.sublist (fewer.map _)
  known t ht := Nat.lt_of_lt_of_eq (h.known t (markers.mem ht)) same.symm
  once := h.once.sublist markers
  outside w hw stage ht := h.outside w (fewer.mem hw) stage (markers.mem ht)

theorem Ticketed.openCall (h : Ticketed ⟨c, calls⟩) (kind : WaitingCall.Kind) :
    Ticketed ⟨(c.openCall kind).2, calls ++ [(c.openCall kind).1]⟩ where
  issued w hw := by
    rcases List.mem_append.1 hw with hw | hw
    · exact Nat.lt_succ_of_lt (h.issued w hw)
    · rw [List.mem_singleton.1 hw]
      exact Nat.lt_succ_self c.nextTicket
  distinct := by
    rw [List.map_append, List.map_singleton, ← List.concat_eq_append]
    refine List.Nodup.concat ?_ h.distinct
    intro used
    obtain ⟨w, hw, same⟩ := List.mem_map.1 used
    exact absurd same (Nat.ne_of_lt (h.issued w hw))
  known t ht := Nat.lt_succ_of_lt (h.known t ht)
  once := h.once
  outside w hw stage := by
    rcases List.mem_append.1 hw with hw | hw
    · exact h.outside w hw stage
    · rw [List.mem_singleton.1 hw]
      intro used
      exact absurd (h.known _ used) (Nat.lt_irrefl _)

/-- No other open call has the ticket of this one. -/
theorem Ticketed.other {before after : List WaitingCall} {w x : WaitingCall}
    (h : Ticketed ⟨c, before ++ w :: after⟩) (hx : x ∈ before ++ after) : x.ticket ≠ w.ticket := by
  have distinct := h.distinct
  simp only [List.map_append, List.map_cons, List.nodup_middle] at distinct
  obtain ⟨others, _⟩ := List.nodup_cons.1 distinct
  rw [← List.map_append] at others
  intro same
  rw [← same] at others
  exact others (List.mem_map_of_mem hx)

/-- Of the calls that are left, the one that was looked at keeps its ticket, which only its own
marker may have. -/
theorem Ticketed.look {before after : List WaitingCall} {w : WaitingCall}
    (h : Ticketed ⟨c, before ++ w :: after⟩) :
    Ticketed ⟨(c.poll w).value.2, before ++ ((c.poll w).value.1.left?.toList ++ after)⟩ := by
  have looked := looked_poll c w
  have here : w ∈ before ++ w :: after := List.mem_append_right _ List.mem_cons_self
  have kept := sublist_without before w after
  obtain ⟨more, markers, own, entering, staying⟩ := looked.markers
  obtain ⟨mailbox, accepting, frame, _⟩ := looked.frame
  have same : (c.poll w).value.2.nextTicket = c.nextTicket := by rw [frame]
  refine ⟨?issued, ?distinct, ?known, ?once, ?outside⟩
  case issued =>
    intro x hx
    show x.ticket < (c.poll w).value.2.nextTicket
    rw [same]
    rcases mem_looked hx with old | left
    · exact h.issued x (kept.mem old)
    · obtain ⟨_, rfl⟩ := looked.left? left
      exact h.issued w here
  case distinct =>
    have tickets : List.Sublist ((c.poll w).value.1.left?.toList.map WaitingCall.ticket)
        [w.ticket] := by
      cases left : (c.poll w).value.1.left? with
      | none => exact List.nil_sublist _
      | some x =>
        obtain ⟨_, rfl⟩ := looked.left? left
        exact List.Sublist.refl _
    refine h.distinct.sublist ?_
    simp only [List.map_append, List.map_cons]
    exact (tickets.append_right _).append_left _
  case known =>
    intro t ht
    show t < (c.poll w).value.2.nextTicket
    rw [same]
    rw [show (Attended.mk (c.poll w).value.2 _).controller.markers = _ from markers] at ht
    rcases List.mem_append.1 ht with ht | ht
    · exact h.known t ht
    · rw [List.mem_singleton.1 (own.mem ht)]
      exact h.issued w here
  case once =>
    show (c.poll w).value.2.markers.Nodup
    rw [markers]
    refine h.once.append (own.nodup (List.nodup_singleton _)) ?_
    intro t old new
    rw [List.mem_singleton.1 (own.mem new)] at old
    exact h.outside w here (entering (List.ne_nil_of_mem new)) old
  case outside =>
    intro x hx stage
    show x.ticket ∉ (c.poll w).value.2.markers
    rw [markers, List.mem_append, not_or]
    rcases mem_looked hx with old | left
    · exact ⟨h.outside x (kept.mem old) stage, fun new =>
        h.other old (List.mem_singleton.1 (own.mem new))⟩
    · obtain ⟨outside, none⟩ := staying x left stage
      obtain ⟨_, rfl⟩ := looked.left? left
      exact ⟨h.outside w here outside, by simp [none]⟩

theorem Ticketed.move (h : Ticketed a) (m : Move a a') : Ticketed a' := by
  cases m with
  | submit c calls scope s =>
    have same : (c.submit scope s).value.2.nextTicket = c.nextTicket :=
      Controller.submit_keep (P := fun d => d.nextTicket = c.nextTicket) rfl (fun _ _ => rfl)
        scope s
    exact h.fewer same (by rw [Controller.submit_markers]) (List.Sublist.refl _)
  | work calls hw =>
    have worked := Controller.worked_of_step? hw
    exact h.fewer worked.nextTicket worked.markers_sublist (List.Sublist.refl _)
  | openCall c calls kind => exact h.openCall kind
  | look c before w after => exact h.look
  | cancel c before w after =>
    obtain ⟨mailbox, frame, queue⟩ := Controller.cancel_frame c w
    rw [frame]
    refine h.fewer rfl ?_ (sublist_without before w after)
    rw [Controller.markers, queue]
    exact List.Sublist.refl _
  | forget c before w after =>
    exact h.fewer rfl (List.Sublist.refl _) (sublist_without before w after)
  | letGo c => exact h.fewer rfl (List.Sublist.refl _) (List.Sublist.refl _)

end Attended

namespace Pipeline

theorem ticketed_fresh (setup : Setup) (published : RouteSnapshot) :
    Attended.Ticketed ⟨fresh setup published, []⟩ :=
  ⟨by simp, .nil, by simp [Controller.markers, fresh], .nil, by simp⟩

theorem Run.ticketed {setup : Setup} {past : List Turn} {p : Pipeline} (h : Run setup past p) :
    p.attended.Ticketed := by
  refine h.attends (ticketed_fresh setup) Attended.Ticketed.move ?_
  intro _ c calls before system
  exact ⟨before.issued, before.distinct, before.known, before.once, before.outside⟩

end Pipeline

end CallAudio
