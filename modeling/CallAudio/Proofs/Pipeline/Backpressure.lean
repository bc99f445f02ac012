import CallAudio.Proofs.Controller.Placed
import CallAudio.Proofs.Pipeline.Look
import CallAudio.Proofs.Pipeline.Shutdown
import CallAudio.Proofs.Pipeline.Stoppable

/-!
Backpressure along a run. A place of the mailbox is taken by an entry or held by a call that waits,
and by nothing else; a submission is refused if and only if all places are taken.
-/

namespace CallAudio

/-! ## Submissions to a running controller -/

namespace Controller

variable {c : Controller}

theorem submit_of_room (running : c.isRunning = true)
    (room : c.mailbox.pending < c.mailbox.capacity) (scope : Log.Scope) (s : Submission) :
    (c.submit scope s).value = (.ok (), c.accept (Item.ofSubmission ⟨scope⟩ s)) := by
  have has : c.mailbox.hasRoom = true := Mailbox.hasRoom_iff.2 room
  rw [submit, value_enqueue, if_pos running, if_pos has]

theorem submit_of_full (running : c.isRunning = true)
    (full : c.mailbox.pending = c.mailbox.capacity) (scope : Log.Scope) (s : Submission) :
    (c.submit scope s).value = (.error (.queueFull (Item.ofSubmission ⟨scope⟩ s).name), c) := by
  have none : ¬c.mailbox.hasRoom = true := by
    intro room
    have fewer := Mailbox.hasRoom_iff.1 room
    omega
  rw [submit, value_enqueue, if_pos running, if_neg none]

/-- What a submission to a running controller may answer, and what it may change. -/
structure Exact (c : Controller) : Prop where
  refused_iff : ∀ scope s, (c.submit scope s).value.1 =
    .error (.queueFull (Item.ofSubmission ⟨scope⟩ s).name) ↔ c.mailbox.pending = c.mailbox.capacity
  accepted : ∀ scope s, c.mailbox.pending ≠ c.mailbox.capacity →
    (c.submit scope s).value.1 = .ok () ∧
      (c.submit scope s).value.2.mailbox.pending = c.mailbox.pending + 1
  unchanged : ∀ scope s e, (c.submit scope s).value.1 = .error e → (c.submit scope s).value.2 = c

theorem exact_of_rationed (running : c.isRunning = true) (rationed : c.mailbox.Rationed) :
    c.Exact := by
  have within := rationed.within
  constructor
  · intro scope s
    constructor
    · intro refused
      by_contra free
      rw [submit_of_room running (by omega)] at refused
      cases refused
    · intro full
      rw [submit_of_full running full]
  · intro scope s free
    rw [submit_of_room running (by omega)]
    exact ⟨rfl, Mailbox.pending_push c.mailbox _⟩
  · intro scope s e refused
    rcases submit_cases c scope s with ok | ⟨_, error⟩
    · rw [ok] at refused
      cases refused
    · rw [error]

end Controller

/-! ## Calls along a run -/

namespace Attended

variable {opens : WaitingCall.Kind → Prop} {a a' : Attended}

/-- The attended controller with calls that nobody looks at any more. -/
def beside (left : List WaitingCall) (a : Attended) : Attended :=
  ⟨a.controller, left ++ a.calls⟩

theorem Tidy.controller (m : Tidy a a') : Controller.Moves a.controller a'.controller := by
  cases m with
  | steady m => exact (Moves.controller (.single m.move))
  | cancel c before w after => exact .single (.cancel c w)
  | letGo c calls => exact .single (.letGo c)

theorem Tidily.controller (h : Tidily a a') : Controller.Moves a.controller a'.controller := by
  induction h with
  | refl => exact .refl
  | tail _ next ih => exact ih.trans next.controller

theorem Course.tidily (h : Course opens a a') : Tidily a a' := by
  induction h with
  | refl => exact .refl
  | tail _ next ih =>
    refine ih.tail (.steady ?_)
    cases next with
    | submit c calls scope s => exact .submit c calls scope s
    | work calls hw => exact .work calls hw
    | openCall c calls => exact .openCall c calls trivial
    | look c before w after => exact .look c before w after

theorem Course.beside (h : Course opens a a') (left : List WaitingCall) :
    Course opens (a.beside left) (a'.beside left) := by
  induction h with
  | refl => exact .refl
  | tail _ next ih =>
    refine ih.tail ?_
    cases next with
    | submit c calls scope s => exact .submit c _ scope s
    | work calls hw => exact .work _ hw
    | @openCall c calls kind allowed =>
      have opened : Steady opens _ _ := .openCall c (left ++ calls) allowed
      rwa [List.append_assoc] at opened
    | look c before w after =>
      have looked : Steady opens _ _ := .look c (left ++ before) w after
      rwa [List.append_assoc, List.append_assoc] at looked

end Attended

namespace Pipeline

open Controller (Moves Found)
open Attended (Placed Tidily Course)

/-- The call that a step sees through no further than its bound goes. Nobody looks at it any more, but
it was not given up either, and keeps its place in the line. -/
def cutOff (fuel : Nat) (p : Pipeline) (s : Step) : List WaitingCall :=
  if s.seesThrough then p.givenUp fuel s else []

/-- The call that a turn cuts off. -/
def Turn.cutOff (t : Turn) : List WaitingCall :=
  t.before.cutOff t.fuel t.step

variable {setup : Setup} {past : List Turn} {p : Pipeline} {t : Turn}

theorem cutOff_of_keeps {s : Step} (keeps : s.givesUp = false) (fuel : Nat) (p : Pipeline) :
    p.cutOff fuel s = [] := by
  rw [cutOff, givenUp_of_keeps keeps, ite_self]

theorem cancelAll_tidily (c : Controller) (left : List WaitingCall)
    (slots : List (Option WaitingCall)) :
    Tidily ⟨c, left ++ slots.reduceOption⟩ ⟨cancelAll c slots, left⟩ := by
  unfold cancelAll
  induction slots.reduceOption generalizing c with
  | nil =>
    rw [List.append_nil]
    exact .refl
  | cons w rest ih => exact .head (.cancel c left w rest) (ih (c.cancel w))

theorem heldStep_tidily {s : Step} (leaves : s.givesUp = true) {p : Pipeline}
    (held : p.controller.held = true) (fuel : Nat) (left : List WaitingCall) :
    ∃ calls, Tidily (p.attended.beside left) ⟨(heldStep fuel p s).value.2.controller, calls⟩ ∧
      calls.Perm (left ++ (p.cutOff fuel s ++ (heldStep fuel p s).value.2.attended.calls)) := by
  unfold cutOff givenUp
  rw [if_pos held]
  cases s with
  | await kind =>
    let opened := p.controller.openCall kind
    let still := (opened.2.leftOpen fuel fuel opened.1).toList
    have through : Course (fun _ => True) _ _ :=
      Attended.complete_course fuel fuel opened.2 (left ++ p.slots.reduceOption) opened.1 []
    have onward : Course (fun _ => True) _ _ := Attended.drive_course fuel
      (opened.2.complete fuel fuel opened.1).value.2 (left ++ p.slots.reduceOption ++ (still ++ []))
    have course : Course (fun _ => True) (p.attended.beside left) _ :=
      .head (.openCall p.controller _ trivial) (through.trans onward)
    refine ⟨_, course.tidily, ?_⟩
    rw [List.append_nil, List.append_assoc]
    exact List.perm_append_comm.append_left left
  | finish slot =>
    show ∃ calls : List WaitingCall, _ ∧ calls.Perm
      (left ++ (((p.call? slot).bind (p.controller.leftOpen fuel fuel)).toList ++ _))
    cases h : p.call? slot with
    | none =>
      rw [heldStep, h]
      exact ⟨_, .refl, List.Perm.refl _⟩
    | some w =>
      obtain ⟨before, after, split, changed⟩ := reduceOption_set h
      let still := (p.controller.leftOpen fuel fuel w).toList
      have through : Course (fun _ => True) _ _ :=
        Attended.complete_course fuel fuel p.controller (left ++ before) w after
      have onward : Course (fun _ => True) _ _ := Attended.drive_course fuel
        (p.controller.complete fuel fuel w).value.2 (left ++ before ++ (still ++ after))
      rw [value_heldStep_finish fuel h, attended, attended, split, changed, Attended.beside,
        ← List.append_assoc]
      refine ⟨_, Course.tidily (through.trans onward), ?_⟩
      rw [List.append_assoc]
      refine List.Perm.append_left left ?_
      show (before ++ (still ++ after)).Perm (still ++ (before ++ after))
      rw [← List.append_assoc, ← List.append_assoc]
      exact List.perm_append_comm.append_right after
  | cancel slot =>
    show ∃ calls : List WaitingCall, _ ∧ calls.Perm (left ++ _)
    cases h : p.call? slot with
    | none =>
      rw [heldStep, h]
      exact ⟨_, .refl, List.Perm.refl _⟩
    | some w =>
      obtain ⟨before, after, split, changed⟩ := reduceOption_set h
      rw [heldStep, h]
      dsimp only
      rw [Log.Logged.value_pure, attended, attended, split, changed, Attended.beside,
        ← List.append_assoc]
      refine ⟨_, .single (.cancel p.controller (left ++ before) w after), ?_⟩
      rw [List.append_assoc]
      exact List.Perm.refl _
  | drop =>
    have gone : (p.slots.map fun _ => (none : Option WaitingCall)).reduceOption = [] := by
      rw [List.map_const', List.reduceOption_replicate_none]
    have onward : Course (fun _ => True) _ _ := Attended.drive_course fuel
      { cancelAll p.controller p.slots with held := false } left
    refine ⟨left, ?_, ?_⟩
    · exact (cancelAll_tidily p.controller left p.slots).trans
        (.head (.letGo _ left) onward.tidily)
    · show left.Perm (left ++ (p.slots.map fun _ => (none : Option WaitingCall)).reduceOption)
      rw [gone, List.append_nil]
  | _ => cases leaves

/-- A turn that leaves the platform alone leaves no call alone but the one that it cuts off. -/
theorem Turn.tidily (steady : t.step.changesPlatform = false) (left : List WaitingCall) :
    ∃ calls, Tidily (t.before.attended.beside left) ⟨t.after.controller, calls⟩ ∧
      calls.Perm (left ++ (t.cutOff ++ t.after.attended.calls)) := by
  obtain ⟨p, fuel, s⟩ := t
  show ∃ calls, Tidily _ ⟨(p.step fuel s).value.2.controller, calls⟩ ∧
    calls.Perm (left ++ (p.cutOff fuel s ++ (p.step fuel s).value.2.attended.calls))
  cases leaves : s.givesUp with
  | false =>
    have course := step_course steady leaves fuel p
    rw [cutOff_of_keeps leaves]
    exact ⟨_, (course.beside left).tidily, List.Perm.refl _⟩
  | true =>
    have needs : s.needsHandle = true := by cases s <;> first | rfl | cases leaves
    rw [value_step_of_needsHandle needs]
    by_cases held : p.controller.held = true
    · rw [if_pos held]
      exact heldStep_tidily leaves held fuel left
    · have dropped : p.givenUp fuel s = [] := by
        unfold Pipeline.givenUp
        exact if_neg held
      have none : p.cutOff fuel s = [] := by rw [Pipeline.cutOff, dropped, ite_self]
      rw [if_neg held, none]
      exact ⟨_, .refl, List.Perm.refl _⟩

/-- The calls that wait, or may: those that are open, and those that were cut off. -/
def waiters (past : List Turn) (p : Pipeline) : List WaitingCall :=
  past.flatMap Turn.cutOff ++ p.attended.calls

theorem Run.placed (h : Run setup past p) : Placed ⟨p.controller, waiters past p⟩ := by
  induction h with
  | start h =>
    obtain ⟨_, published, hp⟩ := begun_of_start h
    rw [hp, waiters, attended_begun, controller_begun]
    exact ⟨ticketed_fresh setup published, by simp [Attended.Lined], by simp [fresh, Mailbox.line],
      by simp [fresh, Mailbox.line]⟩
  | @step past p _ fuel s ih =>
    let t : Turn := ⟨p, fuel, s⟩
    have cut : (past ++ [t]).flatMap Turn.cutOff = past.flatMap Turn.cutOff ++ t.cutOff := by
      rw [List.flatMap_append, List.flatMap_singleton]
    show Placed ⟨t.after.controller, (past ++ [t]).flatMap Turn.cutOff ++ t.after.attended.calls⟩
    rw [cut, List.append_assoc]
    cases changes : s.changesPlatform with
    | false =>
      obtain ⟨calls, moves, same⟩ := t.tidily changes (past.flatMap Turn.cutOff)
      have before : Placed (t.before.attended.beside (past.flatMap Turn.cutOff)) := ih
      exact (before.tidily moves).perm same
    | true =>
      have keeps : s.givesUp = false := by cases s <;> first | rfl | cases changes
      obtain ⟨system, after⟩ := step_platform changes fuel p
      have none : t.cutOff = [] := cutOff_of_keeps keeps fuel p
      have controller : t.after.controller = { p.controller with system } :=
        congrArg Attended.controller after
      have calls : t.after.attended.calls = p.slots.reduceOption := congrArg Attended.calls after
      rw [none, controller, calls]
      obtain ⟨⟨issued, distinct, known, once, outside⟩, lined, ⟨nodup, owner⟩⟩ := ih
      exact ⟨⟨issued, distinct, known, once, outside⟩, lined, ⟨nodup, owner⟩⟩

/-- The places are rationed along every run, and there are as many as the configuration asks for. -/
theorem Run.rationed (h : Run setup past p) :
    p.controller.mailbox.Rationed ∧
      p.controller.mailbox.capacity = setup.config.queueCapacity := by
  refine h.keep (P := fun c => c.mailbox.Rationed ∧
    c.mailbox.capacity = setup.config.queueCapacity) ?_ ?_
  · intro _ published
    exact ⟨⟨Nat.zero_le _, fun waits => absurd rfl waits⟩, rfl⟩
  · intro c c' ⟨rationed, capacity⟩ m
    obtain ⟨kept, same⟩ := m.changes.rationed rationed
    exact ⟨kept, same.trans capacity⟩

/-! ## Submissions in a row -/

theorem value_step_send (held : p.controller.held = true) (fuel : Nat) (s : Submission) :
    (p.step fuel (.send s)).value = (.outcome (p.controller.submit [] s).value.1,
      { p with controller := (p.controller.submit [] s).value.2 }) := by
  rw [value_step_of_needsHandle rfl, if_pos held]
  rfl

/-- As many submissions in a row are accepted as there are free places, and these are the first. -/
theorem results_send (held : p.controller.held = true) (running : p.controller.isRunning = true)
    (within : p.controller.mailbox.pending ≤ p.controller.mailbox.capacity) (fuel : Nat)
    (ss : List Submission) {k : Nat}
    (free : k = min ss.length
      (p.controller.mailbox.capacity - p.controller.mailbox.pending)) :
    (p.turns fuel (ss.map .send)).map (fun t => t.seen.answer.result?) =
      List.replicate k (some (.ok ())) ++ (ss.drop k).map fun s =>
        some (.error (.queueFull (Item.ofSubmission ⟨[]⟩ s).name)) := by
  induction ss generalizing p k with
  | nil =>
    rw [List.length_nil, Nat.zero_min] at free
    rw [free]
    rfl
  | cons s rest ih =>
    have stepped := value_step_send held fuel s
    rw [List.length_cons] at free
    by_cases full : p.controller.mailbox.pending = p.controller.mailbox.capacity
    · -- nothing changes, so the rest is refused as well
      rw [Controller.submit_of_full running full] at stepped
      have same : (p.observe fuel (.send s)).2 = p := congrArg Prod.snd stepped
      have none : k = 0 := by omega
      have more := ih held running within (k := 0) (by omega)
      have first : (Turn.seen ⟨p, fuel, .send s⟩).answer.result? =
          some (.error (.queueFull (Item.ofSubmission ⟨[]⟩ s).name)) :=
        congrArg (fun result => result.1.result?) stepped
      rw [none]
      show (Turn.seen ⟨p, fuel, .send s⟩).answer.result? ::
        ((p.observe fuel (.send s)).2.turns fuel (rest.map .send)).map _ = _
      rw [same, more, first]
      rfl
    · obtain ⟨k, rfl⟩ : ∃ j, k = j + 1 := ⟨k - 1, by omega⟩
      rw [Controller.submit_of_room running (by omega)] at stepped
      let accepted := p.controller.accept (Item.ofSubmission ⟨[]⟩ s)
      have after : (p.observe fuel (.send s)).2 = { p with controller := accepted } :=
        congrArg Prod.snd stepped
      have one : accepted.mailbox.pending = p.controller.mailbox.pending + 1 :=
        Mailbox.pending_push _ _
      have capacity : accepted.mailbox.capacity = p.controller.mailbox.capacity := rfl
      have more := ih (p := { p with controller := accepted }) (k := k) held running
        (by show accepted.mailbox.pending ≤ accepted.mailbox.capacity; omega)
        (by show k = min rest.length (accepted.mailbox.capacity - accepted.mailbox.pending); omega)
      have first : (Turn.seen ⟨p, fuel, .send s⟩).answer.result? = some (.ok ()) :=
        congrArg (fun result => result.1.result?) stepped
      show (Turn.seen ⟨p, fuel, .send s⟩).answer.result? ::
        ((p.observe fuel (.send s)).2.turns fuel (rest.map .send)).map _ = _
      rw [after, more, first]
      rfl

/-- One submission that is sent time and again is accepted until all places are taken. -/
theorem sendMany_of_running {c : Controller} (running : c.isRunning = true)
    (within : c.mailbox.pending ≤ c.mailbox.capacity) (s : Submission) (n accepted : Nat)
    {free : Nat} (room : free = c.mailbox.capacity - c.mailbox.pending) :
    (sendMany c s accepted none n).value.1 = .sent (accepted + min n free)
      (if n ≤ free then none else some (.queueFull (Item.ofSubmission ⟨[]⟩ s).name)) := by
  induction n generalizing c accepted free with
  | zero =>
    rw [Nat.zero_min, if_pos (Nat.zero_le free)]
    rfl
  | succ n ih =>
    by_cases full : c.mailbox.pending = c.mailbox.capacity
    · have none : free = 0 := by omega
      rw [sendMany_of_refused (Controller.submit_of_full running full [] s), none]
      simp
    · obtain ⟨left, rfl⟩ : ∃ left, free = left + 1 := ⟨free - 1, by omega⟩
      let after := c.accept (Item.ofSubmission ⟨[]⟩ s)
      have one : after.mailbox.pending = c.mailbox.pending + 1 := Mailbox.pending_push _ _
      have capacity : after.mailbox.capacity = c.mailbox.capacity := rfl
      have place : c.mailbox.pending < c.mailbox.capacity := by omega
      have onward : left = after.mailbox.capacity - after.mailbox.pending := by omega
      simp only [sendMany, Log.Logged.value_bind, Controller.submit_of_room running place]
      rw [Nat.succ_min_succ, if_congr Nat.succ_le_succ_iff rfl rfl,
        ih (c := after) running (by omega) (accepted + 1) onward]
      congr 1
      omega

/-- Along every run, whatever flushes and shutdowns are open, looked at or given up, and from there on
between any two moves by which no call is left alone, as long as the controller runs:

* the mailbox has as many places as the configuration asks for, and counts those that an entry takes
  and those that a call which waits holds, which are never more;
* a call that waits without a place does so while all are taken;
* a submission, from outside or from within the item that is being processed, is refused for now if
  and only if all places are taken, and takes just one if they are not; one that is refused changes
  nothing;
* of any submissions in a row, different ones or one time and again, just as many are accepted as
  places are free, and these are the first. -/
theorem backpressure_is_exact (h : Run setup past p) :
    (∀ a, Tidily ⟨p.controller, waiters past p⟩ a → a.controller.isRunning = true →
      let m := a.controller.mailbox
      m.capacity = setup.config.queueCapacity ∧
      m.pending = m.queue.length + a.calls.countP (WaitingCall.holds m) ∧
      m.pending ≤ m.capacity ∧
      (∀ w ∈ a.calls, w.stage = .waiting → w.holds m = false → m.pending = m.capacity) ∧
      ∀ c, Found a.controller c → c.isRunning = true →
        c.mailbox.capacity = setup.config.queueCapacity ∧ c.Exact) ∧
    (p.controller.held = true → p.controller.isRunning = true → ∀ fuel (ss : List Submission) k,
      k = min ss.length (setup.config.queueCapacity - p.controller.mailbox.pending) →
      (p.turns fuel (ss.map .send)).map (fun t => t.seen.answer.result?) =
        List.replicate k (some (.ok ())) ++ (ss.drop k).map fun s =>
          some (.error (.queueFull (Item.ofSubmission ⟨[]⟩ s).name))) ∧
    (p.controller.held = true → p.controller.isRunning = true → ∀ fuel s n free,
      free = setup.config.queueCapacity - p.controller.mailbox.pending →
      (Turn.seen ⟨p, fuel, .sendMany n s⟩).answer = .sent (min n free)
        (if n ≤ free then none else some (.queueFull (Item.ofSubmission ⟨[]⟩ s).name))) := by
  refine ⟨?places, ?row, ?many⟩
  case places =>
    intro a moves running
    have placed : a.Placed := h.placed.tidily moves
    obtain ⟨rationed, capacity⟩ : a.controller.mailbox.Rationed ∧
        a.controller.mailbox.capacity = setup.config.queueCapacity := by
      obtain ⟨kept, same⟩ := (Tidily.controller moves).changes.rationed h.rationed.1
      exact ⟨kept, same.trans h.rationed.2⟩
    have opened : a.controller.mailbox.closed = false := by
      have both := running
      rw [Controller.isRunning, Bool.and_eq_true, Bool.not_eq_true'] at both
      exact both.2
    refine ⟨capacity, ?_, rationed.within, ?_, ?_⟩
    · rw [Mailbox.pending, placed.length_granted]
    · intro w hw stage without
      refine placed.full rationed opened hw stage fun held => ?_
      simp [WaitingCall.holds, stage, held] at without
    · intro c found alive
      obtain ⟨kept, same⟩ := found.changes.rationed rationed
      exact ⟨same.trans capacity, Controller.exact_of_rationed alive kept⟩
  case row =>
    intro held running fuel ss k free
    rw [← h.rationed.2] at free
    exact results_send held running h.rationed.1.within fuel ss free
  case many =>
    intro held running fuel s n free room
    rw [← h.rationed.2] at room
    have sent := sendMany_of_running running h.rationed.1.within s n 0 room
    rw [Nat.zero_add] at sent
    show (p.step fuel (.sendMany n s)).value.1 = _
    rw [value_step_of_needsHandle rfl, if_pos held]
    exact sent

/-- Two messages fill a mailbox of two places, and a flush that waits is handed one of them once the
worker has taken both messages. -/
def handing : List Step :=
  [.send (.message .speakerOn), .send (.message .muteOn), .begin .flush, .drive]

/-- The flush holds its place, unused: of three messages more the first is accepted. -/
theorem handing_leaves_one_place :
    ∃ past p, Run narrow past p ∧ past.map Turn.step = handing ∧
      p.controller.isRunning = true ∧ p.controller.mailbox.queue = [] ∧
      (waiters past p).countP (WaitingCall.holds p.controller.mailbox) = 1 ∧
      p.controller.mailbox.pending = 1 ∧ p.controller.Exact ∧
      (p.turns 4 (List.replicate 3 (.send (.message .muteOff)))).map
          (fun t => t.seen.answer.result?) =
        [some (.ok ()), some (.error (.queueFull "MUTE_OFF")),
          some (.error (.queueFull "MUTE_OFF"))] ∧
      (Turn.seen ⟨p, 4, .sendMany 3 (.message .muteOff)⟩).answer =
        .sent 1 (some (.queueFull "MUTE_OFF")) := by
  have valid : narrow.config.validate = .ok () := validate_eq_ok_iff.2 (by decide)
  have run := @Run.ofSteps narrow {} valid (by decide) rfl 4 handing
  obtain ⟨places, row, many⟩ := backpressure_is_exact run
  obtain ⟨_, pending, _, _, submissions⟩ := places _ .refl rfl
  exact ⟨_, _, run, rfl, rfl, rfl, rfl, pending, (submissions _ .between rfl).2,
    row rfl rfl 4 (List.replicate 3 (.message .muteOff)) 1 rfl, many rfl rfl 4 _ 3 1 rfl⟩

end Pipeline

end CallAudio
