import CallAudio.Proofs.Controller.Markers

/-!
How a live worker may yet be stopped. There is one way at any time: submissions are still taken, and
a shutdown may begin; or one has begun and waits to put its marker in; or its marker is queued. The
one way is lost when a shutdown that waits is given up, and only then.
-/

namespace CallAudio

theorem countP_singleton_eq_toNat {α : Type} (p : α → Bool) (x : α) :
    [x].countP p = (p x).toNat := by
  cases h : p x <;> simp [h]

/-- Whether the command is the marker of a shutdown. -/
def Command.isStop : Command → Bool
  | stop => true
  | item _ | flush _ => false

theorem Command.isStop_iff {x : Command} : x.isStop = true ↔ x = stop := by
  cases x <;> simp [isStop]

/-- Whether the call is a shutdown that has begun and whose marker is yet to be put in. -/
def WaitingCall.waitsToStop (w : WaitingCall) : Bool :=
  w.kind = .shutdown ∧ w.stage = .waiting

namespace WaitingCall

theorem waitsToStop_iff {w : WaitingCall} :
    w.waitsToStop = true ↔ w.kind = .shutdown ∧ w.stage = .waiting := by
  simp [waitsToStop]

theorem waitsToStop_of_stage {w : WaitingCall} (h : w.stage ≠ .waiting) :
    w.waitsToStop = false := by
  simp [waitsToStop, h]

theorem waitsToStop_waiting (w : WaitingCall) :
    ({ w with stage := .waiting } : WaitingCall).waitsToStop = w.command.isStop := by
  cases kind : w.kind <;> simp [waitsToStop, command, kind, Command.isStop]

/-- Putting its marker in or going to wait for that, a shutdown uses up what it came from: the
taking of submissions if it begins, and its own waiting after that. -/
theorem toNat_begins {w : WaitingCall} {accepting : Bool} (outside : w.stage ≠ .entered)
    (first : w.stage = .fresh → accepting = true) :
    (accepting && !w.begins).toNat + w.command.isStop.toNat =
      accepting.toNat + w.waitsToStop.toNat := by
  cases kind : w.kind with
  | flush => simp [begins, waitsToStop, command, kind, Command.isStop]
  | shutdown =>
    cases stage : w.stage with
    | fresh => simp [begins, waitsToStop, command, kind, stage, Command.isStop, first stage]
    | waiting => simp [begins, waitsToStop, command, kind, stage, Command.isStop]
    | entered => exact absurd stage outside

end WaitingCall

variable {c c' : Controller}

/-! ## The ways to stop a worker -/

namespace Controller

theorem countP_isStop_items (items : List Item) :
    (items.map Command.item).countP Command.isStop = 0 := by
  rw [List.countP_map, List.countP_eq_zero]
  exact fun _ _ => Bool.false_ne_true

theorem countP_isStop_of_items {rest : List Command} {items : List Item}
    (queue : c.mailbox.queue = rest ++ items.map Command.item) :
    c.mailbox.queue.countP Command.isStop = rest.countP Command.isStop := by
  rw [queue, List.countP_append, countP_isStop_items, Nat.add_zero]

theorem submit_countP_isStop (c : Controller) (scope : Log.Scope) (s : Submission) :
    (c.submit scope s).value.2.mailbox.queue.countP Command.isStop =
      c.mailbox.queue.countP Command.isStop := by
  refine submit_keep (P := fun d => d.mailbox.queue.countP Command.isStop = _) rfl ?_ scope s
  intro _ item
  have queue : (c.accept item).mailbox.queue = c.mailbox.queue ++ [item].map Command.item := rfl
  exact countP_isStop_of_items queue

/-- A worker that goes on has not come to the marker of a shutdown. -/
theorem Worked.countP_isStop (w : Worked c c') (alive : c'.phase.alive = true) :
    c'.mailbox.queue.countP Command.isStop = c.mailbox.queue.countP Command.isStop := by
  cases w with
  | started => rfl
  | abandoned | stopped => cases alive
  | acknowledged _ took =>
    rw [Mailbox.queue_of_take? took]
    exact (List.countP_cons_of_neg Bool.false_ne_true).symm
  | @processed _ item mailbox took =>
    obtain ⟨items, done⟩ := processed_process { c with mailbox } item
    obtain ⟨_, _, queue⟩ | ⟨_, phase, _⟩ := done.published
    · rw [countP_isStop_of_items queue, Mailbox.queue_of_take? took]
      exact (List.countP_cons_of_neg Bool.false_ne_true).symm
    · rw [phase] at alive
      cases alive

theorem poll_of_late {w : WaitingCall} (first : w.stage = .fresh) (shut : c.accepting = false) :
    (c.poll w).value = (.done (.error .workerStopped), c) := by
  simp [poll, first, shut]

theorem countP_left?_settle {w : WaitingCall} (inside : w.stage = .entered) :
    (c.settle w).value.left?.toList.countP WaitingCall.waitsToStop = 0 := by
  cases left : (c.settle w).value.left? with
  | none => rfl
  | some x =>
    rw [left?_settle left]
    simp [WaitingCall.waitsToStop, inside]

/-- A look neither adds a way nor loses one: a shutdown that begins does so in place of the taking
of submissions, and its marker takes the place of its waiting. -/
theorem Looked.ways {w : WaitingCall} {outcome : WaitingCall.Outcome} (l : Looked c w outcome c')
    (opened : c.mailbox.closed = false) (first : w.stage = .fresh → c.accepting = true)
    (accepting : c'.accepting = (c.accepting && !w.begins)) :
    c'.accepting.toNat + c'.mailbox.queue.countP Command.isStop +
        outcome.left?.toList.countP WaitingCall.waitsToStop =
      c.accepting.toNat + c.mailbox.queue.countP Command.isStop + w.waitsToStop.toNat := by
  rw [accepting]
  cases l with
  | late fresh shut => cases (first fresh).symm.trans shut
  | refused _ closed => cases opened.symm.trans closed
  | @entered mailbox _ outside _ queue =>
    have turn := WaitingCall.toNat_begins outside first
    have entry : mailbox.queue.countP Command.isStop =
        c.mailbox.queue.countP Command.isStop + w.command.isStop.toNat := by
      rw [queue, List.countP_append, countP_singleton_eq_toNat]
    rw [countP_left?_settle (w := { w with stage := .entered }) rfl]
    show _ + mailbox.queue.countP Command.isStop + 0 = _
    omega
  | @waits mailbox _ outside _ queue =>
    have turn := WaitingCall.toNat_begins outside first
    show _ + mailbox.queue.countP Command.isStop +
      [({ w with stage := .waiting } : WaitingCall)].countP WaitingCall.waitsToStop = _
    rw [countP_singleton_eq_toNat, WaitingCall.waitsToStop_waiting, queue]
    omega
  | settled inside =>
    have begun : w.begins = false := by simp [WaitingCall.begins, inside]
    rw [countP_left?_settle inside, begun, Bool.not_false, Bool.and_true,
      WaitingCall.waitsToStop_of_stage (by simp [inside])]
    rfl

/-- A worker that is alive has been so before. -/
theorem Moves.alive (h : Moves c c') (alive : c'.phase.alive = true) : c.phase.alive = true := by
  rw [← Bool.not_eq_false]
  intro ended
  rw [h.phase_of_ended ended, ended] at alive
  cases alive

end Controller

namespace Attended

variable {a a' : Attended} {opens : WaitingCall.Kind → Prop} {gone : List WaitingCall}

/-- How many ways there are to stop the worker yet. -/
def ways (a : Attended) : Nat :=
  a.controller.accepting.toNat + a.controller.mailbox.queue.countP Command.isStop +
    a.calls.countP WaitingCall.waitsToStop

theorem ways_look {before after : List WaitingCall} {w : WaitingCall} (closes : c.Closes)
    (alive : c.phase.alive = true) :
    ways ⟨(c.poll w).value.2, before ++ ((c.poll w).value.1.left?.toList ++ after)⟩ =
      ways ⟨c, before ++ ([w] ++ after)⟩ := by
  have opened : c.mailbox.closed = false := by rw [closes.closed, alive]; rfl
  simp only [ways, List.countP_append, countP_singleton_eq_toNat]
  by_cases late : w.stage = .fresh ∧ c.accepting = false
  · -- the call is over before it began
    obtain ⟨first, shut⟩ := late
    rw [Controller.poll_of_late first shut, WaitingCall.waitsToStop_of_stage (by simp [first])]
    rfl
  · have first (fresh : w.stage = .fresh) : c.accepting = true := by
      rw [← Bool.not_eq_false]
      exact fun shut => late ⟨fresh, shut⟩
    have went := (Controller.looked_poll c w).ways opened first (Controller.accepting_poll c w)
    omega

/-- Going on steadily neither adds a way nor loses one while the worker is alive. -/
theorem Steady.ways (m : Steady opens a a') (closes : a.controller.Closes)
    (alive : a'.controller.phase.alive = true) : a'.ways = a.ways := by
  cases m with
  | submit c calls scope s =>
    have accepting := (Controller.submit_flows c scope s).1
    simp only [Attended.ways, accepting, Controller.submit_countP_isStop]
  | work calls hw =>
    have worked := Controller.worked_of_step? hw
    have accepting := worked.flows.1
    simp only [Attended.ways, accepting, worked.countP_isStop alive]
  | @openCall c calls kind =>
    have new : (c.openCall kind).1.waitsToStop = false :=
      WaitingCall.waitsToStop_of_stage WaitingCall.Stage.noConfusion
    simp only [Attended.ways, List.countP_append, countP_singleton_eq_toNat, new]
    rfl
  | look c before w after =>
    rw [show (Attended.mk _ _).controller.phase = _ from Controller.phase_poll c w] at alive
    exact ways_look closes alive

theorem Course.ways (h : Course opens a a') (closes : a.controller.Closes)
    (alive : a'.controller.phase.alive = true) : a'.ways = a.ways := by
  induction h with
  | refl => rfl
  | tail past next ih =>
    have before := (Moves.controller (.single next.move)).alive alive
    have still := (Course.moves past).controller.keep Controller.Closes.move closes
    rw [next.ways still alive, ih before]

/-- Of the ways that there were, those of the shutdowns that are left are lost. -/
theorem Leaves.ways (h : Leaves gone a a') :
    a'.ways + gone.countP WaitingCall.waitsToStop = a.ways := by
  have without (c : Controller) (before after : List WaitingCall) (w : WaitingCall) :
      Attended.ways ⟨c, before ++ after⟩ + [w].countP WaitingCall.waitsToStop =
        Attended.ways ⟨c, before ++ w :: after⟩ := by
    simp only [Attended.ways, List.countP_append, List.countP_cons, List.countP_nil]
    omega
  induction h with
  | nil => rfl
  | @cancel c before after w gone _ _ ih =>
    obtain ⟨mailbox, frame, queue⟩ := Controller.cancel_frame c w
    have same : Attended.ways ⟨c.cancel w, before ++ after⟩ =
        Attended.ways ⟨c, before ++ after⟩ := by
      simp only [Attended.ways, frame, queue]
    rw [← without, ← same, ← ih, ← List.singleton_append, List.countP_append]
    omega
  | @forget c before after w gone _ _ ih =>
    rw [← without, ← ih, ← List.singleton_append, List.countP_append]
    omega

end Attended

/-! ## The line for a place -/

namespace Mailbox

variable {α : Type} {m m' : Mailbox α} {t u : Ticket} {x : α}

/-- Whether the sender waits for a place, or holds one that it has not used. -/
def InLine (m : Mailbox α) (t : Ticket) : Prop :=
  t ∈ m.waiting ∨ t ∈ m.granted

theorem InLine.grant (h : m.InLine t) : m.grant.InLine t := by
  unfold Mailbox.grant
  split
  · exact h
  · rename_i first rest waiting
    split
    · rcases h with waits | holds
      · rw [waiting] at waits
        rcases List.mem_cons.1 waits with rfl | later
        · exact .inr List.mem_concat_self
        · exact .inl later
      · exact .inr (List.mem_append_left _ holds)
    · exact h

theorem InLine.take? (h : m.InLine t) (took : m.take? = some (x, m')) : m'.InLine t := by
  unfold Mailbox.take? at took
  split at took
  · cases took
  · cases took
    exact InLine.grant (m := { m with queue := _ }) h

theorem InLine.withdraw (h : m.InLine t) (other : t ≠ u) : (m.withdraw u).InLine t :=
  InLine.grant (h.imp (List.mem_erase_of_ne other).2 (List.mem_erase_of_ne other).2)

theorem InLine.enter (h : m.InLine t) (other : t ≠ u) : (m.enter u x).2.InLine t := by
  unfold Mailbox.enter
  split
  · exact h.withdraw other
  · split
    · exact h.imp_right (List.mem_erase_of_ne other).2
    · split
      · exact h
      · split
        · exact h
        · exact h.imp_left (List.mem_append_left _)

theorem inLine_of_waits (waits : (m.enter u x).1 = .waiting) : (m.enter u x).2.InLine u := by
  by_cases closed : m.closed
  · simp [Mailbox.enter, closed] at waits
  by_cases granted : u ∈ m.granted
  · simp [Mailbox.enter, closed, granted] at waits
  by_cases already : u ∈ m.waiting
  · simp [Mailbox.enter, closed, granted, already, InLine]
  by_cases room : m.hasRoom
  · simp [Mailbox.enter, closed, granted, already, room] at waits
  · simp [Mailbox.enter, closed, granted, already, room, InLine]

theorem closed_enter (m : Mailbox α) (u : Ticket) (x : α) : (m.enter u x).2.closed = m.closed := by
  unfold enter
  split
  · exact closed_withdraw m u
  · split
    · rfl
    · split
      · rfl
      · split <;> rfl

/-- A sender that holds a place puts its entry in at the next look. -/
theorem queue_enter_of_granted (opened : m.closed = false) (granted : u ∈ m.granted) :
    (m.enter u x).2.queue = m.queue ++ [x] := by
  rw [Mailbox.enter, if_neg (by simp [opened]), if_pos granted]
  rfl

end Mailbox

namespace Controller

open Mailbox (closed_enter closed_of_take?)

theorem mailbox_tryEnter (c : Controller) (w : WaitingCall) :
    (c.tryEnter w).value.2.mailbox = (c.mailbox.enter w.ticket w.command).2 ∧
      ∀ x, (c.tryEnter w).value.1.left? = some x → x.stage = .waiting →
        (c.mailbox.enter w.ticket w.command).1 = .waiting := by
  unfold tryEnter
  split <;> rename_i h
  · refine ⟨by rw [h]; rfl, ?_⟩
    intro x left stage
    rw [left?_settle left] at stage
    cases stage
  · exact ⟨by rw [h]; rfl, fun _ _ _ => by rw [h]⟩
  · exact ⟨by rw [h]; rfl, nofun⟩

/-- A look that matters to the line has the call try to put its entry in; only then may it be left
waiting. -/
theorem mailbox_poll (c : Controller) (w : WaitingCall) :
    (c.poll w).value.2.mailbox = c.mailbox ∧
        (∀ x, (c.poll w).value.1.left? = some x → x.stage ≠ .waiting) ∨
      (c.poll w).value.2.mailbox = (c.mailbox.enter w.ticket w.command).2 ∧
        ∀ x, (c.poll w).value.1.left? = some x → x.stage = .waiting →
          (c.mailbox.enter w.ticket w.command).1 = .waiting := by
  unfold poll
  split
  · split
    · split
      · exact .inr (mailbox_tryEnter c w)
      · exact .inr (mailbox_tryEnter { c with accepting := false } w)
    · exact .inl ⟨rfl, nofun⟩
  · exact .inr (mailbox_tryEnter c w)
  · rename_i inside
    refine .inl ⟨rfl, ?_⟩
    intro x left stage
    rw [left?_settle left, inside] at stage
    cases stage

/-- The sender with this ticket keeps its place in the line, as long as the mailbox takes entries.
-/
def KeepsLine (ticket : Ticket) (c c' : Controller) : Prop :=
  c'.mailbox.closed = false →
    c.mailbox.closed = false ∧ (c.mailbox.InLine ticket → c'.mailbox.InLine ticket)

variable {ticket : Ticket}

theorem keepsLine_submit (c : Controller) (scope : Log.Scope) (s : Submission) :
    KeepsLine ticket c (c.submit scope s).value.2 :=
  submit_keep (fun opened => ⟨opened, id⟩) (fun _ _ opened => ⟨opened, id⟩) scope s

theorem keepsLine_process (c : Controller) (item : Item) :
    KeepsLine ticket c (c.process item).value := by
  obtain ⟨items, system, state, effects, frame⟩ := (execute_effects c item).frame
  rw [value_process, frame]
  rcases publish_cases (count _ item) with ⟨_, hp⟩ | ⟨_, hp⟩ <;> rw [hp]
  · cases item <;> exact fun opened => ⟨opened, id⟩
  · exact fun opened => nomatch opened

theorem Worked.keepsLine (w : Worked c c') : KeepsLine ticket c c' := by
  cases w with
  | started => exact fun opened => ⟨opened, id⟩
  | abandoned | stopped => exact fun opened => nomatch opened
  | acknowledged _ took =>
    exact fun opened => ⟨(closed_of_take? took).symm.trans opened, fun h => h.take? took⟩
  | @processed _ item mailbox took =>
    intro opened
    have process : KeepsLine ticket _ _ := keepsLine_process { c with mailbox } item
    obtain ⟨before, kept⟩ := process opened
    exact ⟨(closed_of_take? took).symm.trans before, fun h => kept (h.take? took)⟩

theorem keepsLine_poll {w : WaitingCall} (other : ticket ≠ w.ticket) :
    KeepsLine ticket c (c.poll w).value.2 := by
  intro opened
  rcases mailbox_poll c w with ⟨same, _⟩ | ⟨entered, _⟩
  · rw [same] at opened ⊢
    exact ⟨opened, id⟩
  · rw [entered] at opened ⊢
    exact ⟨(closed_enter _ _ _).symm.trans opened, fun h => h.enter other⟩

theorem keepsLine_cancel {w : WaitingCall} (other : ticket ≠ w.ticket) :
    KeepsLine ticket c (c.cancel w) := by
  intro opened
  refine ⟨(closed_cancel c w).symm.trans opened, ?_⟩
  unfold cancel
  split
  · exact fun h => h.withdraw other
  · exact id
  · exact id

end Controller

namespace Attended

open Controller (KeepsLine)

/-- Every call that waits has its place in the line, as long as the mailbox takes entries. -/
def Lined (a : Attended) : Prop :=
  ∀ w ∈ a.calls, w.stage = .waiting → a.controller.mailbox.closed = false →
    a.controller.mailbox.InLine w.ticket

variable {a a' : Attended} {calls left : List WaitingCall}

theorem Lined.of_keepsLine (h : Lined ⟨c, calls⟩) (fewer : List.Sublist left calls)
    (kept : ∀ w ∈ left, KeepsLine w.ticket c c') : Lined ⟨c', left⟩ := by
  intro w hw stage opened
  obtain ⟨before, line⟩ := kept w hw opened
  exact line (h w (fewer.mem hw) stage before)

theorem Lined.look {before after : List WaitingCall} {w : WaitingCall}
    (h : Lined ⟨c, before ++ w :: after⟩) (ticketed : Ticketed ⟨c, before ++ w :: after⟩) :
    Lined ⟨(c.poll w).value.2, before ++ ((c.poll w).value.1.left?.toList ++ after)⟩ := by
  intro x hx stage opened
  rcases mem_looked hx with old | left
  · obtain ⟨opened, kept⟩ := Controller.keepsLine_poll (ticketed.other old) opened
    exact kept (h x ((sublist_without before w after).mem old) stage opened)
  · show (c.poll w).value.2.mailbox.InLine x.ticket
    rcases Controller.mailbox_poll c w with ⟨_, staysOut⟩ | ⟨entered, waits⟩
    · exact absurd stage (staysOut x left)
    · have own := Mailbox.inLine_of_waits (waits x left stage)
      obtain ⟨_, rfl⟩ := (Controller.looked_poll c w).left? left
      rw [entered]
      exact own

theorem Lined.move (h : Lined a) (ticketed : Ticketed a) (m : Move a a') : Lined a' := by
  cases m with
  | submit c calls scope s =>
    exact h.of_keepsLine (List.Sublist.refl _) fun _ _ => Controller.keepsLine_submit c scope s
  | work calls hw =>
    exact h.of_keepsLine (List.Sublist.refl _) fun _ _ =>
      (Controller.worked_of_step? hw).keepsLine
  | openCall c calls kind =>
    intro w hw stage opened
    rcases List.mem_append.1 hw with hw | hw
    · exact h w hw stage opened
    · rw [List.mem_singleton.1 hw] at stage
      cases stage
  | look c before w after => exact h.look ticketed
  | cancel c before w after =>
    exact h.of_keepsLine (sublist_without before w after) fun _ hx =>
      Controller.keepsLine_cancel (ticketed.other hx)
  | forget c before w after =>
    exact h.of_keepsLine (sublist_without before w after) fun _ _ opened => ⟨opened, id⟩
  | letGo c => exact h.of_keepsLine (List.Sublist.refl _) fun _ _ opened => ⟨opened, id⟩

end Attended

end CallAudio
