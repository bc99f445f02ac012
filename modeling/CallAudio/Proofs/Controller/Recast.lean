import CallAudio.Proofs.Controller.Effect
import CallAudio.Proofs.Controller.Look
import CallAudio.Proofs.Submits

/-!
Scripts are no more than carried along until the worker comes to them. Whoever changes the scripts of
all tasks, those that wait and those that will be submitted, changes nothing else of what becomes of
the controller.
-/

namespace CallAudio

/-! ## Mailboxes -/

namespace Mailbox

variable {α β : Type}

/-- The mailbox with every entry replaced. -/
def map (g : α → β) (m : Mailbox α) : Mailbox β :=
  { m with queue := m.queue.map g }

@[simp] theorem pending_map (g : α → β) (m : Mailbox α) : (m.map g).pending = m.pending := by
  simp [pending, map]

@[simp] theorem hasRoom_map (g : α → β) (m : Mailbox α) : (m.map g).hasRoom = m.hasRoom := by
  simp only [hasRoom, pending_map]
  rfl

@[simp] theorem push_map (g : α → β) (m : Mailbox α) (x : α) :
    (m.map g).push (g x) = (m.push x).map g := by
  simp [push, map]

@[simp] theorem grant_map (g : α → β) (m : Mailbox α) : (m.map g).grant = m.grant.map g := by
  obtain ⟨capacity, queue, waiting, granted, closed⟩ := m
  cases waiting with
  | nil => rfl
  | cons t rest =>
    have room := hasRoom_map g ⟨capacity, queue, t :: rest, granted, closed⟩
    unfold grant
    rw [room]
    simp only [map]
    split <;> rfl

theorem take?_map (g : α → β) (m : Mailbox α) :
    (m.map g).take? = m.take?.map (Prod.map g (map g)) := by
  obtain ⟨capacity, queue, waiting, granted, closed⟩ := m
  cases queue with
  | nil => rfl
  | cons x rest =>
    exact congrArg (fun m => some (g x, m)) (grant_map g ⟨capacity, rest, waiting, granted, closed⟩)

@[simp] theorem withdraw_map (g : α → β) (m : Mailbox α) (t : Ticket) :
    (m.map g).withdraw t = (m.withdraw t).map g :=
  grant_map g { m with waiting := m.waiting.erase t, granted := m.granted.erase t }

theorem enter_map (g : α → β) (m : Mailbox α) (t : Ticket) (x : α) :
    (m.map g).enter t (g x) = Prod.map id (map g) (m.enter t x) := by
  have used : ({ m.map g with granted := (m.map g).granted.erase t } : Mailbox β).push (g x) =
      ({ m with granted := m.granted.erase t }.push x).map g :=
    push_map g { m with granted := m.granted.erase t } x
  unfold enter
  rw [withdraw_map, used, hasRoom_map, push_map]
  show (if m.closed then _ else if t ∈ m.granted then _ else if t ∈ m.waiting then _ else _) = _
  split
  · rfl
  · split
    · rfl
    · split
      · rfl
      · split <;> rfl

end Mailbox

/-! ## Scripts of tasks -/

/-- The action with the script of a task replaced. -/
def Action.recast (f : List Action → List Action) : Action → Action
  | task actions => task (f actions)
  | ifArg n a => ifArg n (a.recast f)
  | a => a

/-- The submission with the script of a task replaced. -/
def Submission.recast (f : List Action → List Action) : Submission → Submission
  | task (.script actions) => task (.script (f actions))
  | s => s

/-- The item with the script of a task replaced. -/
def Item.recast (f : List Action → List Action) : Item → Item
  | task (.script actions) session => task (.script (f actions)) session
  | item => item

/-- The command with the script of a task replaced. -/
def Command.recast (f : List Action → List Action) : Command → Command
  | item i => item (i.recast f)
  | command => command

variable {f : List Action → List Action} {policy : RouteMessage → List Action}

theorem Submission.recast_of_plain {s : Submission} (plain : s.Plain) : s.recast f = s := by
  cases s with
  | task work =>
    cases work with
    | clearActive => rfl
    | script actions => exact absurd rfl (plain actions)
  | _ => rfl

namespace Item

@[simp] theorem recast_ofSubmission (session : Session) (s : Submission) :
    ofSubmission session (s.recast f) = (ofSubmission session s).recast f := by
  cases s with
  | task work => cases work <;> rfl
  | _ => rfl

@[simp] theorem name_recast (item : Item) : (item.recast f).name = item.name := by
  cases item with
  | task work => cases work <;> rfl
  | message => rfl

@[simp] theorem description_recast (item : Item) :
    (item.recast f).description = item.description := by
  cases item with
  | task work => cases work <;> rfl
  | message => rfl

@[simp] theorem session_recast (item : Item) : (item.recast f).session = item.session := by
  cases item with
  | task work => cases work <;> rfl
  | message => rfl

end Item

namespace Controller

/-- The controller with the scripts of all tasks replaced, and with another policy. -/
def recast (f : List Action → List Action) (policy : RouteMessage → List Action) (c : Controller) :
    Controller :=
  { c with
    mailbox := c.mailbox.map (Command.recast f)
    machine := { c.machine with policy }
    accepted := c.accepted.map (Item.recast f)
    executed := c.executed.map (Item.recast f) }

/-! ## Submissions -/

theorem accept_recast (c : Controller) (item : Item) :
    (c.recast f policy).accept (item.recast f) = (c.accept item).recast f policy := by
  simp only [accept, recast, List.map_append, List.map_cons, List.map_nil, ← Mailbox.push_map]
  rfl

variable (f policy) in
theorem submit_recast (c : Controller) (scope : Log.Scope) (s : Submission) :
    ((c.recast f policy).submit scope (s.recast f)).value =
      Prod.map id (recast f policy) (c.submit scope s).value := by
  simp only [submit, Item.recast_ofSubmission, value_enqueue, Item.name_recast, accept_recast]
  have room : (c.recast f policy).mailbox.hasRoom = c.mailbox.hasRoom := Mailbox.hasRoom_map _ _
  rw [room]
  show (if c.isRunning then _ else _) = _
  split
  · split <;> rfl
  · rfl

theorem respects_recast : Respects (recast f policy) := by
  intro c scope s plain
  have same := submit_recast f policy c scope s
  rwa [Submission.recast_of_plain plain] at same

/-! ## Carrying out a script -/

variable (f policy) in
theorem resubmit_recast (ctx : Context) (c : Controller) (s : Submission) :
    ((c.recast f policy).resubmit ctx (s.recast f)).value =
      (c.resubmit ctx s).value.recast f policy := by
  unfold resubmit
  show (if c.held then _ else _ : Log.Logged Controller).value = _
  split
  · simp only [Log.Logged.value_bind, submit_recast]
    rfl
  · rfl

theorem edit_recast (ctx : Context) (c : Controller) (change : StateEdit) :
    (c.recast f policy).edit ctx change = (c.edit ctx change).recast f policy := by
  unfold edit
  split <;> rfl

theorem ofParts_recast (m : RouteMessage) (arg : Option Int) (payload : Option String) :
    (Submission.ofParts m arg payload).recast f = Submission.ofParts m arg payload := by
  cases arg <;> cases payload <;> rfl

theorem act_recast (ctx : Context) (c : Controller) :
    ∀ a : Action, (act ctx (c.recast f policy) (a.recast f)).value =
      Prod.map id (recast f policy) (act ctx c a).value
  | .operate op => rfl
  | .edit change => congrArg (Prod.mk none) (edit_recast ctx c change)
  | .send m arg payload => by
    have same := resubmit_recast f policy ctx c (.ofParts m arg payload)
    rw [ofParts_recast] at same
    exact congrArg (Prod.mk none) same
  | .task actions =>
    congrArg (Prod.mk none) (resubmit_recast f policy ctx c (.task (.script actions)))
  | .panic _ => rfl
  | .ifArg n a => by
    rw [act, Action.recast, act]
    split
    · exact act_recast ctx c a
    · rfl

theorem script_recast (ctx : Context) (c : Controller) (actions : List Action) :
    (script ctx (c.recast f policy) (actions.map (Action.recast f))).value =
      Prod.map id (recast f policy) (script ctx c actions).value := by
  induction actions generalizing c with
  | nil => rfl
  | cons a rest ih =>
    simp only [List.map_cons, script, Log.Logged.value_bind, act_recast]
    rcases (act ctx c a).value with ⟨_ | cause, c'⟩
    · exact ih c'
    · rfl

/-! ## Waiting calls -/

/-- The controller with another mailbox, which takes submissions or does not. -/
def fitted (c : Controller) (mailbox : Mailbox Command) (accepting : Bool) : Controller :=
  { c with mailbox, accepting }

/-- `F` replaces the commands in the mailbox by what `g` makes of them, and changes nothing of what
a waiting call comes to. -/
structure Relabels (g : Command → Command) (F : Controller → Controller) : Prop where
  put : ∀ c mailbox accepting,
    F (c.fitted mailbox accepting) = (F c).fitted (mailbox.map g) accepting
  phase : ∀ c, (F c).phase = c.phase
  acknowledged : ∀ c, (F c).acknowledged = c.acknowledged
  workerField : ∀ c, (F c).workerField = c.workerField
  command : ∀ w : WaitingCall, g w.command = w.command
  isFlush : ∀ ticket x, (g x).isFlush ticket = x.isFlush ticket

namespace Relabels

variable {g : Command → Command} {F : Controller → Controller}

theorem mailbox (h : Relabels g F) (c : Controller) : (F c).mailbox = c.mailbox.map g :=
  (congrArg Controller.mailbox (h.put c c.mailbox c.accepting) :)

theorem accepting (h : Relabels g F) (c : Controller) : (F c).accepting = c.accepting :=
  (congrArg Controller.accepting (h.put c c.mailbox c.accepting) :)

theorem settle (h : Relabels g F) (c : Controller) (w : WaitingCall) :
    (F c).settle w = c.settle w := by
  have queue : (F c).mailbox.queue.any (Command.isFlush w.ticket) =
      c.mailbox.queue.any (Command.isFlush w.ticket) := by
    rw [h.mailbox, Mailbox.map, List.any_map]
    exact congrArg c.mailbox.queue.any (funext (h.isFlush w.ticket))
  unfold Controller.settle
  rw [queue, h.acknowledged, h.phase, h.workerField]

theorem tryEnter (h : Relabels g F) (c : Controller) (w : WaitingCall) :
    (F c).tryEnter w = { c.tryEnter w with value := Prod.map id F (c.tryEnter w).value } := by
  have enters : (F c).mailbox.enter w.ticket w.command =
      Prod.map id (Mailbox.map g) (c.mailbox.enter w.ticket w.command) := by
    rw [← Mailbox.enter_map, h.command, h.mailbox]
  have put (mailbox : Mailbox Command) :
      (F c).fitted (mailbox.map g) (F c).accepting = F (c.fitted mailbox c.accepting) := by
    rw [h.put, h.accepting]
  unfold Controller.tryEnter
  rw [enters]
  rcases c.mailbox.enter w.ticket w.command with ⟨_ | _ | _, mailbox⟩
  · show (((F c).fitted (mailbox.map g) (F c).accepting).settle _ >>= fun outcome =>
      pure (outcome, (F c).fitted (mailbox.map g) (F c).accepting)) = _
    rw [put, h.settle]
    rfl
  · exact congrArg (fun d => (⟨(_, d), []⟩ : Log.Logged _)) (put mailbox)
  · exact congrArg (fun d => (⟨(_, d), []⟩ : Log.Logged _)) (put mailbox)

theorem poll (h : Relabels g F) (c : Controller) (w : WaitingCall) :
    (F c).poll w = { c.poll w with value := Prod.map id F (c.poll w).value } := by
  have shut : (F c).fitted (F c).mailbox false = F (c.fitted c.mailbox false) := by
    rw [h.put, h.mailbox]
  unfold Controller.poll
  rw [h.accepting]
  split
  · split
    · split
      · exact h.tryEnter c w
      · show ((F c).fitted (F c).mailbox false).tryEnter w = _
        rw [shut]
        exact h.tryEnter (c.fitted c.mailbox false) w
    · rfl
  · exact h.tryEnter c w
  · rw [h.settle]
    rfl

theorem cancel (h : Relabels g F) (c : Controller) (w : WaitingCall) :
    (F c).cancel w = F (c.cancel w) := by
  unfold Controller.cancel
  split
  · show (F c).fitted ((F c).mailbox.withdraw w.ticket) (F c).accepting =
      F (c.fitted (c.mailbox.withdraw w.ticket) c.accepting)
    rw [h.put, h.mailbox, h.accepting, Mailbox.withdraw_map]
  · rfl
  · rfl

end Relabels

variable (f policy) in
theorem relabels_recast : Relabels (Command.recast f) (recast f policy) where
  put _ _ _ := rfl
  phase _ := rfl
  acknowledged _ := rfl
  workerField _ := rfl
  command w := by
    unfold WaitingCall.command
    split <;> rfl
  isFlush _ x := by cases x <;> rfl

variable (f policy) in
theorem poll_recast (c : Controller) (w : WaitingCall) :
    ((c.recast f policy).poll w).value = Prod.map id (recast f policy) (c.poll w).value :=
  congrArg Log.Logged.value ((relabels_recast f policy).poll c w)

variable (f policy) in
theorem cancel_recast (c : Controller) (w : WaitingCall) :
    (c.recast f policy).cancel w = (c.cancel w).recast f policy :=
  (relabels_recast f policy).cancel c w

/-! ## Publication -/

theorem count_recast (c : Controller) (item : Item) :
    (c.recast f policy).count (item.recast f) = (c.count item).recast f policy := by
  simp only [count, recast, List.map_append, List.map_cons, List.map_nil,
    Item.description_recast, Item.session_recast]

theorem publish_recast (c : Controller) :
    (c.recast f policy).publish = c.publish.recast f policy := by
  have same : (c.recast f policy).current = c.current := rfl
  unfold publish
  rw [same]
  cases c.current <;> rfl

end Controller

end CallAudio
