import CallAudio.Proofs.Controller.Recast
import CallAudio.Proofs.Tracing.Scopes

/-!
The scopes of sessions do not matter to the controller. Whatever it does to an item that is there,
it does to the item with another scope. Where it opens sessions of its own, it comes to the same as
a controller that differs from it in scopes only, scopes apart.
-/

namespace CallAudio

open Log (Logged Scope)

variable {f : Scope → Scope}

/-- The item, submitted in another scope. -/
def Item.rescope (f : Scope → Scope) : Item → Item
  | message m => message (m.rescope f)
  | task work session => task work (session.rescope f)

/-- The command with its item rescoped. -/
def Command.rescope (f : Scope → Scope) : Command → Command
  | item i => item (i.rescope f)
  | flush ticket => flush ticket
  | stop => stop

/-- The entry of an item that was submitted in another scope. -/
def HistoryEntry.rescope (f : Scope → Scope) (e : HistoryEntry) : HistoryEntry :=
  { e with session := e.session.rescope f }

/-- The state machine with the messages it recorded rescoped. -/
def Machine.rescope (f : Scope → Scope) (m : Machine) : Machine :=
  { m with recorded := m.recorded.map (RoutedMessage.rescope f) }

theorem Command.rescope_rescope (f g : Scope → Scope) (x : Command) :
    (x.rescope g).rescope f = x.rescope (f ∘ g) := by
  cases x with
  | item i => cases i <;> rfl
  | flush | stop => rfl

theorem Machine.rescope_rescope (f g : Scope → Scope) (m : Machine) :
    (m.rescope g).rescope f = m.rescope (f ∘ g) := by
  unfold rescope
  rw [List.map_map]
  rfl

namespace Item

theorem rescope_rescope (f g : Scope → Scope) (item : Item) :
    (item.rescope g).rescope f = item.rescope (f ∘ g) := by
  cases item <;> rfl

@[simp] theorem name_rescope (item : Item) : (item.rescope f).name = item.name := by
  cases item <;> rfl

@[simp] theorem description_rescope (item : Item) :
    (item.rescope f).description = item.description := by
  cases item <;> rfl

@[simp] theorem session_rescope (item : Item) :
    (item.rescope f).session = item.session.rescope f := by
  cases item <;> rfl

end Item

theorem Machine.record_rescope (m : Machine) (message : RoutedMessage) :
    (m.rescope f).record (message.rescope f) = (m.record message).rescope f := by
  unfold record rescope
  rw [List.map_append]
  rfl

theorem Machine.dump_rescope (m : Machine) : (m.rescope f).dump = m.dump := by
  have length : (m.rescope f).recorded.length = m.recorded.length := List.length_map _
  unfold dump dumpFails dumpText
  rw [length]
  rfl

theorem Mailbox.trySend_map {α β : Type} (g : α → β) (m : Mailbox α) (x : α) :
    (m.map g).trySend (g x) = (m.trySend x).map (Mailbox.map g) := by
  unfold trySend
  rw [hasRoom_map, push_map]
  show (if m.closed then _ else _) = _
  split
  · rfl
  · split <;> rfl

/-- What is taken out of mailboxes that `g` maps alike. -/
theorem Mailbox.take?_alike {α β : Type} {g : α → β} {m m' : Mailbox α}
    (same : m.map g = m'.map g) :
    (m.take? = none ∧ m'.take? = none) ∨
      ∃ x x' rest rest', m.take? = some (x, rest) ∧ m'.take? = some (x', rest') ∧
        g x = g x' ∧ rest.map g = rest'.map g := by
  have both : m.take?.map (Prod.map g (map g)) = m'.take?.map (Prod.map g (map g)) := by
    rw [← take?_map, same, take?_map]
  cases left : m.take? with
  | none =>
    rw [left, Option.map_none, eq_comm, Option.map_eq_none_iff] at both
    exact .inl ⟨rfl, both⟩
  | some taken =>
    rw [left, Option.map_some, eq_comm, Option.map_eq_some_iff] at both
    obtain ⟨taken', right, alike⟩ := both
    obtain ⟨entry, rest⟩ := Prod.ext_iff.1 alike
    exact .inr ⟨_, _, _, _, rfl, right, entry.symm, rest.symm⟩

namespace Controller

/-- The controller with every session it knows of opened in another scope. -/
def rescope (f : Scope → Scope) (c : Controller) : Controller :=
  { c with
    mailbox := c.mailbox.map (Command.rescope f)
    machine := c.machine.rescope f
    history := c.history.map (HistoryEntry.rescope f)
    accepted := c.accepted.map (Item.rescope f)
    executed := c.executed.map (Item.rescope f) }

theorem rescope_rescope (f g : Scope → Scope) (c : Controller) :
    (c.rescope g).rescope f = c.rescope (f ∘ g) := by
  have commands : (Command.rescope f ∘ Command.rescope g) = Command.rescope (f ∘ g) :=
    funext (Command.rescope_rescope f g)
  have items : (Item.rescope f ∘ Item.rescope g) = Item.rescope (f ∘ g) :=
    funext (Item.rescope_rescope f g)
  unfold rescope Mailbox.map
  simp only [List.map_map, commands, items, Machine.rescope_rescope]
  rfl

theorem pending_rescope (c : Controller) :
    (c.rescope f).mailbox.pending = c.mailbox.pending :=
  Mailbox.pending_map _ _

/-! ## Submissions -/

theorem enqueue_rescope (c : Controller) (item : Item) :
    (c.rescope f).enqueue (item.rescope f) =
      (c.enqueue item).rescope f (Prod.map id (rescope f)) := by
  have sent : (c.rescope f).mailbox.trySend (.item (item.rescope f)) =
      (c.mailbox.trySend (.item item)).map (Mailbox.map (Command.rescope f)) :=
    Mailbox.trySend_map (Command.rescope f) c.mailbox (.item item)
  unfold enqueue
  rw [sent, Item.name_rescope]
  show (if c.accepting then _ else _) = _
  split
  · cases c.mailbox.trySend (.item item) with
    | ok mailbox =>
      simp only [Except.map, Logged.rescope_pure, Prod.map, rescope, List.map_append, List.map_cons,
        List.map_nil]
      rfl
    | error refusal => cases refusal <;> rfl
  · rfl

variable {c c' : Controller}

theorem submit_alike (same : c.rescope f = c'.rescope f) (scope : Scope) (s : Submission) :
    (c.submit scope s).rescope f (Prod.map id (rescope f)) =
      (c'.submit scope s).rescope f (Prod.map id (rescope f)) := by
  unfold submit
  rw [← enqueue_rescope, same, enqueue_rescope]

/-! ## Carrying out a script -/

theorem reply_alike (same : c.rescope f = c'.rescope f) (r : Reply) :
    (c.reply r).rescope f = (c'.reply r).rescope f :=
  (congrArg (fun d : Controller => d.reply r) same :)

theorem resubmit_alike (same : c.rescope f = c'.rescope f) {ctx ctx' : Context}
    (place : ctx.place = ctx'.place) (s : Submission) :
    (c.resubmit ctx s).rescope f (rescope f) = (c'.resubmit ctx' s).rescope f (rescope f) := by
  have held : c.held = c'.held := (congrArg Controller.held same :)
  unfold resubmit
  rw [← held, ← place]
  split
  · refine Logged.bind_pair_alike (submit_alike same [ctx.place] s) fun answer d d' alike => ?_
    exact Logged.pure_alike (reply_alike alike (.outcome answer))
  · exact Logged.pure_alike (reply_alike same .nothing)

/-- The context with its message rescoped. -/
def Context.rescope (f : Scope → Scope) (ctx : Context) : Context :=
  { ctx with message := ctx.message.map (RoutedMessage.rescope f) }

theorem Context.arg_rescope (ctx : Context) : (ctx.rescope f).arg = ctx.arg := by
  obtain ⟨place, _ | message⟩ := ctx <;> rfl

theorem Context.payload_rescope (ctx : Context) : (ctx.rescope f).payload = ctx.payload := by
  obtain ⟨place, _ | message⟩ := ctx <;> rfl

theorem edit_rescope (c : Controller) (ctx : Context) (change : StateEdit) :
    (c.rescope f).edit (ctx.rescope f) change = (c.edit ctx change).rescope f := by
  obtain ⟨place, _ | message⟩ := ctx <;> rfl

variable {ctx ctx' : Context}

theorem act_alike (contexts : ctx.rescope f = ctx'.rescope f) (same : c.rescope f = c'.rescope f) :
    ∀ a : Action, (act ctx c a).rescope f (Prod.map id (rescope f)) =
      (act ctx' c' a).rescope f (Prod.map id (rescope f))
  | .operate op => by
    have system : c.system = c'.system := (congrArg Controller.system same :)
    have payload : ctx.payload = ctx'.payload := by
      rw [← Context.payload_rescope (f := f), contexts, Context.payload_rescope]
    rw [act, act, ← system, ← payload]
    refine Logged.bind_alike (g := id) rfl fun performed performed' alike => ?_
    cases alike
    exact Logged.pure_pair_alike none
      (congrArg (fun d : Controller => { d with system := performed.2 }.reply performed.1) same :)
  | .edit change => by
    rw [act, act]
    refine Logged.pure_pair_alike none ?_
    rw [← edit_rescope, contexts, same, edit_rescope]
  | .send m arg payload => by
    have place : ctx.place = ctx'.place := (congrArg Context.place contexts :)
    rw [act, act]
    exact Logged.bind_alike (resubmit_alike same place (.ofParts m arg payload))
      fun _ _ alike => Logged.pure_pair_alike none alike
  | .task actions => by
    have place : ctx.place = ctx'.place := (congrArg Context.place contexts :)
    rw [act, act]
    exact Logged.bind_alike (resubmit_alike same place (.task (.script actions)))
      fun _ _ alike => Logged.pure_pair_alike none alike
  | .panic cause => by
    rw [act, act]
    exact Logged.pure_pair_alike (some cause) same
  | .ifArg n a => by
    have arg : ctx.arg = ctx'.arg := by
      rw [← Context.arg_rescope (f := f), contexts, Context.arg_rescope]
    rw [act, act, ← arg]
    split
    · exact act_alike contexts same a
    · exact Logged.pure_pair_alike none same

theorem script_alike (contexts : ctx.rescope f = ctx'.rescope f)
    (same : c.rescope f = c'.rescope f) (actions : List Action) :
    (script ctx c actions).rescope f (Prod.map id (rescope f)) =
      (script ctx' c' actions).rescope f (Prod.map id (rescope f)) := by
  induction actions generalizing c c' with
  | nil => exact Logged.pure_pair_alike none same
  | cons a rest ih =>
    rw [script, script]
    refine Logged.bind_pair_alike (act_alike contexts same a) fun panic d d' alike => ?_
    cases panic with
    | some cause => exact Logged.pure_pair_alike (some cause) alike
    | none => exact ih alike

/-! ## Processing an item -/

theorem itemSpan_rescope (item : Item) : itemSpan (item.rescope f) = (itemSpan item).rescope f := by
  cases item <;> rfl

variable {item item' : Item}

theorem execute_alike (same : c.rescope f = c'.rescope f)
    (items : item.rescope f = item'.rescope f) :
    (c.execute item).rescope f (Prod.map id (rescope f)) =
      (c'.execute item').rescope f (Prod.map id (rescope f)) := by
  cases item with
  | message m =>
    cases item' with
    | task => cases items
    | message m' =>
      have messages : m.rescope f = m'.rescope f := Item.message.inj items
      have policy : c.machine.policy m.message = c'.machine.policy m'.message := by
        have key : m.message = m'.message := (congrArg RoutedMessage.message messages :)
        rw [key]
        exact (congrArg (fun d : Controller => d.machine.policy m'.message) same :)
      have recorded : rescope f { c with machine := c.machine.record m } =
          rescope f { c' with machine := c'.machine.record m' } := by
        have put (d : Controller) (m : RoutedMessage) :
            rescope f { d with machine := d.machine.record m } =
              { d.rescope f with machine := (d.rescope f).machine.record (m.rescope f) } :=
          congrArg (fun machine => { d.rescope f with machine }) (d.machine.record_rescope m).symm
        rw [put, put, same, messages]
      rw [execute, execute, policy]
      refine script_alike ?_ recorded (c'.machine.policy m'.message)
      exact congrArg (fun m => Context.mk ⟨.info, "route_message"⟩ (some m)) messages
  | task work session =>
    cases item' with
    | message => cases items
    | task work' session' =>
      obtain ⟨rfl, -⟩ : work = work' ∧ _ := Item.task.inj items
      cases work with
      | script actions => exact script_alike rfl same actions
      | clearActive =>
        have system : c.system = c'.system := (congrArg Controller.system same :)
        rw [execute, execute, ← system]
        refine Logged.bind_alike (g := id) rfl fun cleared cleared' alike => ?_
        cases alike
        exact Logged.pure_pair_alike none
          (congrArg (fun d : Controller => { d with system := cleared }) same :)

theorem reportPanic_rescope (c : Controller) (item : Item) (cause : Panic) :
    (c.rescope f).reportPanic (item.rescope f) cause = (c.reportPanic item cause).rescope f id := by
  cases item <;> rfl

theorem remember_rescope (limit : Nat) (history : List HistoryEntry) (e : HistoryEntry) :
    remember limit (history.map (HistoryEntry.rescope f)) (e.rescope f) =
      (remember limit history e).map (HistoryEntry.rescope f) := by
  unfold remember
  rw [List.length_map]
  split
  · rfl
  · rw [List.map_append]
    split
    · rw [List.map_drop]
      rfl
    · rfl

theorem count_rescope (c : Controller) (item : Item) :
    (c.rescope f).count (item.rescope f) = (c.count item).rescope f := by
  have kept : remember c.config.historySize (c.history.map (HistoryEntry.rescope f))
      ⟨(item.rescope f).description, (item.rescope f).session⟩ =
      (remember c.config.historySize c.history ⟨item.description, item.session⟩).map
        (HistoryEntry.rescope f) := by
    rw [Item.description_rescope, Item.session_rescope, ← remember_rescope]
    rfl
  unfold count rescope
  simp only [kept, List.map_append, List.map_cons, List.map_nil]

theorem publish_rescope (c : Controller) : (c.rescope f).publish = c.publish.rescope f := by
  have current : (c.rescope f).current = c.current := by
    unfold Controller.current
    rw [show (c.rescope f).machine.dump = c.machine.dump from c.machine.dump_rescope]
    rfl
  unfold publish
  rw [current]
  cases c.current <;> rfl

theorem process_alike (same : c.rescope f = c'.rescope f)
    (items : item.rescope f = item'.rescope f) :
    (c.process item).rescope f (rescope f) = (c'.process item').rescope f (rescope f) := by
  have executed : ((c.execute item).within (itemSpan item)).rescope f (Prod.map id (rescope f)) =
      ((c'.execute item').within (itemSpan item')).rescope f (Prod.map id (rescope f)) := by
    rw [Logged.rescope_within, Logged.rescope_within, execute_alike same items,
      ← itemSpan_rescope, ← itemSpan_rescope, items]
  refine Logged.bind_pair_alike executed fun panic d d' alike => ?_
  have worker : d.workerField = d'.workerField :=
    (congrArg workerField alike :)
  have description : item.description = item'.description := by
    rw [← Item.description_rescope (f := f), items, Item.description_rescope]
  have published : (d.count item).publish.rescope f = (d'.count item').publish.rescope f := by
    rw [← publish_rescope, ← count_rescope, alike, items, count_rescope, publish_rescope]
  have finished : (Logged.emit .debug "Routing item processed"
        [d.workerField, .text "item" item.description] >>= fun _ =>
          pure (d.count item).publish).rescope f (rescope f) =
      (Logged.emit .debug "Routing item processed"
        [d'.workerField, .text "item" item'.description] >>= fun _ =>
          pure (d'.count item').publish).rescope f (rescope f) := by
    rw [worker, description]
    exact Logged.bind_alike (g := id) rfl fun _ _ _ => Logged.pure_alike published
  cases panic with
  | none => exact finished
  | some cause =>
    refine Logged.bind_alike (g := id) ?_ fun _ _ _ => finished
    rw [← reportPanic_rescope, ← reportPanic_rescope, alike, items]

theorem stop_rescope (c : Controller) : (c.rescope f).stop = c.stop.rescope f (rescope f) :=
  rfl

/-! ## Running the worker -/

theorem step?_alike (same : c.rescope f = c'.rescope f) :
    c.step?.map (Logged.rescope f (rescope f)) = c'.step?.map (Logged.rescope f (rescope f)) := by
  have phase : c.phase = c'.phase := (congrArg Controller.phase same :)
  have worker : c.workerField = c'.workerField := (congrArg workerField same :)
  have held : c.held = c'.held := (congrArg Controller.held same :)
  have mailboxes : c.mailbox.map (Command.rescope f) = c'.mailbox.map (Command.rescope f) :=
    (congrArg Controller.mailbox same :)
  unfold step?
  rw [← phase]
  cases c.phase with
  | fresh =>
    refine congrArg some ?_
    rw [worker]
    exact Logged.bind_alike (g := id) rfl fun _ _ _ =>
      Logged.pure_alike (congrArg (fun d : Controller => { d with phase := .running }) same :)
  | stopped | crashed => rfl
  | running =>
    -- the same comes out of both mailboxes, scopes apart
    rcases Mailbox.take?_alike mailboxes with
      ⟨left, right⟩ | ⟨x, x', rest, rest', left, right, entry, remain⟩
    · dsimp only
      rw [left, right, ← held]
      dsimp only
      split
      · rfl
      · rw [Option.map_some, Option.map_some, ← stop_rescope, same, stop_rescope]
    · have taken : rescope f { c with mailbox := rest, phase := .running } =
          rescope f { c' with mailbox := rest', phase := .running } :=
        congrArg₂ (fun (d : Controller) mailbox => { d with mailbox, phase := .running })
          same remain
      dsimp only
      rw [left, right]
      cases x with
      | item item =>
        cases x' with
        | item item' => exact congrArg some (process_alike taken (Command.item.inj entry))
        | flush | stop => cases entry
      | flush ticket =>
        cases x' with
        | flush ticket' =>
          cases entry
          exact congrArg some (Logged.pure_alike
            (congrArg (fun d : Controller =>
              { d with acknowledged := d.acknowledged ++ [ticket] }) taken :))
        | item | stop => cases entry
      | stop =>
        cases x' with
        | stop =>
          refine congrArg some ?_
          rw [← stop_rescope, taken, stop_rescope]
        | item | flush => cases entry

theorem drive_alike (same : c.rescope f = c'.rescope f) (fuel : Nat) :
    (drive fuel c).rescope f (rescope f) = (drive fuel c').rescope f (rescope f) := by
  induction fuel generalizing c c' with
  | zero => exact Logged.pure_alike same
  | succ fuel ih =>
    have steps := step?_alike same
    rw [drive, drive]
    cases left : c.step? with
    | none =>
      rw [left, Option.map_none, eq_comm, Option.map_eq_none_iff] at steps
      rw [steps]
      exact Logged.pure_alike same
    | some next =>
      rw [left, Option.map_some, eq_comm, Option.map_eq_some_iff] at steps
      obtain ⟨next', right, alike⟩ := steps
      rw [right]
      exact Logged.bind_alike alike.symm fun _ _ => ih

/-! ## Waiting calls -/

theorem relabels_rescope : Relabels (Command.rescope f) (rescope f) where
  put _ _ _ := rfl
  phase _ := rfl
  acknowledged _ := rfl
  workerField _ := rfl
  command w := by
    unfold WaitingCall.command
    split <;> rfl
  isFlush _ x := by cases x <;> rfl

theorem openCall_alike (same : c.rescope f = c'.rescope f) (kind : WaitingCall.Kind) :
    (c.openCall kind).1 = (c'.openCall kind).1 ∧
      (c.openCall kind).2.rescope f = (c'.openCall kind).2.rescope f :=
  ⟨(congrArg (fun d : Controller => (d.openCall kind).1) same :),
    (congrArg (fun d : Controller => (d.openCall kind).2) same :)⟩

theorem poll_alike (same : c.rescope f = c'.rescope f) (w : WaitingCall) :
    (c.poll w).rescope f (Prod.map id (rescope f)) =
      (c'.poll w).rescope f (Prod.map id (rescope f)) := by
  have polled (c : Controller) : (c.poll w).rescope f (Prod.map id (rescope f)) =
      ((c.rescope f).poll w).rescope f id := by
    rw [relabels_rescope.poll]
    rfl
  rw [polled, same, ← polled]

theorem cancel_alike (same : c.rescope f = c'.rescope f) (w : WaitingCall) :
    (c.cancel w).rescope f = (c'.cancel w).rescope f := by
  rw [← relabels_rescope.cancel, same, relabels_rescope.cancel]

theorem complete_alike (same : c.rescope f = c'.rescope f) (workerFuel fuel : Nat)
    (w : WaitingCall) :
    (complete workerFuel fuel c w).rescope f (Prod.map id (rescope f)) =
      (complete workerFuel fuel c' w).rescope f (Prod.map id (rescope f)) := by
  induction fuel generalizing c c' w with
  | zero => exact Logged.pure_pair_alike none same
  | succ fuel ih =>
    rw [complete, complete]
    refine Logged.bind_pair_alike (poll_alike same w) fun outcome d d' polled => ?_
    cases outcome with
    | done answer => exact Logged.pure_pair_alike (some answer) polled
    | pending w =>
      exact Logged.bind_alike (drive_alike polled workerFuel) fun _ _ driven => ih driven w

end Controller

end CallAudio
