import CallAudio.Controller.Submit

/-!
The worker. It takes one entry out of the mailbox at a time. A panic of the state machine or of a
task is caught and reported, and the item counts as processed; a panic while a snapshot is made is
not caught, and ends the worker.
-/

namespace CallAudio

open Log (Logged Place Span)

namespace Controller

/-- What a script runs for: the place it runs in, and the message at hand unless it is a task. -/
structure Context where
  place : Place
  message : Option RoutedMessage

namespace Context

/-- The argument of the message at hand. -/
def arg (ctx : Context) : Option Int :=
  ctx.message.bind RoutedMessage.arg

/-- The payload of the message at hand. -/
def payload (ctx : Context) : Option String :=
  ctx.message.bind RoutedMessage.payload

end Context

/-- Takes note of the reply to an action. -/
def reply (c : Controller) (r : Reply) : Controller :=
  { c with effects := c.effects ++ [r] }

/-- Submits from within the worker, which needs somebody to hold a handle. -/
def resubmit (c : Controller) (ctx : Context) (s : Submission) : Logged Controller :=
  if c.held then do
    let (answer, c) ← c.submit [ctx.place] s
    return c.reply (.outcome answer)
  else return c.reply .nothing

/-- Changes the audio state on behalf of a message; a task has no state to change. -/
def edit (c : Controller) (ctx : Context) (change : StateEdit) : Controller :=
  match ctx.message with
  | none => c
  | some m => { c with machine := { c.machine with state := change.apply m.payload c.machine.state } }

/-- Carries out one action, which may panic. -/
def act (ctx : Context) (c : Controller) : Action → Logged (Option Panic × Controller)
  | .operate op => do
    let address := ctx.payload.map BluetoothAddress.mk
    let (reply, system) ← c.system.perform (op.withAddress address)
    return (none, { c with system }.reply reply)
  | .edit change => return (none, c.edit ctx change)
  | .send m arg payload => do
    let c ← c.resubmit ctx (Submission.ofParts m arg payload)
    return (none, c)
  | .task actions => do
    let c ← c.resubmit ctx (.task (.script actions))
    return (none, c)
  | .panic cause => return (some cause, c)
  | .ifArg n action => if ctx.arg = some n then act ctx c action else return (none, c)

/-- Carries out actions one after the other, up to the first panic. -/
def script (ctx : Context) (c : Controller) : List Action → Logged (Option Panic × Controller)
  | [] => return (none, c)
  | a :: rest => do
    let (panic, c) ← act ctx c a
    match panic with
    | some cause => return (some cause, c)
    | none => script ctx c rest

/-- The span in which an item is processed. -/
def itemSpan : Item → Span
  | .message m =>
    ⟨⟨.info, "route_message"⟩,
      [.text "message" m.message.name, .text "session" Log.sessionId,
        ⟨"origin", .origin m.session.scope⟩]⟩
  | .task _ session =>
    ⟨⟨.info, "route_task"⟩,
      [.text "session" Log.sessionId, ⟨"origin", .origin session.scope⟩]⟩

/-- What an item makes the worker do. -/
def execute (c : Controller) (item : Item) : Logged (Option Panic × Controller) :=
  match item with
  | .message m =>
    script ⟨(itemSpan item).place, some m⟩ { c with machine := c.machine.record m }
      (c.machine.policy m.message)
  | .task (.script actions) _ => script ⟨(itemSpan item).place, none⟩ c actions
  | .task .clearActive _ => do
    let system ← c.system.clearActive
    return (none, { c with system })

/-- Reports a panic that was caught. -/
def reportPanic (c : Controller) (item : Item) (cause : Panic) : Logged Unit :=
  match item with
  | .message m =>
    Logged.emit .warn ("Routing state machine panicked: " ++ cause.message)
      [c.workerField, .text "message" m.message.name]
  | .task _ _ =>
    Logged.emit .warn ("Routing task panicked: " ++ cause.message) [c.workerField]

/-- A history of at most `limit` entries with one more: the oldest makes room for it. -/
def remember (limit : Nat) (history : List HistoryEntry) (e : HistoryEntry) : List HistoryEntry :=
  if limit = 0 then history
  else (if history.length = limit then history.drop 1 else history) ++ [e]

/-- Counts an item as processed. -/
def count (c : Controller) (item : Item) : Controller :=
  { c with
    processed := c.processed + 1
    executed := c.executed ++ [item]
    history := remember c.config.historySize c.history ⟨item.description, item.session⟩ }

/-- Publishes a snapshot; where that panics the worker ends and what is queued is dropped. -/
def publish (c : Controller) : Controller :=
  match c.current with
  | .ok published => { c with published, version := c.version + 1 }
  | .error cause => { c with phase := .crashed cause, mailbox := c.mailbox.close }

/-- Processes an item from start to publication. -/
def process (c : Controller) (item : Item) : Logged Controller := do
  let (panic, c) ← (c.execute item).within (itemSpan item)
  match panic with
  | none => pure ()
  | some cause => c.reportPanic item cause
  Logged.emit .debug "Routing item processed" [c.workerField, .text "item" item.description]
  return (c.count item).publish

/-- Ends the worker in order. -/
def stop (c : Controller) : Logged Controller := do
  Logged.emit .info "Routing worker stopped"
    [c.workerField, .text "processed" (toString c.processed)]
  return { c with phase := .stopped, mailbox := c.mailbox.close }

/-- One step of the worker, unless it is idle or has ended. -/
def step? (c : Controller) : Option (Logged Controller) :=
  match c.phase with
  | .fresh => some do
    Logged.emit .info "Routing worker started" [c.workerField]
    return { c with phase := .running }
  | .running =>
    match c.mailbox.take? with
    | none => if c.held then none else some c.stop
    | some (.item item, mailbox) => some ({ c with mailbox }.process item)
    | some (.flush ticket, mailbox) =>
      some (pure { c with mailbox, acknowledged := c.acknowledged ++ [ticket] })
    | some (.stop, mailbox) => some { c with mailbox }.stop
  | .stopped | .crashed _ => none

/-- Runs the worker until it is idle or has ended, for at most `fuel` steps. -/
def drive : Nat → Controller → Logged Controller
  | 0, c => return c
  | fuel + 1, c =>
    match c.step? with
    | none => return c
    | some next => do
      let c ← next
      drive fuel c

end Controller

end CallAudio
