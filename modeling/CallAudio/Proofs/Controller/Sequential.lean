import CallAudio.Proofs.Controller.Attended
import Mathlib.Data.List.DropRight

/-!
What an item means to the worker, apart from mailboxes, handles and sessions: a function of the
state that the worker owns. The worker, processing an item, does just that to its state; whatever
else it does leaves the state alone.
-/

namespace CallAudio

/-- A message without the session in which it was submitted. -/
def RoutedMessage.bare (m : RoutedMessage) : RoutedMessage :=
  { m with session := {} }

/-- An item without the session in which it was submitted. -/
def Item.bare : Item → Item
  | message m => message m.bare
  | task work _ => task work {}

/-- The state that the worker owns, without sessions. -/
structure WorkerState where
  /-- The arbiter, the catalog with the calls made to it, and the Bluetooth stack with its notices.
  -/
  system : AudioSystem
  audioState : CallAudioState
  recorded : List RoutedMessage
  /-- The descriptions of the items that were processed last. -/
  history : List String
  processed : Nat

/-! ## The meaning of an item -/

namespace WorkerState

/-- What an action comes to, and whether the script goes on after it. A submission made by a script
is an item of its own and nothing here. -/
def act (message : Option RoutedMessage) (s : WorkerState) : Action → Bool × WorkerState
  | .operate op =>
    let address := (message.bind RoutedMessage.payload).map BluetoothAddress.mk
    (true, { s with system := (s.system.perform (op.withAddress address)).value.2 })
  | .edit change =>
    match message with
    | none => (true, s)
    | some m => (true, { s with audioState := change.apply m.payload s.audioState })
  | .send _ _ _ | .task _ => (true, s)
  | .panic _ => (false, s)
  | .ifArg n action =>
    if message.bind RoutedMessage.arg = some n then act message s action else (true, s)

/-- What a script comes to: its actions one after the other, up to the first panic. -/
def script (message : Option RoutedMessage) (s : WorkerState) : List Action → WorkerState
  | [] => s
  | a :: rest =>
    match act message s a with
    | (true, s) => script message s rest
    | (false, s) => s

/-- What an item does. -/
def execute (policy : RouteMessage → List Action) (s : WorkerState) : Item → WorkerState
  | .message m =>
    script (some m.bare) { s with recorded := s.recorded ++ [m.bare] } (policy m.message)
  | .task (.script actions) _ => script none s actions
  | .task .clearActive _ => { s with system := s.system.clearActive.value }

/-- What processing an item comes to; at most `limit` descriptions are kept. -/
def process (policy : RouteMessage → List Action) (limit : Nat) (s : WorkerState) (item : Item) :
    WorkerState :=
  let s := s.execute policy item
  { s with
    processed := s.processed + 1
    history := (s.history ++ [item.description]).rtake limit }

/-- The session of an item does not matter. -/
@[simp] theorem process_bare (policy : RouteMessage → List Action) (limit : Nat) (s : WorkerState)
    (item : Item) : s.process policy limit item.bare = s.process policy limit item := by
  cases item with
  | message m => rfl
  | task work session => cases work <;> rfl

theorem foldl_process_bare (policy : RouteMessage → List Action) (limit : Nat) (s : WorkerState)
    (items : List Item) :
    (items.map Item.bare).foldl (process policy limit) s =
      items.foldl (process policy limit) s := by
  rw [List.foldl_map]
  simp only [process_bare]

end WorkerState

/-! ## The worker does what an item means -/

namespace Controller

/-- The state that the worker owns. -/
def workerState (c : Controller) : WorkerState where
  system := c.system
  audioState := c.machine.state
  recorded := c.machine.recorded.map RoutedMessage.bare
  history := c.history.map HistoryEntry.description
  processed := c.processed

/-- The message at hand, without its session. -/
def Context.bare (ctx : Context) : Option RoutedMessage :=
  ctx.message.map RoutedMessage.bare

theorem Context.arg_bare (ctx : Context) : ctx.bare.bind RoutedMessage.arg = ctx.arg := by
  cases h : ctx.message <;> simp [bare, arg, h, RoutedMessage.bare]

theorem Context.payload_bare (ctx : Context) :
    ctx.bare.bind RoutedMessage.payload = ctx.payload := by
  cases h : ctx.message <;> simp [bare, payload, h, RoutedMessage.bare]

theorem workerState_submit (c : Controller) (scope : Log.Scope) (s : Submission) :
    (c.submit scope s).value.2.workerState = c.workerState :=
  submit_keep (P := fun d => d.workerState = c.workerState) rfl (fun _ _ => rfl) scope s

theorem workerState_resubmit (ctx : Context) (c : Controller) (s : Submission) :
    (c.resubmit ctx s).value.workerState = c.workerState := by
  unfold resubmit
  split
  · exact workerState_submit c [ctx.place] s
  · rfl

theorem workerState_edit (ctx : Context) (c : Controller) (change : StateEdit) :
    (true, (c.edit ctx change).workerState) = c.workerState.act ctx.bare (.edit change) := by
  cases h : ctx.message <;> simp only [edit, WorkerState.act, Context.bare, h] <;> rfl

/-- An action does to the state what it means, and stops the script when it is meant to. -/
theorem workerState_act (ctx : Context) (c : Controller) :
    ∀ a : Action, ((act ctx c a).value.1.isNone, (act ctx c a).value.2.workerState) =
      c.workerState.act ctx.bare a
  | .operate op => by
    rw [WorkerState.act, ctx.payload_bare]
    rfl
  | .edit change => workerState_edit ctx c change
  | .send m arg payload =>
    congrArg (Prod.mk true) (workerState_resubmit ctx c (.ofParts m arg payload))
  | .task actions =>
    congrArg (Prod.mk true) (workerState_resubmit ctx c (.task (.script actions)))
  | .panic _ => rfl
  | .ifArg n a => by
    rw [act, WorkerState.act, ctx.arg_bare]
    split
    · exact workerState_act ctx c a
    · rfl

theorem workerState_script (ctx : Context) (c : Controller) (actions : List Action) :
    (script ctx c actions).value.2.workerState = c.workerState.script ctx.bare actions := by
  induction actions generalizing c with
  | nil => rfl
  | cons a rest ih =>
    have first := workerState_act ctx c a
    simp only [script, Log.Logged.value_bind, WorkerState.script, ← first]
    split <;> rename_i h <;> simp only [h, Option.isNone_some, Option.isNone_none]
    · rfl
    · exact ih _

theorem workerState_execute (c : Controller) (item : Item) :
    (c.execute item).value.2.workerState = c.workerState.execute c.machine.policy item := by
  cases item with
  | message m =>
    have noted : Controller.workerState { c with machine := c.machine.record m } =
        { c.workerState with recorded := c.workerState.recorded ++ [m.bare] } := by
      simp [workerState, Machine.record]
    rw [WorkerState.execute, ← noted]
    exact workerState_script _ _ _
  | task work session =>
    cases work with
    | clearActive => rfl
    | script actions => exact workerState_script _ _ _

/-- What stays as it is while an item is carried out. -/
theorem execute_frame (c : Controller) (item : Item) :
    (c.execute item).value.2.config = c.config ∧
    (c.execute item).value.2.machine.policy = c.machine.policy ∧
    (c.execute item).value.2.history = c.history ∧
    (c.execute item).value.2.executed = c.executed := by
  obtain ⟨items, system, state, effects, hf⟩ := (execute_effects c item).frame
  rw [hf]
  cases item <;> exact ⟨rfl, rfl, rfl, rfl⟩

/-! ## The history -/

/-- A history that makes room for one more entry holds the last ones. -/
theorem remember_eq_rtake {limit : Nat} {history : List HistoryEntry}
    (fits : history.length ≤ limit) (e : HistoryEntry) :
    remember limit history e = (history ++ [e]).rtake limit := by
  rw [List.rtake, List.length_append, List.length_singleton]
  unfold remember
  split <;> rename_i room
  · rw [room, Nat.le_zero, List.length_eq_zero_iff] at fits
    simp [fits, room]
  · split <;> rename_i full
    · -- the oldest entry makes room
      rw [full, Nat.add_sub_cancel_left, List.drop_append_of_le_length (by omega)]
    · rw [Nat.sub_eq_zero_of_le (by omega), List.drop_zero]

theorem length_remember_le {limit : Nat} {history : List HistoryEntry}
    (fits : history.length ≤ limit) (e : HistoryEntry) :
    (remember limit history e).length ≤ limit := by
  rw [remember_eq_rtake fits, List.rtake, List.length_drop]
  omega

theorem description_remember {limit : Nat} {history : List HistoryEntry}
    (fits : history.length ≤ limit) (e : HistoryEntry) :
    (remember limit history e).map HistoryEntry.description =
      (history.map HistoryEntry.description ++ [e.description]).rtake limit := by
  rw [remember_eq_rtake fits, List.rtake, List.rtake, List.map_drop, List.map_append,
    List.length_append, List.length_append, List.length_map, List.map_singleton]
  rfl

/-! ## The state as a fold -/

/-- Carrying out an item and counting it does to the state what the item means. -/
theorem workerState_count (c : Controller) (fits : c.history.length ≤ c.config.historySize)
    (item : Item) :
    ((c.execute item).value.2.count item).workerState =
      c.workerState.process c.machine.policy c.config.historySize item := by
  obtain ⟨config, _, history, _⟩ := execute_frame c item
  rw [WorkerState.process, ← workerState_execute]
  simp only [workerState, count, config, history, description_remember fits]

/-- The state is that of the items processed, one after the other; `start` is what it was before. -/
structure Replays (policy : RouteMessage → List Action) (limit : Nat) (start : WorkerState)
    (c : Controller) : Prop where
  follows : c.machine.policy = policy
  keeps : c.config.historySize = limit
  fits : c.history.length ≤ limit
  state : c.workerState = c.executed.foldl (WorkerState.process policy limit) start

variable {policy : RouteMessage → List Action} {limit : Nat} {start : WorkerState}
  {c c' : Controller}

/-- A snapshot leaves the state alone. -/
theorem Replays.publish (h : Replays policy limit start c) :
    Replays policy limit start c.publish := by
  rcases publish_cases c with ⟨_, hp⟩ | ⟨_, hp⟩ <;> rw [hp] <;>
    exact ⟨h.follows, h.keeps, h.fits, h.state⟩

theorem Replays.process (h : Replays policy limit start c) (item : Item) :
    Replays policy limit start (c.process item).value := by
  obtain ⟨config, same, history, executed⟩ := execute_frame c item
  have state := workerState_count c (by rw [h.keeps]; exact h.fits) item
  rw [value_process]
  refine Replays.publish ⟨same.trans h.follows, ?_, ?_, ?_⟩
  · show (c.execute item).value.2.config.historySize = limit
    rw [config, h.keeps]
  · show (remember _ _ _).length ≤ limit
    rw [config, history, h.keeps]
    exact length_remember_le h.fits _
  · show _ = ((c.execute item).value.2.executed ++ [item]).foldl _ start
    rw [state, executed, List.foldl_append, List.foldl_cons, List.foldl_nil, ← h.state, h.follows,
      h.keeps]

theorem Replays.worked (h : Replays policy limit start c) (w : Worked c c') :
    Replays policy limit start c' := by
  cases w with
  | started | abandoned | acknowledged | stopped => exact ⟨h.follows, h.keeps, h.fits, h.state⟩
  | @processed _ item mailbox _ =>
    exact Replays.process (c := { c with mailbox }) ⟨h.follows, h.keeps, h.fits, h.state⟩ item

end Controller

namespace Attended

open Controller (Replays)

variable {policy : RouteMessage → List Action} {limit : Nat} {start : WorkerState}
  {a a' : Attended}

/-- Nothing but the worker touches the state. -/
theorem Replays.move (h : Replays policy limit start a.controller) (m : Move a a') :
    Replays policy limit start a'.controller := by
  cases m with
  | submit c calls scope s =>
    exact Controller.submit_keep h (fun _ _ => ⟨h.follows, h.keeps, h.fits, h.state⟩) scope s
  | work calls hw => exact h.worked (Controller.worked_of_step? hw)
  | look c before w after =>
    obtain ⟨_, _, frame, _⟩ := Controller.poll_frame c w
    rw [frame]
    exact ⟨h.follows, h.keeps, h.fits, h.state⟩
  | cancel c before w after =>
    obtain ⟨_, frame, _⟩ := Controller.cancel_frame c w
    rw [frame]
    exact ⟨h.follows, h.keeps, h.fits, h.state⟩
  | openCall | forget | letGo => exact ⟨h.follows, h.keeps, h.fits, h.state⟩

end Attended

end CallAudio
