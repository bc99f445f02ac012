import CallAudio.Peripheral.Run
import CallAudio.Proofs.Submits

/-!
What peripheral reports come to, told from their history alone. Whatever the adapter rejects, each
delivery of a Bluetooth or dock report has its message submitted, and deliveries of jack reports have
one submitted exactly where the delivered plug state flips. Rejections cost nothing but the messages
that are rejected.
-/

namespace CallAudio

/-! ## Keeping a journal -/

/-- Submissions, each with its answer. -/
abbrev Journal := List (Submission × Except RouteError Unit)

/-- The submissions that were accepted. -/
def Journal.accepted (j : Journal) : List Submission :=
  (j.filter fun entry => entry.2.isOk).map Prod.fst

theorem Journal.accepted_append (j j' : Journal) :
    Journal.accepted (j ++ j') = j.accepted ++ j'.accepted := by
  simp [accepted]

/-- An engine with a journal of what was submitted to it. -/
structure Audited (σ : Type) where
  engine : σ
  journal : Journal := []

namespace Audited

variable {σ : Type} [Adapter σ]

instance : Adapter (Audited σ) where
  submit a scope s := do
    let (answer, engine) ← Adapter.submit a.engine scope s
    return (answer, { engine, journal := a.journal ++ [(s, answer)] })

/-- The journal makes no difference to the engine. -/
theorem respects_engine : Respects (engine : Audited σ → σ) :=
  fun _ _ _ _ => rfl

theorem journal_submit (a : Audited σ) (scope : Log.Scope) (s : Submission) :
    (Adapter.submit a scope s).value.2.journal =
      a.journal ++ [(s, (Adapter.submit a.engine scope s).value.1)] :=
  rfl

/-- A recorder keeps what its journal has as accepted, and nothing else. -/
theorem accepted_of_submits (log : List Submission) {a a' : Audited Recorder} (h : Submits a a')
    (kept : a.engine.accepted = log ++ Journal.accepted a.journal) :
    a'.engine.accepted = log ++ Journal.accepted a'.journal := by
  induction h with
  | refl => exact kept
  | @tail b _ _ next ih =>
    obtain ⟨scope, s, -, rfl⟩ := next
    show (b.engine.record s).2.accepted =
      log ++ Journal.accepted (b.journal ++ [(s, (b.engine.record s).1)])
    rw [Recorder.accepted_record, ih, Journal.accepted_append, List.append_assoc]
    cases answer : (b.engine.record s).1 <;> simp [Journal.accepted, Except.isOk, Except.toBool]

end Audited

/-- The message due for each Bluetooth event. A connection that is coming up counts as up. -/
def BluetoothEvent.due : BluetoothEvent → RouteMessage
  | deviceListChanged => .bluetoothDeviceListChanged
  | activeDevicePresent => .btActiveDevicePresent
  | activeDeviceGone => .btActiveDeviceGone
  | audioConnected => .btAudioConnected
  | audioConnecting => .btAudioConnected
  | audioDisconnected => .btAudioDisconnected
  | unexpectedStateChange => .updateSystemAudioRoute

/-- The plug state that a report delivers, if it is about the jack. -/
def Report.plugged? : Report → Option Bool
  | wired plugged => some plugged
  | bluetooth _ | dock _ => none

/-- What the ringtone player is to hear of a report, if anything. To it a connection that is coming up
is not up yet. -/
def Report.ringtone? : Report → Option Bool
  | bluetooth .audioConnected => some true
  | bluetooth .audioConnecting => some false
  | bluetooth .audioDisconnected => some false
  | bluetooth _ | wired _ | dock _ => none

theorem BluetoothEvent.message_eq_due (event : BluetoothEvent) : event.message = event.due := by
  cases event <;> rfl

theorem Report.ringtone?_bluetooth (event : BluetoothEvent) :
    (bluetooth event).ringtone? = event.ringtone? := by
  cases event <;> rfl

/-- The plug state that a message passes on, if it is about the jack. -/
def RouteMessage.plugged? : RouteMessage → Option Bool
  | connectWiredHeadset => some true
  | disconnectWiredHeadset => some false
  | _ => none

/-- The plug state that a submission passes on, if it is about the jack. -/
def Submission.plugged? (s : Submission) : Option Bool :=
  s.message?.bind RouteMessage.plugged?

namespace Peripherals

/-! ## What a history calls for -/

/-- How many registrations a step adds. -/
def Step.attaches : Step → Nat
  | attach => 1
  | report _ _ | reject _ => 0

/-- Whether a step makes the adapter reject submissions. -/
def Step.rejects : Step → Bool
  | reject _ => true
  | attach | report _ _ => false

/-- How often a report is delivered: once where it is handed over directly, and else once to each
registration. -/
def copies (listeners : Nat) (direct : Bool) : Nat :=
  if direct then 1 else listeners

/-- What a step delivers, where there are this many registrations. -/
def Step.deliveries (listeners : Nat) : Step → List Report
  | report r direct => List.replicate (copies listeners direct) r
  | attach | reject _ => []

/-- The messages due for a step: one for each delivery, or for deliveries of the jack one if they
flip the plug state. -/
def Step.image (listeners : Nat) (plugged : Bool) : Step → List RouteMessage
  | report (.bluetooth event) direct =>
    List.replicate (copies listeners direct) event.due
  | report (.dock docked) direct =>
    List.replicate (copies listeners direct) (if docked then .connectDock else .disconnectDock)
  | report (.wired now) direct =>
    if copies listeners direct = 0 ∨ now = plugged then []
    else [if now then .connectWiredHeadset else .disconnectWiredHeadset]
  | attach | reject _ => []

/-- How many registrations there are after a history. -/
def registrations : List Step → Nat
  | [] => 0
  | step :: rest => step.attaches + registrations rest

/-- What is delivered along a history, oldest first, where there are this many registrations at
first. -/
def deliveries (listeners : Nat) : List Step → List Report
  | [] => []
  | step :: rest => step.deliveries listeners ++ deliveries (listeners + step.attaches) rest

/-- What is remembered after a history: the plug state that was delivered last, and what the ringtone
player is to hear of all that was delivered. -/
def remembered (past : List Step) : Peripherals :=
  { plugged := ((deliveries 0 past).filterMap Report.plugged?).getLast?.getD false
    ringtone := (deliveries 0 past).filterMap Report.ringtone?
    listeners := registrations past }

/-- What is submitted in a step, and how it is answered. -/
def Desk.attempts (d : Desk) : Step → Journal
  | .report r direct =>
    let audited : Audited Recorder := { engine := d.adapter }
    let handled := if direct then d.peripherals.handle audited r else d.peripherals.deliver audited r
    handled.value.2.journal
  | .attach | .reject _ => []

/-- What is submitted along a run, and how it is answered. -/
def Desk.journal (d : Desk) : List Step → Journal
  | [] => []
  | step :: rest => d.attempts step ++ (d.observe step).2.journal rest

/-! ## Deliveries -/

variable {σ : Type} [Adapter σ]

theorem after_eq (p : Peripherals) (r : Report) :
    p.after r = { p with plugged := r.plugged?.getD p.plugged,
                         ringtone := p.ringtone ++ r.ringtone?.toList } := by
  cases r with
  | bluetooth event => simp [after, Report.plugged?, Report.ringtone?_bluetooth]
  | wired | dock => simp [after, Report.plugged?, Report.ringtone?]

/-- Deliveries one after the other leave the plug state of the last one. -/
theorem foldl_after (p : Peripherals) (rs : List Report) :
    rs.foldl after p =
      { p with plugged := (rs.filterMap Report.plugged?).getLast?.getD p.plugged,
               ringtone := p.ringtone ++ rs.filterMap Report.ringtone? } := by
  induction rs generalizing p with
  | nil => simp
  | cons r rest ih =>
    rw [List.foldl_cons, ih, after_eq, List.filterMap_cons, List.filterMap_cons]
    cases r with
    | bluetooth event =>
      cases (Report.bluetooth event).ringtone? <;> simp [Report.plugged?]
    | wired now => simp [Report.plugged?, Report.ringtone?, List.getLast?_cons]
    | dock => simp [Report.plugged?, Report.ringtone?]

theorem value_handleTimes_fst (p : Peripherals) (routing : σ) (r : Report) (n : Nat) :
    (p.handleTimes routing r n).value.1 = (List.replicate n r).foldl after p := by
  induction n generalizing p routing with
  | zero => rfl
  | succ n ih =>
    simp only [handleTimes, Log.Logged.value_bind, value_handle]
    exact ih _ _

/-- The messages that deliveries of one report are turned into. -/
def sent (p : Peripherals) (r : Report) : Nat → List RouteMessage
  | 0 => []
  | n + 1 => (p.message? r).toList ++ (p.after r).sent r n

theorem journal_handleTimes (p : Peripherals) (a : Audited σ) (r : Report) (n : Nat) :
    (p.handleTimes a r n).value.2.journal.map Prod.fst =
      a.journal.map Prod.fst ++ (p.sent r n).map .message := by
  induction n generalizing p a with
  | zero => simp [handleTimes, sent]
  | succ n ih =>
    simp only [handleTimes, Log.Logged.value_bind, value_handle]
    rw [ih, sent, List.map_append, ← List.append_assoc]
    cases p.message? r with
    | none => simp
    | some m => simp [Audited.journal_submit]

/-- A report of the plug state as it is comes to nothing. -/
theorem sent_wired_same {p : Peripherals} {now : Bool} (same : p.plugged = now) (n : Nat) :
    p.sent (.wired now) n = [] := by
  induction n generalizing p with
  | zero => rfl
  | succ n ih => simp [sent, message?, same, ih (p := p.after (.wired now)) rfl]

/-- A report that is turned into a message whatever is remembered. -/
theorem sent_always {r : Report} {m : RouteMessage}
    (always : ∀ p : Peripherals, p.message? r = some m) (p : Peripherals) (n : Nat) :
    p.sent r n = List.replicate n m := by
  induction n generalizing p with
  | zero => rfl
  | succ n ih => simp [sent, always, ih, List.replicate_succ]

theorem sent_eq_image (p : Peripherals) (r : Report) (direct : Bool) :
    p.sent r (copies p.listeners direct) =
      (Step.report r direct).image p.listeners p.plugged := by
  cases r with
  | bluetooth event =>
    have always (p : Peripherals) : p.message? (.bluetooth event) = some event.due :=
      congrArg some event.message_eq_due
    exact sent_always always _ _
  | dock docked => exact sent_always (fun _ => rfl) _ _
  | wired now =>
    rw [Step.image]
    by_cases same : now = p.plugged
    · rw [if_pos (.inr same), sent_wired_same same.symm]
    · cases copies p.listeners direct with
      | zero => rfl
      | succ n =>
        have flips : p.message? (.wired now) = some _ := if_neg (by simpa using Ne.symm same)
        have settled : (p.after (.wired now)).sent (.wired now) n = [] := sent_wired_same rfl n
        rw [if_neg (by simpa using same), sent, flips, settled]
        rfl

/-! ## One step -/

/-- A step that reports, by the code for several deliveries. -/
theorem value_report (p : Peripherals) (routing : σ) (r : Report) (direct : Bool) :
    (if direct then p.handle routing r else p.deliver routing r).value =
      (p.handleTimes routing r (copies p.listeners direct)).value := by
  cases direct <;> rfl

theorem Desk.value_step_report (d : Desk) (r : Report) (direct : Bool) :
    (d.step (.report r direct)).value =
      let handled := (d.peripherals.handleTimes d.adapter r
        (copies d.peripherals.listeners direct)).value
      ⟨handled.1, handled.2⟩ := by
  cases direct <;> rfl

theorem Desk.attempts_report (d : Desk) (r : Report) (direct : Bool) :
    d.attempts (.report r direct) =
      (d.peripherals.handleTimes ({ engine := d.adapter } : Audited Recorder) r
        (copies d.peripherals.listeners direct)).value.2.journal := by
  rw [← value_report]
  rfl

theorem Desk.attempts_eq_image (d : Desk) (step : Step) :
    (d.attempts step).map Prod.fst =
      (step.image d.peripherals.listeners d.peripherals.plugged).map .message := by
  cases step with
  | report r direct => rw [attempts_report, journal_handleTimes, sent_eq_image]; rfl
  | attach | reject => rfl

/-- Of what is submitted in a step, what is accepted is kept. -/
theorem Desk.accepted_step (d : Desk) (step : Step) :
    (d.observe step).2.adapter.accepted = d.adapter.accepted ++ (d.attempts step).accepted := by
  cases step with
  | report r direct =>
    let audited : Audited Recorder := { engine := d.adapter }
    have engine := Audited.respects_engine.handleTimes d.peripherals audited r
      (copies d.peripherals.listeners direct)
    have kept := Audited.accepted_of_submits d.adapter.accepted
      (handleTimes_submits d.peripherals audited r (copies d.peripherals.listeners direct))
      (by simp [audited, Journal.accepted])
    show (d.step _).value.adapter.accepted = _
    rw [value_step_report, attempts_report]
    exact (congrArg (fun h => h.2.accepted) engine).trans kept
  | attach | reject => simp [attempts, Journal.accepted, observe, step]

/-- What is remembered after more deliveries and registrations. -/
def more (p : Peripherals) (delivered : List Report) (attaches : Nat) : Peripherals :=
  { plugged := (delivered.filterMap Report.plugged?).getLast?.getD p.plugged
    ringtone := p.ringtone ++ delivered.filterMap Report.ringtone?
    listeners := p.listeners + attaches }

theorem more_more (p : Peripherals) (rs rs' : List Report) (n n' : Nat) :
    (p.more rs n).more rs' n' = p.more (rs ++ rs') (n + n') := by
  simp [more, List.getLast?_append, Option.getD_or, Nat.add_assoc]

theorem Desk.peripherals_step (d : Desk) (step : Step) :
    (d.observe step).2.peripherals =
      d.peripherals.more (step.deliveries d.peripherals.listeners) step.attaches := by
  cases step with
  | report r direct =>
    show (d.step _).value.peripherals = _
    rw [value_step_report]
    show (d.peripherals.handleTimes _ _ _).value.1 = _
    rw [value_handleTimes_fst, foldl_after]
    rfl
  | attach | reject => simp [more, Step.deliveries, Step.attaches, observe, step, attach]

/-! ## Runs -/

theorem Desk.peripherals_run (d : Desk) (steps : List Step) :
    (d.run steps).peripherals =
      d.peripherals.more (deliveries d.peripherals.listeners steps) (registrations steps) := by
  induction steps generalizing d with
  | nil => simp [run, more, deliveries, registrations]
  | cons step rest ih =>
    rw [run, ih, peripherals_step, more_more]
    rfl

theorem Desk.accepted_run (d : Desk) (steps : List Step) :
    (d.run steps).adapter.accepted = d.adapter.accepted ++ (d.journal steps).accepted := by
  induction steps generalizing d with
  | nil => simp [run, journal, Journal.accepted]
  | cons step rest ih =>
    rw [run, ih, accepted_step, journal, Journal.accepted_append, List.append_assoc]

/-- Steps that make the adapter reject submissions deliver nothing. -/
theorem deliveries_filter_rejects (listeners : Nat) (steps : List Step) :
    deliveries listeners (steps.filter fun s => !s.rejects) = deliveries listeners steps := by
  induction steps generalizing listeners with
  | nil => rfl
  | cons step rest ih =>
    cases step with
    | attach | reject => exact ih _
    | report r direct => exact congrArg (List.replicate (copies listeners direct) r ++ ·) (ih _)

theorem registrations_filter_rejects (steps : List Step) :
    registrations (steps.filter fun s => !s.rejects) = registrations steps := by
  induction steps with
  | nil => rfl
  | cons step rest ih =>
    cases step with
    | attach => exact congrArg (1 + ·) ih
    | report => exact congrArg (0 + ·) ih
    | reject => exact ih.trans (Nat.zero_add _).symm

/-! ## Flips of the plug state -/

end Peripherals

/-- The flips of the plug state that were submitted, each with its answer. -/
def Journal.flips (j : Journal) : List (Bool × Except RouteError Unit) :=
  j.filterMap fun entry => entry.1.plugged?.map fun plugged => (plugged, entry.2)

theorem Journal.flips_append (j j' : Journal) : Journal.flips (j ++ j') = j.flips ++ j'.flips :=
  List.filterMap_append

theorem Journal.map_flips (j : Journal) :
    j.flips.map Prod.fst = (j.map Prod.fst).filterMap Submission.plugged? := by
  rw [flips, List.map_filterMap, List.filterMap_map]
  congr 1
  funext entry
  cases h : entry.1.plugged? <;> simp [h]

/-- The flips among the submissions that were accepted. -/
theorem Journal.accepted_flips (j : Journal) :
    j.accepted.filterMap Submission.plugged? =
      (j.flips.filter fun flip => flip.2.isOk).map Prod.fst := by
  induction j with
  | nil => rfl
  | cons entry rest ih =>
    rw [accepted, flips] at *
    cases ok : entry.2.isOk <;> cases h : entry.1.plugged? <;> simp [ok, h, ih]

/-- Where the last flip was accepted, it is the last of those that were. -/
theorem Journal.getLast?_accepted_flips {j : Journal}
    (last : ∀ flip, j.flips.getLast? = some flip → flip.2 = .ok ()) :
    (j.accepted.filterMap Submission.plugged?).getLast? = (j.flips.map Prod.fst).getLast? := by
  rw [accepted_flips]
  rcases j.flips.eq_nil_or_concat with none | ⟨earlier, flip, concat⟩
  · rw [none]
    rfl
  · rw [List.concat_eq_append] at concat
    have ok : flip.2 = .ok () := last flip (by rw [concat, List.getLast?_concat])
    rw [concat, List.filter_append]
    simp [ok, Except.isOk, Except.toBool]

namespace Peripherals

/-- The last message due for a step passes on the plug state that the step delivers last, unless the
plug state is that one already. -/
theorem plugged_image (step : Step) (listeners : Nat) (plugged : Bool) :
    (((step.image listeners plugged).map Submission.message).filterMap
        Submission.plugged?).getLast?.getD plugged =
      ((step.deliveries listeners).filterMap Report.plugged?).getLast?.getD plugged := by
  cases step with
  | attach | reject => rfl
  | report r direct =>
    rw [Step.deliveries]
    cases r with
    | bluetooth event =>
      have quiet : (Submission.message event.due).plugged? = none := by cases event <;> rfl
      rw [Step.image, List.map_replicate, List.filterMap_replicate_of_none quiet,
        List.filterMap_replicate_of_none rfl]
    | dock docked =>
      have quiet : (Submission.message (if docked then .connectDock else .disconnectDock)).plugged? =
          none := by
        cases docked <;> rfl
      rw [Step.image, List.map_replicate, List.filterMap_replicate_of_none quiet,
        List.filterMap_replicate_of_none rfl]
    | wired now =>
      rw [Step.image]
      cases copies listeners direct with
      | zero => rfl
      | succ n =>
        rw [List.filterMap_replicate_of_isSome rfl, List.getLast?_replicate]
        cases now <;> cases plugged <;> rfl

/-- The last flip that was submitted leads to the plug state that is remembered. -/
theorem Desk.plugged_flips (d : Desk) (steps : List Step) :
    ((d.journal steps).flips.map Prod.fst).getLast?.getD d.peripherals.plugged =
      (d.run steps).peripherals.plugged := by
  induction steps generalizing d with
  | nil => rfl
  | cons step rest ih =>
    rw [run, ← ih, journal, Journal.flips_append, List.map_append, List.getLast?_append,
      Option.getD_or, peripherals_step]
    congr 1
    rw [Journal.map_flips, attempts_eq_image, plugged_image]
    rfl

theorem messages_plugged (a : Recorder) :
    a.messages.filterMap RouteMessage.plugged? = a.accepted.filterMap Submission.plugged? := by
  rw [Recorder.messages, List.filterMap_filterMap]
  rfl

/-- Whatever was rejected along a history, what is remembered of it is what the reports delivered in it
come to, which is what it would be had nothing been rejected; the next step has submitted what is due
for it; and of what is submitted all but what is rejected is kept. So while the last flip of the plug
state was accepted, or there was none, the plug state that was passed on last is the one that was
delivered last. -/
theorem submissions_follow_history (past : List Step) :
    let d := Desk.run {} past
    let journal := Desk.journal {} past
    d.peripherals = remembered past ∧
    d.peripherals = (Desk.run {} (past.filter fun s => !s.rejects)).peripherals ∧
    d.adapter.accepted = journal.accepted ∧
    (∀ step,
      (d.attempts step).map Prod.fst =
        (step.image (registrations past) (remembered past).plugged).map .message ∧
      (d.observe step).1.sent = (d.attempts step).accepted) ∧
    ((∀ flip, journal.flips.getLast? = some flip → flip.2 = .ok ()) →
      (d.adapter.messages.filterMap RouteMessage.plugged?).getLast?.getD false =
        d.peripherals.plugged) := by
  intro d journal
  have peripherals : d.peripherals = remembered past :=
    (Desk.peripherals_run {} past).trans (by simp [more, remembered])
  have accepted : d.adapter.accepted = journal.accepted := Desk.accepted_run {} past
  refine ⟨peripherals, ?_, accepted, ?_, ?_⟩
  · show (Desk.run {} past).peripherals = _
    rw [Desk.peripherals_run, Desk.peripherals_run, deliveries_filter_rejects,
      registrations_filter_rejects]
  · intro step
    refine ⟨?_, ?_⟩
    · rw [Desk.attempts_eq_image, peripherals]
      rfl
    · show since d.adapter.accepted (d.observe step).2.adapter.accepted = _
      rw [Desk.accepted_step, since_append]
  · intro last
    rw [messages_plugged, accepted, Journal.getLast?_accepted_flips last]
    exact Desk.plugged_flips {} past

/-- Two registrations, and a plug whose only message is rejected: the unplug and the plug after it
are passed on once each, and between them every event of the Bluetooth stack, one of them twice. -/
theorem reports_passed_on_after_rejection :
    let past : List Step := [.attach, .attach, .reject 1, .report (.wired true) false,
      .report (.wired false) true, .report (.bluetooth .deviceListChanged) true,
      .report (.bluetooth .activeDevicePresent) true, .report (.bluetooth .audioConnecting) false,
      .report (.bluetooth .audioConnected) true, .report (.bluetooth .audioDisconnected) true,
      .report (.bluetooth .activeDeviceGone) true,
      .report (.bluetooth .unexpectedStateChange) true, .report (.wired true) false]
    let d := Desk.run {} past
    (Desk.journal {} past).flips.map Prod.fst = [true, false, true] ∧
    d.adapter.messages = [.disconnectWiredHeadset, .bluetoothDeviceListChanged,
      .btActiveDevicePresent, .btAudioConnected, .btAudioConnected, .btAudioConnected,
      .btAudioDisconnected, .btActiveDeviceGone, .updateSystemAudioRoute, .connectWiredHeadset] ∧
    d.peripherals.ringtone = [false, false, true, false] ∧
    (d.attempts (.report (.bluetooth .audioConnecting) false)).map Prod.fst =
      [.message .btAudioConnected, .message .btAudioConnected] ∧
    (∀ flip, (Desk.journal {} past).flips.getLast? = some flip → flip.2 = .ok ()) ∧
    (d.adapter.messages.filterMap RouteMessage.plugged?).getLast?.getD false =
      d.peripherals.plugged := by
  intro past d
  have last : ∀ flip, (Desk.journal {} past).flips.getLast? = some flip → flip.2 = .ok () := by
    rintro flip ⟨⟩
    rfl
  obtain ⟨remembered, _, _, steps, agrees⟩ := submissions_follow_history past
  exact ⟨rfl, rfl, congrArg ringtone remembered, (steps _).1, last, agrees last⟩

end Peripherals

end CallAudio
