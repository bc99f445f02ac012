import CallAudio.Proofs.Pipeline.Cut
import CallAudio.Proofs.Tracing.Attribution

/-!
What a trace setting shows of a step of a pipeline. The diagnostic text is the one answer that names
origins. Pipelines that differ in the scopes of sessions show the same of a step as long as they
attribute the sessions alike; and of one and the same step two settings show the same but for origins.
-/

namespace CallAudio.Pipeline

open Log (Logged Scope Watch lines)

/-- What is shown of an answer under a trace setting. -/
def Answer.shown (w : Watch) : Answer → Answer
  | dump text => dump fun _ => text w
  | answer => answer

/-- Answers that are the same but for the origins in a diagnostic text. -/
def Answer.Agree : Answer → Answer → Prop
  | dump text, dump text' => ∀ w w', SameButOrigins (text w) (text' w')
  | answer, answer' => answer = answer'

/-- What is shown of an observation under a trace setting, the log apart. -/
def Observation.shown (w : Watch) (o : Observation) : Observation :=
  { o with
    answer := o.answer.shown w
    processed := o.processed.map (RoutedMessage.rescope (Scope.innermost w))
    records := [] }

/-- Observations that are the same but for the log and for origins. -/
structure Observation.Agree (o o' : Observation) : Prop where
  answer : o.answer.Agree o'.answer
  pending : o.pending = o'.pending
  running : o.running = o'.running
  processed : o.processed.map (RoutedMessage.rescope Scope.blank) =
    o'.processed.map (RoutedMessage.rescope Scope.blank)
  effects : o.effects = o'.effects
  calls : o.calls = o'.calls
  notices : o.notices = o'.notices
  ringtone : o.ringtone = o'.ringtone
  callCount : o.callCount = o'.callCount

/-- An answer without a diagnostic text names no origins. -/
def Answer.plain : Answer → Bool
  | dump _ => false
  | _ => true

theorem Answer.shown_of_plain {a : Answer} (plain : a.plain = true) (w : Watch) :
    a.shown w = a := by
  cases a with
  | dump => cases plain
  | _ => rfl

theorem Answer.agree_of_plain {a : Answer} (plain : a.plain = true) : a.Agree a := by
  cases a with
  | dump => cases plain
  | _ => rfl

theorem plain_sendMany (c : Controller) (s : Submission) (accepted : Nat)
    (firstError : Option RouteError) (n : Nat) :
    (sendMany c s accepted firstError n).value.1.plain = true := by
  induction n generalizing c accepted firstError with
  | zero => rfl
  | succ n ih =>
    simp only [sendMany, Logged.value_bind]
    rcases (c.submit [] s).value with ⟨_ | _, c'⟩ <;> exact ih _ _ _

theorem plain_withRegistry (p : Pipeline)
    (F : Registry → Controller → Logged (Except RouteError Unit × Registry × Controller)) :
    (p.withRegistry F).value.1.plain = true := by
  unfold withRegistry
  split <;> rfl

theorem plain_complete (fuel : Nat) (c : Controller) (w : WaitingCall) :
    (complete fuel c w).value.1.plain = true := by
  rw [value_complete]
  cases (c.complete fuel fuel w).value.1 <;> rfl

theorem plain_heldStep {s : Step} (quiet : s ≠ .dump) (fuel : Nat) (p : Pipeline) :
    (heldStep fuel p s).value.1.plain = true := by
  cases s with
  | dump => exact absurd rfl quiet
  | sendMany n s => exact plain_sendMany p.controller s 0 none n
  | add | remove | route | mute => exact plain_withRegistry p _
  | await kind => exact plain_complete fuel _ _
  | poll slot | cancel slot =>
    rw [heldStep]
    split <;> rfl
  | finish slot =>
    rw [heldStep]
    split
    · rfl
    · exact plain_complete fuel _ _
  | _ => rfl

theorem plain_step {s : Step} (quiet : s ≠ .dump) (fuel : Nat) (p : Pipeline) :
    (p.step fuel s).value.1.plain = true := by
  cases needs : s.needsHandle with
  | true =>
    rw [value_step_of_needsHandle needs]
    split
    · exact plain_heldStep quiet fuel p
    · rfl
  | false =>
    cases s with
    | setDevices | decline | drive => rfl
    | changed | seen =>
      rw [step]
      split
      · rfl
      · first | rfl | split <;> rfl
    | _ => cases needs

variable {f : Scope → Scope} {p p' : Pipeline}

theorem since_map {α β : Type} (g : α → β) (xs ys : List α) :
    (since xs ys).map g = since (xs.map g) (ys.map g) := by
  unfold since
  rw [List.map_drop, List.length_map]

theorem seen_rescope (p p' : Pipeline) (answer : Answer) :
    seen (p.rescope f) (p'.rescope f) answer =
      { seen p p' answer with
        processed := (seen p p' answer).processed.map (RoutedMessage.rescope f) } := by
  have pending : (p'.rescope f).controller.mailbox.pending = p'.controller.mailbox.pending :=
    Controller.pending_rescope _
  have count : (p'.rescope f).registry.map Registry.count = p'.registry.map Registry.count := by
    show (p'.registry.map (Registry.rescope f)).map Registry.count = _
    rw [Option.map_map]
    exact congrArg (p'.registry.map ·) (funext Registry.count_rescope)
  unfold seen
  rw [pending, count, since_map]
  rfl

/-- What pipelines that differ in scopes come to in a step. The answer is the same, unless it is the
diagnostic text, of both. -/
theorem step_follows (same : p.rescope f = p'.rescope f) (fuel : Nat) (s : Step) :
    (((p.step fuel s).value.1.plain = true ∧ (p.step fuel s).value.1 = (p'.step fuel s).value.1) ∨
      ((p.step fuel s).value.1 = .dump p.controller.dump ∧
        (p'.step fuel s).value.1 = .dump p'.controller.dump)) ∧
      (p.step fuel s).value.2.rescope f = (p'.step fuel s).value.2.rescope f ∧
      (p.step fuel s).records.map (Log.Record.rescope f) =
        (p'.step fuel s).records.map (Log.Record.rescope f) := by
  by_cases quiet : s = .dump
  · subst quiet
    have held : p.controller.held = p'.controller.held :=
      (congrArg (fun q : Pipeline => q.controller.held) same :)
    rw [step_dump, step_dump, ← held]
    split
    · exact ⟨.inr ⟨rfl, rfl⟩, same, rfl⟩
    · exact ⟨.inl ⟨rfl, rfl⟩, same, rfl⟩
  · have taken := step_alike same quiet fuel
    obtain ⟨answer, after⟩ : (p.step fuel s).value.1 = (p'.step fuel s).value.1 ∧
        (p.step fuel s).value.2.rescope f = (p'.step fuel s).value.2.rescope f :=
      Prod.ext_iff.1 (congrArg Logged.value taken)
    have records : (p.step fuel s).records.map (Log.Record.rescope f) =
        (p'.step fuel s).records.map (Log.Record.rescope f) := congrArg Logged.records taken
    exact ⟨.inl ⟨plain_step quiet fuel p, answer⟩, after, records⟩

theorem observe_shows {w : Watch}
    (same : p.rescope (Scope.innermost w) = p'.rescope (Scope.innermost w))
    (fuel : Nat) (s : Step) :
    (p.observe fuel s).1.shown w = (p'.observe fuel s).1.shown w ∧
      lines w (p.observe fuel s).1.records = lines w (p'.observe fuel s).1.records := by
  obtain ⟨answers, after, records⟩ := step_follows same fuel s
  have shown : (p.step fuel s).value.1.shown w = (p'.step fuel s).value.1.shown w := by
    rcases answers with ⟨-, answer⟩ | ⟨left, right⟩
    · rw [answer]
    · rw [left, right]
      exact congrArg (fun text => Answer.dump fun _ => text)
        (Controller.dump_innermost (controller_alike same))
  constructor
  · have views (p p' : Pipeline) (answer : Answer) :
        (seen p p' answer).shown w =
          { seen (p.rescope (Scope.innermost w)) (p'.rescope (Scope.innermost w)) answer with
            answer := answer.shown w } := by
      rw [seen_rescope]
      rfl
    show (seen p (p.step fuel s).value.2 (p.step fuel s).value.1).shown w =
      (seen p' (p'.step fuel s).value.2 (p'.step fuel s).value.1).shown w
    rw [views, views, same, after, shown]
    rfl
  · show lines w (p.step fuel s).records = lines w (p'.step fuel s).records
    rw [← Log.lines_rescope, records, Log.lines_rescope]

/-- But for the log, what two trace settings show of one step of a run differs in origins only. -/
theorem Run.observe_agrees {setup : Setup} {past : List Turn} (h : Run setup past p) (fuel : Nat)
    (s : Step) (w w' : Watch) :
    ((p.observe fuel s).1.shown w).Agree ((p.observe fuel s).1.shown w') where
  answer := by
    show ((p.step fuel s).value.1.shown w).Agree ((p.step fuel s).value.1.shown w')
    by_cases quiet : s = .dump
    · subst quiet
      rw [step_dump]
      split
      · exact fun _ _ => Controller.dump_same_but_origins h.known_history w w'
      · exact rfl
    · have plain := plain_step quiet fuel p
      rw [Answer.shown_of_plain plain, Answer.shown_of_plain plain]
      exact Answer.agree_of_plain plain
  processed := by
    show List.map _ (List.map _ _) = List.map _ (List.map _ _)
    rw [List.map_map, List.map_map]
    rfl
  pending := rfl
  running := rfl
  effects := rfl
  calls := rfl
  notices := rfl
  ringtone := rfl
  callCount := rfl

end CallAudio.Pipeline
