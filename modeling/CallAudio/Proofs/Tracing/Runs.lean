import CallAudio.Proofs.Tracing.Answers

/-!
Traced runs. Under a trace setting a session keeps no more of its scope than the place it is
attributed to, and a log shows what is watched. Runs that are traced under two settings differ in
their logs and in the origins they name, and each shows what is observed of the run that is not
traced at all.
-/

namespace CallAudio

open Log (Logged Scope Watch lines)

/-- What a traced run shows of a step: what can be seen of it, and its lines of the log. -/
structure Shown (ο : Type) where
  observation : ο
  logs : List String

/-- A system with states `σ` that takes steps `τ`, of which `ο` can be observed, and in which the
scopes of sessions come to nothing but origins. -/
structure Traceable (σ τ ο : Type) where
  observe : σ → τ → ο × σ
  /-- The state with every session opened in another scope. -/
  rescope : (Scope → Scope) → σ → σ
  /-- What is shown of an observation under a trace setting. -/
  shown : Watch → ο → Shown ο
  /-- Observations that differ in origins and in nothing else. -/
  Agree : ο → ο → Prop
  /-- States that runs lead to. -/
  Reached : σ → Prop
  rescope_rescope (f g : Scope → Scope) (s : σ) : rescope f (rescope g s) = rescope (f ∘ g) s
  /-- States that differ in scopes stay so. -/
  follows {f : Scope → Scope} {s s' : σ} (same : rescope f s = rescope f s') (t : τ) :
    rescope f (observe s t).2 = rescope f (observe s' t).2
  /-- What is shown depends on innermost watched places only. -/
  shows {w : Watch} {s s' : σ}
    (same : rescope (Scope.innermost w) s = rescope (Scope.innermost w) s') (t : τ) :
    shown w (observe s t).1 = shown w (observe s' t).1
  reached {s : σ} (h : Reached s) (t : τ) : Reached (observe s t).2
  /-- But for the log, what two settings show of an observation differs in origins only. -/
  agrees {s : σ} (h : Reached s) (t : τ) (w w' : Watch) :
    Agree (shown w (observe s t).1).observation (shown w' (observe s t).1).observation

namespace Traceable

variable {σ τ ο : Type} (T : Traceable σ τ ο)

/-- The state with every session reduced to the place that it is attributed to. -/
def capture (w : Watch) (s : σ) : σ :=
  T.rescope (Scope.innermost w) s

/-- What a run shows that is traced under `w`, and the state after it. Sessions that were opened in
a step are reduced before the next one. -/
def run (w : Watch) (s : σ) : List τ → List (Shown ο) × σ
  | [] => ([], T.capture w s)
  | t :: rest =>
    let first := T.observe (T.capture w s) t
    let more := run w first.2 rest
    (T.shown w first.1 :: more.1, more.2)

/-- `observations` is what can be observed of runs that are not traced, with the states after. -/
structure Observes (observations : σ → List τ → List ο × σ) : Prop where
  nil : ∀ s, observations s [] = ([], s)
  cons : ∀ s t rest, observations s (t :: rest) =
    ((T.observe s t).1 :: (observations (T.observe s t).2 rest).1,
      (observations (T.observe s t).2 rest).2)

/-- Runs that differ in their logs and in origins, and in nothing else. -/
def Agreement (run run' : List (Shown ο) × σ) : Prop :=
  List.Forall₂ (fun x x' => T.Agree x.observation x'.observation) run.1 run'.1 ∧
    T.rescope Scope.blank run.2 = T.rescope Scope.blank run'.2

variable {w w' : Watch} {s s' : σ}

theorem blank_capture (w : Watch) (s : σ) :
    T.rescope Scope.blank (T.capture w s) = T.rescope Scope.blank s :=
  T.rescope_rescope Scope.blank (Scope.innermost w) s

theorem capture_capture (w : Watch) (s : σ) : T.capture w (T.capture w s) = T.capture w s := by
  have twice : Scope.innermost w ∘ Scope.innermost w = Scope.innermost w :=
    funext (Scope.innermost_innermost w)
  unfold capture
  rw [rescope_rescope, twice]

variable {observations : σ → List τ → List ο × σ}

/-- A traced run shows what can be observed of the run that is not traced: nothing of the trace
setting flows into what a system does. -/
theorem run_eq (h : T.Observes observations) (same : T.capture w s = T.capture w s')
    (steps : List τ) :
    T.run w s steps = Prod.map (List.map (T.shown w)) (T.capture w) (observations s' steps) := by
  induction steps generalizing s s' with
  | nil =>
    rw [h.nil]
    exact congrArg (Prod.mk []) same
  | cons t rest ih =>
    have captured : T.capture w (T.capture w s) = T.capture w s' := by
      rw [capture_capture, same]
    rw [run, h.cons, ih (T.follows captured t), T.shows captured t]
    rfl

theorem agrees_along (h : T.Observes observations) (reached : T.Reached s) (steps : List τ)
    (w w' : Watch) : ∀ o ∈ (observations s steps).1,
      T.Agree (T.shown w o).observation (T.shown w' o).observation := by
  induction steps generalizing s with
  | nil =>
    rw [h.nil]
    exact fun _ none => absurd none List.not_mem_nil
  | cons t rest ih =>
    rw [h.cons]
    intro o mem
    rcases List.mem_cons.1 mem with rfl | later
    · exact T.agrees reached t w w'
    · exact ih (T.reached reached t) o later

/-- Two trace settings show of a run what differs in origins only: each shows what can be observed of
the one run that is not traced. -/
theorem run_agreement (h : T.Observes observations) (reached : T.Reached s) (steps : List τ) :
    T.Agreement (T.run w s steps) (T.run w' s steps) := by
  rw [T.run_eq h rfl, T.run_eq h rfl]
  constructor
  · show List.Forall₂ _ (List.map _ _) (List.map _ _)
    rw [List.forall₂_map_left_iff, List.forall₂_map_right_iff, List.forall₂_same]
    exact T.agrees_along h reached steps w w'
  · show T.rescope Scope.blank (T.capture w _) = T.rescope Scope.blank (T.capture w' _)
    rw [blank_capture, blank_capture]

/-- A system that knows of no sessions, so that nothing but its log can tell two settings apart. -/
def sessionless (observe : σ → τ → ο × σ) (unlogged : ο → ο) (records : ο → List Log.Record) :
    Traceable σ τ ο where
  observe
  rescope _ s := s
  shown w o := ⟨unlogged o, lines w (records o)⟩
  Agree := Eq
  Reached _ := True
  rescope_rescope _ _ _ := rfl
  follows same _ := by rw [same]
  shows same _ := by rw [same]
  reached _ _ := trivial
  agrees _ _ _ _ := rfl

end Traceable

/-! ## The arbiter and the peripherals -/

/-- The arbiter is not told where it is asked from. -/
def AudioSystem.traceable : Traceable AudioSystem AudioSystem.Step AudioSystem.Observation :=
  .sessionless observe (fun o => { o with records := [] }) Observation.records

theorem AudioSystem.observes :
    traceable.Observes fun s steps => (s.observations steps, s.run steps) :=
  ⟨fun _ => rfl, fun _ _ _ => rfl⟩

/-- The adapter that the peripherals submit to does not keep where a submission was made. -/
def Peripherals.traceable : Traceable Desk Step Observation :=
  .sessionless Desk.observe (fun o => { o with records := [] }) Observation.records

theorem Peripherals.observes :
    traceable.Observes fun d steps => (d.observations steps, d.run steps) :=
  ⟨fun _ => rfl, fun _ _ _ => rfl⟩

/-! ## The registry of calls -/

namespace Registry

/-- What can be seen but the log, from what is there before and after. -/
def Desk.seen (d d' : Desk) (answer : Option (Except RouteError Unit)) : Observation where
  answer
  sent := since d.adapter.accepted d'.adapter.accepted
  ringtone := since d.peripherals.ringtone d'.peripherals.ringtone
  count := d'.registry.count
  hasCalls := d'.registry.hasCalls
  plugged := d'.peripherals.plugged
  audioState := d'.adapter.audioState
  hfpAvailable := d'.adapter.hfpAvailable
  messageCount := d'.adapter.messages.length
  records := []

variable {f : Scope → Scope} {d d' : Desk}

theorem Desk.seen_rescope (d d' : Desk) (answer : Option (Except RouteError Unit)) :
    (d.rescope f).seen (d'.rescope f) answer = d.seen d' answer := by
  have count : (d'.rescope f).registry.count = d'.registry.count := count_rescope _
  have hasCalls : (d'.rescope f).registry.hasCalls = d'.registry.hasCalls := hasCalls_rescope _
  unfold seen
  rw [count, hasCalls]
  rfl

theorem Desk.observe_alike (same : d.rescope f = d'.rescope f) (s : Step) :
    ({ (d.observe s).1 with records := [] } : Observation) =
        { (d'.observe s).1 with records := [] } ∧
      (d.observe s).1.records.map (Log.Record.rescope f) =
        (d'.observe s).1.records.map (Log.Record.rescope f) ∧
      (d.observe s).2.rescope f = (d'.observe s).2.rescope f := by
  have taken := Desk.step_alike same s
  have records : (d.step s).records.map (Log.Record.rescope f) =
      (d'.step s).records.map (Log.Record.rescope f) := congrArg Logged.records taken
  obtain ⟨answer, after⟩ : (d.step s).value.1 = (d'.step s).value.1 ∧
      (d.step s).value.2.rescope f = (d'.step s).value.2.rescope f :=
    Prod.ext_iff.1 (congrArg Logged.value taken)
  refine ⟨?_, records, after⟩
  show d.seen (d.step s).value.2 (d.step s).value.1 =
    d'.seen (d'.step s).value.2 (d'.step s).value.1
  rw [← Desk.seen_rescope, same, after, answer, Desk.seen_rescope]

/-- The registry keeps the session in which a call was added. -/
def traceable : Traceable Desk Step Observation where
  observe := Desk.observe
  rescope := Desk.rescope
  shown w o := ⟨{ o with records := [] }, lines w o.records⟩
  Agree := Eq
  Reached _ := True
  rescope_rescope := Desk.rescope_rescope
  follows same t := (Desk.observe_alike same t).2.2
  shows {w s s'} same t := by
    obtain ⟨seen, records, -⟩ := Desk.observe_alike same t
    rw [seen, ← Log.lines_rescope, records, Log.lines_rescope]
  reached _ _ := trivial
  agrees _ _ _ _ := rfl

theorem observes : traceable.Observes fun d steps => (d.observations steps, d.run steps) :=
  ⟨fun _ => rfl, fun _ _ _ => rfl⟩

end Registry

/-! ## Pipelines -/

namespace Pipeline

/-- A pipeline keeps the sessions of items and of calls. -/
def traceable (setup : Setup) (fuel : Nat) : Traceable Pipeline Step Observation where
  observe := observe fuel
  rescope := rescope
  shown w o := ⟨o.shown w, lines w o.records⟩
  Agree := Observation.Agree
  Reached p := ∃ past, Run setup past p
  rescope_rescope := rescope_rescope
  follows same t := (step_follows same fuel t).2.1
  shows {w s s'} same t := by
    obtain ⟨shown, logs⟩ := observe_shows same fuel t
    rw [shown, logs]
  reached := fun ⟨_, run⟩ t => ⟨_, run.step fuel t⟩
  agrees := fun ⟨_, run⟩ t w w' => run.observe_agrees fuel t w w'

theorem observes (setup : Setup) (fuel : Nat) :
    (traceable setup fuel).Observes (observations fuel) :=
  ⟨fun _ => rfl, fun _ _ _ => rfl⟩

/-- A traced run from its beginning: the log of bringing up the pipeline, then the run of the
steps. -/
def traced (w : Watch) (fuel : Nat) (setup : Setup) (steps : List Step) :
    Except StartFailure (List String × List (Shown Observation) × Pipeline) :=
  (start setup).map fun started =>
    (lines w started.records, (traceable setup fuel).run w started.value steps)

/-- Traced runs that fail to begin alike, or that differ in their logs and in origins only. -/
def TracedAlike (setup : Setup) (fuel : Nat) :
    Except StartFailure (List String × List (Shown Observation) × Pipeline) →
      Except StartFailure (List String × List (Shown Observation) × Pipeline) → Prop
  | .error failure, .error failure' => failure = failure'
  | .ok (_, run), .ok (_, run') => (traceable setup fuel).Agreement run run'
  | _, _ => False

theorem traced_alike (w w' : Watch) (fuel : Nat) (setup : Setup) (steps : List Step) :
    TracedAlike setup fuel (traced w fuel setup steps) (traced w' fuel setup steps) := by
  unfold traced
  cases begun : start setup with
  | error failure => exact rfl
  | ok started =>
    exact (traceable setup fuel).run_agreement (observes setup fuel) ⟨[], .start begun⟩ steps

theorem traced_eq (w : Watch) (fuel : Nat) (setup : Setup) (steps : List Step) :
    traced w fuel setup steps = (start setup).map fun started =>
      let (observations, p) := started.value.observations fuel steps
      (lines w started.records, observations.map ((traceable setup fuel).shown w),
        p.rescope (Scope.innermost w)) := by
  unfold traced
  refine congrArg (fun F => (start setup).map F) (funext fun started => ?_)
  exact congrArg (Prod.mk _) ((traceable setup fuel).run_eq (observes setup fuel) rfl steps)

end Pipeline

/-- Tracing is observation only: runs of the arbiter, of the peripherals, of the registry of calls
and of whole pipelines that are traced under two settings agree in everything but their logs and the
origins they name, and so do the states they leave. What a traced run shows is what can be observed
of the same run untraced, with every session attributed to its innermost watched place. -/
theorem tracing_is_observation_only (w w' : Watch) :
    (∀ (s : AudioSystem) (steps : List AudioSystem.Step),
      AudioSystem.traceable.Agreement (AudioSystem.traceable.run w s steps)
        (AudioSystem.traceable.run w' s steps) ∧
      AudioSystem.traceable.run w s steps =
        ((s.observations steps).map (AudioSystem.traceable.shown w), s.run steps)) ∧
    (∀ (d : Peripherals.Desk) (steps : List Peripherals.Step),
      Peripherals.traceable.Agreement (Peripherals.traceable.run w d steps)
        (Peripherals.traceable.run w' d steps) ∧
      Peripherals.traceable.run w d steps =
        ((d.observations steps).map (Peripherals.traceable.shown w), d.run steps)) ∧
    (∀ (d : Registry.Desk) (steps : List Registry.Step),
      Registry.traceable.Agreement (Registry.traceable.run w d steps)
        (Registry.traceable.run w' d steps) ∧
      Registry.traceable.run w d steps =
        ((d.observations steps).map (Registry.traceable.shown w),
          (d.run steps).rescope (Scope.innermost w))) ∧
    ∀ (setup : Pipeline.Setup) (fuel : Nat) (steps : List Pipeline.Step),
      Pipeline.TracedAlike setup fuel (Pipeline.traced w fuel setup steps)
        (Pipeline.traced w' fuel setup steps) ∧
      Pipeline.traced w fuel setup steps = (Pipeline.start setup).map fun started =>
        let (observations, p) := started.value.observations fuel steps
        (lines w started.records, observations.map ((Pipeline.traceable setup fuel).shown w),
          p.rescope (Scope.innermost w)) := by
  refine ⟨fun s steps => ⟨?_, ?_⟩, fun d steps => ⟨?_, ?_⟩, fun d steps => ⟨?_, ?_⟩,
    fun setup fuel steps => ⟨?_, ?_⟩⟩
  · exact AudioSystem.traceable.run_agreement AudioSystem.observes trivial steps
  · exact AudioSystem.traceable.run_eq AudioSystem.observes rfl steps
  · exact Peripherals.traceable.run_agreement Peripherals.observes trivial steps
  · exact Peripherals.traceable.run_eq Peripherals.observes rfl steps
  · exact Registry.traceable.run_agreement Registry.observes trivial steps
  · exact Registry.traceable.run_eq Registry.observes rfl steps
  · exact Pipeline.traced_alike w w' fuel setup steps
  · exact Pipeline.traced_eq w fuel setup steps

example : (Peripherals.traceable.run none {} [.attach]).1.map Shown.logs = [[]] ∧
    (Peripherals.traceable.run (some .debug) {} [.attach]).1.map Shown.logs =
      [["DEBUG Peripheral event translator attached"]] := by
  decide

end CallAudio
