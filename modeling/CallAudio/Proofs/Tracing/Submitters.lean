import CallAudio.Proofs.Tracing.Controller
import CallAudio.Registry.Run

/-!
The scopes of sessions do not matter to the call registry and to the peripherals either, as long as
they do not matter to the engine that the two submit to.
-/

namespace CallAudio

open Log (Logged Scope)

variable {σ τ : Type} [Adapter σ] {f : Scope → Scope} {g : σ → τ}

/-- Engines that `g` maps alike answer a submission alike, and are mapped alike after it. -/
def Blind (f : Scope → Scope) (g : σ → τ) : Prop :=
  ∀ ⦃a a' : σ⦄, g a = g a' → ∀ scope s,
    (Adapter.submit a scope s).rescope f (Prod.map id g) =
      (Adapter.submit a' scope s).rescope f (Prod.map id g)

theorem Recorder.blind : Blind f (id : Recorder → Recorder) := by
  intro a a' same scope s
  cases same
  rfl

theorem Controller.blind : Blind f (Controller.rescope f) :=
  fun _ _ same scope s => Controller.submit_alike same scope s

variable {a a' : σ}

namespace Registry

/-- The registry with every call added in another scope. -/
def rescope (f : Scope → Scope) (r : Registry) : Registry :=
  { calls := r.calls.map (Prod.map id (Session.rescope f)) }

theorem rescope_rescope (f g : Scope → Scope) (r : Registry) :
    (r.rescope g).rescope f = r.rescope (f ∘ g) := by
  unfold rescope
  rw [List.map_map]
  rfl

theorem lookup_rescope (calls : List (CallId × Session)) (call : CallId) :
    (calls.map (Prod.map id (Session.rescope f))).lookup call =
      (calls.lookup call).map (Session.rescope f) := by
  induction calls with
  | nil => rfl
  | cons entry rest ih =>
    obtain ⟨other, session⟩ := entry
    show (match call == other with | true => _ | false => _) =
      Option.map _ (match call == other with | true => _ | false => _)
    cases call == other with
    | true => rfl
    | false => exact ih

theorem contains_rescope (r : Registry) (call : CallId) :
    (r.rescope f).contains call = r.contains call := by
  unfold contains rescope
  rw [lookup_rescope, Option.isSome_map]

theorem count_rescope (r : Registry) : (r.rescope f).count = r.count :=
  List.length_map _

theorem hasCalls_rescope (r : Registry) : (r.rescope f).hasCalls = r.hasCalls := by
  unfold hasCalls rescope
  rw [List.isEmpty_map]

theorem untrack_rescope (r : Registry) (call : CallId) :
    (r.rescope f).untrack call = (r.untrack call).rescope f := by
  unfold untrack rescope
  rw [List.filter_map]
  rfl

variable {r r' : Registry}

theorem track_alike (same : r.rescope f = r'.rescope f) (call : CallId) :
    (r.track call).rescope f = (r'.track call).rescope f := by
  have calls : (r.rescope f).calls = (r'.rescope f).calls := congrArg Registry.calls same
  unfold track rescope
  rw [List.map_append, List.map_append]
  exact congrArg (fun calls => Registry.mk (calls ++ _)) calls

/-! ## Operations of the registry -/

variable (blind : Blind f g)
include blind

theorem add_alike (same : r.rescope f = r'.rescope f) (alike : g a = g a') (call : CallId) :
    (r.add a call).rescope f (Prod.map id (Prod.map (rescope f) g)) =
      (r'.add a' call).rescope f (Prod.map id (Prod.map (rescope f) g)) := by
  have tracked : r.contains call = r'.contains call := by
    rw [← contains_rescope (f := f), same, contains_rescope]
  have busy : r.hasCalls = r'.hasCalls := by
    rw [← hasCalls_rescope (f := f), same, hasCalls_rescope]
  unfold add
  rw [tracked, busy]
  split
  · exact Logged.bind_alike (g := id) rfl fun _ _ _ =>
      Logged.pure_pair_alike _ (Prod.ext same alike)
  · dsimp only
    split
    · refine Logged.bind_pair_alike (blind alike [] _) fun answer b b' alike => ?_
      cases answer with
      | error e => exact Logged.pure_pair_alike _ (Prod.ext same alike)
      | ok => exact Logged.bind_alike (g := id) rfl fun _ _ _ =>
          Logged.pure_pair_alike _ (Prod.ext (track_alike same call) alike)
    · exact Logged.bind_alike (g := id) rfl fun _ _ _ =>
          Logged.pure_pair_alike _ (Prod.ext (track_alike same call) alike)

theorem release_alike (alike : g a = g a') :
    (release a).rescope f (Prod.map id g) = (release a').rescope f (Prod.map id g) := by
  unfold release
  refine Logged.bind_pair_alike (blind alike [] _) fun released b b' alike => ?_
  refine Logged.bind_pair_alike (blind alike [] _) fun cleared d d' alike => ?_
  cases released with
  | error e => exact Logged.pure_pair_alike _ alike
  | ok => exact Logged.pure_pair_alike cleared alike

theorem remove_alike (same : r.rescope f = r'.rescope f) (alike : g a = g a') (call : CallId) :
    (r.remove a call).rescope f (Prod.map id (Prod.map (rescope f) g)) =
      (r'.remove a' call).rescope f (Prod.map id (Prod.map (rescope f) g)) := by
  have sessions : (r.calls.lookup call).map (Session.rescope f) =
      (r'.calls.lookup call).map (Session.rescope f) := by
    rw [← lookup_rescope, ← lookup_rescope]
    exact congrArg (fun r : Registry => r.calls.lookup call) same
  have count : r.count = r'.count := by
    rw [← count_rescope (f := f), same, count_rescope]
  have untracked : (r.untrack call).rescope f = (r'.untrack call).rescope f := by
    rw [← untrack_rescope, same, untrack_rescope]
  unfold remove
  rw [count]
  cases left : r.calls.lookup call with
  | none =>
    rw [left, Option.map_none, eq_comm, Option.map_eq_none_iff] at sessions
    rw [sessions]
    exact Logged.bind_alike (g := id) rfl fun _ _ _ =>
      Logged.pure_pair_alike _ (Prod.ext same alike)
  | some session =>
    rw [left, Option.map_some, eq_comm, Option.map_eq_some_iff] at sessions
    obtain ⟨session', right, opened⟩ := sessions
    have scopes : f session.scope = f session'.scope := (congrArg Session.scope opened).symm
    have noted : (Logged.emit .debug "Call removed from audio routing"
          [callField call, ⟨"session", .session session.scope⟩]).rescope f id =
        (Logged.emit .debug "Call removed from audio routing"
          [callField call, ⟨"session", .session session'.scope⟩]).rescope f id :=
      congrArg (fun scope => Logged.emit .debug "Call removed from audio routing"
        [callField call, ⟨"session", .session scope⟩]) scopes
    rw [right]
    dsimp only
    split
    · refine Logged.bind_alike (g := id) rfl fun _ _ _ => ?_
      refine Logged.bind_pair_alike (release_alike blind alike) fun answer b b' alike => ?_
      cases answer with
      | error e =>
        exact Logged.bind_alike (g := id) rfl fun _ _ _ =>
          Logged.pure_pair_alike _ (Prod.ext same alike)
      | ok =>
        exact Logged.bind_alike noted fun _ _ _ =>
          Logged.pure_pair_alike _ (Prod.ext untracked alike)
    · exact Logged.bind_alike noted fun _ _ _ =>
        Logged.pure_pair_alike _ (Prod.ext untracked alike)

theorem requestRoute_alike (alike : g a = g a') (route : AudioRoute)
    (address : Option BluetoothAddress) :
    (requestRoute a route address).rescope f (Prod.map id g) =
      (requestRoute a' route address).rescope f (Prod.map id g) := by
  unfold requestRoute
  cases routeMessage? route with
  | none => exact Logged.bind_alike (g := id) rfl fun _ _ _ =>
      Logged.pure_pair_alike _ alike
  | some m =>
    dsimp only
    split <;> exact blind alike [] _

theorem setMuted_alike (alike : g a = g a') (muted : Bool) :
    (setMuted a muted).rescope f (Prod.map id g) =
      (setMuted a' muted).rescope f (Prod.map id g) :=
  blind alike [] _

end Registry

/-! ## Peripherals -/

namespace Peripherals

variable (blind : Blind f g)
include blind

theorem forward_alike (alike : g a = g a') (span : Log.Span) (m : RouteMessage) :
    (forward a span m).rescope f g = (forward a' span m).rescope f g := by
  unfold forward
  refine Logged.bind_pair_alike (blind alike [span.place] _) fun answer b b' alike => ?_
  cases answer with
  | ok => exact Logged.pure_alike alike
  | error e => exact Logged.bind_alike (g := id) rfl fun _ _ _ => Logged.pure_alike alike

theorem handle_alike (alike : g a = g a') (p : Peripherals) (report : Report) :
    (p.handle a report).rescope f (Prod.map id g) =
      (p.handle a' report).rescope f (Prod.map id g) := by
  unfold handle
  rw [Logged.rescope_within, Logged.rescope_within]
  refine congrArg (Logged.within _) ?_
  cases p.message? report with
  | none => exact Logged.bind_alike (g := id) rfl fun _ _ _ =>
      Logged.pure_pair_alike (p.after report) alike
  | some m => exact Logged.bind_alike (forward_alike blind alike report.span m) fun _ _ alike =>
      Logged.pure_pair_alike (p.after report) alike

theorem handleTimes_alike (alike : g a = g a') (p : Peripherals) (report : Report) (n : Nat) :
    (p.handleTimes a report n).rescope f (Prod.map id g) =
      (p.handleTimes a' report n).rescope f (Prod.map id g) := by
  induction n generalizing p a a' with
  | zero => exact Logged.pure_pair_alike p alike
  | succ n ih =>
    rw [handleTimes, handleTimes]
    exact Logged.bind_pair_alike (handle_alike blind alike p report) fun p _ _ alike => ih alike p

theorem deliver_alike (alike : g a = g a') (p : Peripherals) (report : Report) :
    (p.deliver a report).rescope f (Prod.map id g) =
      (p.deliver a' report).rescope f (Prod.map id g) :=
  handleTimes_alike blind alike p report p.listeners

end Peripherals

/-! ## Runs of the registry -/

namespace Registry

/-- The desk with every call added in another scope. -/
def Desk.rescope (f : Scope → Scope) (d : Desk) : Desk :=
  { d with registry := d.registry.rescope f }

theorem Desk.rescope_rescope (f g : Scope → Scope) (d : Desk) :
    (d.rescope g).rescope f = d.rescope (f ∘ g) :=
  congrArg (fun registry => { d with registry }) (d.registry.rescope_rescope f g)

theorem Desk.step_alike {d d' : Desk} (same : d.rescope f = d'.rescope f) (s : Step) :
    (d.step s).rescope f (Prod.map id (Desk.rescope f)) =
      (d'.step s).rescope f (Prod.map id (Desk.rescope f)) := by
  have blind : Blind f (id : Recorder → Recorder) := Recorder.blind
  have calls : d.registry.rescope f = d'.registry.rescope f := (congrArg Desk.registry same :)
  have adapters : d.adapter = d'.adapter := (congrArg Desk.adapter same :)
  have peripherals : d.peripherals = d'.peripherals := (congrArg Desk.peripherals same :)
  have put {r r' : Registry} {a a' : Recorder}
      (alike :
        Prod.map (Registry.rescope f) id (r, a) = Prod.map (Registry.rescope f) id (r', a')) :
      Desk.rescope f { d with registry := r, adapter := a } =
        Desk.rescope f { d' with registry := r', adapter := a' } := by
    obtain ⟨calls, adapters⟩ : r.rescope f = r'.rescope f ∧ a = a' := Prod.ext_iff.1 alike
    unfold Desk.rescope
    rw [calls, adapters, peripherals]
  have put' {a a' : Recorder} (alike : id a = id a') :
      Desk.rescope f { d with adapter := a } = Desk.rescope f { d' with adapter := a' } :=
    put (Prod.ext calls alike)
  cases s with
  | add call =>
    exact Logged.bind_pair_alike (add_alike blind calls adapters call) fun _ _ _ added =>
      Logged.pure_pair_alike _ (put added)
  | remove call =>
    exact Logged.bind_pair_alike (remove_alike blind calls adapters call) fun _ _ _ removed =>
      Logged.pure_pair_alike _ (put removed)
  | route route address =>
    exact Logged.bind_pair_alike (requestRoute_alike blind adapters route address)
      fun _ _ _ asked => Logged.pure_pair_alike _ (put' asked)
  | mute on =>
    exact Logged.bind_pair_alike (setMuted_alike blind adapters on) fun _ _ _ asked =>
      Logged.pure_pair_alike _ (put' asked)
  | peripheral s =>
    rw [step, step, ← peripherals, ← adapters]
    refine Logged.bind_alike (g := id) rfl fun desk desk' alike => ?_
    cases alike
    refine Logged.pure_pair_alike _ ?_
    exact congrArg (fun registry => Desk.mk registry desk.peripherals desk.adapter) calls

end Registry

end CallAudio
