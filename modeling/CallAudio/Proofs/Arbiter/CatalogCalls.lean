import CallAudio.Proofs.Arbiter.Agreement

/-!
The calls that a run makes to the catalog. An operation lists the devices, clears the active one and
sets another, in this order and none of it twice; it clears only what is active, and sets only where
nothing is. So over a whole run activations and clears take turns, and the platform never has two
devices active.
-/

namespace CallAudio

/-- The catalog after a call. -/
def Catalog.call (c : Catalog) : CatalogCall → Catalog
  | .list => c.list
  | .set d => (c.set d).2
  | .clear => c.clear

/-- A call, with the catalog as it was when the call was made. -/
structure MadeCall where
  catalog : Catalog
  call : CatalogCall

/-- The calls made to a catalog one after the other. -/
def Catalog.made (c : Catalog) : List CatalogCall → List MadeCall
  | [] => []
  | call :: rest => ⟨c, call⟩ :: (c.call call).made rest

namespace MadeCall

/-- Whether the call changes what is active: a list never does, and a set only if it is accepted. -/
def takesEffect (m : MadeCall) : Bool :=
  match m.call with
  | .list => false
  | .set d => (m.catalog.set d).1
  | .clear => true

/-- The calls that take effect. -/
def effective (made : List MadeCall) : List CatalogCall :=
  (made.filter takesEffect).map call

theorem effective_cons (m : MadeCall) (made : List MadeCall) :
    effective (m :: made) = if m.takesEffect then m.call :: effective made else effective made := by
  cases h : m.takesEffect <;> simp [effective, h]

/-- A device is set where none is active, and cleared where one is. -/
structure InTurn (m : MadeCall) : Prop where
  set : ∀ d, m.call = .set d → m.catalog.active = none
  clear : m.call = .clear → m.catalog.active.isSome = true

theorem InTurn.of_list (c : Catalog) : InTurn ⟨c, .list⟩ :=
  ⟨nofun, nofun⟩

theorem InTurn.of_set {c : Catalog} (inactive : c.active = none) (d : DeviceDescriptor) :
    InTurn ⟨c, .set d⟩ :=
  ⟨fun _ _ => inactive, nofun⟩

theorem InTurn.of_clear {c : Catalog} (active : c.active.isSome = true) : InTurn ⟨c, .clear⟩ :=
  ⟨nofun, fun _ => active⟩

end MadeCall

open MadeCall (effective)

/-! ## Taking turns -/

/-- Set, clear, set, clear and so on; the first is a clear if a device is active already. -/
def Alternates (active : Bool) : List CatalogCall → Prop
  | [] => True
  | .list :: _ => False
  | .set _ :: rest => active = false ∧ Alternates true rest
  | .clear :: rest => active = true ∧ Alternates false rest

/-- Calls that are made in turn alternate, if what comes after them does. -/
theorem alternates_made_append {c : Catalog} {calls : List CatalogCall} {later : List MadeCall}
    (inTurn : ∀ m ∈ c.made calls, m.InTurn)
    (rest : Alternates (calls.foldl Catalog.call c).active.isSome (effective later)) :
    Alternates c.active.isSome (effective (c.made calls ++ later)) := by
  induction calls generalizing c with
  | nil => exact rest
  | cons call calls ih =>
    obtain ⟨first, others⟩ := List.forall_mem_cons.1 inTurn
    have after := ih (c := c.call call) others rest
    change Alternates _ (effective (⟨c, call⟩ :: ((c.call call).made calls ++ later)))
    rw [MadeCall.effective_cons]
    cases call with
    | list => exact after
    | clear => exact ⟨first.clear rfl, after⟩
    | set d =>
      have inactive : c.active = none := first.set d rfl
      rw [inactive]
      cases declines : c.declining with
      -- a set that is declined takes no effect, and leaves nothing active
      | true =>
        have still : (c.call (.set d)).active = none := by
          simp [Catalog.call, Catalog.set, declines, inactive]
        rw [still] at after
        simpa [MadeCall.takesEffect, Catalog.set, declines] using after
      | false =>
        have taken : (c.call (.set d)).active = some d := by
          simp [Catalog.call, Catalog.set, declines]
        rw [taken] at after
        simpa [MadeCall.takesEffect, Catalog.set, declines, Alternates] using after

/-! ## What leads up to a set -/

/-- The calls right before a set, oldest first: a list that answers with the device, and possibly a
clear. -/
inductive Leads (d : DeviceDescriptor) : List MadeCall → Prop
  | listed {m : MadeCall} (list : m.call = .list) (mem : d ∈ m.catalog.devices) : Leads d [m]
  | cleared {m n : MadeCall} (list : m.call = .list) (mem : d ∈ m.catalog.devices)
      (clear : n.call = .clear) : Leads d [m, n]

/-- The calls end with what leads up to a set of `d`. -/
def EndsLeading (d : DeviceDescriptor) (made : List MadeCall) : Prop :=
  ∃ before lead, made = before ++ lead ∧ Leads d lead

/-- Every set is led up to. -/
def LedUp (made : List MadeCall) : Prop :=
  ∀ earlier m later d, made = earlier ++ m :: later → m.call = .set d → EndsLeading d earlier

theorem LedUp.nil : LedUp [] := by
  intro earlier m later d split _
  simp at split

theorem LedUp.concat {made : List MadeCall} (h : LedUp made) {m : MadeCall}
    (led : ∀ d, m.call = .set d → EndsLeading d made) : LedUp (made ++ [m]) := by
  intro earlier n later d split isSet
  rcases List.append_eq_append_iff.1 split with ⟨gap, rfl, hm⟩ | ⟨gap, rfl, hm⟩
  · obtain ⟨rfl, hn⟩ := List.append_eq_singleton_iff.1 hm.symm |>.resolve_right (by simp)
    cases hn
    simpa using led d isSet
  · cases gap with
    | nil =>
      cases hm
      simpa using led d isSet
    | cons n rest =>
      cases hm
      exact h earlier n rest d rfl isSet

theorem LedUp.append {xs ys : List MadeCall} (hx : LedUp xs) (hy : LedUp ys) :
    LedUp (xs ++ ys) := by
  intro earlier m later d split isSet
  rcases List.append_eq_append_iff.1 split with ⟨gap, rfl, hys⟩ | ⟨gap, hxs, hm⟩
  · obtain ⟨before, lead, rfl, leads⟩ := hy gap m later d hys isSet
    exact ⟨xs ++ before, lead, (List.append_assoc _ _ _).symm, leads⟩
  · cases gap with
    | nil =>
      -- a set is never the first call
      obtain ⟨before, lead, none, leads⟩ := hy [] m later d hm.symm isSet
      obtain ⟨rfl, rfl⟩ := List.append_eq_nil_iff.1 none.symm
      cases leads
    | cons n rest =>
      cases hm
      exact hx earlier m rest d hxs isSet

/-! ## The calls of one operation -/

/-- What one operation asks of a catalog. -/
inductive Orderly (c : Catalog) : List CatalogCall → Prop
  | nothing : Orderly c []
  | listed : Orderly c [.list]
  | cleared (active : c.active.isSome = true) : Orderly c [.clear]
  | tried {d : DeviceDescriptor} (mem : d ∈ c.devices) (inactive : c.active = none) :
      Orderly c [.list, .set d]
  | switched {d : DeviceDescriptor} (mem : d ∈ c.devices) (active : c.active.isSome = true) :
      Orderly c [.list, .clear, .set d]

theorem Orderly.inTurn {c : Catalog} {calls : List CatalogCall} (h : Orderly c calls) :
    ∀ m ∈ c.made calls, m.InTurn := by
  cases h with
  | nothing => exact List.forall_mem_nil _
  | listed => exact List.forall_mem_singleton.2 (.of_list c)
  | cleared active => exact List.forall_mem_singleton.2 (.of_clear active)
  | @tried d _ inactive =>
    have last : MadeCall.InTurn ⟨c.list, .set d⟩ := .of_set (c := c.list) inactive d
    exact List.forall_mem_cons.2 ⟨.of_list c, List.forall_mem_singleton.2 last⟩
  | @switched d _ active =>
    have second : MadeCall.InTurn ⟨c.list, .clear⟩ := .of_clear active
    have last : MadeCall.InTurn ⟨c.list.clear, .set d⟩ := .of_set rfl d
    exact List.forall_mem_cons.2 ⟨.of_list c,
      List.forall_mem_cons.2 ⟨second, List.forall_mem_singleton.2 last⟩⟩

theorem Orderly.ledUp {c : Catalog} {calls : List CatalogCall} (h : Orderly c calls) :
    LedUp (c.made calls) := by
  have listed : LedUp (c.made [.list]) := LedUp.nil.concat (by simp)
  cases h with
  | nothing => exact .nil
  | listed => exact listed
  | cleared => exact LedUp.nil.concat (by simp)
  | tried mem =>
    refine listed.concat fun d isSet => ?_
    cases isSet
    exact ⟨[], _, rfl, .listed rfl mem⟩
  | switched mem =>
    refine (listed.concat (m := ⟨c.list, .clear⟩) (by simp)).concat fun d isSet => ?_
    cases isSet
    exact ⟨[], _, rfl, .cleared rfl mem rfl⟩

/-- The calls of several operations, the first of which finds `active` on the platform. Between two
of them the catalog may be changed in any way that leaves the active device alone. -/
inductive OrderlyRun : Option DeviceDescriptor → List MadeCall → Prop
  | nil (active : Option DeviceDescriptor) : OrderlyRun active []
  | append {c : Catalog} {calls : List CatalogCall} (orderly : Orderly c calls)
      {later : List MadeCall} (rest : OrderlyRun (calls.foldl Catalog.call c).active later) :
      OrderlyRun c.active (c.made calls ++ later)

section OrderlyRun

variable {active : Option DeviceDescriptor} {made : List MadeCall}

theorem OrderlyRun.inTurn (h : OrderlyRun active made) : ∀ m ∈ made, m.InTurn := by
  induction h with
  | nil => exact List.forall_mem_nil _
  | append orderly _ ih => exact List.forall_mem_append.2 ⟨orderly.inTurn, ih⟩

theorem OrderlyRun.alternates (h : OrderlyRun active made) :
    Alternates active.isSome (effective made) := by
  induction h with
  | nil => trivial
  | append orderly _ ih => exact alternates_made_append orderly.inTurn ih

theorem OrderlyRun.ledUp (h : OrderlyRun active made) : LedUp made := by
  induction h with
  | nil => exact .nil
  | append orderly _ ih => exact orderly.ledUp.append ih

end OrderlyRun

/-! ## Operations -/

namespace Catalog

theorem calls_call (c : Catalog) (call : CatalogCall) : (c.call call).calls = c.calls ++ [call] := by
  cases call with
  | list | clear => rfl
  | set d =>
    simp only [Catalog.call, set]
    split <;> rfl

theorem calls_foldl_call (c : Catalog) (calls : List CatalogCall) :
    (calls.foldl call c).calls = c.calls ++ calls := by
  induction calls generalizing c with
  | nil => exact (List.append_nil _).symm
  | cons first rest ih =>
    rw [List.foldl_cons, ih, calls_call, List.append_assoc]
    rfl

end Catalog

namespace AudioSystem

variable {s s' : AudioSystem}

/-- The catalog has been made orderly calls, and nothing else was done to it. -/
def Called (s s' : AudioSystem) : Prop :=
  ∃ calls, Orderly s.catalog calls ∧ s'.catalog = calls.foldl Catalog.call s.catalog

theorem Called.none (h : s'.catalog = s.catalog) : Called s s' :=
  ⟨[], .nothing, h⟩

theorem Agrees.active_isSome (h : s.Agrees) (attached : s.arbiter.attached = true) {t : DeviceType}
    (ht : s.arbiter.selection.type = some t) : s.catalog.active.isSome = true := by
  cases ha : s.catalog.active with
  | some d => rfl
  | none =>
    rw [h attached, ha] at ht
    cases ht

theorem Agrees.active_eq_none (h : s.Agrees) (attached : s.arbiter.attached = true)
    (ht : s.arbiter.selection.type = none) : s.catalog.active = none := by
  rw [h attached] at ht
  exact Selection.type_ofDevice_eq_none_iff.1 ht

theorem release_called (h : s.Agrees) {t : DeviceType} (ht : s.arbiter.selection.type = some t) :
    Called s s.release := by
  cases attached : s.arbiter.attached with
  | false => exact .none (by simp [release, attached])
  | true =>
    refine ⟨[.clear], .cleared (h.active_isSome attached ht), ?_⟩
    simp [release, attached, Catalog.call]

/-- A switch clears the active device, if there is one, before it sets the other. -/
theorem offer_called (h : s.Agrees) (attached : s.arbiter.attached = true) {d : DeviceDescriptor}
    (mem : d ∈ s.catalog.devices) : Called s (s.listed.vacate.offer d) := by
  have attached' : s.listed.arbiter.attached = true := attached
  cases ht : s.arbiter.selection.type with
  | none =>
    refine ⟨[.list, .set d], .tried mem (h.active_eq_none attached ht), ?_⟩
    rw [vacate_of_none (s := s.listed) ht]
    rfl
  | some t =>
    refine ⟨[.list, .clear, .set d], .switched mem (h.active_isSome attached ht), ?_⟩
    rw [vacate_of_some (s := s.listed) ht]
    simp only [offer, release, attached', if_true]
    rfl

theorem Requested.called (h : s.Agrees) {type : DeviceType} {address : Option BluetoothAddress}
    {changed : Bool} (requested : Requested s type address changed s') : Called s s' := by
  cases requested with
  | satisfied | detached => exact .none rfl
  | unavailable => exact ⟨[.list], .listed, rfl⟩
  | declined _ attached _ found _ | accepted _ attached _ found _ =>
    exact offer_called h attached (List.mem_of_find?_eq_some found)

theorem perform_called (coherent : s.arbiter.selection.Coherent) (h : s.Agrees) (op : Operation) :
    Called s (s.perform op).value.2 := by
  cases op with
  | request type address => exact (requested_request coherent type address).called h
  | requestBluetooth address =>
    cases address with
    | none => exact .none rfl
    | some a => exact (requested_request coherent _ (some a)).called h
  | clear type =>
    show Called s (s.clear type).value
    rw [value_clear coherent]
    split
    · rename_i active
      obtain ⟨t, ht, _⟩ := Arbiter.isActive_eq_true_iff.1 active
      exact release_called h ht
    · exact .none rfl
  | clearBluetooth =>
    show Called s s.clearBluetooth.value
    rw [value_clearBluetooth coherent]
    cases ha : s.arbiter.selection.address with
    | none => exact .none rfl
    | some a =>
      obtain ⟨t, ht, _⟩ := coherent a ha
      exact release_called h ht
  | detach =>
    refine .none ?_
    cases attached : s.arbiter.attached <;> simp [perform, AudioSystem.detach, attached]
  | hasCatalog | isActive _ | activeTypes | selection | inspect => exact .none rfl

/-- What is observed of an operation are the calls that have changed the catalog. -/
theorem Called.catalog_eq {op : Operation} (h : Called s (s.perform op).value.2) :
    Orderly s.catalog (s.observe (.operate op)).1.calls ∧
      (s.perform op).value.2.catalog =
        (s.observe (.operate op)).1.calls.foldl Catalog.call s.catalog := by
  obtain ⟨calls, orderly, after⟩ := h
  have seen : (s.observe (.operate op)).1.calls = calls := by
    show since s.catalog.calls (s.perform op).value.2.catalog.calls = calls
    rw [after, Catalog.calls_foldl_call, since_append]
  rw [seen]
  exact ⟨orderly, after⟩

/-! ## Runs -/

/-- The complete sequence of calls that a run makes to the catalog. -/
def made (s : AudioSystem) : List Step → List MadeCall
  | [] => []
  | step :: rest => s.catalog.made (s.observe step).1.calls ++ (s.observe step).2.made rest

/-- Changes of the platform make no calls, and leave the active device alone. -/
theorem quiet_observe {step : Step} (other : ¬∃ op, step = .operate op) :
    (s.observe step).1.calls = [] ∧ (s.observe step).2.catalog.active = s.catalog.active := by
  cases step with
  | operate op => exact absurd ⟨op, rfl⟩ other
  | resetCalls => exact ⟨List.drop_nil, rfl⟩
  | _ => exact ⟨List.drop_length, rfl⟩

theorem orderly_observe (coherent : s.arbiter.selection.Coherent) (h : s.Agrees) (step : Step) :
    Orderly s.catalog (s.observe step).1.calls ∧
      (s.observe step).2.catalog.active =
        ((s.observe step).1.calls.foldl Catalog.call s.catalog).active := by
  by_cases operates : ∃ op, step = .operate op
  · obtain ⟨op, rfl⟩ := operates
    obtain ⟨orderly, after⟩ := (perform_called coherent h op).catalog_eq
    exact ⟨orderly, congrArg Catalog.active after⟩
  · obtain ⟨quiet, same⟩ := quiet_observe (s := s) operates
    rw [quiet]
    exact ⟨.nothing, same⟩

theorem orderlyRun_made (coherent : s.arbiter.selection.Coherent) (h : s.Agrees)
    (steps : List Step) : OrderlyRun s.catalog.active (s.made steps) := by
  induction steps generalizing s with
  | nil => exact .nil _
  | cons step rest ih =>
    have next : Transition s (s.observe step).2 := step_transition coherent step
    obtain ⟨orderly, after⟩ := orderly_observe coherent h step
    refine .append orderly ?_
    rw [← after]
    exact ih (next.coherent coherent) (h.transition coherent next)

/-- Along every run the platform has at most one device active. It is asked to set a device, whether
it accepts or not, only while none is active, and to clear only while one is; so the calls that take
effect are set, clear, set, clear and so on. Right before a set stands the list that has answered
with its device, or that list and one clear. In these statements the state of the catalog at each
call is the one to which the calls before it have brought it, since an operation changes the catalog
by its calls only. -/
theorem one_active_device (devices : List DeviceDescriptor)
    (kinds : List (BluetoothAddress × BluetoothKind)) (steps : List Step) :
    let made := (start devices kinds).made steps
    let s := (start devices kinds).run steps
    (∀ m ∈ made, (∀ d, m.call = .set d → m.catalog.active = none) ∧
      (m.call = .clear → m.catalog.active.isSome = true)) ∧
    Alternates false (effective made) ∧
    (∀ earlier m later d, made = earlier ++ m :: later → m.call = .set d →
      ∃ before lead, earlier = before ++ lead ∧ Leads d lead) ∧
    ∀ op, (s.perform op).value.2.catalog =
      (s.observe (.operate op)).1.calls.foldl Catalog.call s.catalog := by
  intro made s
  have fresh := coherent_run_start devices kinds []
  have run : OrderlyRun none made := orderlyRun_made fresh (.start devices kinds) steps
  obtain ⟨coherent, agrees⟩ := run_induction (P := Agrees) (fun _ _ c h n => h.transition c n)
    fresh (.start devices kinds) steps
  refine ⟨fun m hm => ?_, run.alternates, run.ledUp, fun op => ?_⟩
  · exact ⟨(run.inTurn m hm).set, (run.inTurn m hm).clear⟩
  · exact (perform_called coherent agrees op).catalog_eq.2

end AudioSystem

end CallAudio
