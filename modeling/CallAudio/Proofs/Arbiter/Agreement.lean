import CallAudio.Proofs.Arbiter.Transition

/-!
The arbiter and the platform never disagree on the active device, however operations and changes of
the platform are mixed; and once the catalog is detached, nothing reaches the platform any more.
-/

namespace CallAudio

/-- What an arbiter should hold while the platform has `device` active: the address counts for
Bluetooth devices only. -/
def Selection.ofDevice : Option DeviceDescriptor → Selection
  | none => {}
  | some d => { type := some d.type, address := if d.type.isBluetooth then d.address else none }

theorem Selection.type_ofDevice_eq_none_iff {d : Option DeviceDescriptor} :
    (Selection.ofDevice d).type = none ↔ d = none := by
  cases d <;> simp [ofDevice]

namespace AudioSystem

/-- An attached arbiter holds what the platform has active. -/
def Agrees (s : AudioSystem) : Prop :=
  s.arbiter.attached = true → s.arbiter.selection = .ofDevice s.catalog.active

theorem Agrees.start (devices : List DeviceDescriptor)
    (kinds : List (BluetoothAddress × BluetoothKind)) : (start devices kinds).Agrees :=
  fun _ => rfl

theorem Agrees.release {s : AudioSystem} : s.release.Agrees := by
  intro attached
  have ha : s.arbiter.attached = true := attached
  simp [AudioSystem.release, ha, Catalog.clear, Selection.ofDevice]

theorem Agrees.vacate {s : AudioSystem} (h : s.Agrees) : s.vacate.Agrees := by
  unfold AudioSystem.vacate
  split
  · exact .release
  · exact h

/-- The platform stays without a device when it declines one, and so does the arbiter. -/
theorem Agrees.offer_declined {s : AudioSystem} (h : s.Agrees) (declines : s.catalog.declining = true)
    (device : DeviceDescriptor) : (s.offer device).Agrees := by
  intro attached
  rw [show (s.offer device).arbiter = s.arbiter from rfl] at attached ⊢
  rw [h attached, active_offer_of_declining declines]

theorem Agrees.transition {s s' : AudioSystem} (coherent : s.arbiter.selection.Coherent)
    (h : s.Agrees) (next : Transition s s') : s'.Agrees := by
  cases next with
  | idle | setDevices | decline | setKind | resetCalls => exact h
  | detach => intro attached; cases attached
  | release => exact .release
  | request requested =>
    have hl : s.listed.Agrees := h
    cases requested with
    | satisfied | detached | unavailable => exact h
    | declined _ _ device _ declines =>
      exact hl.vacate.offer_declined (by rw [declining_vacate]; exact declines) device
    | accepted _ _ device _ accepts =>
      intro _
      have hd : s.listed.vacate.catalog.declining = false := by
        rw [declining_vacate]
        exact accepts
      have hp : ((s.listed.vacate.offer device).adopt device).catalog.active = some device :=
        active_offer_of_accepting hd device
      rw [hp, selection_adopt_vacate (s := s.listed) coherent device]
      rfl

/-- What a detached system `s` keeps of `d`, the system at the moment of the detach. -/
structure Frozen (d s : AudioSystem) : Prop where
  detached : s.arbiter.attached = false
  platform : s.catalog.active = d.catalog.active
  selection : s.arbiter.selection = d.arbiter.selection ∨ s.arbiter.selection = {}

theorem Frozen.detach (s : AudioSystem) :
    Frozen s { s with arbiter := { s.arbiter with attached := false } } :=
  ⟨rfl, rfl, .inl rfl⟩

theorem Frozen.transition {d s s' : AudioSystem} (h : Frozen d s) (next : Transition s s') :
    Frozen d s' := by
  cases next with
  | idle | setDevices | decline | setKind | resetCalls => exact ⟨h.detached, h.platform, h.selection⟩
  | detach => exact ⟨rfl, h.platform, h.selection⟩
  | release =>
    refine ⟨h.detached, ?_, .inr rfl⟩
    simpa [AudioSystem.release, h.detached] using h.platform
  | request requested =>
    cases requested with
    | satisfied | detached => exact h
    | unavailable _ attached | declined _ attached | accepted _ attached =>
      rw [h.detached] at attached
      cases attached

theorem value_request_of_detached {s : AudioSystem} (h : s.arbiter.attached = false)
    (type : DeviceType) (address : Option BluetoothAddress) :
    (s.request type address).value = (false, s) := by
  rw [value_request]
  split
  · rfl
  · simp [h]

theorem catalog_clear_of_detached {s : AudioSystem} (coherent : s.arbiter.selection.Coherent)
    (h : s.arbiter.attached = false) (type : DeviceType) :
    (s.clear type).value.catalog = s.catalog := by
  rw [value_clear coherent]
  split
  · simp [release, h]
  · rfl

/-- An operation on a detached system leaves the catalog alone: it makes no call to it. -/
theorem catalog_perform_of_detached {s : AudioSystem} (coherent : s.arbiter.selection.Coherent)
    (h : s.arbiter.attached = false) (op : Operation) :
    (s.perform op).value.2.catalog = s.catalog := by
  cases op with
  | request type address => simp [perform, value_request_of_detached h]
  | requestBluetooth address =>
    cases address with
    | none => rfl
    | some a => simp [perform, requestBluetooth, value_request_of_detached h]
  | clear type => exact catalog_clear_of_detached coherent h type
  | clearBluetooth =>
    simp only [perform, Log.Logged.value_bind, Log.Logged.value_pure]
    rw [value_clearBluetooth coherent]
    split
    · simp [release, h]
    · rfl
  | detach => simp [perform, AudioSystem.detach, h]
  | hasCatalog | isActive _ | activeTypes | selection | inspect => rfl

/-- Along every run the arbiter and the platform agree. A detach, at any moment, freezes the platform
and leaves the arbiter only one way to go: nothing active. -/
theorem arbiter_agrees_with_platform (devices : List DeviceDescriptor)
    (kinds : List (BluetoothAddress × BluetoothKind)) (steps : List Step) :
    let s := (start devices kinds).run steps
    let held := s.arbiter.selection
    (∀ a, held.address = some a → ∃ t, held.type = some t ∧ t.isBluetooth = true) ∧
    (held.type = none → held.address = none) ∧
    (s.arbiter.attached = true →
      (held.type = none ↔ s.catalog.active = none) ∧
      ∀ d, s.catalog.active = some d →
        held.type = some d.type ∧
        held.address = if d.type.isBluetooth then d.address else none) ∧
    ∀ later : List Step,
      let t := s.run (.operate .detach :: later)
      t.arbiter.attached = false ∧
      t.catalog.active = s.catalog.active ∧
      (t.arbiter.selection = held ∨ t.arbiter.selection = {}) ∧
      (∀ op, (t.perform op).value.2.catalog = t.catalog) ∧
      (∀ type address, (t.request type address).value.1 = false) ∧
      ∀ address, (t.requestBluetooth address).value.1 = false := by
  intro s held
  obtain ⟨coherent, agrees⟩ := run_induction (P := Agrees) (fun _ _ c h n => h.transition c n)
    (coherent_run_start devices kinds []) (.start devices kinds) steps
  refine ⟨coherent, coherent.address_eq_none, ?_, ?_⟩
  · intro attached
    have hs : held = .ofDevice s.catalog.active := agrees attached
    rw [hs]
    refine ⟨Selection.type_ofDevice_eq_none_iff, ?_⟩
    intro d hd
    rw [hd]
    exact ⟨rfl, rfl⟩
  · intro later t
    -- the detach is the first step of what follows, and freezes what it finds
    have gone := detach_transition s
    have first : Frozen s s.detach.value := by
      cases hat : s.arbiter.attached with
      | true => simpa [AudioSystem.detach, hat] using Frozen.detach s
      | false => simpa [AudioSystem.detach, hat] using (⟨hat, rfl, .inl rfl⟩ : Frozen s s)
    obtain ⟨coherent', frozen⟩ := run_induction (P := Frozen s) (fun _ _ _ h n => h.transition n)
      (gone.coherent coherent) first later
    have still := value_request_of_detached frozen.detached
    refine ⟨frozen.detached, frozen.platform, frozen.selection,
      catalog_perform_of_detached coherent' frozen.detached, ?_, ?_⟩
    · intro type address
      exact congrArg Prod.fst (still type address)
    · intro address
      exact congrArg Prod.fst (still _ (some address))

end AudioSystem

end CallAudio
