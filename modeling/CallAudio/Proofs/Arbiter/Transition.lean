import CallAudio.Arbiter.Run

/-!
What an operation of the arbiter can do, said once. In a coherent state a clear releases whatever is
active, and a request ends in one of five ways. Every step of a run is a transition of these kinds, so
an invariant of runs needs one case for each kind.
-/

namespace CallAudio

/-- An address is tracked for an active Bluetooth device only. -/
def Selection.Coherent (s : Selection) : Prop :=
  ∀ a, s.address = some a → ∃ t, s.type = some t ∧ t.isBluetooth = true

theorem Selection.Coherent.empty : Selection.Coherent {} := by
  intro a h
  cases h

theorem Selection.Coherent.address_eq_none {s : Selection} (h : s.Coherent) (ht : s.type = none) :
    s.address = none := by
  cases ha : s.address with
  | none => rfl
  | some a =>
    obtain ⟨t, hs, _⟩ := h a ha
    rw [ht] at hs
    cases hs

theorem Arbiter.isActive_eq_true_iff {a : Arbiter} {type : DeviceType} :
    a.isActive type = true ↔ ∃ t, a.selection.type = some t ∧ type.isSatisfiedBy t = true := by
  cases h : a.selection.type <;> simp [isActive, h]

namespace AudioSystem

/-! ## Releasing the active device -/

/-- The system once the active device is cleared: a tracked address is reported lost, and the
platform is told unless it is detached. -/
def release (s : AudioSystem) : AudioSystem :=
  { arbiter := { s.arbiter with selection := {} }
    catalog := if s.arbiter.attached then s.catalog.clear else s.catalog
    bluetooth := match s.arbiter.selection.address with
      | none => s.bluetooth
      | some a => s.bluetooth.notify (.audioLost a) }

/-- The system once nothing is active any more. -/
def vacate (s : AudioSystem) : AudioSystem :=
  if s.arbiter.selection.type.isSome then s.release else s

@[simp] theorem selection_release (s : AudioSystem) : s.release.arbiter.selection = {} := rfl

@[simp] theorem declining_release (s : AudioSystem) :
    s.release.catalog.declining = s.catalog.declining := by
  unfold release
  dsimp only
  split <;> rfl

theorem vacate_of_none {s : AudioSystem} (h : s.arbiter.selection.type = none) : s.vacate = s := by
  simp [vacate, h]

theorem vacate_of_some {s : AudioSystem} {t : DeviceType} (h : s.arbiter.selection.type = some t) :
    s.vacate = s.release := by
  simp [vacate, h]

@[simp] theorem declining_vacate (s : AudioSystem) :
    s.vacate.catalog.declining = s.catalog.declining := by
  unfold vacate
  split <;> simp

theorem selection_vacate {s : AudioSystem} (h : s.arbiter.selection.Coherent) :
    s.vacate.arbiter.selection = {} := by
  cases ht : s.arbiter.selection.type with
  | some t => rw [vacate_of_some ht, selection_release]
  | none =>
    rw [vacate_of_none ht]
    have ha := h.address_eq_none ht
    cases hs : s.arbiter.selection
    simp_all

/-- Clearing a type that the active device satisfies releases it, whether or not the type itself is a
Bluetooth one: the two always agree on that. -/
theorem value_clear {s : AudioSystem} (h : s.arbiter.selection.Coherent) (type : DeviceType) :
    (s.clear type).value = if s.arbiter.isActive type then s.release else s := by
  by_cases active : s.arbiter.isActive type = true
  · obtain ⟨t, ht, sat⟩ := Arbiter.isActive_eq_true_iff.1 active
    have hb := DeviceType.isBluetooth_eq_of_isSatisfiedBy sat
    rw [if_pos active, clear, if_pos active]
    cases ha : s.arbiter.selection.address with
    | none =>
      have hr : s.reportLost = s := by simp [reportLost, ha]
      cases hat : s.arbiter.attached <;> simp [hr, clearPlatform, hat, release, ha]
    | some a =>
      -- the tracked address makes the active type a Bluetooth one, and with it the type cleared
      obtain ⟨u, hu, hbu⟩ := h a ha
      have htu : t = u := by rw [ht] at hu; exact Option.some.inj hu
      subst htu
      rw [hbu] at hb
      cases hat : s.arbiter.attached <;>
        simp [hb, clearPlatform, reportLost, hat, release, ha]
  · rw [if_neg active, clear, if_neg active]
    rfl

theorem value_clearActive {s : AudioSystem} (h : s.arbiter.selection.Coherent) :
    s.clearActive.value = s.vacate := by
  cases ht : s.arbiter.selection.type with
  | none => simp [clearActive, ht, vacate_of_none ht]
  | some t =>
    have active : s.arbiter.isActive t = true :=
      Arbiter.isActive_eq_true_iff.2 ⟨t, ht, t.isSatisfiedBy_self⟩
    simp [clearActive, ht, value_clear h, active, vacate_of_some ht]

theorem value_clearBluetooth {s : AudioSystem} (h : s.arbiter.selection.Coherent) :
    s.clearBluetooth.value = if s.arbiter.selection.address.isSome then s.release else s := by
  cases ha : s.arbiter.selection.address with
  | none => simp [clearBluetooth, ha]
  | some a =>
    obtain ⟨t, ht, _⟩ := h a ha
    simp [clearBluetooth, ha, value_clearActive h, vacate_of_some ht]

/-! ## The five ends of a request -/

/-- The system once its devices have been listed. -/
def listed (s : AudioSystem) : AudioSystem :=
  { s with catalog := s.catalog.list }

/-- The system once the platform has been asked for `device`, with its answer. -/
def offer (s : AudioSystem) (device : DeviceDescriptor) : AudioSystem :=
  { s with catalog := (s.catalog.set device).2 }

theorem active_offer_of_declining {s : AudioSystem} (h : s.catalog.declining = true)
    (device : DeviceDescriptor) : (s.offer device).catalog.active = s.catalog.active := by
  simp [offer, Catalog.set, h]

theorem active_offer_of_accepting {s : AudioSystem} (h : s.catalog.declining = false)
    (device : DeviceDescriptor) : (s.offer device).catalog.active = some device := by
  simp [offer, Catalog.set, h]

/-- How a request for `type` at `address` ends: its answer and the state it leaves. -/
inductive Requested (s : AudioSystem) (type : DeviceType) (address : Option BluetoothAddress) :
    Bool → AudioSystem → Prop
  | satisfied (active : s.arbiter.isActive type = true)
      (same : s.arbiter.isSwitch address = false) : Requested s type address false s
  | detached (wanted : (s.arbiter.isActive type && !s.arbiter.isSwitch address) = false)
      (detached : s.arbiter.attached = false) : Requested s type address false s
  | unavailable (wanted : (s.arbiter.isActive type && !s.arbiter.isSwitch address) = false)
      (attached : s.arbiter.attached = true)
      (missing : s.catalog.devices.find? (s.arbiter.isEligible type) = none) :
      Requested s type address false s.listed
  | declined (wanted : (s.arbiter.isActive type && !s.arbiter.isSwitch address) = false)
      (attached : s.arbiter.attached = true) (device : DeviceDescriptor)
      (found : s.catalog.devices.find? (s.arbiter.isEligible type) = some device)
      (declines : s.catalog.declining = true) :
      Requested s type address false (s.listed.vacate.offer device)
  | accepted (wanted : (s.arbiter.isActive type && !s.arbiter.isSwitch address) = false)
      (attached : s.arbiter.attached = true) (device : DeviceDescriptor)
      (found : s.catalog.devices.find? (s.arbiter.isEligible type) = some device)
      (accepts : s.catalog.declining = false) :
      Requested s type address true ((s.listed.vacate.offer device).adopt device)

theorem value_switchTo {s : AudioSystem} (h : s.arbiter.selection.Coherent)
    (device : DeviceDescriptor) :
    (s.switchTo device).value =
      if s.catalog.declining then (false, s.vacate.offer device)
      else (true, (s.vacate.offer device).adopt device) := by
  cases hd : s.catalog.declining <;>
    simp [switchTo, value_clearActive h, Catalog.set, hd, offer]

/-- An empty catalog is no case of its own: nothing in it is eligible. -/
theorem value_request (s : AudioSystem) (type : DeviceType) (address : Option BluetoothAddress) :
    (s.request type address).value =
      if s.arbiter.isActive type && !s.arbiter.isSwitch address then (false, s)
      else if !s.arbiter.attached then (false, s)
      else match s.catalog.devices.find? (s.arbiter.isEligible type) with
        | none => (false, s.listed)
        | some device => (s.listed.switchTo device).value := by
  rw [request]
  split
  · rfl
  · split
    · rfl
    · have hl : s.catalog.list.devices = s.catalog.devices := rfl
      cases hf : s.catalog.devices.find? (s.arbiter.isEligible type) with
      | none =>
        simp only [hl, hf]
        split <;> rfl
      | some device =>
        have hne : s.catalog.devices.isEmpty = false := by
          cases hd : s.catalog.devices with
          | nil => simp [hd] at hf
          | cons d rest => rfl
        simp only [hl, hne, hf]
        rfl

theorem requested_request {s : AudioSystem} (h : s.arbiter.selection.Coherent) (type : DeviceType)
    (address : Option BluetoothAddress) :
    Requested s type address (s.request type address).value.1 (s.request type address).value.2 := by
  rw [value_request]
  split
  · rename_i hw
    simp only [Bool.and_eq_true, Bool.not_eq_true'] at hw
    exact .satisfied hw.1 hw.2
  · rename_i hw
    have wanted : (s.arbiter.isActive type && !s.arbiter.isSwitch address) = false := by
      simpa using hw
    cases hat : s.arbiter.attached with
    | false => exact .detached wanted hat
    | true =>
      cases hf : s.catalog.devices.find? (s.arbiter.isEligible type) with
      | none => exact .unavailable wanted hat hf
      | some device =>
        -- listing changes neither the selection nor the mode of the platform
        have hs := value_switchTo (s := s.listed) h device
        cases hd : s.catalog.declining with
        | true =>
          have : s.listed.catalog.declining = true := hd
          simp only [Bool.not_true, Bool.false_eq_true, if_false, hs, this, if_true]
          exact .declined wanted hat device hf hd
        | false =>
          have : s.listed.catalog.declining = false := hd
          simp only [Bool.not_true, Bool.false_eq_true, if_false, hs, this]
          exact .accepted wanted hat device hf hd

/-! ## Transitions -/

/-- What one step of a run can do to a coherent system. -/
inductive Transition : AudioSystem → AudioSystem → Prop
  | idle (s : AudioSystem) : Transition s s
  | request {s s' : AudioSystem} {type : DeviceType} {address : Option BluetoothAddress}
      {changed : Bool} (requested : Requested s type address changed s') : Transition s s'
  | release {s : AudioSystem} {t : DeviceType} (active : s.arbiter.selection.type = some t) :
      Transition s s.release
  | detach (s : AudioSystem) :
      Transition s { s with arbiter := { s.arbiter with attached := false } }
  | setDevices (s : AudioSystem) (devices : List DeviceDescriptor) :
      Transition s (s.setDevices devices)
  | decline (s : AudioSystem) (on : Bool) : Transition s (s.decline on)
  | setKind (s : AudioSystem) (address : BluetoothAddress) (kind : BluetoothKind) :
      Transition s { s with bluetooth := s.bluetooth.setKind address kind }
  | resetCalls (s : AudioSystem) :
      Transition s { s with catalog := { s.catalog with calls := [] } }

theorem detach_transition (s : AudioSystem) : Transition s s.detach.value := by
  cases h : s.arbiter.attached with
  | false => simpa [AudioSystem.detach, h] using Transition.idle s
  | true => simpa [AudioSystem.detach, h] using Transition.detach s

theorem clear_transition {s : AudioSystem} (h : s.arbiter.selection.Coherent) (type : DeviceType) :
    Transition s (s.clear type).value := by
  rw [value_clear h]
  split
  · rename_i active
    obtain ⟨t, ht, _⟩ := Arbiter.isActive_eq_true_iff.1 active
    exact .release ht
  · exact .idle s

theorem clearBluetooth_transition {s : AudioSystem} (h : s.arbiter.selection.Coherent) :
    Transition s s.clearBluetooth.value := by
  rw [value_clearBluetooth h]
  cases ha : s.arbiter.selection.address with
  | none => exact .idle s
  | some a =>
    obtain ⟨t, ht, _⟩ := h a ha
    exact .release ht

theorem perform_transition {s : AudioSystem} (h : s.arbiter.selection.Coherent) (op : Operation) :
    Transition s (s.perform op).value.2 := by
  cases op with
  | request type address => exact .request (requested_request h type address)
  | requestBluetooth address =>
    cases address with
    | none => exact .idle s
    | some a => exact .request (requested_request h (s.bluetooth.classify a).deviceType (some a))
  | clear type => exact clear_transition h type
  | clearBluetooth => exact clearBluetooth_transition h
  | detach => exact detach_transition s
  | hasCatalog | isActive _ | activeTypes | selection | inspect => exact .idle s

theorem step_transition {s : AudioSystem} (h : s.arbiter.selection.Coherent) (step : Step) :
    Transition s (s.step step).value.2 := by
  cases step with
  | operate op => exact perform_transition h op
  | setDevices devices => exact .setDevices s devices
  | decline on => exact .decline s on
  | setKind address kind => exact .setKind s address kind
  | resetCalls => exact .resetCalls s
  | counts | connectedOrPending => exact .idle s

/-- A switch leaves the address of the new device tracked if that is a Bluetooth device, and none
otherwise: nothing of the old device is left. -/
theorem selection_adopt_vacate {s : AudioSystem} (h : s.arbiter.selection.Coherent)
    (device : DeviceDescriptor) :
    ((s.vacate.offer device).adopt device).arbiter.selection =
      { type := some device.type
        address := if device.type.isBluetooth then device.address else none } := by
  have hs : (s.vacate.offer device).arbiter.selection = {} := selection_vacate h
  simp [adopt, hs]

theorem Transition.coherent {s s' : AudioSystem} (h : Transition s s')
    (hs : s.arbiter.selection.Coherent) : s'.arbiter.selection.Coherent := by
  cases h with
  | idle | detach | setDevices | decline | setKind | resetCalls => exact hs
  | release => exact Selection.Coherent.empty
  | request requested =>
    cases requested with
    | satisfied | detached | unavailable => exact hs
    | declined _ _ device _ _ =>
      have hv : (s.listed.vacate.offer device).arbiter.selection = {} :=
        selection_vacate (s := s.listed) hs
      rw [hv]
      exact Selection.Coherent.empty
    | accepted _ _ device _ _ =>
      have hv := selection_adopt_vacate (s := s.listed) hs device
      rw [hv]
      intro a ha
      refine ⟨device.type, rfl, ?_⟩
      cases hb : device.type.isBluetooth with
      | true => rfl
      | false => simp [hb] at ha

/-- A property that coherent systems keep in every transition holds along every run. -/
theorem run_induction {P : AudioSystem → Prop}
    (keep : ∀ s s', s.arbiter.selection.Coherent → P s → Transition s s' → P s')
    {s : AudioSystem} (coherent : s.arbiter.selection.Coherent) (start : P s) (steps : List Step) :
    (s.run steps).arbiter.selection.Coherent ∧ P (s.run steps) := by
  induction steps generalizing s with
  | nil => exact ⟨coherent, start⟩
  | cons step rest ih =>
    have next := step_transition coherent step
    exact ih (next.coherent coherent) (keep _ _ coherent start next)

theorem coherent_run_start (devices : List DeviceDescriptor)
    (kinds : List (BluetoothAddress × BluetoothKind)) (steps : List Step) :
    ((start devices kinds).run steps).arbiter.selection.Coherent :=
  (run_induction (P := fun _ => True) (fun _ _ _ _ _ => trivial) Selection.Coherent.empty trivial
    steps).1

end AudioSystem

end CallAudio
