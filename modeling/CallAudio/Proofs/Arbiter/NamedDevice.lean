import CallAudio.Proofs.Arbiter.Transition

/-!
Which Bluetooth device a request that names an address gets. The search looks at types, and at the
address only to pass over the tracked device, so the named device is taken exactly when the catalog
lists no other candidate before it.
-/

namespace CallAudio

theorem DeviceType.isSatisfiedBy_iff_of_isBluetooth {t u : DeviceType} (h : t.isBluetooth = true) :
    t.isSatisfiedBy u = true ↔ u = t := by
  revert h
  cases t <;> cases u <;> decide

theorem Arbiter.tracks_eq_true_iff {a : Arbiter} {address : Option BluetoothAddress} :
    a.tracks address = true ↔ ∃ b, address = some b ∧ a.selection.address = some b := by
  cases address with
  | none => cases h : a.selection.address <;> simp [tracks, h]
  | some b =>
    cases h : a.selection.address with
    | none => simp [tracks, h]
    | some t =>
      simp only [tracks, h, beq_iff_eq, Option.some.injEq, exists_eq_left']

/-- The device satisfies a request for `type`, and does not carry the tracked address. -/
def Selection.Admits (held : Selection) (type : DeviceType) (d : DeviceDescriptor) : Prop :=
  type.isSatisfiedBy d.type = true ∧ ∀ a, d.address = some a → held.address ≠ some a

theorem Arbiter.isEligible_iff_admits {a : Arbiter} {type : DeviceType} {d : DeviceDescriptor} :
    a.isEligible type d = true ↔ a.selection.Admits type d := by
  rw [isEligible, Bool.and_eq_true, Bool.not_eq_true', ← Bool.not_eq_true, tracks_eq_true_iff,
    Selection.Admits, not_exists]
  simp only [not_and, ne_eq]

namespace Catalog

@[simp] theorem setDevices_list (c : Catalog) : c.list.setDevices = c.setDevices := by
  simp [setDevices, list]

@[simp] theorem setDevices_clear (c : Catalog) : c.clear.setDevices = c.setDevices := by
  simp [setDevices, clear]

@[simp] theorem setDevices_set (c : Catalog) (device : DeviceDescriptor) :
    (c.set device).2.setDevices = c.setDevices ++ [device] := by
  unfold set
  dsimp only
  split <;> simp [setDevices]

end Catalog

namespace AudioSystem

theorem setDevices_vacate (s : AudioSystem) :
    s.vacate.catalog.setDevices = s.catalog.setDevices := by
  unfold vacate release
  split
  · dsimp only
    split <;> simp
  · rfl

/-- An accepted request hands exactly one device to the platform, the first eligible one, and tracks
its address if it is a Bluetooth device. -/
theorem Requested.handed {s s' : AudioSystem} {type : DeviceType}
    {address : Option BluetoothAddress} (coherent : s.arbiter.selection.Coherent)
    (h : Requested s type address true s') :
    ∃ d, s.catalog.devices.find? (s.arbiter.isEligible type) = some d ∧
      s'.catalog.setDevices = s.catalog.setDevices ++ [d] ∧
      s'.arbiter.selection.address = if d.type.isBluetooth then d.address else none := by
  cases h with
  | accepted _ _ d found _ =>
    refine ⟨d, found, ?_, ?_⟩
    · have hl : s.listed.catalog.setDevices = s.catalog.setDevices := Catalog.setDevices_list _
      rw [← hl, ← setDevices_vacate s.listed]
      exact Catalog.setDevices_set _ d
    · rw [selection_adopt_vacate (s := s.listed) coherent]

/-- The device of the given type at address `a` is not the one being switched away from, and every
device of the type that is listed before it is. -/
def NamedFirst (s : AudioSystem) (type : DeviceType) (a : BluetoothAddress) : Prop :=
  s.arbiter.selection.address ≠ some a ∧
  ∃ before after, s.catalog.devices = before ++ ⟨type, some a⟩ :: after ∧
    ∀ e ∈ before, e.type = type →
      ∃ b, e.address = some b ∧ s.arbiter.selection.address = some b

theorem isEligible_eq_true_iff {a : Arbiter} {type : DeviceType} (h : type.isBluetooth = true)
    {d : DeviceDescriptor} :
    a.isEligible type d = true ↔
      d.type = type ∧ ¬∃ b, d.address = some b ∧ a.selection.address = some b := by
  rw [Arbiter.isEligible_iff_admits, Selection.Admits,
    DeviceType.isSatisfiedBy_iff_of_isBluetooth h, not_exists]
  simp only [not_and, ne_eq]

theorem address_of_find_eligible_iff {s : AudioSystem} {type : DeviceType}
    (h : type.isBluetooth = true) {a : BluetoothAddress} {d : DeviceDescriptor}
    (found : s.catalog.devices.find? (s.arbiter.isEligible type) = some d) :
    d.address = some a ↔ s.NamedFirst type a := by
  constructor
  · intro ha
    obtain ⟨eligible, before, after, hd, earlier⟩ := List.find?_eq_some_iff_append.1 found
    obtain ⟨ht, other⟩ := (isEligible_eq_true_iff h).1 eligible
    have named : d = ⟨type, some a⟩ := by
      cases d
      simp_all
    subst named
    refine ⟨fun tracked => other ⟨a, rfl, tracked⟩, before, after, hd, ?_⟩
    intro e he hte
    -- a device of the type that is not the tracked one would have been found first
    refine Classical.byContradiction fun hne => ?_
    have : s.arbiter.isEligible type e = true := (isEligible_eq_true_iff h).2 ⟨hte, hne⟩
    simpa [this] using earlier e he
  · rintro ⟨untracked, before, after, hd, earlier⟩
    have first : s.catalog.devices.find? (s.arbiter.isEligible type) = some ⟨type, some a⟩ := by
      refine List.find?_eq_some_iff_append.2 ⟨?_, before, after, hd, ?_⟩
      · refine (isEligible_eq_true_iff h).2 ⟨rfl, ?_⟩
        rintro ⟨b, hb, tracked⟩
        cases hb
        exact untracked tracked
      · intro e he
        refine Classical.byContradiction fun hne => ?_
        have eligible : s.arbiter.isEligible type e = true := by simpa using hne
        obtain ⟨hte, other⟩ := (isEligible_eq_true_iff h).1 eligible
        exact other (earlier e he hte)
    rw [first] at found
    cases found
    rfl

theorem request_handed {s : AudioSystem} (coherent : s.arbiter.selection.Coherent)
    {type : DeviceType} (h : type.isBluetooth = true) {a : BluetoothAddress}
    (accepted : (s.request type (some a)).value.1 = true) :
    ∃ d, (s.request type (some a)).value.2.catalog.setDevices = s.catalog.setDevices ++ [d] ∧
      (s.request type (some a)).value.2.arbiter.selection.address = d.address ∧
      (d.address = some a ↔ s.NamedFirst type a) := by
  have requested := requested_request coherent type (some a)
  rw [accepted] at requested
  obtain ⟨d, found, handed, tracked⟩ := requested.handed coherent
  have eligible := List.find?_some found
  obtain ⟨ht, _⟩ := (isEligible_eq_true_iff h).1 eligible
  refine ⟨d, handed, ?_, address_of_find_eligible_iff h found⟩
  rw [tracked, ht, if_pos h]

/-- A granted request that names a Bluetooth address hands one device to the platform and tracks its
address. It is the named one exactly when it comes first among the devices of its type that are not
tracked already. -/
theorem named_device_taken_iff (devices : List DeviceDescriptor)
    (kinds : List (BluetoothAddress × BluetoothKind)) (steps : List Step) (a : BluetoothAddress) :
    let s := (start devices kinds).run steps
    (∀ type : DeviceType, type.isBluetooth = true → (s.request type (some a)).value.1 = true →
      ∃ d, (s.request type (some a)).value.2.catalog.setDevices = s.catalog.setDevices ++ [d] ∧
        (s.request type (some a)).value.2.arbiter.selection.address = d.address ∧
        (d.address = some a ↔ s.NamedFirst type a)) ∧
    ((s.requestBluetooth a).value.1 = true →
      ∃ d, (s.requestBluetooth a).value.2.catalog.setDevices = s.catalog.setDevices ++ [d] ∧
        (s.requestBluetooth a).value.2.arbiter.selection.address = d.address ∧
        (d.address = some a ↔ s.NamedFirst (s.bluetooth.classify a).deviceType a)) := by
  intro s
  have coherent : s.arbiter.selection.Coherent := coherent_run_start devices kinds steps
  refine ⟨?_, ?_⟩
  · intro type h accepted
    exact request_handed coherent h accepted
  · intro accepted
    exact request_handed coherent (s.bluetooth.classify a).isBluetooth_deviceType accepted

/-- Two headsets of one type, of which the first is active: the second is taken by its address,
whether its type is given or looked up. -/
theorem second_headset_taken :
    let first : DeviceDescriptor := ⟨.bluetoothLeHeadset, some ⟨"11:11"⟩⟩
    let second : DeviceDescriptor := ⟨.bluetoothLeHeadset, some ⟨"22:22"⟩⟩
    let steps := [Step.operate (.request .bluetoothLeHeadset (some ⟨"11:11"⟩))]
    let s := (start [first, second] [(⟨"22:22"⟩, .leAudio)]).run steps
    DeviceType.bluetoothLeHeadset.isBluetooth = true ∧
    (s.request .bluetoothLeHeadset (some ⟨"22:22"⟩)).value.1 = true ∧
    (s.requestBluetooth ⟨"22:22"⟩).value.1 = true ∧
    s.NamedFirst .bluetoothLeHeadset ⟨"22:22"⟩ ∧
    (∃ d, (s.request .bluetoothLeHeadset (some ⟨"22:22"⟩)).value.2.catalog.setDevices =
        s.catalog.setDevices ++ [d] ∧
      (s.request .bluetoothLeHeadset (some ⟨"22:22"⟩)).value.2.arbiter.selection.address =
        d.address ∧ (d.address = some ⟨"22:22"⟩ ↔ s.NamedFirst .bluetoothLeHeadset ⟨"22:22"⟩)) ∧
    ∃ d, (s.requestBluetooth ⟨"22:22"⟩).value.2.catalog.setDevices = s.catalog.setDevices ++ [d] ∧
      (s.requestBluetooth ⟨"22:22"⟩).value.2.arbiter.selection.address = d.address ∧
      (d.address = some ⟨"22:22"⟩ ↔
        s.NamedFirst (s.bluetooth.classify ⟨"22:22"⟩).deviceType ⟨"22:22"⟩) := by
  intro first second steps s
  have taken := named_device_taken_iff [first, second] [(⟨"22:22"⟩, .leAudio)] steps ⟨"22:22"⟩
  have granted : (s.request .bluetoothLeHeadset (some ⟨"22:22"⟩)).value.1 = true := by decide
  have granted' : (s.requestBluetooth ⟨"22:22"⟩).value.1 = true := by decide
  refine ⟨rfl, granted, granted', ?_, taken.1 _ rfl granted, taken.2 granted'⟩
  refine ⟨by decide, [first], [], rfl, ?_⟩
  intro e he _
  cases List.mem_singleton.1 he
  exact ⟨⟨"11:11"⟩, rfl, by decide⟩

/-- A request that names the second of two listed headsets gets the first one, and answers that all
went well. -/
theorem first_headset_taken_for_second :
    let first : DeviceDescriptor := ⟨.bluetoothLeHeadset, some ⟨"11:11"⟩⟩
    let second : DeviceDescriptor := ⟨.bluetoothLeHeadset, some ⟨"22:22"⟩⟩
    let s := start [first, second] []
    let r := (s.request .bluetoothLeHeadset (some ⟨"22:22"⟩)).value
    second ∈ s.catalog.devices ∧ r.1 = true ∧ r.2.catalog.setDevices = [first] ∧
      r.2.arbiter.selection.address ≠ some ⟨"22:22"⟩ := by
  decide

end AudioSystem

end CallAudio
