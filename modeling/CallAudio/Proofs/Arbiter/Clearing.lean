import CallAudio.Proofs.Arbiter.Repetition

/-!
What a clear ends. Clearing the type that was requested undoes a granted request, whatever device has
met it. The clear of Bluetooth devices looks at the tracked address only; while the catalog lists no
Bluetooth device without its address, it ends exactly the Bluetooth devices.
-/

namespace CallAudio

theorem Selection.Coherent.ofDevice (d : Option DeviceDescriptor) :
    (Selection.ofDevice d).Coherent := by
  intro a ha
  cases d with
  | none => cases ha
  | some d =>
    refine ⟨d.type, rfl, ?_⟩
    by_cases bluetooth : d.type.isBluetooth = true
    · exact bluetooth
    · simp [Selection.ofDevice, bluetooth] at ha

/-- Without an address there is no Bluetooth device. -/
def DeviceDescriptor.Addressed (d : DeviceDescriptor) : Prop :=
  d.type.isBluetooth = true → d.address.isSome = true

instance (d : DeviceDescriptor) : Decidable d.Addressed :=
  inferInstanceAs (Decidable (_ → _))

/-- An active Bluetooth device is tracked by its address. -/
def Selection.Addressed (held : Selection) : Prop :=
  ∀ t, held.type = some t → t.isBluetooth = true → held.address.isSome = true

theorem DeviceDescriptor.Addressed.ofDevice {d : DeviceDescriptor} (h : d.Addressed) :
    (Selection.ofDevice (some d)).Addressed := by
  rintro t ⟨⟩ bluetooth
  simpa [Selection.ofDevice, bluetooth] using h bluetooth

theorem Selection.Coherent.address_eq_none_of_other {held : Selection} (h : held.Coherent)
    (other : ∀ t, held.type = some t → t.isBluetooth = false) : held.address = none := by
  refine Option.eq_none_iff_forall_ne_some.2 fun a tracked => ?_
  obtain ⟨t, active, bluetooth⟩ := h a tracked
  rw [other t active] at bluetooth
  cases bluetooth

theorem Catalog.devices_call (c : Catalog) (call : CatalogCall) :
    (c.call call).devices = c.devices := by
  cases call with
  | list | clear => rfl
  | set d =>
    show (c.set d).2.devices = c.devices
    unfold set
    dsimp only
    split <;> rfl

/-- Calls that list the devices find those that the catalog has had from the first call on. -/
theorem Catalog.exists_made_list {c : Catalog} {calls : List CatalogCall} (h : .list ∈ calls) :
    ∃ m ∈ c.made calls, m.call = .list ∧ m.catalog.devices = c.devices := by
  induction calls generalizing c with
  | nil => cases h
  | cons call rest ih =>
    rcases List.mem_cons.1 h with rfl | later
    · exact ⟨⟨c, .list⟩, List.mem_cons_self, rfl, rfl⟩
    · obtain ⟨m, mem, list, same⟩ := ih (c := c.call call) later
      exact ⟨m, List.mem_cons_of_mem _ mem, list, same.trans (c.devices_call call)⟩

namespace AudioSystem

variable {s s' : AudioSystem}

/-! ## Between a request and its clear -/

theorem kept_run_aside {between : List Step} (aside : ∀ step ∈ between, step.Aside) :
    Kept s (s.run between) := by
  induction between generalizing s with
  | nil => exact .refl s
  | cons step rest ih =>
    obtain ⟨first, others⟩ := List.forall_mem_cons.1 aside
    exact (first.kept s).trans (ih others)

theorem attached_detach (s : AudioSystem) : s.detach.value.arbiter.attached = false := by
  cases attached : s.arbiter.attached <;> simp [AudioSystem.detach, attached]

/-- Of the steps that ask nothing of the arbiter, the detach alone detaches it. -/
theorem attached_run_aside {between : List Step} (aside : ∀ step ∈ between, step.Aside) :
    (s.run between).arbiter.attached = true ↔
      s.arbiter.attached = true ∧ .operate .detach ∉ between := by
  induction between generalizing s with
  | nil => simp [run]
  | cons step rest ih =>
    obtain ⟨first, others⟩ := List.forall_mem_cons.1 aside
    rw [run, ih others, List.mem_cons, not_or]
    -- no step attaches again, so that one detach decides
    cases first with
    | setDevices | decline | setKind => simp [observe, AudioSystem.step, setDevices, decline]
    | detach =>
      have gone : (s.observe (.operate .detach)).2.arbiter.attached = false := attached_detach s
      simp [gone]

/-! ## Undoing a request -/

/-- A device that was taken is released by clearing any type that it satisfies. -/
theorem Taken.value_clear {t : AudioSystem} {d : DeviceDescriptor} {type : DeviceType}
    (taken : Taken s d s') (kept : Kept s' t) (satisfied : type.isSatisfiedBy d.type = true) :
    (t.clear type).value = t.release := by
  have held : t.arbiter.selection = .ofDevice (some d) := kept.selection.trans taken.selection
  have coherent : t.arbiter.selection.Coherent := held ▸ .ofDevice (some d)
  have active : t.arbiter.isActive type = true :=
    Arbiter.isActive_eq_true_iff.2 ⟨d.type, congrArg Selection.type held, satisfied⟩
  rw [AudioSystem.value_clear coherent, if_pos active]

/-- A granted request is undone by clearing the type that it was for, whatever device it got and
whatever the platform lists by then: nothing is active any more, and the two operations together have
told the Bluetooth stack of the device that went, of the one that came and of its end. The clear makes
one call to the catalog, after which the platform has no device active either; if the catalog was
detached in between, no call reaches it, and it stays as it was. A second clear does nothing. -/
theorem clear_undoes_request (devices : List DeviceDescriptor)
    (kinds : List (BluetoothAddress × BluetoothKind)) (steps : List Step) (type : DeviceType)
    (address : Option BluetoothAddress) :
    let s := (start devices kinds).run steps
    let granted := (s.request type address).value
    granted.1 = true →
      ∃ d, s.FirstAdmitted type d ∧ granted.2.arbiter.selection = .ofDevice (some d) ∧
        ∀ between : List Step, (∀ step ∈ between, step.Aside) →
          let t := granted.2.run between
          let cleared := (t.clear type).value
          cleared.arbiter.selection = {} ∧
          cleared.bluetooth.notices =
            s.bluetooth.notices ++ s.arbiter.selection.address.toList.map .audioLost ++
              (if d.type = .bluetoothLeHeadset then d.address else none).toList.map .audioOn ++
              (if d.type.isBluetooth then d.address else none).toList.map .audioLost ∧
          (.operate .detach ∉ between → cleared.catalog.active = none ∧
            cleared.catalog.calls = t.catalog.calls ++ [.clear]) ∧
          (.operate .detach ∈ between → cleared.catalog = t.catalog) ∧
          ∀ u, (cleared.clear u).value = cleared := by
  intro s granted changed
  obtain ⟨d, first, taken⟩ := request_taken (coherent_run_start devices kinds steps) changed
  refine ⟨d, first, taken.selection, fun between aside => ?_⟩
  intro t cleared
  have kept : Kept granted.2 t := kept_run_aside aside
  have attached : t.arbiter.attached = true ↔ .operate .detach ∉ between :=
    (attached_run_aside aside).trans (and_iff_right taken.attached)
  -- the clear names the type requested, which the type that was taken satisfies
  have released : cleared = t.release := taken.value_clear kept first.isSatisfiedBy
  rw [released]
  refine ⟨rfl, ?_, fun undisturbed => ?_, fun detached => ?_, fun u => ?_⟩
  · have held : t.arbiter.selection = .ofDevice (some d) := kept.selection.trans taken.selection
    rw [notices_release, kept.notices, taken.notices, held]
    rfl
  · simp [release, attached.2 undisturbed, Catalog.clear]
  · have gone : t.arbiter.attached = false := by
      rw [← Bool.not_eq_true, attached]
      exact not_not_intro detached
    simp [release, gone]
  · exact value_clear_of_inactive rfl

/-- An LE headset takes over from another and is cleared, while the catalog changes or goes. -/
theorem second_headset_undone :
    let first : DeviceDescriptor := ⟨.bluetoothLeHeadset, some ⟨"11:11"⟩⟩
    let second : DeviceDescriptor := ⟨.bluetoothLeHeadset, some ⟨"22:22"⟩⟩
    let steps := [Step.operate (.request .bluetoothLeHeadset (some ⟨"11:11"⟩))]
    let s := (start [first, second] []).run steps
    let granted := (s.request .bluetoothLeHeadset (some ⟨"22:22"⟩)).value
    let t := granted.2.run [.setDevices []]
    let u := granted.2.run [.operate .detach]
    granted.1 = true ∧ ∃ d, granted.2.arbiter.selection = .ofDevice (some d) ∧
      (t.clear .bluetoothLeHeadset).value.catalog.active = none ∧
      (u.clear .bluetoothLeHeadset).value.arbiter.selection = {} ∧
      (u.clear .bluetoothLeHeadset).value.catalog = u.catalog := by
  intro first second steps s granted t u
  have changed : granted.1 = true := by decide
  obtain ⟨d, _, held, undone⟩ := clear_undoes_request [first, second] [] steps
    .bluetoothLeHeadset (some ⟨"22:22"⟩) changed
  obtain ⟨-, -, reached, -, -⟩ :=
    undone [.setDevices []] (List.forall_mem_singleton.2 (.setDevices []))
  obtain ⟨ended, -, -, unreached, -⟩ :=
    undone [.operate .detach] (List.forall_mem_singleton.2 .detach)
  have attached : Step.operate .detach ∉ [Step.setDevices []] := by simp
  exact ⟨changed, d, held, (reached attached).1, ended, unreached (List.mem_singleton.2 rfl)⟩

/-! ## Clearing Bluetooth devices -/

theorem calls_vacate (s : AudioSystem) :
    ∃ more, s.vacate.catalog.calls = s.catalog.calls ++ more := by
  unfold vacate release
  split
  · dsimp only
    split
    · exact ⟨[.clear], rfl⟩
    · exact ⟨[], (List.append_nil _).symm⟩
  · exact ⟨[], (List.append_nil _).symm⟩

/-- A device is offered to the platform only after the devices were listed. -/
theorem list_mem_since_offer (s : AudioSystem) (device : DeviceDescriptor) :
    .list ∈ since s.catalog.calls (s.listed.vacate.offer device).catalog.calls := by
  obtain ⟨more, vacated⟩ := calls_vacate s.listed
  have last : (s.listed.vacate.offer device).catalog.calls =
      s.listed.vacate.catalog.calls ++ [.set device] :=
    s.listed.vacate.catalog.calls_call (.set device)
  have calls : (s.listed.vacate.offer device).catalog.calls =
      s.catalog.calls ++ .list :: (more ++ [.set device]) := by
    rw [last, vacated]
    simp [AudioSystem.listed, Catalog.list]
  rw [calls, since_append]
  exact List.mem_cons_self

/-- Only the devices listed in a step can become active in it. -/
theorem Transition.addressed (coherent : s.arbiter.selection.Coherent)
    (h : s.arbiter.selection.Addressed) (next : Transition s s')
    (listed : .list ∈ since s.catalog.calls s'.catalog.calls →
      ∀ d ∈ s.catalog.devices, d.Addressed) : s'.arbiter.selection.Addressed := by
  cases next with
  | idle | detach | setDevices | decline | setKind | resetCalls => exact h
  | release => exact nofun
  | request requested =>
    cases requested with
    | satisfied | detached | unavailable => exact h
    | declined _ _ device _ _ =>
      have none : (s.listed.vacate.offer device).arbiter.selection = {} :=
        selection_vacate (s := s.listed) coherent
      rw [none]
      exact nofun
    | accepted _ _ device found _ =>
      have eligible : device.Addressed :=
        listed (list_mem_since_offer s device) device (List.mem_of_find?_eq_some found)
      rw [selection_adopt_vacate (s := s.listed) coherent]
      exact eligible.ofDevice

theorem addressed_run (coherent : s.arbiter.selection.Coherent)
    (h : s.arbiter.selection.Addressed) {steps : List Step}
    (listed : ∀ m ∈ s.made steps, m.call = .list → ∀ d ∈ m.catalog.devices, d.Addressed) :
    (s.run steps).arbiter.selection.Addressed := by
  induction steps generalizing s with
  | nil => exact h
  | cons step rest ih =>
    obtain ⟨first, others⟩ := List.forall_mem_append.1 listed
    have next : Transition s (s.observe step).2 := step_transition coherent step
    refine ih (next.coherent coherent) (next.addressed coherent h fun lists => ?_) others
    obtain ⟨m, mem, list, same⟩ := Catalog.exists_made_list lists
    rw [← same]
    exact first m mem list

/-- As long as the catalog has listed no Bluetooth device without its address, the clear of Bluetooth
devices ends exactly those: an active Bluetooth device is gone, with its address reported lost and one
call to the catalog, if that is attached; with another device active, or none, nothing happens, even
if devices of other types carry addresses. -/
theorem clearBluetooth_ends_bluetooth (devices : List DeviceDescriptor)
    (kinds : List (BluetoothAddress × BluetoothKind)) (steps : List Step)
    (listed : ∀ m ∈ (start devices kinds).made steps, m.call = .list →
      ∀ d ∈ m.catalog.devices, d.Addressed) :
    let s := (start devices kinds).run steps
    let cleared := s.clearBluetooth.value
    (∀ t, s.arbiter.selection.type = some t → t.isBluetooth = true →
      cleared.arbiter.selection = {} ∧
      (∃ a, s.arbiter.selection.address = some a ∧
        cleared.bluetooth.notices = s.bluetooth.notices ++ [.audioLost a]) ∧
      cleared.catalog.calls =
        s.catalog.calls ++ if s.arbiter.attached = true then [.clear] else []) ∧
    ((∀ t, s.arbiter.selection.type = some t → t.isBluetooth = false) → cleared = s) := by
  intro s cleared
  have coherent : s.arbiter.selection.Coherent := coherent_run_start devices kinds steps
  have addressed : s.arbiter.selection.Addressed :=
    addressed_run (coherent_run_start devices kinds []) nofun listed
  have ends : cleared = if s.arbiter.selection.address.isSome then s.release else s :=
    value_clearBluetooth coherent
  refine ⟨fun t active bluetooth => ?_, fun other => ?_⟩
  · obtain ⟨a, tracked⟩ := Option.isSome_iff_exists.1 (addressed t active bluetooth)
    rw [ends, tracked, Option.isSome_some, if_pos rfl]
    refine ⟨rfl, ⟨a, rfl, ?_⟩, ?_⟩
    · rw [notices_release, tracked]
      rfl
    · cases attached : s.arbiter.attached <;> simp [release, attached, Catalog.clear]
  · rw [ends, coherent.address_eq_none_of_other other]
    rfl

/-- A USB headset with an address of its own is not cleared; the hearing aid that follows it is. -/
theorem hearing_aid_ended :
    let usb : DeviceDescriptor := ⟨.usbHeadset, some ⟨"usb:1"⟩⟩
    let aid : DeviceDescriptor := ⟨.bluetoothHearingAid, some ⟨"33:33"⟩⟩
    let first := [Step.operate (.request .wiredHeadset none)]
    let both := first ++ [.operate (.request .bluetoothHearingAid none)]
    let s := (start [usb, aid] []).run first
    let t := (start [usb, aid] []).run both
    (∀ m ∈ (start [usb, aid] []).made both, m.call = .list →
      ∀ d ∈ m.catalog.devices, d.Addressed) ∧
    s.arbiter.selection.type = some .usbHeadset ∧ s.clearBluetooth.value = s ∧
    t.arbiter.selection.type = some .bluetoothHearingAid ∧
    t.clearBluetooth.value.arbiter.selection = {} := by
  intro usb aid first both s t
  have listed : ∀ m ∈ (start [usb, aid] []).made first, m.call = .list →
      ∀ d ∈ m.catalog.devices, d.Addressed := by
    decide
  have listed' : ∀ m ∈ (start [usb, aid] []).made both, m.call = .list →
      ∀ d ∈ m.catalog.devices, d.Addressed := by
    decide
  have active : s.arbiter.selection.type = some .usbHeadset := by decide
  have active' : t.arbiter.selection.type = some .bluetoothHearingAid := by decide
  have left := (clearBluetooth_ends_bluetooth [usb, aid] [] first listed).2 (by decide)
  have ended := (clearBluetooth_ends_bluetooth [usb, aid] [] both listed').1 _ active' rfl
  exact ⟨listed', active, left, active', ended.1⟩

/-- A Bluetooth device that is listed without an address stays active. -/
example :
    let nameless : DeviceDescriptor := ⟨.bluetoothSco, none⟩
    let s := (start [nameless] []).run [.operate (.request .bluetoothSco none)]
    s.clearBluetooth.value.catalog.active = some nameless := by
  decide

end AudioSystem

end CallAudio
