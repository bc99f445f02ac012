import CallAudio.Proofs.Arbiter.CatalogCalls
import CallAudio.Proofs.Arbiter.Notices

/-!
What a request leaves behind. It is granted exactly when the catalog is attached, the active device
does not satisfy it already, and the platform lists a device that may be taken and accepts it. The
first such device is then held on both sides. A request that is not granted leaves everything as it
was, unless the platform has declined the device: then nothing is active any more on either side.
-/

namespace CallAudio

namespace Selection

/-- The active device satisfies a request for `type`, and no device other than the tracked one is
named. -/
def Satisfies (held : Selection) (type : DeviceType) (address : Option BluetoothAddress) : Prop :=
  (∃ t, held.type = some t ∧ type.isSatisfiedBy t = true) ∧
    ∀ a, address = some a → held.address = some a

theorem leHeadset?_ofDevice (d : DeviceDescriptor) :
    (ofDevice (some d)).leHeadset? = if d.type = .bluetoothLeHeadset then d.address else none := by
  obtain ⟨type, address⟩ := d
  cases type <;> rfl

end Selection

namespace Arbiter

variable {a : Arbiter} {type : DeviceType} {address : Option BluetoothAddress}

theorem isSwitch_eq_false_iff :
    a.isSwitch address = false ↔ ∀ b, address = some b → a.selection.address = some b := by
  cases address <;> simp [isSwitch]

theorem satisfies_iff :
    a.selection.Satisfies type address ↔ (a.isActive type && !a.isSwitch address) = true := by
  rw [Bool.and_eq_true, Bool.not_eq_true', isActive_eq_true_iff, isSwitch_eq_false_iff]
  exact Iff.rfl

end Arbiter

namespace AudioSystem

variable {s s' : AudioSystem} {type : DeviceType} {address : Option BluetoothAddress}

/-! ## The device that is found -/

/-- `d` is the first listed device that a request for `type` may take. -/
def FirstAdmitted (s : AudioSystem) (type : DeviceType) (d : DeviceDescriptor) : Prop :=
  ∃ before after, s.catalog.devices = before ++ d :: after ∧
    s.arbiter.selection.Admits type d ∧ ∀ e ∈ before, ¬s.arbiter.selection.Admits type e

theorem FirstAdmitted.isSatisfiedBy {d : DeviceDescriptor} (h : s.FirstAdmitted type d) :
    type.isSatisfiedBy d.type = true := by
  obtain ⟨_, _, _, admitted, _⟩ := h
  exact admitted.1

theorem find_eligible_eq_some_iff {d : DeviceDescriptor} :
    s.catalog.devices.find? (s.arbiter.isEligible type) = some d ↔ s.FirstAdmitted type d := by
  rw [List.find?_eq_some_iff_append, Arbiter.isEligible_iff_admits]
  constructor
  · rintro ⟨admitted, before, after, split, earlier⟩
    refine ⟨before, after, split, admitted, fun e he admits => ?_⟩
    have : s.arbiter.isEligible type e = true := Arbiter.isEligible_iff_admits.2 admits
    simpa [this] using earlier e he
  · rintro ⟨before, after, split, admitted, earlier⟩
    refine ⟨admitted, before, after, split, fun e he => ?_⟩
    rw [Bool.not_eq_true', ← Bool.not_eq_true, Arbiter.isEligible_iff_admits]
    exact earlier e he

theorem find_eligible_eq_none_iff :
    s.catalog.devices.find? (s.arbiter.isEligible type) = none ↔
      ¬∃ d ∈ s.catalog.devices, s.arbiter.selection.Admits type d := by
  simp only [List.find?_eq_none, Arbiter.isEligible_iff_admits, not_exists, not_and]

/-! ## The state that is left -/

/-- The arbiter and the platform hold `d`; the address tracked before is reported lost, and audio is
reported on if `d` is an LE headset with an address. -/
structure Taken (s : AudioSystem) (d : DeviceDescriptor) (s' : AudioSystem) : Prop where
  attached : s'.arbiter.attached = true
  selection : s'.arbiter.selection = .ofDevice (some d)
  platform : s'.catalog.active = some d
  notices : s'.bluetooth.notices =
    s.bluetooth.notices ++ s.arbiter.selection.address.toList.map .audioLost ++
      (if d.type = .bluetoothLeHeadset then d.address else none).toList.map .audioOn

/-- Neither the arbiter nor the platform holds a device any more; the address tracked before is
reported lost. -/
structure Dropped (s s' : AudioSystem) : Prop where
  selection : s'.arbiter.selection = {}
  platform : s'.catalog.active = none
  notices : s'.bluetooth.notices =
    s.bluetooth.notices ++ s.arbiter.selection.address.toList.map .audioLost

/-- The arbiter, the active device of the platform and the Bluetooth stack are as they were. -/
structure Untouched (s s' : AudioSystem) : Prop where
  arbiter : s'.arbiter = s.arbiter
  platform : s'.catalog.active = s.catalog.active
  bluetooth : s'.bluetooth = s.bluetooth

@[simp] theorem attached_vacate (s : AudioSystem) :
    s.vacate.arbiter.attached = s.arbiter.attached := by
  unfold vacate
  split <;> rfl

/-- Once nothing is active for the arbiter, nothing is for an attached platform. -/
theorem active_vacate (coherent : s.arbiter.selection.Coherent) (agrees : s.Agrees)
    (attached : s.arbiter.attached = true) : s.vacate.catalog.active = none := by
  -- the two sides agree before and after, and the arbiter is the one that is known to be empty
  have still : s.vacate.arbiter.selection = .ofDevice s.vacate.catalog.active :=
    agrees.vacate (by rw [attached_vacate, attached])
  rw [selection_vacate coherent] at still
  exact Selection.type_ofDevice_eq_none_iff.1 (congrArg Selection.type still.symm)

/-- A granted request has taken the first device that it may take. -/
theorem Requested.taken (coherent : s.arbiter.selection.Coherent)
    (requested : Requested s type address true s') :
    ∃ d, s.FirstAdmitted type d ∧ Taken s d s' := by
  cases requested with
  | accepted _ attached d found accepts =>
    -- all of this is read off `s.listed`, which differs from `s` in the calls made only
    have selection := selection_adopt_vacate (s := s.listed) coherent d
    have vacated := notices_vacate (s := s.listed) coherent
    refine ⟨d, find_eligible_eq_some_iff.1 found, ?_, selection, ?_, ?_⟩
    · exact (attached_vacate s.listed).trans attached
    · exact active_offer_of_accepting ((declining_vacate s.listed).trans accepts) d
    · rw [notices_adopt, selection]
      exact congr (congrArg _ vacated)
        (congrArg (·.toList.map BluetoothNotice.audioOn) (Selection.leHeadset?_ofDevice d))

theorem request_taken (coherent : s.arbiter.selection.Coherent)
    (granted : (s.request type address).value.1 = true) :
    ∃ d, s.FirstAdmitted type d ∧ Taken s d (s.request type address).value.2 := by
  have requested := requested_request coherent type address
  rw [granted] at requested
  exact requested.taken coherent

/-- A request that is not granted has changed nothing, or has lost the active device to one that the
platform was asked for last and declined. -/
theorem Requested.untouched_or_dropped (coherent : s.arbiter.selection.Coherent)
    (agrees : s.Agrees) (requested : Requested s type address false s') :
    Untouched s s' ∨ s.catalog.declining = true ∧
      ∃ d, s.FirstAdmitted type d ∧ s'.catalog.calls.getLast? = some (.set d) ∧ Dropped s s' := by
  cases requested with
  | satisfied | detached | unavailable => exact .inl ⟨rfl, rfl, rfl⟩
  | declined _ attached d found declines =>
    have stays : s.listed.vacate.catalog.declining = true :=
      (declining_vacate s.listed).trans declines
    refine .inr ⟨declines, d, find_eligible_eq_some_iff.1 found, ?_, ?_, ?_, ?_⟩
    · have calls : (s.listed.vacate.offer d).catalog.calls =
          s.listed.vacate.catalog.calls ++ [.set d] := Catalog.calls_call _ (.set d)
      rw [calls]
      exact List.getLast?_concat
    · exact selection_vacate (s := s.listed) coherent
    · rw [active_offer_of_declining stays]
      exact active_vacate (s := s.listed) coherent agrees attached
    · exact notices_vacate (s := s.listed) coherent

/-- When a request is granted. -/
theorem Requested.changed_iff {changed : Bool} (requested : Requested s type address changed s') :
    changed = true ↔ s.arbiter.attached = true ∧ ¬s.arbiter.selection.Satisfies type address ∧
      (∃ d ∈ s.catalog.devices, s.arbiter.selection.Admits type d) ∧
      s.catalog.declining = false := by
  cases requested with
  | satisfied active same =>
    have : s.arbiter.selection.Satisfies type address :=
      Arbiter.satisfies_iff.2 (by simp [active, same])
    simp [this]
  | detached _ detached => simp [detached]
  | unavailable _ _ missing => simp [find_eligible_eq_none_iff.1 missing]
  | declined _ _ _ _ declines => simp [declines]
  | accepted wanted attached d found accepts =>
    have unsatisfied : ¬s.arbiter.selection.Satisfies type address := by
      rw [Arbiter.satisfies_iff, wanted]
      exact Bool.false_ne_true
    have eligible := List.find?_some found
    exact iff_of_true rfl ⟨attached, unsatisfied,
      ⟨d, List.mem_of_find?_eq_some found, Arbiter.isEligible_iff_admits.1 eligible⟩, accepts⟩

/-- A request, in whatever state it comes and whatever the platform lists and accepts, takes the
first device that it may take or takes nothing. It is granted exactly when the catalog is attached,
the active device does not satisfy it yet, and such a device is listed and not declined. Otherwise
nothing has changed, or the platform was asked for that device and declined it: then the device
active before is gone from both sides, with its address reported lost. -/
theorem request_all_or_nothing (devices : List DeviceDescriptor)
    (kinds : List (BluetoothAddress × BluetoothKind)) (steps : List Step) (type : DeviceType)
    (address : Option BluetoothAddress) :
    let s := (start devices kinds).run steps
    let held := s.arbiter.selection
    let r := (s.request type address).value
    (r.1 = true ↔ s.arbiter.attached = true ∧ ¬held.Satisfies type address ∧
      (∃ d ∈ s.catalog.devices, held.Admits type d) ∧ s.catalog.declining = false) ∧
    (r.1 = true → ∃ d, s.FirstAdmitted type d ∧ Taken s d r.2) ∧
    (r.1 = false → Untouched s r.2 ∨ s.catalog.declining = true ∧
      ∃ d, s.FirstAdmitted type d ∧ r.2.catalog.calls.getLast? = some (.set d) ∧
        Dropped s r.2) := by
  intro s held r
  obtain ⟨coherent, agrees⟩ := run_induction (P := Agrees) (fun _ _ c h n => h.transition c n)
    (coherent_run_start devices kinds []) (.start devices kinds) steps
  have requested : Requested s type address r.1 r.2 := requested_request coherent type address
  refine ⟨requested.changed_iff, request_taken coherent, fun refused => ?_⟩
  rw [refused] at requested
  exact requested.untouched_or_dropped coherent agrees

/-- The second of two headsets is asked for while the first is active: it takes over from the first,
or takes it away where the platform declines it. -/
theorem second_headset_taken_or_first_dropped :
    let first : DeviceDescriptor := ⟨.bluetoothLeHeadset, some ⟨"11:11"⟩⟩
    let second : DeviceDescriptor := ⟨.bluetoothLeHeadset, some ⟨"22:22"⟩⟩
    let steps := [Step.operate (.request .bluetoothLeHeadset (some ⟨"11:11"⟩))]
    let s := (start [first, second] []).run steps
    let t := (start [first, second] []).run (steps ++ [.decline true])
    let r := (s.request .bluetoothLeHeadset (some ⟨"22:22"⟩)).value
    let q := (t.request .bluetoothLeHeadset (some ⟨"22:22"⟩)).value
    (r.1 = true ∧ ∃ d, s.FirstAdmitted .bluetoothLeHeadset d ∧ Taken s d r.2) ∧
    q.1 = false ∧ (Untouched t q.2 ∨ t.catalog.declining = true ∧
      ∃ d, t.FirstAdmitted .bluetoothLeHeadset d ∧ q.2.catalog.calls.getLast? = some (.set d) ∧
        Dropped t q.2) := by
  intro first second steps s t r q
  have granted : r.1 = true := by decide
  have refused : q.1 = false := by decide
  have taken := request_all_or_nothing [first, second] [] steps .bluetoothLeHeadset
    (some ⟨"22:22"⟩)
  have dropped := request_all_or_nothing [first, second] [] (steps ++ [.decline true])
    .bluetoothLeHeadset (some ⟨"22:22"⟩)
  exact ⟨⟨granted, taken.2.1 granted⟩, refused, dropped.2.2 refused⟩

end AudioSystem

end CallAudio
