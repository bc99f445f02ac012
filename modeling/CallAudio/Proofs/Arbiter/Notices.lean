import CallAudio.Proofs.Arbiter.NamedDevice
import Mathlib.Data.List.Chain

/-!
What the Bluetooth stack is told along a run. A step that changes the active device reports the
address tracked before as lost, and then audio as on if an LE headset with an address has come up; a
step that leaves the active device alone reports nothing. So the notices of a step depend on the
selections before and after it only, and those of a run come in pairs.
-/

namespace CallAudio

/-- The address that a notice reports lost. -/
def BluetoothNotice.lost? : BluetoothNotice → Option BluetoothAddress
  | audioLost a => some a
  | audioOn _ => none

namespace Selection

/-- The address of the active device, if that is an LE headset. -/
def leHeadset? (s : Selection) : Option BluetoothAddress :=
  match s.type with
  | some .bluetoothLeHeadset => s.address
  | _ => none

theorem leHeadset?_eq_some_iff {s : Selection} {a : BluetoothAddress} :
    s.leHeadset? = some a ↔ s = { type := some .bluetoothLeHeadset, address := some a } := by
  obtain ⟨type, address⟩ := s
  constructor
  · intro h
    unfold leHeadset? at h
    split at h
    · simp_all
    · cases h
  · intro h
    cases h
    rfl

theorem address_of_leHeadset? {s : Selection} {a : BluetoothAddress} (h : s.leHeadset? = some a) :
    s.address = some a := by
  rw [leHeadset?_eq_some_iff.1 h]

theorem leHeadset?_eq_none {s : Selection} (h : s.address = none) : s.leHeadset? = none := by
  refine Option.eq_none_iff_forall_ne_some.2 fun a le => ?_
  rw [address_of_leHeadset? le] at h
  cases h

/-- The address of the Bluetooth device that is no longer the active one after a change. -/
def departed (before after : Selection) : Option BluetoothAddress :=
  if after = before then none else before.address

/-- The address of the LE headset that is the active one only after a change. -/
def arrived (before after : Selection) : Option BluetoothAddress :=
  if after = before then none else after.leHeadset?

/-- What the Bluetooth stack is told of a change. -/
def notices (before after : Selection) : List BluetoothNotice :=
  (departed before after).toList.map .audioLost ++ (arrived before after).toList.map .audioOn

@[simp] theorem notices_self (s : Selection) : s.notices s = [] := by
  simp [notices, departed, arrived]

theorem notices_of_ne {before after : Selection} (h : after ≠ before) :
    before.notices after =
      before.address.toList.map .audioLost ++ after.leHeadset?.toList.map .audioOn := by
  simp [notices, departed, arrived, h]

theorem lost_notices (before after : Selection) :
    (before.notices after).filterMap BluetoothNotice.lost? = (departed before after).toList := by
  unfold notices
  cases departed before after <;> cases arrived before after <;> rfl

theorem audioOn_mem_notices_iff {before after : Selection} {a : BluetoothAddress} :
    .audioOn a ∈ before.notices after ↔
      after = { type := some .bluetoothLeHeadset, address := some a } ∧ after ≠ before := by
  rw [← leHeadset?_eq_some_iff]
  by_cases h : after = before
  · simp [h]
  · rw [notices_of_ne h]
    simp [h]

end Selection

namespace AudioSystem

open Selection (departed)

/-! ## One step -/

/-- Releasing the active device reports its address lost, if it has one. -/
theorem notices_release (s : AudioSystem) :
    s.release.bluetooth.notices =
      s.bluetooth.notices ++ s.arbiter.selection.address.toList.map .audioLost := by
  cases h : s.arbiter.selection.address <;> simp [release, BluetoothStack.notify, h]

theorem notices_vacate {s : AudioSystem} (h : s.arbiter.selection.Coherent) :
    s.vacate.bluetooth.notices =
      s.bluetooth.notices ++ s.arbiter.selection.address.toList.map .audioLost := by
  cases ht : s.arbiter.selection.type with
  | some t => rw [vacate_of_some ht, notices_release]
  | none => simp [vacate_of_none ht, h.address_eq_none ht]

/-- Taking a device as the active one reports audio on, if it is an LE headset with an address. -/
theorem notices_adopt {s : AudioSystem} {d : DeviceDescriptor} :
    (s.adopt d).bluetooth.notices =
      s.bluetooth.notices ++ (s.adopt d).arbiter.selection.leHeadset?.toList.map .audioOn := by
  obtain ⟨type, address⟩ := d
  cases type <;> cases address <;>
    simp [adopt, Selection.leHeadset?, DeviceType.isBluetooth, BluetoothStack.notify]

/-- The search passes over the tracked address, so that a device that is taken never has it. -/
theorem address_ne_of_find_eligible {s : AudioSystem} {type : DeviceType} {d : DeviceDescriptor}
    (found : s.catalog.devices.find? (s.arbiter.isEligible type) = some d) {a : BluetoothAddress}
    (tracked : s.arbiter.selection.address = some a) : d.address ≠ some a := by
  intro same
  have admitted : s.arbiter.selection.Admits type d :=
    Arbiter.isEligible_iff_admits.1 (List.find?_some found)
  exact admitted.2 a same tracked

/-- What a step does to the selection and the notices: nothing, or it reports what it ends and what
it begins, and does not keep the tracked address. -/
theorem Transition.change {s s' : AudioSystem} (coherent : s.arbiter.selection.Coherent)
    (next : Transition s s') :
    (s'.arbiter.selection = s.arbiter.selection ∧ s'.bluetooth.notices = s.bluetooth.notices) ∨
      (∀ a, s.arbiter.selection.address = some a → s'.arbiter.selection.address ≠ some a) ∧
      s'.bluetooth.notices =
        s.bluetooth.notices ++ s.arbiter.selection.address.toList.map .audioLost ++
          s'.arbiter.selection.leHeadset?.toList.map .audioOn := by
  cases next with
  | idle | detach | setDevices | decline | setKind | resetCalls => exact .inl ⟨rfl, rfl⟩
  | release =>
    refine .inr ⟨fun a _ => by simp, ?_⟩
    simp [notices_release, Selection.leHeadset?]
  | request requested =>
    have vacated := notices_vacate (s := s.listed) coherent
    cases requested with
    | satisfied | detached | unavailable => exact .inl ⟨rfl, rfl⟩
    | declined _ _ device _ _ =>
      have none : (s.listed.vacate.offer device).arbiter.selection = {} :=
        selection_vacate (s := s.listed) coherent
      refine .inr ⟨fun a _ => by simp [none], ?_⟩
      rw [none]
      exact vacated.trans (List.append_nil _).symm
    | accepted _ _ device found _ =>
      refine .inr ⟨fun a tracked => ?_, ?_⟩
      · rw [selection_adopt_vacate (s := s.listed) coherent]
        have other := address_ne_of_find_eligible found tracked
        split <;> simp [other]
      · rw [notices_adopt]
        exact congrArg (· ++ _) vacated

/-- A step that changes the active device does not keep the tracked address. -/
theorem Transition.address_ne {s s' : AudioSystem} (coherent : s.arbiter.selection.Coherent)
    (next : Transition s s') (changed : s'.arbiter.selection ≠ s.arbiter.selection)
    {a : BluetoothAddress} (tracked : s.arbiter.selection.address = some a) :
    s'.arbiter.selection.address ≠ some a := by
  rcases next.change coherent with ⟨same, _⟩ | ⟨other, _⟩
  · exact absurd same changed
  · exact other a tracked

/-- The device that departs in a step is the one whose address is given up. -/
theorem Transition.departed_eq {s s' : AudioSystem} (coherent : s.arbiter.selection.Coherent)
    (next : Transition s s') :
    (departed s.arbiter.selection s'.arbiter.selection).toList =
      if s'.arbiter.selection.address = s.arbiter.selection.address then []
      else s.arbiter.selection.address.toList := by
  by_cases same : s'.arbiter.selection = s.arbiter.selection
  · simp [departed, same]
  · rw [departed, if_neg same]
    split
    · rename_i kept
      have none : s.arbiter.selection.address = none := by
        refine Option.eq_none_iff_forall_ne_some.2 fun a tracked => ?_
        exact next.address_ne coherent same tracked (kept.trans tracked)
      rw [none]
      rfl
    · rfl

/-- The notices of a step are those of the change it makes to the selection. -/
theorem Transition.notices_eq {s s' : AudioSystem} (coherent : s.arbiter.selection.Coherent)
    (next : Transition s s') :
    s'.bluetooth.notices =
      s.bluetooth.notices ++ s.arbiter.selection.notices s'.arbiter.selection := by
  rcases next.change coherent with ⟨same, quiet⟩ | ⟨other, told⟩
  · rw [same, quiet, Selection.notices_self, List.append_nil]
  · by_cases same : s'.arbiter.selection = s.arbiter.selection
    -- a device without an address may be replaced by its like, which nobody is told
    · have none : s.arbiter.selection.address = none := by
        refine Option.eq_none_iff_forall_ne_some.2 fun a tracked => other a tracked ?_
        rw [same, tracked]
      rw [told, same, none, Selection.leHeadset?_eq_none none, Selection.notices_self]
      simp
    · rw [told, Selection.notices_of_ne same, List.append_assoc]

/-! ## Pairs of notices -/

/-- One notice may directly follow another: after audio on comes the loss of the same device. -/
def BluetoothNotice.MayFollow (m n : BluetoothNotice) : Prop :=
  ∀ a, m = .audioOn a → n = .audioLost a

/-- A log of notices in pairs, of which the last is open for the device `opened`, if any. -/
structure Paired (log : List BluetoothNotice) (opened : Option BluetoothAddress) : Prop where
  chain : log.IsChain BluetoothNotice.MayFollow
  last : ∀ a, log.getLast? = some (.audioOn a) ↔ opened = some a

theorem Paired.nil : Paired [] none :=
  ⟨.nil, by simp⟩

variable {log : List BluetoothNotice} {opened : Option BluetoothAddress}

theorem Paired.lost (h : Paired log opened) {a : BluetoothAddress} (ha : ∀ b ∈ opened, b = a) :
    Paired (log ++ [.audioLost a]) none := by
  refine ⟨List.isChain_append.2 ⟨h.chain, .singleton _, ?_⟩, by simp⟩
  rintro m last n (⟨⟩ : _ = some n) b rfl
  -- what was open before is what is lost now
  rw [ha b ((h.last b).1 last)]

theorem Paired.on (h : Paired log none) (a : BluetoothAddress) :
    Paired (log ++ [.audioOn a]) (some a) := by
  refine ⟨List.isChain_append.2 ⟨h.chain, .singleton _, ?_⟩, by simp⟩
  rintro m last n - b rfl
  cases (h.last b).1 last

/-- After a change the log is open for the LE headset that is active then. -/
theorem Paired.change {before after : Selection} (h : Paired log before.leHeadset?) :
    Paired (log ++ before.address.toList.map .audioLost ++ after.leHeadset?.toList.map .audioOn)
      after.leHeadset? := by
  have closed : Paired (log ++ before.address.toList.map .audioLost) none := by
    cases ha : before.address with
    | none => simpa [Selection.leHeadset?_eq_none ha] using h
    | some a =>
      refine h.lost fun b le => ?_
      exact Option.some.inj ((Selection.address_of_leHeadset? le).symm.trans ha)
  cases after.leHeadset? with
  | none => simpa using closed
  | some a => exact closed.on a

theorem Paired.transition {s s' : AudioSystem} (coherent : s.arbiter.selection.Coherent)
    (h : Paired s.bluetooth.notices s.arbiter.selection.leHeadset?) (next : Transition s s') :
    Paired s'.bluetooth.notices s'.arbiter.selection.leHeadset? := by
  rcases next.change coherent with ⟨same, quiet⟩ | ⟨_, told⟩
  · rw [same, quiet]
    exact h
  · rw [told]
    exact h.change

/-! ## Runs -/

/-- The addresses of the Bluetooth devices that stop being the active one along a run. -/
def departures (s : AudioSystem) : List Step → List BluetoothAddress
  | [] => []
  | step :: rest =>
    let s' := (s.observe step).2
    (departed s.arbiter.selection s'.arbiter.selection).toList ++ s'.departures rest

theorem notices_observe {s : AudioSystem} (coherent : s.arbiter.selection.Coherent) (step : Step) :
    (s.observe step).1.notices =
      s.arbiter.selection.notices (s.observe step).2.arbiter.selection := by
  show since s.bluetooth.notices (s.step step).value.2.bluetooth.notices = _
  rw [(step_transition coherent step).notices_eq coherent, since_append]
  rfl

theorem lost_run {s : AudioSystem} (coherent : s.arbiter.selection.Coherent) (steps : List Step) :
    (s.run steps).bluetooth.notices.filterMap BluetoothNotice.lost? =
      s.bluetooth.notices.filterMap BluetoothNotice.lost? ++ s.departures steps := by
  induction steps generalizing s with
  | nil => exact (List.append_nil _).symm
  | cons step rest ih =>
    have next : Transition s (s.observe step).2 := step_transition coherent step
    rw [run, ih (next.coherent coherent), next.notices_eq coherent, List.filterMap_append,
      Selection.lost_notices, List.append_assoc]
    rfl

theorem paired_run_start (devices : List DeviceDescriptor)
    (kinds : List (BluetoothAddress × BluetoothKind)) (steps : List Step) :
    let s := (start devices kinds).run steps
    Paired s.bluetooth.notices s.arbiter.selection.leHeadset? :=
  (run_induction (P := fun s => Paired s.bluetooth.notices s.arbiter.selection.leHeadset?)
    (fun _ _ coherent h next => h.transition coherent next) (coherent_run_start devices kinds [])
    .nil steps).2

/-- Along every run audio on and audio lost come in pairs. The log ends with audio on for a device
exactly while that is the active LE headset; audio is reported on only for a device that becomes the
active LE headset; a step reports the tracked address as lost exactly when it gives it up, and
nothing else; so the losses are, one by one, the devices with an address that stopped being the
active one. -/
theorem notices_paired (devices : List DeviceDescriptor)
    (kinds : List (BluetoothAddress × BluetoothKind)) (steps : List Step) :
    let s := (start devices kinds).run steps
    let log := s.bluetooth.notices
    log.IsChain (fun m n => ∀ a, m = .audioOn a → n = .audioLost a) ∧
    (∀ a, log.getLast? = some (.audioOn a) ↔
      s.arbiter.selection = { type := some .bluetoothLeHeadset, address := some a }) ∧
    (∀ step,
      let s' := (s.observe step).2
      let told := (s.observe step).1.notices
      (∀ a, .audioOn a ∈ told ↔
        s'.arbiter.selection = { type := some .bluetoothLeHeadset, address := some a } ∧
        s'.arbiter.selection ≠ s.arbiter.selection) ∧
      told.filterMap BluetoothNotice.lost? =
        if s'.arbiter.selection.address = s.arbiter.selection.address then []
        else s.arbiter.selection.address.toList) ∧
    log.filterMap BluetoothNotice.lost? = (start devices kinds).departures steps := by
  intro s log
  have coherent : s.arbiter.selection.Coherent := coherent_run_start devices kinds steps
  have paired : Paired log s.arbiter.selection.leHeadset? := paired_run_start devices kinds steps
  refine ⟨paired.chain, fun a => ?_, fun step => ⟨fun a => ?_, ?_⟩, ?_⟩
  · rw [paired.last, Selection.leHeadset?_eq_some_iff]
  · rw [notices_observe coherent, Selection.audioOn_mem_notices_iff]
  · rw [notices_observe coherent, Selection.lost_notices]
    exact (step_transition coherent step).departed_eq coherent
  · exact lost_run (coherent_run_start devices kinds []) steps

end AudioSystem

end CallAudio
