import CallAudio.Proofs.Arbiter.Outcome

/-!
A request that has been granted stays satisfied: asking for the same again, or clearing what is not
active, does nothing at all, however the platform changes meanwhile and even once it is detached.
-/

namespace CallAudio

namespace AudioSystem

/-- Steps that ask nothing of the arbiter: changes of the platform, and the detach. -/
inductive Step.Aside : Step → Prop
  | setDevices (devices : List DeviceDescriptor) : Aside (.setDevices devices)
  | decline (on : Bool) : Aside (.decline on)
  | setKind (address : BluetoothAddress) (kind : BluetoothKind) : Aside (.setKind address kind)
  | detach : Aside (.operate .detach)

/-- The steps that have nothing to do after a request for `type` at `address` while `held` is active:
the request again or without its address, a request for the type that is active, and the clear of
another. -/
inductive Step.Redundant (held : Selection) (type : DeviceType)
    (address : Option BluetoothAddress) : Step → Prop
  | aside {step : Step} (aside : step.Aside) : Redundant held type address step
  | repeated : Redundant held type address (.operate (.request type address))
  | unnamed : Redundant held type address (.operate (.request type none))
  | resolved {t : DeviceType} {b : Option BluetoothAddress} (active : held.type = some t)
      (same : b = none ∨ b = held.address) : Redundant held type address (.operate (.request t b))
  | otherClear {u : DeviceType} (other : ∀ t, held.type = some t → u.isSatisfiedBy t = false) :
      Redundant held type address (.operate (.clear u))

/-- The arbiter holds what it held, and nobody was called or told anything. -/
structure Kept (s s' : AudioSystem) : Prop where
  selection : s'.arbiter.selection = s.arbiter.selection
  platform : s'.catalog.active = s.catalog.active
  calls : s'.catalog.calls = s.catalog.calls
  notices : s'.bluetooth.notices = s.bluetooth.notices

theorem Kept.refl (s : AudioSystem) : Kept s s :=
  ⟨rfl, rfl, rfl, rfl⟩

theorem Kept.trans {s t u : AudioSystem} (h : Kept s t) (next : Kept t u) : Kept s u :=
  ⟨next.selection.trans h.selection, next.platform.trans h.platform, next.calls.trans h.calls,
    next.notices.trans h.notices⟩

variable {s : AudioSystem} {type : DeviceType} {address : Option BluetoothAddress} {step : Step}

/-! ## One step -/

theorem Step.Aside.kept (h : step.Aside) (s : AudioSystem) : Kept s (s.observe step).2 := by
  cases h with
  | setDevices | decline | setKind => exact ⟨rfl, rfl, rfl, rfl⟩
  | detach =>
    show Kept s s.detach.value
    unfold AudioSystem.detach
    split <;> exact ⟨rfl, rfl, rfl, rfl⟩

theorem value_request_of_satisfied (h : s.arbiter.selection.Satisfies type address) :
    (s.request type address).value = (false, s) := by
  rw [value_request, if_pos (Arbiter.satisfies_iff.1 h)]

theorem value_clear_of_inactive (h : s.arbiter.isActive type = false) :
    (s.clear type).value = s := by
  rw [clear, if_neg (Bool.eq_false_iff.1 h)]
  rfl

/-- Every request among the redundant ones is satisfied. -/
theorem Step.Redundant.satisfies {held : Selection} {t : DeviceType} {b : Option BluetoothAddress}
    (satisfied : held.Satisfies type address)
    (h : Redundant held type address (.operate (.request t b))) : held.Satisfies t b := by
  cases h with
  | aside aside => cases aside
  | repeated => exact satisfied
  | unnamed => exact ⟨satisfied.1, nofun⟩
  | resolved active same =>
    refine ⟨⟨t, active, t.isSatisfiedBy_self⟩, fun a named => ?_⟩
    rcases same with rfl | rfl
    · cases named
    · exact named

theorem Step.Redundant.kept (satisfied : s.arbiter.selection.Satisfies type address)
    (h : step.Redundant s.arbiter.selection type address) : Kept s (s.observe step).2 := by
  have request : ∀ t b, step = .operate (.request t b) → Kept s (s.observe step).2 := by
    rintro t b rfl
    show Kept s (s.request t b).value.2
    rw [value_request_of_satisfied (h.satisfies satisfied)]
    exact .refl s
  cases h with
  | aside aside => exact aside.kept s
  | repeated | unnamed | resolved => exact request _ _ rfl
  | @otherClear u other =>
    have inactive : s.arbiter.isActive u = false := by
      rw [← Bool.not_eq_true, Arbiter.isActive_eq_true_iff]
      rintro ⟨t, ht, sat⟩
      rw [other t ht] at sat
      cases sat
    show Kept s (s.clear u).value
    rw [value_clear_of_inactive inactive]
    exact .refl s

/-! ## Runs -/

/-- Nothing is seen of a step: no call, no notice, no change of the active device, and a request is
answered with `false`. -/
structure Idle (held : Selection) (platform : Option DeviceDescriptor) (step : Step)
    (o : Observation) : Prop where
  reply : ∀ t b, step = .operate (.request t b) → o.reply = .flag false
  calls : o.calls = []
  notices : o.notices = []
  selection : o.selection = held
  platform : o.platform = platform

theorem Step.Redundant.idle (satisfied : s.arbiter.selection.Satisfies type address)
    (h : step.Redundant s.arbiter.selection type address) :
    Idle s.arbiter.selection s.catalog.active step (s.observe step).1 := by
  have kept := h.kept satisfied
  refine ⟨?_, ?_, ?_, kept.selection, kept.platform⟩
  · rintro t b rfl
    show Reply.flag (s.request t b).value.1 = .flag false
    rw [value_request_of_satisfied (h.satisfies satisfied)]
  · show since s.catalog.calls (s.observe step).2.catalog.calls = []
    rw [kept.calls]
    exact List.drop_length
  · show since s.bluetooth.notices (s.observe step).2.bluetooth.notices = []
    rw [kept.notices]
    exact List.drop_length

theorem idle_observations {held : Selection} {platform : Option DeviceDescriptor}
    (satisfied : held.Satisfies type address) {later : List Step}
    (redundant : ∀ step ∈ later, step.Redundant held type address)
    (selection : s.arbiter.selection = held) (active : s.catalog.active = platform) :
    List.Forall₂ (Idle held platform) later (s.observations later) := by
  induction later generalizing s with
  | nil => exact .nil
  | cons step rest ih =>
    obtain ⟨first, others⟩ := List.forall_mem_cons.1 redundant
    -- what is redundant depends on the selection only, which the first step has kept
    subst selection active
    have kept := first.kept satisfied
    exact .cons (first.idle satisfied) (ih others kept.selection kept.platform)

/-- A granted request that names no other device than the one it got is satisfied from then on: the
same request, with its address or without, requests for the type that was taken, and clears of types
that the active device does not satisfy are all idle, in any number and order and among any changes
of the platform, the detach included. -/
theorem granted_request_stays_satisfied (devices : List DeviceDescriptor)
    (kinds : List (BluetoothAddress × BluetoothKind)) (steps : List Step) (type : DeviceType)
    (address : Option BluetoothAddress) :
    let s := (start devices kinds).run steps
    let granted := (s.request type address).value
    let held := granted.2.arbiter.selection
    granted.1 = true → (address = none ∨ address = held.address) →
      ∀ later : List Step, (∀ step ∈ later, step.Redundant held type address) →
        List.Forall₂ (Idle held granted.2.catalog.active) later
          (granted.2.observations later) := by
  intro s granted held changed named later redundant
  obtain ⟨d, first, taken⟩ := request_taken (coherent_run_start devices kinds steps) changed
  -- the type that was taken need not be the one requested: a USB headset meets a wired request
  have satisfied : held.Satisfies type address := by
    refine ⟨⟨d.type, congrArg Selection.type taken.selection, first.isSatisfiedBy⟩, fun a ha => ?_⟩
    rcases named with none | same
    · rw [none] at ha
      cases ha
    · rw [← same, ha]
  exact idle_observations satisfied redundant rfl rfl

/-- A request for a wired headset that a USB headset has met, and one for an LE headset by its
address: each is repeated, cleared beside and repeated while the platform changes and goes. -/
theorem usb_and_le_headset_stay :
    let usb : DeviceDescriptor := ⟨.usbHeadset, none⟩
    let le : DeviceDescriptor := ⟨.bluetoothLeHeadset, some ⟨"11:11"⟩⟩
    let s := start [usb, le] []
    let wired := (s.request .wiredHeadset none).value
    let named := (s.request .bluetoothLeHeadset (some ⟨"11:11"⟩)).value
    let later := [Step.operate (.request .wiredHeadset none), .setDevices [le],
      .operate (.request .usbHeadset none), .operate (.clear .speaker), .operate .detach,
      .operate (.request .wiredHeadset none)]
    let later' := [Step.operate (.request .bluetoothLeHeadset none), .decline true,
      .operate (.clear .bluetoothSco),
      .operate (.request .bluetoothLeHeadset (some ⟨"11:11"⟩))]
    wired.1 = true ∧ named.1 = true ∧
      some ⟨"11:11"⟩ = named.2.arbiter.selection.address ∧
      List.Forall₂ (Idle wired.2.arbiter.selection wired.2.catalog.active) later
        (wired.2.observations later) ∧
      List.Forall₂ (Idle named.2.arbiter.selection named.2.catalog.active) later'
        (named.2.observations later') := by
  intro usb le s wired named later later'
  have met : wired.1 = true := by decide
  have met' : named.1 = true := by decide
  have tracked : some ⟨"11:11"⟩ = named.2.arbiter.selection.address := by decide
  have redundant : ∀ step ∈ later,
      step.Redundant wired.2.arbiter.selection .wiredHeadset none := by
    simp only [later, List.forall_mem_cons]
    exact ⟨.repeated, .aside (.setDevices _), .resolved rfl (.inl rfl),
      .otherClear (by rintro t ⟨⟩; rfl), .aside .detach, .repeated,
      List.forall_mem_nil _⟩
  have redundant' : ∀ step ∈ later',
      step.Redundant named.2.arbiter.selection .bluetoothLeHeadset (some ⟨"11:11"⟩) := by
    simp only [later', List.forall_mem_cons]
    exact ⟨.unnamed, .aside (.decline _), .otherClear (by rintro t ⟨⟩; rfl), .repeated,
      List.forall_mem_nil _⟩
  exact ⟨met, met', tracked,
    granted_request_stays_satisfied [usb, le] [] [] _ _ met (.inl rfl) later redundant,
    granted_request_stays_satisfied [usb, le] [] [] _ _ met' (.inr tracked) later' redundant'⟩

end AudioSystem

end CallAudio
