import CallAudio.Proofs.Json.Shape

/-!
What is written as a document reads back as itself: descriptors, selections, audio states and
configurations, whatever their texts and numbers.
-/

namespace CallAudio

open Json (Reads Fills Reader reads_nat reads_text reads_bool reads_ofOption reads_ofKeyed
  reads_list)

theorem DeviceType.ofKey?_key (t : DeviceType) : Keyed.ofKey? (Keyed.key t) = some t := by
  cases t <;> decide

theorem AudioRoute.ofKey?_key (r : AudioRoute) : Keyed.ofKey? (Keyed.key r) = some r := by
  cases r <;> decide

namespace BluetoothAddress

theorem reads (a : BluetoothAddress) : Reads reader a.toDocument a :=
  (reads_text a.text).map BluetoothAddress.mk

/-- An address is present or not, and `null` is none. -/
theorem reads_optional (a : Option BluetoothAddress) :
    Reads (Json.readOption reader) (.ofOption toDocument a) a :=
  reads_ofOption reads (fun _ => nofun) a

end BluetoothAddress

namespace DeviceDescriptor

theorem reads (d : DeviceDescriptor) : Reads shape.reader d.toDocument d := by
  have type : Reads Json.readKeyed (.ofKeyed d.type) d.type :=
    reads_ofKeyed d.type d.type.ofKey?_key
  have address := BluetoothAddress.reads_optional d.address
  refine Json.Shape.reads_object (by decide)
    (.cons (type.map fun type => { shape.base with type }) ?_)
  exact .cons (address.map fun address => { d with address }) (.nil d)

end DeviceDescriptor

namespace Selection

theorem reads (s : Selection) : Reads shape.reader s.toDocument s := by
  have type : Reads (Json.readOption Json.readKeyed) (.ofOption .ofKeyed s.type) s.type :=
    reads_ofOption (fun t => reads_ofKeyed t t.ofKey?_key) (fun _ => nofun) s.type
  have address := BluetoothAddress.reads_optional s.address
  refine Json.Shape.reads_object (by decide)
    (.cons (type.map fun type => { shape.base with type }) ?_)
  exact .cons (address.map fun address => { s with address }) (.nil s)

end Selection

namespace CallAudioState

theorem reads (s : CallAudioState) : Reads shape.reader s.toDocument s := by
  have route : Reads Json.readKeyed (.ofKeyed s.route) s.route :=
    reads_ofKeyed s.route s.route.ofKey?_key
  have supported : Reads (Json.readList Json.readKeyed) (.list (s.supported.map .ofKeyed))
      s.supported := reads_list (fun r => reads_ofKeyed r r.ofKey?_key) s.supported
  have muted := reads_bool s.muted
  have device := BluetoothAddress.reads_optional s.device
  let routed : CallAudioState := { shape.base with route := s.route }
  let offering : CallAudioState := { routed with supported := s.supported }
  refine Json.Shape.reads_object (by decide)
    (.cons (route.map fun route => { shape.base with route }) ?_)
  refine .cons (supported.map fun supported => { routed with supported }) ?_
  refine .cons (muted.map fun muted => { offering with muted }) ?_
  exact .cons (device.map fun device => { s with device }) (.nil s)

end CallAudioState

namespace RoutingConfig

theorem reads {c : RoutingConfig} (capacity : c.queueCapacity < Nat.pow 2 64)
    (history : c.historySize < Nat.pow 2 64) : Reads shape.reader c.toDocument c := by
  have queueCapacity := reads_nat capacity
  have workerName := reads_text c.workerName
  have historySize := reads_nat history
  let bounded : RoutingConfig := { shape.base with queueCapacity := c.queueCapacity }
  refine Json.Shape.reads_object (by decide)
    (.cons (queueCapacity.map fun queueCapacity => { shape.base with queueCapacity }) ?_)
  refine .cons (workerName.map fun workerName => { bounded with workerName }) ?_
  exact .cons (historySize.map fun historySize => { c with historySize }) (.nil c)

end RoutingConfig

/-- Whatever the texts of addresses and names, be they empty or full of quotes, backslashes and
controls, whatever is absent, and however long the lists are:

* a configuration whose numbers are below 2^64 is read from its document as itself if it is usable,
  and as the reason why it is not otherwise;
* a descriptor, a selection and an audio state are read from their documents as themselves. -/
theorem documents_read_back :
    (∀ c : RoutingConfig, c.queueCapacity < Nat.pow 2 64 → c.historySize < Nat.pow 2 64 →
      RoutingConfig.ofText c.toDocument.text =
        match c.validate with
        | .ok () => .ok c
        | .error e => .error e) ∧
    (∀ d : DeviceDescriptor, Json.read DeviceDescriptor.shape.reader d.toDocument.text = .ok d) ∧
    (∀ s : Selection, Json.read Selection.shape.reader s.toDocument.text = .ok s) ∧
    ∀ s : CallAudioState, Json.read CallAudioState.shape.reader s.toDocument.text = .ok s := by
  refine ⟨fun c capacity history => ?_, fun d => d.reads.read, fun s => s.reads.read,
    fun s => s.reads.read⟩
  rw [RoutingConfig.ofText, (RoutingConfig.reads capacity history).read]
  dsimp only
  rw [RoutingConfig.validated]
  cases c.validate <;> rfl

/-- The greatest capacity, and a name full of escapes. -/
def escaping : RoutingConfig :=
  { queueCapacity := Nat.pow 2 64 - 1, workerName := "\"\\\n\x01", historySize := 0 }

/-- It reads back as itself; a configuration without room is refused. -/
theorem escaping_reads_back :
    escaping.queueCapacity < Nat.pow 2 64 ∧ escaping.historySize < Nat.pow 2 64 ∧
      RoutingConfig.ofText escaping.toDocument.text = .ok escaping ∧
      RoutingConfig.ofText (RoutingConfig.toDocument { queueCapacity := 0 }).text =
        .error (.config "queue_capacity must be greater than zero") := by
  have capacity : escaping.queueCapacity < Nat.pow 2 64 := by decide
  have history : escaping.historySize < Nat.pow 2 64 := by decide
  refine ⟨capacity, history, ?_, ?_⟩
  · exact documents_read_back.1 escaping capacity history
  · exact documents_read_back.1 { queueCapacity := 0 } (by decide) (by decide)

end CallAudio
