import CallAudio.Document
import CallAudio.Proofs.Json.Members

/-!
What a configuration says does not depend on how it is written. Of an object with distinct keys the
three settings are read, wherever they stand and whatever stands beside them; a setting that is absent
keeps its default.
-/

namespace CallAudio

open Json (Tree ReadAs Spells SpellsChars FourDigits Blanks readAs_nat readAs_text spells_flatMap)

/-! ## Members -/

section Members

variable {members members' : List (String × Tree)} {key : String} {v : Tree}

theorem lookup_eq_none_of_not_mem (absent : key ∉ members.map Prod.fst) :
    members.lookup key = none := by
  rw [List.lookup_eq_none_iff]
  intro m hm
  have differs : key ≠ m.1 := fun same => absent (same ▸ List.mem_map_of_mem hm)
  simpa using differs

/-- Where no key stands twice, looking a key up finds the member that has it. -/
theorem lookup_eq_some_iff_mem (distinct : (members.map Prod.fst).Nodup) :
    members.lookup key = some v ↔ (key, v) ∈ members := by
  induction members with
  | nil => simp
  | cons m members ih =>
    obtain ⟨first, w⟩ := m
    rw [List.map_cons, List.nodup_cons] at distinct
    rw [List.mem_cons, List.lookup_cons, ← ih distinct.2]
    by_cases same : key = first
    · have absent := lookup_eq_none_of_not_mem distinct.1
      simp [same, absent, eq_comm]
    · have differs : (key == first) = false := by simpa using same
      simp [differs, same]

/-- The order of members does not matter, nor do members that are left out on both sides. -/
theorem lookup_eq_of_perm (distinct : (members.map Prod.fst).Nodup)
    (distinct' : (members'.map Prod.fst).Nodup) {keys : List String}
    (same : (members.filter fun m => m.1 ∈ keys).Perm (members'.filter fun m => m.1 ∈ keys))
    (known : key ∈ keys) : members.lookup key = members'.lookup key := by
  refine Option.ext fun v => ?_
  have both := same.mem_iff (a := (key, v))
  simp only [List.mem_filter, known, decide_true, and_true] at both
  rw [lookup_eq_some_iff_mem distinct, lookup_eq_some_iff_mem distinct', both]

end Members

namespace RoutingConfig

/-! ## Settings -/

/-- The keys of the settings. -/
def settings : List String := ["queue_capacity", "worker_name", "history_size"]

/-- Each setting that is present is of the right kind: an integer from 0 to 2^64 - 1, a string, and
an integer from 0 to 2^64 - 1 again. -/
structure WellTyped (members : List (String × Tree)) : Prop where
  queueCapacity : ∀ v, members.lookup "queue_capacity" = some v → ∃ n, v.nat? = some n
  workerName : ∀ v, members.lookup "worker_name" = some v → ∃ s, v.text? = some s
  historySize : ∀ v, members.lookup "history_size" = some v → ∃ n, v.nat? = some n

/-- A configuration with the settings that are present in place of its own. -/
def overwrittenBy (c : RoutingConfig) (members : List (String × Tree)) : RoutingConfig where
  queueCapacity := ((members.lookup "queue_capacity").bind Tree.nat?).getD c.queueCapacity
  workerName := ((members.lookup "worker_name").bind Tree.text?).getD c.workerName
  historySize := ((members.lookup "history_size").bind Tree.nat?).getD c.historySize

/-- Takes one member in. -/
def take (c : RoutingConfig) (m : String × Tree) : Option RoutingConfig :=
  if m.1 = "queue_capacity" then m.2.nat?.map fun queueCapacity => { c with queueCapacity }
  else if m.1 = "worker_name" then m.2.text?.map fun workerName => { c with workerName }
  else if m.1 = "history_size" then m.2.nat?.map fun historySize => { c with historySize }
  else some c

theorem understands : shape.Understands take where
  optional := by simp [shape]
  known := by
    intro f hf c v
    simp only [shape, List.mem_cons, List.not_mem_nil, or_false] at hf
    rcases hf with rfl | rfl | rfl
    · exact (readAs_nat v).map fun queueCapacity => { c with queueCapacity }
    · exact (readAs_text v).map fun workerName => { c with workerName }
    · exact (readAs_nat v).map fun historySize => { c with historySize }
  unknown := by
    intro key absent c v
    rw [Json.Shape.field?, List.find?_eq_none] at absent
    simp only [shape, List.mem_cons, List.not_mem_nil, or_false, forall_eq_or_imp, forall_eq,
      beq_iff_eq] at absent
    obtain ⟨capacity, name, history⟩ := absent
    simp only [take, Ne.symm capacity, Ne.symm name, Ne.symm history, if_false]

/-! ## One member after the other -/

variable {members : List (String × Tree)} {key : String} {v : Tree} {c d : RoutingConfig}

theorem take_eq_some (h : c.take (key, v) = some d) :
    (key = "queue_capacity" ∧ ∃ n, v.nat? = some n ∧ d = { c with queueCapacity := n }) ∨
    (key = "worker_name" ∧ ∃ s, v.text? = some s ∧ d = { c with workerName := s }) ∨
    (key = "history_size" ∧ ∃ n, v.nat? = some n ∧ d = { c with historySize := n }) ∨
    (key ∉ settings ∧ d = c) := by
  unfold take at h
  split at h
  · rename_i same
    obtain ⟨n, number, rfl⟩ := Option.map_eq_some_iff.1 h
    exact .inl ⟨same, n, number, rfl⟩
  split at h
  · rename_i same
    obtain ⟨s, text, rfl⟩ := Option.map_eq_some_iff.1 h
    exact .inr (.inl ⟨same, s, text, rfl⟩)
  split at h
  · rename_i same
    obtain ⟨n, number, rfl⟩ := Option.map_eq_some_iff.1 h
    exact .inr (.inr (.inl ⟨same, n, number, rfl⟩))
  · rename_i capacity name history
    cases h
    exact .inr (.inr (.inr ⟨by simp_all [settings], rfl⟩))

/-- What one member does to a setting that is kept in one place: the member of its key decides what
it is, and every other member leaves it. -/
def Keeps {β : Type} (key : String) (read : Tree → Option β) (get : RoutingConfig → β) : Prop :=
  ∀ {c d : RoutingConfig} {k : String} {v : Tree}, c.take (k, v) = some d →
    if k = key then read v = some (get d) else get d = get c

theorem keeps_queueCapacity : Keeps "queue_capacity" Tree.nat? queueCapacity := by
  intro c d k v h
  obtain ⟨rfl, n, number, rfl⟩ | ⟨rfl, s, text, rfl⟩ | ⟨rfl, n, number, rfl⟩ | ⟨other, rfl⟩ :=
    take_eq_some h
  · exact number
  · rfl
  · rfl
  · simp_all [settings]

theorem keeps_workerName : Keeps "worker_name" Tree.text? workerName := by
  intro c d k v h
  obtain ⟨rfl, n, number, rfl⟩ | ⟨rfl, s, text, rfl⟩ | ⟨rfl, n, number, rfl⟩ | ⟨other, rfl⟩ :=
    take_eq_some h
  · rfl
  · exact text
  · rfl
  · simp_all [settings]

theorem keeps_historySize : Keeps "history_size" Tree.nat? historySize := by
  intro c d k v h
  obtain ⟨rfl, n, number, rfl⟩ | ⟨rfl, s, text, rfl⟩ | ⟨rfl, n, number, rfl⟩ | ⟨other, rfl⟩ :=
    take_eq_some h
  · rfl
  · rfl
  · exact number
  · simp_all [settings]

/-- Once all members are taken in, a setting is what its member says, or what it was where there is
none. -/
theorem Keeps.foldlM {β : Type} {read : Tree → Option β} {get : RoutingConfig → β}
    (keeps : Keeps key read get) (distinct : (members.map Prod.fst).Nodup)
    (h : members.foldlM take c = some d) :
    (∀ v, members.lookup key = some v → ∃ b, read v = some b) ∧
      get d = ((members.lookup key).bind read).getD (get c) := by
  induction members generalizing c with
  | nil =>
    cases h
    exact ⟨nofun, rfl⟩
  | cons m members ih =>
    obtain ⟨k, w⟩ := m
    rw [List.map_cons, List.nodup_cons] at distinct
    rw [List.foldlM_cons] at h
    obtain ⟨next, taken, others⟩ := Option.bind_eq_some_iff.1 h
    obtain ⟨typed, value⟩ := ih distinct.2 others
    have kept := keeps taken
    by_cases same : k = key
    · subst same
      rw [if_pos rfl] at kept
      rw [lookup_eq_none_of_not_mem distinct.1] at value
      rw [List.lookup_cons_self]
      refine ⟨fun v found => ?_, ?_⟩
      · cases found
        exact ⟨_, kept⟩
      · rw [value, Option.bind_some, kept]
        rfl
    · rw [if_neg same] at kept
      have differs : (key == k) = false := by simpa using Ne.symm same
      rw [List.lookup_cons, differs, ← kept]
      exact ⟨typed, value⟩

/-- A member is taken in if its value is of the right kind. -/
theorem WellTyped.take (typed : WellTyped members) (found : members.lookup key = some v)
    (c : RoutingConfig) : ∃ d, c.take (key, v) = some d := by
  unfold RoutingConfig.take
  split
  · rename_i same
    obtain ⟨n, number⟩ := typed.queueCapacity v (same ▸ found)
    exact ⟨_, by rw [number]; rfl⟩
  split
  · rename_i same
    obtain ⟨s, text⟩ := typed.workerName v (same ▸ found)
    exact ⟨_, by rw [text]; rfl⟩
  split
  · rename_i same
    obtain ⟨n, number⟩ := typed.historySize v (same ▸ found)
    exact ⟨_, by rw [number]; rfl⟩
  · exact ⟨c, rfl⟩

theorem exists_foldlM (each : ∀ m ∈ members, ∀ c, ∃ d, take c m = some d) (c : RoutingConfig) :
    ∃ d, members.foldlM take c = some d := by
  induction members generalizing c with
  | nil => exact ⟨c, rfl⟩
  | cons m members ih =>
    obtain ⟨next, taken⟩ := each m List.mem_cons_self c
    obtain ⟨d, others⟩ := ih (fun m hm => each m (List.mem_cons_of_mem _ hm)) next
    exact ⟨d, by rw [List.foldlM_cons, taken]; exact others⟩

/-- Taking in all members, in whatever order they stand, comes to looking up the three settings. -/
theorem foldlM_take_eq_some_iff (distinct : (members.map Prod.fst).Nodup) :
    members.foldlM take c = some d ↔ WellTyped members ∧ d = c.overwrittenBy members := by
  have overwritten {d : RoutingConfig} (h : members.foldlM take c = some d) :
      WellTyped members ∧ d = c.overwrittenBy members := by
    obtain ⟨number, capacity⟩ := keeps_queueCapacity.foldlM distinct h
    obtain ⟨text, name⟩ := keeps_workerName.foldlM distinct h
    obtain ⟨number', history⟩ := keeps_historySize.foldlM distinct h
    refine ⟨⟨number, text, number'⟩, ?_⟩
    cases d
    simp only [overwrittenBy, ← capacity, ← name, ← history]
  refine ⟨overwritten, ?_⟩
  rintro ⟨typed, rfl⟩
  obtain ⟨d, h⟩ := exists_foldlM (fun m hm =>
    typed.take ((lookup_eq_some_iff_mem distinct).2 hm)) c
  rw [h, (overwritten h).2]

/-! ## Texts -/

theorem toOption_eq_some_iff {ε α : Type} {result : Except ε α} {a : α} :
    result.toOption = some a ↔ result = .ok a := by
  cases result <;> simp [Except.toOption]

theorem toOption_read {text : String} (written : (Tree.object members).WrittenAs text)
    (distinct : (members.map Prod.fst).Nodup) :
    (Json.read shape.reader text).toOption = members.foldlM take {} :=
  (Json.Shape.readAs_object understands distinct).read written

theorem validated_eq_ok_iff : c.validated = .ok d ↔
    c = d ∧ 0 < c.queueCapacity ∧ ∃ ch ∈ c.workerName.toList, Text.isBlank ch = false := by
  have usable := validate_eq_ok_iff (c := c)
  have named : ¬Text.Blank c.workerName ↔ ∃ ch ∈ c.workerName.toList, Text.isBlank ch = false := by
    simp [Text.Blank]
  rw [named] at usable
  rw [← usable, validated]
  cases c.validate <;> simp [Except.map]

/-- A text holds a configuration if what is read of it is usable. -/
theorem ofText_eq_ok_iff {text : String} : ofText text = .ok c ↔
    (Json.read shape.reader text).toOption = some c ∧ 0 < c.queueCapacity ∧
      ∃ ch ∈ c.workerName.toList, Text.isBlank ch = false := by
  rw [ofText, toOption_eq_some_iff]
  cases Json.read shape.reader text with
  | error e => simp
  | ok d =>
    dsimp only
    rw [validated_eq_ok_iff, Except.ok.injEq]
    constructor <;> (rintro ⟨rfl, usable⟩; exact ⟨rfl, usable⟩)

/-- What an object with distinct keys is read as, through its settings alone. -/
theorem ofText_eq_ok_iff_wellTyped {text : String} (written : (Tree.object members).WrittenAs text)
    (distinct : (members.map Prod.fst).Nodup) : ofText text = .ok c ↔
      (WellTyped members ∧ c = overwrittenBy {} members) ∧ 0 < c.queueCapacity ∧
        ∃ ch ∈ c.workerName.toList, Text.isBlank ch = false := by
  rw [ofText_eq_ok_iff, toOption_read written distinct, foldlM_take_eq_some_iff distinct]

theorem wellTyped_congr {members' : List (String × Tree)}
    (same : ∀ key ∈ settings, members.lookup key = members'.lookup key)
    (typed : WellTyped members) : WellTyped members' where
  queueCapacity v found :=
    typed.queueCapacity v ((same "queue_capacity" (by decide)).trans found)
  workerName v found := typed.workerName v ((same "worker_name" (by decide)).trans found)
  historySize v found := typed.historySize v ((same "history_size" (by decide)).trans found)

theorem overwrittenBy_congr {members' : List (String × Tree)}
    (same : ∀ key ∈ settings, members.lookup key = members'.lookup key) (c : RoutingConfig) :
    c.overwrittenBy members = c.overwrittenBy members' := by
  simp only [overwrittenBy, same "queue_capacity" (by decide), same "worker_name" (by decide),
    same "history_size" (by decide)]

end RoutingConfig

open RoutingConfig (WellTyped overwrittenBy settings)

/-- A text of an object with distinct keys, in whatever order its members stand, whatever other
members it has, and however it is laid out:

* it holds a configuration if and only if each setting that is present is of the right kind, and the
  default configuration with these settings has room and a name that is not blank;
* the configuration is then exactly that one;
* every other such text with the same settings, in any order and among any other members, holds the
  same configuration, or none either. -/
theorem configurations_mean_their_members {text : String} {members : List (String × Tree)}
    (written : (Tree.object members).WrittenAs text) (distinct : (members.map Prod.fst).Nodup) :
    ((∃ c, RoutingConfig.ofText text = .ok c) ↔
      WellTyped members ∧ 0 < (overwrittenBy {} members).queueCapacity ∧
        ∃ ch ∈ (overwrittenBy {} members).workerName.toList, Text.isBlank ch = false) ∧
    (∀ c, RoutingConfig.ofText text = .ok c → c = overwrittenBy {} members) ∧
    ∀ (text' : String) (members' : List (String × Tree)),
      (Tree.object members').WrittenAs text' → (members'.map Prod.fst).Nodup →
      (members.filter fun m => m.1 ∈ settings).Perm (members'.filter fun m => m.1 ∈ settings) →
      (RoutingConfig.ofText text').toOption = (RoutingConfig.ofText text).toOption := by
  have holds {c : RoutingConfig} := RoutingConfig.ofText_eq_ok_iff_wellTyped written distinct (c := c)
  refine ⟨⟨?_, ?_⟩, fun c ok => (holds.1 ok).1.2, ?_⟩
  · rintro ⟨c, ok⟩
    obtain ⟨⟨typed, rfl⟩, usable⟩ := holds.1 ok
    exact ⟨typed, usable⟩
  · rintro ⟨typed, usable⟩
    exact ⟨_, holds.2 ⟨⟨typed, rfl⟩, usable⟩⟩
  · intro text' members' written' distinct' same
    have holds' {c : RoutingConfig} :=
      RoutingConfig.ofText_eq_ok_iff_wellTyped written' distinct' (c := c)
    have found : ∀ key ∈ settings, members.lookup key = members'.lookup key := fun key known =>
      lookup_eq_of_perm distinct distinct' same known
    have typed : WellTyped members' ↔ WellTyped members :=
      ⟨RoutingConfig.wellTyped_congr fun key known => (found key known).symm,
        RoutingConfig.wellTyped_congr found⟩
    refine Option.ext fun c => ?_
    rw [RoutingConfig.toOption_eq_some_iff, RoutingConfig.toOption_eq_some_iff, holds, holds', typed,
      RoutingConfig.overwrittenBy_congr found]

/-- Two settings, and a list that is none. -/
def sprawling : List (String × Tree) :=
  [("extra", .list [.integer (-1), .null]), ("worker_name", .string "w"),
    ("queue_capacity", .integer 5)]

/-- With blanks, and with a character of a key escaped. -/
def sprawlingText : String :=
  "\x7b\"extra\":[-1, null], \"worker_name\":\"w\", \"\\u0071ueue_capacity\" : 5\x7d "

theorem sprawling_written : (Tree.object sprawling).WrittenAs sprawlingText := by
  have no : Blanks [] := nofun
  have one : Blanks [' '] := List.forall_mem_singleton.2 rfl
  have q : FourDigits ('q').toNat ['0', '0', '7', '1'] :=
    .intro (p := 0) (q := 0) (r := 7) (s := 1) ⟨by decide, .inl rfl⟩ ⟨by decide, .inl rfl⟩
      ⟨by decide, .inl rfl⟩ ⟨by decide, .inl rfl⟩
  have capacity : SpellsChars "queue_capacity".toList "\\u0071ueue_capacity".toList :=
    .cons (.code q) (spells_flatMap "ueue_capacity".toList)
  have nested := Spells.list
    (.item (.spaced no (.integer (-1)) no) (.lastItem (.spaced one .null no)))
  have name := Spells.string (spells_flatMap "w".toList)
  have last := Spells.lastMember one capacity one (.spaced one (.integer 5) no)
  have behind := Spells.member one (spells_flatMap "worker_name".toList) no
    (.spaced no name no) last
  have all := Spells.member no (spells_flatMap "extra".toList) no (.spaced no nested no) behind
  exact .spaced no (.object all) one

/-- The same settings in the other order, and nothing else. -/
def terse : List (String × Tree) :=
  [("queue_capacity", .integer 5), ("worker_name", .string "w")]

/-- Without blanks. -/
def terseText : String :=
  "\x7b\"queue_capacity\":5,\"worker_name\":\"w\"\x7d"

theorem terse_written : (Tree.object terse).WrittenAs terseText := by
  have no : Blanks [] := nofun
  have name := Spells.string (spells_flatMap "w".toList)
  have last := Spells.lastMember no (spells_flatMap "worker_name".toList) no (.spaced no name no)
  have all := Spells.member no (spells_flatMap "queue_capacity".toList) no
    (.spaced no (.integer 5) no) last
  exact .spaced no (.object all) no

/-- Both texts hold one configuration, which keeps the default for the setting that is absent. -/
theorem sprawling_means_what_terse_means :
    (Tree.object sprawling).WrittenAs sprawlingText ∧ (sprawling.map Prod.fst).Nodup ∧
      (Tree.object terse).WrittenAs terseText ∧ (terse.map Prod.fst).Nodup ∧
      RoutingConfig.ofText sprawlingText =
        .ok { queueCapacity := 5, workerName := "w", historySize := 32 } ∧
      (RoutingConfig.ofText terseText).toOption = (RoutingConfig.ofText sprawlingText).toOption := by
  have distinct : (sprawling.map Prod.fst).Nodup := by decide
  have distinct' : (terse.map Prod.fst).Nodup := by decide
  obtain ⟨holds, exactly, layout⟩ :=
    configurations_mean_their_members sprawling_written distinct
  have typed : WellTyped sprawling := by
    constructor
    · rintro v ⟨⟩
      exact ⟨5, rfl⟩
    · rintro v ⟨⟩
      exact ⟨"w", rfl⟩
    · rintro v ⟨⟩
  obtain ⟨c, ok⟩ := holds.2 ⟨typed, by decide, 'w', by decide, by decide⟩
  have same : (sprawling.filter fun m => m.1 ∈ settings).Perm
      (terse.filter fun m => m.1 ∈ settings) := .swap _ _ _
  refine ⟨sprawling_written, distinct, terse_written, distinct', ?_,
    layout terseText terse terse_written distinct' same⟩
  rw [ok, exactly c ok]
  rfl

end CallAudio
