import CallAudio.Proofs.Json.Meaning
import CallAudio.Proofs.Json.Shape

/-!
A record that requires no field is read from an object by its members, one after the other: a member
that is a field is taken in, and every other member is passed over.
-/

namespace CallAudio.Json

variable {α : Type}

namespace Shape

variable {shape : Shape α} {take : α → String × Tree → Option α}

/-- The members are taken in as their values mean; those of no field change nothing. -/
structure Understands (shape : Shape α) (take : α → String × Tree → Option α) : Prop where
  optional : ∀ f ∈ shape.fields, f.required = false
  known : ∀ f ∈ shape.fields, ∀ a v, ReadAs (f.read a) v (take a (f.key, v))
  unknown : ∀ key, shape.field? key = none → ∀ a v, take a (key, v) = some a

/-- The fields that were seen once a member was read. -/
def seeing (shape : Shape α) (seen : List String) (key : String) : List String :=
  if (shape.field? key).isSome then key :: seen else seen

theorem mem_seeing {seen : List String} {key k : String} (h : k ∈ shape.seeing seen key) :
    k = key ∨ k ∈ seen := by
  rw [seeing] at h
  split at h
  · exact List.mem_cons.1 h
  · exact .inr h

/-! ## One member -/

theorem readColon_blanks {bs : List Char} (blanks : Blanks bs) (cs : List Char) :
    readColon (bs ++ ':' :: cs) = .ok cs := by
  rw [readColon, blanks.skipBlanks_append]
  rfl

/-- A member whose key was not seen is taken in, however its key and its value are written. -/
theorem yields_readMember (u : shape.Understands take) {key : String} {v : Tree}
    {ks bs cs rest : List Char} (name : SpellsChars key.toList ks) (after : Blanks bs)
    (value : Spells (.spaced v) cs) (ends : Ends rest) {seen : List String} (fresh : key ∉ seen)
    (a : α) :
    ∃ left, Yields (shape.readMember seen a ('"' :: (ks ++ '"' :: (bs ++ ':' :: (cs ++ rest)))))
        ((take a (key, v)).map fun b => (shape.seeing seen key, b)) left ∧
      skipBlanks left = rest := by
  have colon := readColon_blanks after (cs ++ rest)
  rw [readMember_quote, readString_spelled name]
  simp only [Except.bind, String.ofList_toList, seeing]
  cases found : shape.field? key with
  | none =>
    obtain ⟨left, skipped, goesOn⟩ := skipValue_spelled value ends
    refine ⟨left, ?_, goesOn⟩
    simp only [colon, skipped, u.unknown key found]
    rfl
  | some f =>
    have same : f.key = key := by simpa using List.find?_some found
    have unseen : seen.contains key = false := by simpa using fresh
    have reads := u.known f (List.mem_of_find?_eq_some found) a v
    rw [same] at reads
    obtain ⟨left, yields, goesOn⟩ := reads.spaced value ends
    refine ⟨left, ?_, goesOn⟩
    simp only [unseen, Bool.false_eq_true, if_false, colon]
    exact yields.map fun b => (key :: seen, b)

/-! ## From one member to the next -/

theorem nextMember_closes {left rest : List Char} (closes : skipBlanks left = '\x7d' :: rest)
    (first : Bool) : nextMember first left = .ok (.inr rest) := by
  rw [nextMember, closes]
  rfl

theorem nextMember_begins {text more : List Char} (begins : skipBlanks text = '"' :: more) :
    nextMember true text = .ok (.inl (skipBlanks text)) := by
  rw [nextMember, begins]
  rfl

theorem nextMember_goesOn {left text more : List Char} (goesOn : skipBlanks left = ',' :: text)
    (begins : skipBlanks text = '"' :: more) :
    nextMember false left = .ok (.inl (skipBlanks text)) := by
  rw [nextMember, goesOn]
  simp [begins]

/-! ## All members -/

/-- No field is required, so the object may end anywhere. -/
theorem yields_readMembers_end (u : shape.Understands take) {left rest : List Char}
    (closes : skipBlanks left = '\x7d' :: rest) (fuel : Nat) (first : Bool) (seen : List String)
    (a : α) : Yields (shape.readMembers (fuel + 1) first seen a left) (some a) rest := by
  have complete : shape.complete seen a = .ok a := by
    refine complete_of_seen (fun f hf required => ?_) a
    rw [u.optional f hf] at required
    cases required
  rw [readMembers_succ, nextMember_closes closes]
  simp only [Except.bind, complete]
  rfl

theorem length_le_of_spells {ms : List (String × Tree)} {cs : List Char}
    (h : Spells (.members ms) cs) : ms.length ≤ cs.length := by
  induction ms generalizing cs with
  | nil => cases h
  | cons m ms ih =>
    cases h with
    | lastMember before name after value =>
      simp only [List.length_append, List.length_cons, List.length_nil]
      omega
    | member before name after value others =>
      have rest := ih others
      simp only [List.length_append, List.length_cons]
      omega

/-- One more member is taken in, and what is made of it is carried over to the others. -/
theorem yields_readMembers_step (u : shape.Understands take) {key : String} {v : Tree}
    {ms : List (String × Tree)} {ks bs cs rest rest' text : List Char}
    (name : SpellsChars key.toList ks) (after : Blanks bs) (value : Spells (.spaced v) cs)
    (ends : Ends rest') {seen : List String} (fresh : key ∉ seen) {first : Bool}
    (next : nextMember first text =
      .ok (.inl ('"' :: (ks ++ '"' :: (bs ++ ':' :: (cs ++ rest')))))) (fuel : Nat)
    (goesOn : ∀ left b, skipBlanks left = rest' →
      Yields (shape.readMembers fuel false (shape.seeing seen key) b left) (ms.foldlM take b) rest)
    (a : α) :
    Yields (shape.readMembers (fuel + 1) first seen a text) (((key, v) :: ms).foldlM take a)
      rest := by
  obtain ⟨left, member, behind⟩ := yields_readMember u name after value ends fresh a
  have onward : Yields
      ((shape.readMember seen a ('"' :: (ks ++ '"' :: (bs ++ ':' :: (cs ++ rest'))))).bind
        fun p => shape.readMembers fuel false p.1.1 p.1.2 p.2)
      (((take a (key, v)).map fun b => (shape.seeing seen key, b)).bind
        fun p => ms.foldlM take p.2) rest := by
    refine member.bind fun p meant => ?_
    obtain ⟨b, _, rfl⟩ := Option.map_eq_some_iff.1 meant
    exact goesOn left b behind
  rw [Option.bind_map] at onward
  rw [readMembers_succ, next]
  exact onward

/-- Members with keys of their own are taken in, one after the other. -/
theorem yields_readMembers (u : shape.Understands take) {ms : List (String × Tree)}
    {cs rest text : List Char} (written : Spells (.members ms) cs)
    (distinct : (ms.map Prod.fst).Nodup) {seen : List String}
    (fresh : ∀ key ∈ seen, key ∉ ms.map Prod.fst) {fuel : Nat} (enough : ms.length < fuel)
    {first : Bool} (next : nextMember first text = .ok (.inl (skipBlanks (cs ++ '\x7d' :: rest))))
    (a : α) : Yields (shape.readMembers fuel first seen a text) (ms.foldlM take a) rest := by
  induction ms generalizing cs text seen fuel first a with
  | nil => cases written
  | cons m ms ih =>
    obtain ⟨key, v⟩ := m
    rw [List.map_cons, List.nodup_cons] at distinct
    rw [List.length_cons] at enough
    have unseen : key ∉ seen := fun early => fresh key early List.mem_cons_self
    have later : ∀ k ∈ shape.seeing seen key, k ∉ ms.map Prod.fst := by
      intro k hk
      rcases mem_seeing hk with rfl | early
      · exact distinct.1
      · exact fun member => fresh k early (List.mem_cons_of_mem _ member)
    obtain ⟨fuel, rfl⟩ : ∃ f, fuel = f + 1 := ⟨fuel - 1, by omega⟩
    cases written with
    | @lastMember _ _ bs ks bs' cs before name after value =>
      obtain ⟨fuel, rfl⟩ : ∃ f, fuel = f + 1 := ⟨fuel - 1, by simp at enough; omega⟩
      simp only [List.append_assoc, List.cons_append, skipBlanks_key before] at next
      exact yields_readMembers_step u name after value (ends_cons (.inr (.inr rfl)) rest) unseen
        next _ (fun left b closes => yields_readMembers_end u closes fuel false _ b) a
    | @member _ _ _ bs ks bs' cs ts before name after value others =>
      obtain ⟨more, begins⟩ := others.members_open ('\x7d' :: rest)
      simp only [List.append_assoc, List.cons_append, skipBlanks_key before] at next
      refine yields_readMembers_step u name after value (ends_cons (.inl rfl) _) unseen next fuel
        (fun left b goesOn => ?_) a
      exact ih others distinct.2 later (by omega) (nextMember_goesOn goesOn begins) b

/-! ## Objects -/

theorem reader_brace (cs : List Char) :
    shape.reader ('\x7b' :: cs) = shape.readMembers (cs.length + 1) true [] shape.base cs :=
  rfl

/-- An object is read as its members are taken in, one after the other. -/
theorem readAs_object (u : shape.Understands take) {ms : List (String × Tree)}
    (distinct : (ms.map Prod.fst).Nodup) :
    ReadAs shape.reader (.object ms) (ms.foldlM take shape.base) where
  blanks cs := by
    simp only [reader, skipBlanks_skipBlanks]
  value {cs rest} written _ := by
    cases written with
    | @emptyObject bs blanks =>
      have closes : skipBlanks (bs ++ '\x7d' :: rest) = '\x7d' :: rest := by
        rw [blanks.skipBlanks_append]
        rfl
      rw [List.cons_append, List.append_assoc, List.singleton_append, reader_brace]
      exact yields_readMembers_end u closes _ true [] shape.base
    | @object _ cs members =>
      obtain ⟨more, begins⟩ := members.members_open ('\x7d' :: rest)
      have enough : ms.length < (cs ++ '\x7d' :: rest).length + 1 := by
        have some := length_le_of_spells members
        rw [List.length_append]
        omega
      rw [List.cons_append, List.append_assoc, List.singleton_append, reader_brace]
      exact yields_readMembers u members distinct (by simp) enough (nextMember_begins begins) _

end Shape

end CallAudio.Json
