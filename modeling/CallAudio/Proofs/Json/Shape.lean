import CallAudio.Proofs.Json.Reader

/-!
Records read back from the objects they are written as. The members stand in the order of the fields,
each under its own key, and fill the record one by one.
-/

namespace CallAudio.Json

variable {α : Type}

/-- The members fill the fields one after the other, and take the first record to the last one. -/
inductive Fills : List (FieldShape α) → List (String × Value) → α → α → Prop
  | nil (a : α) : Fills [] [] a a
  | cons {f : FieldShape α} {fields : List (FieldShape α)} {v : Value}
      {members : List (String × Value)} {a b c : α} (reads : Reads (f.read a) v b)
      (others : Fills fields members b c) : Fills (f :: fields) ((f.key, v) :: members) a c

namespace Shape

variable {shape : Shape α}

/-! ## The text of an object -/

theorem ends_renderMembers (members : List (String × Value)) (rest : List Char) :
    Ends (Value.renderMembers members ++ rest) := by
  cases members with
  | nil => exact ends_cons (.inr (.inr rfl)) _
  | cons member members => exact ends_cons (.inl rfl) _

theorem length_renderMembers (members : List (String × Value)) :
    members.length < (Value.renderMembers members).length := by
  induction members with
  | nil => exact Nat.zero_lt_one
  | cons member members ih =>
    obtain ⟨key, v⟩ := member
    rw [Value.renderMembers]
    simp only [List.length_cons, List.length_append]
    omega

theorem nextMember_brace (first : Bool) (rest : List Char) :
    nextMember first ('\x7d' :: rest) = .ok (.inr rest) :=
  rfl

theorem nextMember_comma (text : List Char) :
    nextMember false (',' :: '"' :: text) = .ok (.inl ('"' :: text)) :=
  rfl

theorem nextMember_first (text : List Char) :
    nextMember true ('"' :: text) = .ok (.inl ('"' :: text)) :=
  rfl

/-! ## One member -/

/-- The field of a key that no field before it has. -/
theorem field?_of_split (before : List (FieldShape α)) {after : List (FieldShape α)}
    {f : FieldShape α} (fields : shape.fields = before ++ f :: after)
    (fresh : f.key ∉ before.map FieldShape.key) :
    shape.field? f.key = some f := by
  have none : before.find? (fun g => g.key == f.key) = none := by
    rw [List.find?_eq_none]
    intro g hg same
    exact fresh (List.mem_map.2 ⟨g, hg, by simpa using same⟩)
  rw [field?, fields, List.find?_append, none, Option.none_or, List.find?_cons_of_pos]
  simp

theorem readMember_quote (seen : List String) (a : α) (text : List Char) :
    shape.readMember seen a ('"' :: text) = (readString text).bind fun (key, rest) =>
      match shape.field? (String.ofList key) with
      | none => (readColon rest).bind fun rest => (skipValue rest).bind fun rest =>
          .ok ((seen, a), rest)
      | some f =>
        if seen.contains (String.ofList key) then .error (.duplicateField (String.ofList key))
        else (readColon rest).bind fun rest => (f.read a rest).bind fun (a, rest) =>
          .ok ((String.ofList key :: seen, a), rest) :=
  rfl

/-- A member with a key of its own is read into its field. -/
theorem readMember_render {f : FieldShape α} (seen : List String) {a b : α} {v : Value}
    (found : shape.field? f.key = some f) (fresh : f.key ∉ seen) (reads : Reads (f.read a) v b)
    {rest : List Char} (ends : Ends rest) :
    ∃ text, encode f.key ++ ':' :: (v.render ++ rest) = '"' :: text ∧
      shape.readMember seen a ('"' :: text) = .ok ((f.key :: seen, b), rest) := by
  obtain ⟨text, written, key⟩ := readString_encode f.key (':' :: (v.render ++ rest))
  have unseen : seen.contains f.key = false := by simpa using fresh
  have colon : readColon (':' :: (v.render ++ rest)) = .ok (v.render ++ rest) := rfl
  refine ⟨text, written, ?_⟩
  rw [readMember_quote, key]
  simp only [Except.bind, String.ofList_toList, found, unseen, Bool.false_eq_true, if_false, colon,
    reads rest ends]

/-! ## The members of an object -/

/-- A record is complete once every field that it requires was seen. -/
theorem complete_of_seen {seen : List String}
    (all : ∀ f ∈ shape.fields, f.required = true → f.key ∈ seen) (a : α) :
    shape.complete seen a = .ok a := by
  have none : (shape.fields.find? fun f => f.required && !seen.contains f.key) = none := by
    rw [List.find?_eq_none]
    intro f hf
    simpa using all f hf
  rw [complete, none]

theorem readMembers_succ (fuel : Nat) (first : Bool) (seen : List String) (a : α)
    (cs : List Char) :
    shape.readMembers (fuel + 1) first seen a cs = (nextMember first cs).bind fun next =>
      match next with
      | .inr rest => (shape.complete seen a).bind fun a => .ok (a, rest)
      | .inl cs => (shape.readMember seen a cs).bind fun ((seen, a), rest) =>
          shape.readMembers fuel false seen a rest :=
  rfl

/-- The members that are left fill the fields that are left. -/
theorem readMembers_render (before : List (FieldShape α)) {after : List (FieldShape α)}
    {members : List (String × Value)} (seen : List String) {a b : α}
    (fields : shape.fields = before ++ after) (distinct : (shape.fields.map FieldShape.key).Nodup)
    (filled : ∀ key, key ∈ seen ↔ key ∈ before.map FieldShape.key) (h : Fills after members a b)
    (rest : List Char) {fuel : Nat} (enough : members.length < fuel) :
    shape.readMembers fuel false seen a (Value.renderMembers members ++ rest) = .ok (b, rest) := by
  induction h generalizing before seen fuel with
  | nil a =>
    cases fuel with
    | zero => cases enough
    | succ fuel =>
      have all : ∀ f ∈ shape.fields, f.required = true → f.key ∈ seen := by
        intro f hf _
        rw [fields, List.append_nil] at hf
        exact (filled f.key).2 (List.mem_map.2 ⟨f, hf, rfl⟩)
      show shape.readMembers (fuel + 1) false seen a ('\x7d' :: rest) = _
      rw [readMembers_succ, nextMember_brace]
      simp only [Except.bind, complete_of_seen all]
  | @cons f after v members a b c reads others ih =>
    cases fuel with
    | zero => cases enough
    | succ fuel =>
      have fresh : f.key ∉ before.map FieldShape.key := by
        have once := distinct
        rw [fields, List.map_append, List.map_cons, List.nodup_append] at once
        intro early
        exact once.2.2 _ early _ List.mem_cons_self rfl
      have later : ∀ key, key ∈ f.key :: seen ↔ key ∈ (before ++ [f]).map FieldShape.key := by
        intro key
        rw [List.map_append, List.mem_append, List.mem_cons, filled key, or_comm]
        simp
      have onward := ih (before ++ [f]) (f.key :: seen) (by simp [fields]) later
        (Nat.lt_of_succ_lt_succ enough)
      obtain ⟨text, written, member⟩ := readMember_render seen (field?_of_split before fields fresh)
        (fun early => fresh ((filled _).1 early)) reads (ends_renderMembers members rest)
      have whole : Value.renderMembers ((f.key, v) :: members) ++ rest = ',' :: '"' :: text := by
        rw [← written, Value.renderMembers]
        simp
      rw [whole, readMembers_succ, nextMember_comma]
      simp only [Except.bind, member]
      exact onward

/-- A record is read back from the object that has its fields for members, in their order. -/
theorem reads_object {members : List (String × Value)} {a : α}
    (distinct : (shape.fields.map FieldShape.key).Nodup)
    (h : Fills shape.fields members shape.base a) : Reads shape.reader (.object members) a := by
  intro rest _
  generalize fields : shape.fields = all at h
  cases h with
  | nil =>
    have complete : shape.complete [] shape.base = .ok shape.base :=
      complete_of_seen (by simp [fields]) _
    show shape.readMembers (rest.length + 1 + 1) true [] shape.base ('\x7d' :: rest) = _
    rw [readMembers_succ, nextMember_brace]
    simp only [Except.bind, complete]
  | @cons f after v members _ b _ reads others =>
    have found : shape.field? f.key = some f := field?_of_split [] fields (by simp)
    obtain ⟨text, written, member⟩ := readMember_render [] found (by simp) reads
      (ends_renderMembers members rest)
    have whole : (Value.object ((f.key, v) :: members)).render ++ rest =
        '\x7b' :: '"' :: text := by
      rw [← written, Value.render]
      simp
    have enough : members.length < ('"' :: text).length := by
      have behind := length_renderMembers members
      rw [← written]
      simp only [List.length_append, List.length_cons]
      omega
    have onward := readMembers_render [f] [f.key] fields distinct (by simp)
      others rest enough
    rw [whole]
    show shape.readMembers (_ + 1) true [] shape.base ('"' :: text) = _
    rw [readMembers_succ, nextMember_first]
    simp only [Except.bind, member]
    exact onward

end Shape

end CallAudio.Json
