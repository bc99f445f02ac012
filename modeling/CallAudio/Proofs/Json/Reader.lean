import CallAudio.Document
import CallAudio.Proofs.Json.Meaning

/-!
Values read back from the front of a text, by the reader for their type. A reader is held to what may
follow a value inside a document, and leaves it as it is.
-/

namespace CallAudio.Json

variable {α β : Type} {reader : Reader α} {v : Value} {a : α}

/-- The reader reads the value where it is written, and stops behind it. -/
def Reads (reader : Reader α) (v : Value) (a : α) : Prop :=
  ∀ rest, Ends rest → reader (v.render ++ rest) = .ok (a, rest)

/-- A whole text is the end of what its value may be followed by. -/
theorem Reads.read (h : Reads reader v a) : read reader v.text = .ok a := by
  have all := h [] ends_nil
  rw [List.append_nil] at all
  rw [Json.read, Value.text, String.toList_ofList, all]
  rfl

/-! ## How a value begins -/

/-- The first character of a value is an `n` for nothing but `null`. -/
structure First (v : Value) (c : Char) : Prop extends Opens c where
  present : v ≠ .null → c ≠ 'n'

theorem first_of_isDigit {n : Nat} {c : Char} (digit : c.isDigit = true) : First (.nat n) c where
  toOpens := opens_of_startsNumber (starts_of_isDigit digit)
  present := by
    rintro _ rfl
    cases digit

theorem render_first (v : Value) : ∃ c cs, v.render = c :: cs ∧ First v c := by
  have opens {c : Char} (mark : isBlank c = false) (bracket : c ≠ ']') (brace : c ≠ '\x7d')
      (other : c ≠ 'n') : First v c := ⟨⟨mark, bracket, brace⟩, fun _ => other⟩
  cases v with
  | null => exact ⟨_, _, rfl, ⟨rfl, by decide, by decide⟩, fun present => absurd rfl present⟩
  | bool b =>
    cases b <;> exact ⟨_, _, rfl, opens rfl (by decide) (by decide) (by decide)⟩
  | nat n =>
    obtain ⟨c, cs, digits, digit⟩ := digit_of_toDigits n
    exact ⟨c, cs, digits, first_of_isDigit digit⟩
  | string s => exact ⟨_, _, rfl, opens rfl (by decide) (by decide) (by decide)⟩
  | list items =>
    cases items <;> exact ⟨_, _, rfl, opens rfl (by decide) (by decide) (by decide)⟩
  | object members =>
    cases members <;> exact ⟨_, _, rfl, opens rfl (by decide) (by decide) (by decide)⟩

theorem skipBlanks_render (v : Value) (rest : List Char) :
    skipBlanks (v.render ++ rest) = v.render ++ rest := by
  obtain ⟨c, cs, text, first⟩ := render_first v
  rw [text]
  exact skipBlanks_cons first.mark _

/-! ## Single values -/

/-- A value is read where it is written if its text is one of those it may have. -/
theorem ReadAs.reads {t : Tree} (h : ReadAs reader t (some a)) (written : Spells (.value t) v.render) :
    Reads reader v a :=
  fun _ ends => h.value written ends.apart

theorem reads_nat {n : Nat} (fits : n < Nat.pow 2 64) : Reads readNat (.nat n) n := by
  have number := readAs_nat (.integer n)
  rw [nat?_of_fits (Nat.le_sub_one_of_lt fits)] at number
  have written := Spells.integer n
  rw [integerText_natCast] at written
  exact number.reads written

theorem reads_text (s : String) : Reads readText (.string s) s :=
  (readAs_text (.string s)).reads (.string (spells_flatMap s.toList))

theorem reads_bool (b : Bool) : Reads readBool (.bool b) b := by
  intro rest _
  cases b <;> rfl

theorem reads_none (reader : Reader α) : Reads (readOption reader) .null none :=
  fun _ _ => rfl

theorem Reads.some (h : Reads reader v a) (present : v ≠ .null) :
    Reads (readOption reader) v (some a) := by
  intro rest ends
  obtain ⟨c, cs, text, first⟩ := render_first v
  have reads := h rest ends
  rw [text] at reads ⊢
  rw [List.cons_append] at reads ⊢
  rw [readOption, skipBlanks_cons first.mark]
  split
  · rename_i begins
    cases begins
    exact absurd rfl (first.present present)
  · rw [reads]
    rfl

/-- A value that may be absent, where no value that is present is written as `null`. -/
theorem reads_ofOption {write : α → Value} (h : ∀ a, Reads reader (write a) a)
    (present : ∀ a, write a ≠ .null) (o : Option α) :
    Reads (readOption reader) (.ofOption write o) o := by
  cases o with
  | none => exact reads_none reader
  | some a => exact (h a).some (present a)

theorem readKeyed_quote [Keyed α] (text : List Char) :
    (readKeyed : Reader α) ('"' :: text) = (readString text).bind fun (key, rest) =>
      (ofKey (String.ofList key)).bind fun a => .ok (a, rest) :=
  rfl

theorem reads_ofKeyed [Keyed α] (a : α) (known : Keyed.ofKey? (Keyed.key a) = some a) :
    Reads readKeyed (.ofKeyed a) a := by
  intro rest _
  obtain ⟨text, written, reads⟩ := readString_encode (Keyed.key a) rest
  have found : ofKey (Keyed.key a) = .ok a := by rw [ofKey, known]
  show readKeyed (encode (Keyed.key a) ++ rest) = .ok (a, rest)
  rw [written, readKeyed_quote, reads]
  show (ofKey (String.ofList (Keyed.key a).toList)).bind _ = _
  rw [String.ofList_toList, found]
  rfl

/-- Reading goes on to what is made of the value. -/
theorem Reads.map (h : Reads reader v a) (f : α → β) :
    Reads (fun cs => (reader cs).map fun (a, rest) => (f a, rest)) v (f a) := by
  intro rest ends
  dsimp only
  rw [h rest ends]
  rfl

/-! ## Lists -/

variable {write : α → Value}

theorem ends_renderItems (items : List Value) (rest : List Char) :
    Ends (Value.renderItems items ++ rest) := by
  cases items with
  | nil => exact ends_cons (.inr (.inl rfl)) _
  | cons item items => exact ends_cons (.inl rfl) _

theorem length_renderItems (items : List Value) :
    items.length < (Value.renderItems items).length := by
  induction items with
  | nil => exact Nat.zero_lt_one
  | cons item items ih =>
    rw [Value.renderItems, List.length_cons, List.cons_append, List.length_cons, List.length_append]
    omega

theorem nextItem_comma (cs : List Char) :
    nextItem false (',' :: cs) =
      match skipBlanks cs with
      | [] => .error .endOfValue
      | ']' :: _ => .error .trailingComma
      | cs => .ok (some cs) :=
  rfl

theorem nextItem_render (v : Value) (rest : List Char) :
    nextItem false (',' :: (v.render ++ rest)) = .ok (some (v.render ++ rest)) := by
  obtain ⟨c, cs, text, first⟩ := render_first v
  rw [nextItem_comma, skipBlanks_render, text, List.cons_append]
  split
  · rename_i begins
    cases begins
  · rename_i begins
    cases begins
    exact absurd rfl first.bracket
  · rfl

theorem nextItem_first (v : Value) (rest : List Char) :
    nextItem true (v.render ++ rest) = .ok (some (v.render ++ rest)) := by
  obtain ⟨c, cs, text, first⟩ := render_first v
  rw [nextItem, skipBlanks_render, text, List.cons_append]
  split
  · rename_i begins
    cases begins
  · rename_i begins
    cases begins
    exact absurd rfl first.bracket
  · rename_i begins
    cases begins
    rfl

/-- The items behind the first one, up to the closing bracket. -/
theorem readItems_renderItems (h : ∀ a, Reads reader (write a) a) (as : List α)
    (rest : List Char) {fuel : Nat} (enough : as.length < fuel) :
    readItems reader fuel false (Value.renderItems (as.map write) ++ rest) = .ok (as, rest) := by
  induction as generalizing fuel with
  | nil =>
    cases fuel with
    | zero => cases enough
    | succ fuel => rfl
  | cons a as ih =>
    cases fuel with
    | zero => cases enough
    | succ fuel =>
      have item := h a _ (ends_renderItems (as.map write) rest)
      have others := ih (Nat.lt_of_succ_lt_succ enough)
      have next := nextItem_render (write a) (Value.renderItems (as.map write) ++ rest)
      rw [List.map_cons, Value.renderItems, List.cons_append, List.cons_append, List.append_assoc]
      simp only [readItems, next, bind, Except.bind, item, others]

theorem reads_list (h : ∀ a, Reads reader (write a) a) (as : List α) :
    Reads (readList reader) (.list (as.map write)) as := by
  intro rest _
  cases as with
  | nil => rfl
  | cons a as =>
    let others := Value.renderItems (as.map write) ++ rest
    have text : (Value.list ((a :: as).map write)).render ++ rest =
        '[' :: ((write a).render ++ others) := by
      rw [List.map_cons, Value.render, List.cons_append, List.cons_append, List.append_assoc]
    have enough : as.length < ((write a).render ++ others).length := by
      have items := length_renderItems (as.map write)
      rw [List.length_map] at items
      rw [List.length_append, List.length_append]
      omega
    have item := h a others (ends_renderItems (as.map write) rest)
    have more := readItems_renderItems h as rest enough
    have next := nextItem_first (write a) others
    rw [text]
    show readItems reader (_ + 1) true ((write a).render ++ others) = _
    simp only [readItems, next, bind, Except.bind, item]
    rw [more]

end CallAudio.Json
