import CallAudio.Proofs.Json.Integer
import CallAudio.Proofs.Json.Quoted

/-!
A value of any kind can be passed over, nested to any depth and laid out in any way. What is left is
what follows it. The fuel that is given out suffices, since it is twice the length of the text.
-/

namespace CallAudio.Json

/-! ## How a part begins -/

theorem Spells.opens {v : Tree} {cs : List Char} (h : Spells (.value v) cs) :
    ∃ c cs', cs = c :: cs' ∧ Opens c := by
  cases h with
  | null => exact ⟨_, _, rfl, by constructor <;> decide⟩
  | bool b => cases b <;> exact ⟨_, _, rfl, by constructor <;> decide⟩
  | integer n =>
    obtain ⟨c, cs, text, starts⟩ := integerText_starts n
    exact ⟨c, cs, text, opens_of_startsNumber starts⟩
  | string => exact ⟨_, _, rfl, by constructor <;> decide⟩
  | emptyList => exact ⟨_, _, rfl, by constructor <;> decide⟩
  | list => exact ⟨_, _, rfl, by constructor <;> decide⟩
  | emptyObject => exact ⟨_, _, rfl, by constructor <;> decide⟩
  | object => exact ⟨_, _, rfl, by constructor <;> decide⟩

/-- A value begins behind its blanks. -/
theorem Spells.spaced_opens {v : Tree} {cs : List Char} (h : Spells (.spaced v) cs)
    (rest : List Char) : ∃ c cs', skipBlanks (cs ++ rest) = c :: cs' ∧ Opens c := by
  cases h with
  | @spaced v bs cs bs' before h after =>
    obtain ⟨c, cs', text, opens⟩ := h.opens
    refine ⟨c, cs' ++ (bs' ++ rest), ?_, opens⟩
    rw [List.append_assoc, List.append_assoc, before.skipBlanks_append, text]
    exact skipBlanks_cons opens.mark _

theorem Spells.items_open {vs : List Tree} {cs : List Char} (h : Spells (.items vs) cs)
    (rest : List Char) : ∃ c cs', skipBlanks (cs ++ rest) = c :: cs' ∧ Opens c := by
  cases h with
  | lastItem h => exact h.spaced_opens rest
  | @item v vs cs ts h others =>
    rw [List.append_assoc]
    exact h.spaced_opens _

theorem skipBlanks_key {bs : List Char} (blanks : Blanks bs) (cs : List Char) :
    skipBlanks (bs ++ '"' :: cs) = '"' :: cs := by
  rw [blanks.skipBlanks_append]
  rfl

/-- A member begins with the quote of its key. -/
theorem Spells.members_open {ms : List (String × Tree)} {cs : List Char}
    (h : Spells (.members ms) cs) (rest : List Char) :
    ∃ cs', skipBlanks (cs ++ rest) = '"' :: cs' := by
  cases h with
  | lastMember before name after h =>
    rw [List.append_assoc]
    exact ⟨_, skipBlanks_key before _⟩
  | member before name after h others =>
    rw [List.append_assoc]
    exact ⟨_, skipBlanks_key before _⟩

/-! ## Blanks in front -/

theorem skipBlanks_of_ends {rest : List Char} (ends : Ends rest) : skipBlanks rest = rest := by
  cases rest with
  | nil => rfl
  | cons c cs => rcases ends c rfl with rfl | rfl | rfl <;> rfl

theorem skipValueWithin_skipBlanks (fuel : Nat) (cs : List Char) :
    skipValueWithin fuel (skipBlanks cs) = skipValueWithin fuel cs := by
  cases fuel with
  | zero => rfl
  | succ fuel => rw [skipValueWithin, skipValueWithin, skipBlanks_skipBlanks]

theorem skipItems_skipBlanks (fuel : Nat) (cs : List Char) :
    skipItems fuel (skipBlanks cs) = skipItems fuel cs := by
  cases fuel with
  | zero => rfl
  | succ fuel => rw [skipItems, skipItems, skipValueWithin_skipBlanks]

theorem skipKey_skipBlanks (cs : List Char) : skipKey (skipBlanks cs) = skipKey cs := by
  rw [skipKey, skipKey, skipBlanks_skipBlanks]

theorem skipMembers_skipBlanks (fuel : Nat) (cs : List Char) :
    skipMembers fuel (skipBlanks cs) = skipMembers fuel cs := by
  cases fuel with
  | zero => rfl
  | succ fuel => rw [skipMembers, skipMembers, skipKey_skipBlanks]

/-! ## One step -/

theorem skipValueWithin_number {c : Char} (starts : startsNumber c = true) (fuel : Nat)
    (cs : List Char) : skipValueWithin (fuel + 1) (c :: cs) = skipNumber (c :: cs) := by
  rw [skipValueWithin, skipBlanks_cons (opens_of_startsNumber starts).mark]
  split <;> rename_i begins <;> cases begins
  -- no other kind of value begins as a number does
  all_goals first | cases starts | exact if_pos starts

theorem skipValueWithin_bracket (fuel : Nat) (cs : List Char) :
    skipValueWithin (fuel + 1) ('[' :: cs) =
      match skipBlanks cs with
      | [] => .error .endOfList
      | ']' :: rest => .ok rest
      | rest => skipItems fuel rest :=
  rfl

theorem skipValueWithin_brace (fuel : Nat) (cs : List Char) :
    skipValueWithin (fuel + 1) ('\x7b' :: cs) =
      match skipBlanks cs with
      | [] => .error .endOfObject
      | '\x7d' :: rest => .ok rest
      | rest => skipMembers fuel rest :=
  rfl

/-- A list that is not empty. -/
theorem skipValueWithin_list {fuel : Nat} {c : Char} {cs cs' : List Char}
    (begins : skipBlanks cs = c :: cs') (opens : Opens c) :
    skipValueWithin (fuel + 1) ('[' :: cs) = skipItems fuel cs := by
  rw [skipValueWithin_bracket, ← skipItems_skipBlanks, begins]
  split <;> rename_i is
  · cases is
  · cases is
    exact absurd rfl opens.bracket
  · rfl

/-- An object that is not empty. -/
theorem skipValueWithin_object {fuel : Nat} {cs cs' : List Char}
    (begins : skipBlanks cs = '"' :: cs') :
    skipValueWithin (fuel + 1) ('\x7b' :: cs) = skipMembers fuel cs := by
  rw [skipValueWithin_brace, ← skipMembers_skipBlanks, begins]
  rfl

theorem skipKey_spelled {key : String} {bs ks bs' : List Char} (before : Blanks bs)
    (name : SpellsChars key.toList ks) (after : Blanks bs') (rest : List Char) :
    skipKey (bs ++ '"' :: (ks ++ '"' :: (bs' ++ ':' :: rest))) = .ok rest := by
  rw [skipKey, skipBlanks_key before]
  show (skipString (ks ++ '"' :: (bs' ++ ':' :: rest))).bind readColon = _
  rw [skipString_spelled name]
  show readColon (bs' ++ ':' :: rest) = _
  rw [readColon, after.skipBlanks_append]
  rfl

/-- What follows an item of a list decides how it goes on. -/
theorem skipItems_ok {fuel : Nat} {cs left : List Char}
    (value : skipValueWithin fuel cs = .ok left) :
    skipItems (fuel + 1) cs =
      match skipBlanks left with
      | [] => .error .endOfList
      | ']' :: rest => .ok rest
      | ',' :: rest => skipItems fuel rest
      | _ => .error .expectedCommaInList := by
  rw [skipItems, value]
  rfl

/-- What follows a member of an object decides how it goes on. -/
theorem skipMembers_ok {fuel : Nat} {cs cs' left : List Char} (key : skipKey cs = .ok cs')
    (value : skipValueWithin fuel cs' = .ok left) :
    skipMembers (fuel + 1) cs =
      match skipBlanks left with
      | [] => .error .endOfObject
      | '\x7d' :: rest => .ok rest
      | ',' :: rest => skipMembers fuel rest
      | _ => .error .expectedCommaInObject := by
  rw [skipMembers, key]
  show (skipValueWithin fuel cs').bind _ = _
  rw [value]
  rfl

/-! ## All of a part -/

/-- With enough fuel, passing over the part leads to what follows it. -/
def Skipped : Part → List Char → Prop
  | .value _, cs => ∀ fuel rest, 2 * cs.length ≤ fuel → Apart rest →
      skipValueWithin fuel (cs ++ rest) = .ok rest
  | .spaced _, cs => ∀ fuel rest, 2 * cs.length ≤ fuel → Ends rest →
      ∃ left, skipValueWithin fuel (cs ++ rest) = .ok left ∧ skipBlanks left = rest
  | .items _, cs => ∀ fuel rest, 2 * cs.length < fuel →
      skipItems fuel (cs ++ ']' :: rest) = .ok rest
  | .members _, cs => ∀ fuel rest, 2 * cs.length < fuel →
      skipMembers fuel (cs ++ '\x7d' :: rest) = .ok rest

namespace Skipped

variable {v : Tree} {vs : List Tree} {ms : List (String × Tree)} {key : String}
  {bs ks bs' cs ts : List Char}

/-- A value has a first character, so the fuel for it is not used up. -/
theorem of_step {c : Char} (h : ∀ fuel rest, 2 * cs.length < fuel → Apart rest →
    skipValueWithin (fuel + 1) (c :: (cs ++ rest)) = .ok rest) :
    Skipped (.value v) (c :: cs) := by
  intro fuel rest enough apart
  rw [List.length_cons] at enough
  cases fuel with
  | zero => cases enough
  | succ fuel => exact h fuel rest (by omega) apart

theorem integer (n : Int) : Skipped (.value (.integer n)) (integerText n) := by
  obtain ⟨c, cs, text, starts⟩ := integerText_starts n
  rw [text]
  refine of_step fun fuel rest _ apart => ?_
  have skipped := skipNumber_integerText n apart
  rw [text] at skipped
  rw [skipValueWithin_number starts]
  exact skipped

theorem string {s : String} (chars : SpellsChars s.toList cs) :
    Skipped (.value (.string s)) ('"' :: (cs ++ ['"'])) := by
  refine of_step fun fuel rest _ _ => ?_
  show skipString ((cs ++ ['"']) ++ rest) = _
  rw [List.append_assoc]
  exact skipString_spelled chars rest

theorem emptyList (blanks : Blanks bs) : Skipped (.value (.list [])) ('[' :: (bs ++ [']'])) := by
  refine of_step fun fuel rest _ _ => ?_
  rw [List.append_assoc, skipValueWithin_bracket, blanks.skipBlanks_append]
  rfl

theorem list (items : Spells (.items vs) cs) (h : Skipped (.items vs) cs) :
    Skipped (.value (.list vs)) ('[' :: (cs ++ [']'])) := by
  refine of_step fun fuel rest enough _ => ?_
  obtain ⟨c, cs', begins, opens⟩ := items.items_open (']' :: rest)
  rw [List.append_assoc, List.singleton_append, skipValueWithin_list begins opens]
  rw [List.length_append] at enough
  exact h fuel rest (by omega)

theorem emptyObject (blanks : Blanks bs) :
    Skipped (.value (.object [])) ('\x7b' :: (bs ++ ['\x7d'])) := by
  refine of_step fun fuel rest _ _ => ?_
  rw [List.append_assoc, skipValueWithin_brace, blanks.skipBlanks_append]
  rfl

theorem object (members : Spells (.members ms) cs) (h : Skipped (.members ms) cs) :
    Skipped (.value (.object ms)) ('\x7b' :: (cs ++ ['\x7d'])) := by
  refine of_step fun fuel rest enough _ => ?_
  obtain ⟨cs', begins⟩ := members.members_open ('\x7d' :: rest)
  rw [List.append_assoc, List.singleton_append, skipValueWithin_object begins]
  rw [List.length_append] at enough
  exact h fuel rest (by omega)

/-- A number stops at the blanks behind it, which are left. -/
theorem spaced (before : Blanks bs) (after : Blanks bs') (h : Skipped (.value v) cs) :
    Skipped (.spaced v) (bs ++ (cs ++ bs')) := by
  intro fuel rest enough ends
  simp only [List.length_append] at enough
  refine ⟨bs' ++ rest, ?_, ?_⟩
  · rw [List.append_assoc, List.append_assoc, ← skipValueWithin_skipBlanks,
      before.skipBlanks_append, skipValueWithin_skipBlanks]
    exact h fuel (bs' ++ rest) (by omega) (after.apart_append ends.apart)
  · rw [after.skipBlanks_append, skipBlanks_of_ends ends]

theorem lastItem (h : Skipped (.spaced v) cs) : Skipped (.items [v]) cs := by
  intro fuel rest enough
  cases fuel with
  | zero => cases enough
  | succ fuel =>
    obtain ⟨left, skipped, closes⟩ := h fuel (']' :: rest) (by omega)
      (ends_cons (.inr (.inl rfl)) _)
    rw [skipItems_ok skipped, closes]
    rfl

theorem item (h : Skipped (.spaced v) cs) (others : Skipped (.items vs) ts) :
    Skipped (.items (v :: vs)) (cs ++ ',' :: ts) := by
  intro fuel rest enough
  simp only [List.length_append, List.length_cons] at enough
  cases fuel with
  | zero => cases enough
  | succ fuel =>
    obtain ⟨left, skipped, goesOn⟩ := h fuel (',' :: (ts ++ ']' :: rest)) (by omega)
      (ends_cons (.inl rfl) _)
    rw [List.append_assoc, List.cons_append, skipItems_ok skipped, goesOn]
    exact others fuel rest (by omega)

theorem lastMember (before : Blanks bs) (name : SpellsChars key.toList ks) (after : Blanks bs')
    (h : Skipped (.spaced v) cs) :
    Skipped (.members [(key, v)]) (bs ++ '"' :: (ks ++ '"' :: (bs' ++ ':' :: cs))) := by
  intro fuel rest enough
  simp only [List.length_append, List.length_cons] at enough
  cases fuel with
  | zero => cases enough
  | succ fuel =>
    obtain ⟨left, skipped, closes⟩ := h fuel ('\x7d' :: rest) (by omega)
      (ends_cons (.inr (.inr rfl)) _)
    simp only [List.append_assoc, List.cons_append]
    rw [skipMembers_ok (skipKey_spelled before name after _) skipped, closes]
    rfl

theorem member (before : Blanks bs) (name : SpellsChars key.toList ks) (after : Blanks bs')
    (h : Skipped (.spaced v) cs) (others : Skipped (.members ms) ts) :
    Skipped (.members ((key, v) :: ms))
      (bs ++ '"' :: (ks ++ '"' :: (bs' ++ ':' :: (cs ++ ',' :: ts)))) := by
  intro fuel rest enough
  simp only [List.length_append, List.length_cons] at enough
  cases fuel with
  | zero => cases enough
  | succ fuel =>
    obtain ⟨left, skipped, goesOn⟩ := h fuel (',' :: (ts ++ '\x7d' :: rest)) (by omega)
      (ends_cons (.inl rfl) _)
    simp only [List.append_assoc, List.cons_append]
    rw [skipMembers_ok (skipKey_spelled before name after _) skipped, goesOn]
    exact others fuel rest (by omega)

end Skipped

theorem skipped_of_spells {part : Part} {cs : List Char} (h : Spells part cs) :
    Skipped part cs := by
  induction h with
  | null => exact .of_step fun _ _ _ _ => rfl
  | bool b => cases b <;> exact .of_step fun _ _ _ _ => rfl
  | integer n => exact .integer n
  | string chars => exact .string chars
  | emptyList blanks => exact .emptyList blanks
  | list items ih => exact .list items ih
  | emptyObject blanks => exact .emptyObject blanks
  | object members ih => exact .object members ih
  | spaced before _ after ih => exact .spaced before after ih
  | lastItem _ ih => exact .lastItem ih
  | item _ _ ih ihs => exact .item ih ihs
  | lastMember before name after _ ih => exact .lastMember before name after ih
  | member before name after _ _ ih ihs => exact .member before name after ih ihs

/-- A value with blanks around it is passed over, and nothing but blanks is left in front of what
follows. -/
theorem skipValue_spelled {v : Tree} {cs : List Char} (h : Spells (.spaced v) cs)
    {rest : List Char} (ends : Ends rest) :
    ∃ left, skipValue (cs ++ rest) = .ok left ∧ skipBlanks left = rest := by
  refine skipped_of_spells h _ rest ?_ ends
  rw [List.length_append]
  omega

end CallAudio.Json
