import CallAudio.Proofs.Json.Grammar

/-!
Strings are read as what they say, and passed over, however their characters are written. What is
written for a string is one of the ways to write it, so it reads back, whatever follows the closing
quote.
-/

namespace CallAudio.Json

/-! ## Escapes -/

theorem HexDigit.hexValue? {n : Nat} {c : Char} (h : HexDigit n c) :
    Text.hexValue? c = some n := by
  have upper : ∀ n < 16, Text.hexValue? (Nat.digitChar n).toUpper = some n := by decide
  obtain ⟨small, rfl | rfl⟩ := h
  · exact Text.hexValue?_digitChar small
  · exact upper n small

theorem readHexFour_of_digits {n : Nat} {digits : List Char} (h : FourDigits n digits)
    (rest : List Char) : readHexFour (digits ++ rest) = .ok (n, rest) := by
  obtain ⟨first, second, third, fourth⟩ := h
  simp only [List.cons_append, List.nil_append, readHexFour, Text.hexNumber?, first.hexValue?,
    second.hexValue?, third.hexValue?, fourth.hexValue?, Option.bind_eq_bind, Option.bind_some,
    Except.ok.injEq, Prod.mk.injEq, and_true]
  omega

/-- A character is no half of a surrogate pair. -/
theorem toNat_ne_surrogate (c : Char) : c.toNat < 0xD800 ∨ 0xDFFF < c.toNat ∧ c.toNat < 0x110000 :=
  c.valid

theorem readEscape_code {c : Char} {digits : List Char} (h : FourDigits c.toNat digits)
    (rest : List Char) : readEscape ('u' :: (digits ++ rest)) = .ok (c, rest) := by
  have whole := toNat_ne_surrogate c
  have low : ¬(0xDC00 ≤ c.toNat ∧ c.toNat ≤ 0xDFFF) := by omega
  have high : ¬(0xD800 ≤ c.toNat ∧ c.toNat ≤ 0xDBFF) := by omega
  simp only [readEscape, readHexFour_of_digits h, bind, Except.bind, low, high, if_false,
    Char.ofNat_toNat]

theorem readEscape_pair {c : Char} {hs ls : List Char} (great : 0x10000 ≤ c.toNat)
    (high : FourDigits (0xD800 + (c.toNat - 0x10000) / 0x400) hs)
    (low : FourDigits (0xDC00 + (c.toNat - 0x10000) % 0x400) ls) (rest : List Char) :
    readEscape ('u' :: (hs ++ '\\' :: 'u' :: (ls ++ rest))) = .ok (c, rest) := by
  have limit := toNat_ne_surrogate c
  have first : ¬(0xDC00 ≤ 0xD800 + (c.toNat - 0x10000) / 0x400 ∧
      0xD800 + (c.toNat - 0x10000) / 0x400 ≤ 0xDFFF) := by omega
  have opens : 0xD800 ≤ 0xD800 + (c.toNat - 0x10000) / 0x400 ∧
      0xD800 + (c.toNat - 0x10000) / 0x400 ≤ 0xDBFF := by omega
  have closes : 0xDC00 ≤ 0xDC00 + (c.toNat - 0x10000) % 0x400 ∧
      0xDC00 + (c.toNat - 0x10000) % 0x400 ≤ 0xDFFF := by omega
  have joined : joinPair (0xD800 + (c.toNat - 0x10000) / 0x400)
      (0xDC00 + (c.toNat - 0x10000) % 0x400) = c := by
    have sum : (0xD800 + (c.toNat - 0x10000) / 0x400 - 0xD800) * 0x400 +
        (0xDC00 + (c.toNat - 0x10000) % 0x400 - 0xDC00) + 0x10000 = c.toNat := by omega
    rw [joinPair, sum, Char.ofNat_toNat]
  simp only [readEscape, readHexFour_of_digits high, bind, Except.bind, first, opens, if_false,
    if_true, readLowHalf, readHexFour_of_digits low, closes, joined, and_self]

theorem readEscape_letter {c e : Char} (known : (c, e) ∈ letters) (rest : List Char) :
    readEscape (e :: rest) = .ok (c, rest) := by
  simp only [letters, List.mem_cons, Prod.mk.injEq, List.not_mem_nil, or_false] at known
  rcases known with ⟨rfl, rfl⟩ | ⟨rfl, rfl⟩ | ⟨rfl, rfl⟩ | ⟨rfl, rfl⟩ | ⟨rfl, rfl⟩ | ⟨rfl, rfl⟩ |
    ⟨rfl, rfl⟩ | ⟨rfl, rfl⟩ <;> rfl

theorem skipEscape_letter {c e : Char} (known : (c, e) ∈ letters) (rest : List Char) :
    skipEscape (e :: rest) = .ok rest := by
  simp only [letters, List.mem_cons, Prod.mk.injEq, List.not_mem_nil, or_false] at known
  rcases known with ⟨rfl, rfl⟩ | ⟨rfl, rfl⟩ | ⟨rfl, rfl⟩ | ⟨rfl, rfl⟩ | ⟨rfl, rfl⟩ | ⟨rfl, rfl⟩ |
    ⟨rfl, rfl⟩ | ⟨rfl, rfl⟩ <;> rfl

theorem skipEscape_code {n : Nat} {digits : List Char} (h : FourDigits n digits)
    (rest : List Char) : skipEscape ('u' :: (digits ++ rest)) = .ok rest := by
  rw [skipEscape, readHexFour_of_digits h]
  rfl

/-! ## Characters -/

theorem readString_backslash {c : Char} {escape rest : List Char}
    (h : readEscape escape = .ok (c, rest)) :
    readString ('\\' :: escape) = (readString rest).map fun (s, r) => (c :: s, r) := by
  rw [readString]
  split <;> rename_i read
  · cases h.symm.trans read
  · cases h.symm.trans read
    rfl

theorem skipString_backslash {escape rest : List Char} (h : skipEscape escape = .ok rest) :
    skipString ('\\' :: escape) = skipString rest := by
  rw [skipString]
  split <;> rename_i skipped
  · cases h.symm.trans skipped
  · cases h.symm.trans skipped
    rfl

/-- A character is read first, however it is written and whatever follows. -/
theorem readString_of_spells {c : Char} {cs : List Char} (h : SpellsChar c cs) (rest : List Char) :
    readString (cs ++ rest) = (readString rest).map fun (s, r) => (c :: s, r) := by
  cases h with
  | plain quote backslash printable =>
    show readString (c :: rest) = _
    rw [readString, if_neg (Nat.not_lt.2 printable)]
    · exact fun is => quote is
    · exact fun is => backslash is
  | letter known => exact readString_backslash (readEscape_letter known rest)
  | code digits => exact readString_backslash (readEscape_code digits rest)
  | @pair hs ls great high low =>
    show readString ('\\' :: 'u' :: ((hs ++ '\\' :: 'u' :: ls) ++ rest)) = _
    rw [List.append_assoc]
    exact readString_backslash (readEscape_pair great high low rest)

theorem skipString_of_spells {c : Char} {cs : List Char} (h : SpellsChar c cs) (rest : List Char) :
    skipString (cs ++ rest) = skipString rest := by
  cases h with
  | plain quote backslash printable =>
    show skipString (c :: rest) = _
    rw [skipString, if_neg (Nat.not_lt.2 printable)]
    · exact fun is => quote is
    · exact fun is => backslash is
  | letter known => exact skipString_backslash (skipEscape_letter known rest)
  | code digits => exact skipString_backslash (skipEscape_code digits rest)
  | @pair hs ls _ high low =>
    -- the halves are passed over one after the other, as escapes of their own
    have first : skipEscape ('u' :: (hs ++ ('\\' :: 'u' :: ls ++ rest))) = _ :=
      skipEscape_code high ('\\' :: 'u' :: ls ++ rest)
    show skipString ('\\' :: 'u' :: ((hs ++ '\\' :: 'u' :: ls) ++ rest)) = _
    rw [List.append_assoc, skipString_backslash first]
    exact skipString_backslash (skipEscape_code low rest)

/-! ## Strings -/

theorem readString_spelled {s cs : List Char} (h : SpellsChars s cs) (rest : List Char) :
    readString (cs ++ '"' :: rest) = .ok (s, rest) := by
  induction h with
  | nil => rw [List.nil_append, readString]
  | cons head _ ih =>
    rw [List.append_assoc, readString_of_spells head, ih]
    rfl

theorem skipString_spelled {s cs : List Char} (h : SpellsChars s cs) (rest : List Char) :
    skipString (cs ++ '"' :: rest) = .ok rest := by
  induction h with
  | nil => rw [List.nil_append, skipString]
  | cons head _ ih => rw [List.append_assoc, skipString_of_spells head, ih]

/-! ## What is written -/

theorem hexDigit_digitChar (n : Nat) : HexDigit (n % 16) (Nat.digitChar (n % 16)) :=
  ⟨Nat.mod_lt n (by decide), .inl rfl⟩

theorem fourDigits_hexDigits {n : Nat} (small : n < 0x10000) :
    FourDigits n (Text.hexDigits n 4) := by
  have digits := FourDigits.intro (hexDigit_digitChar (n / 16 / 16 / 16))
    (hexDigit_digitChar (n / 16 / 16)) (hexDigit_digitChar (n / 16)) (hexDigit_digitChar n)
  have value : ((n / 16 / 16 / 16 % 16 * 16 + n / 16 / 16 % 16) * 16 + n / 16 % 16) * 16 +
      n % 16 = n := by omega
  rw [value] at digits
  exact digits

/-- A letter that is written for a control is one of the letters. -/
theorem mem_letters_of_lookup {c e : Char} (h : letterEscapes.lookup c = some e) :
    (c, e) ∈ letters := by
  obtain ⟨before, after, split, _⟩ := List.lookup_eq_some_iff.1 h
  have known : (c, e) ∈ letterEscapes := by
    rw [split]
    exact List.mem_append_right _ List.mem_cons_self
  have all : ∀ p ∈ letterEscapes, p ∈ letters := by decide
  exact all _ known

theorem spells_encodeChar (c : Char) : SpellsChar c (encodeChar c) := by
  unfold encodeChar
  split
  · rename_i special
    exact .letter (by rcases special with rfl | rfl <;> decide)
  · rename_i ordinary
    rw [not_or] at ordinary
    split
    · rename_i control
      split
      · rename_i letter known
        exact .letter (mem_letters_of_lookup known)
      · exact .code (fourDigits_hexDigits (Nat.lt_trans control (by decide)))
    · rename_i printable
      exact .plain ordinary.1 ordinary.2 (Nat.not_lt.1 printable)

theorem spells_flatMap (cs : List Char) : SpellsChars cs (cs.flatMap encodeChar) := by
  induction cs with
  | nil => exact .nil
  | cons c cs ih =>
    rw [List.flatMap_cons]
    exact .cons (spells_encodeChar c) ih

/-- A string that was written reads back, whatever follows its closing quote. -/
theorem readString_encode (s : String) (rest : List Char) :
    ∃ text, encode s ++ rest = '"' :: text ∧ readString text = .ok (s.toList, rest) := by
  refine ⟨s.toList.flatMap encodeChar ++ '"' :: rest, ?_,
    readString_spelled (spells_flatMap s.toList) rest⟩
  simp [encode]

end CallAudio.Json
