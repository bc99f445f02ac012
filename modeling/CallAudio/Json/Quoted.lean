import CallAudio.Json.Error
import CallAudio.Text.Hex

/-!
Strings of documents, over the characters that are left of the text. Writing escapes quotes,
backslashes and controls and leaves every other character as it is; reading takes every escape.
Skipping a string looks at its escapes but not at what they stand for.
-/

namespace CallAudio.Json

/-- The controls that are escaped by a letter, with their letters. -/
def letterEscapes : List (Char × Char) :=
  [('\x08', 'b'), ('\x09', 't'), ('\x0a', 'n'), ('\x0c', 'f'), ('\x0d', 'r')]

/-- A character as it is written inside quotes. -/
def encodeChar (c : Char) : List Char :=
  if c = '"' ∨ c = '\\' then ['\\', c]
  else if c.toNat < 0x20 then
    match letterEscapes.lookup c with
    | some letter => ['\\', letter]
    | none => ['\\', 'u'] ++ Text.hexDigits c.toNat 4
  else [c]

/-- A string as it is written, with its quotes. -/
def encode (s : String) : List Char :=
  '"' :: s.toList.flatMap encodeChar ++ ['"']

/-- What one character after a backslash stands for. -/
def unescape? (c : Char) : Option Char :=
  if c = '"' ∨ c = '\\' ∨ c = '/' then some c
  else letterEscapes.findSome? fun e => if e.2 = c then some e.1 else none

/-- The number of bytes that characters take up. -/
def byteLength (cs : List Char) : Nat :=
  cs.foldr (fun c n => c.utf8Size + n) 0

/-- Four hexadecimal digits. A text that ends within four bytes ends within the string. -/
def readHexFour : List Char → Except Error (Nat × List Char)
  | a :: b :: c :: d :: rest =>
    match Text.hexNumber? 0 [a, b, c, d] with
    | some n => .ok (n, rest)
    | none => .error .invalidEscape
  | cs => if byteLength cs < 4 then .error .endOfString else .error .invalidEscape

/-- The character of a surrogate pair. -/
def joinPair (high low : Nat) : Char :=
  Char.ofNat ((high - 0xD800) * 0x400 + (low - 0xDC00) + 0x10000)

/-- What follows the first half of a surrogate pair: an escape that holds the second half. -/
def readLowHalf (high : Nat) (cs : List Char) : Except Error (Char × List Char) :=
  match cs with
  | [] => .error .endOfString
  | ['\\'] => .error .endOfString
  | '\\' :: 'u' :: rest => do
    let (low, rest) ← readHexFour rest
    if 0xDC00 ≤ low ∧ low ≤ 0xDFFF then .ok (joinPair high low, rest) else .error .brokenPair
  | _ => .error .halfPair

/-- The character of an escape, of which the backslash is read already. -/
def readEscape (cs : List Char) : Except Error (Char × List Char) :=
  match cs with
  | [] => .error .endOfString
  | 'u' :: rest => do
    let (n, rest) ← readHexFour rest
    if 0xDC00 ≤ n ∧ n ≤ 0xDFFF then .error .brokenPair
    else if 0xD800 ≤ n ∧ n ≤ 0xDBFF then readLowHalf n rest
    else .ok (Char.ofNat n, rest)
  | c :: rest =>
    match unescape? c with
    | some d => .ok (d, rest)
    | none => .error .invalidEscape

/-- An escape that is passed over. -/
def skipEscape (cs : List Char) : Except Error (List Char) :=
  match cs with
  | [] => .error .endOfString
  | 'u' :: rest => (readHexFour rest).map Prod.snd
  | c :: rest => if (unescape? c).isSome then .ok rest else .error .invalidEscape

theorem readHexFour_length {cs rest : List Char} {n : Nat} (h : readHexFour cs = .ok (n, rest)) :
    rest.length < cs.length := by
  unfold readHexFour at h
  split at h
  · split at h
    · simp only [Except.ok.injEq, Prod.mk.injEq] at h
      obtain ⟨-, rfl⟩ := h
      simp only [List.length_cons]
      omega
    · simp at h
  · split at h <;> simp at h

theorem readLowHalf_length {high : Nat} {cs rest : List Char} {c : Char}
    (h : readLowHalf high cs = .ok (c, rest)) : rest.length < cs.length := by
  unfold readLowHalf at h
  split at h
  · simp at h
  · simp at h
  · rename_i tail
    cases hx : readHexFour tail with
    | error e => simp [hx, bind, Except.bind] at h
    | ok p =>
      have hp := @readHexFour_length _ p.2 p.1 hx
      simp only [hx, bind, Except.bind] at h
      split at h
      · simp only [Except.ok.injEq, Prod.mk.injEq] at h
        obtain ⟨-, rfl⟩ := h
        simp only [List.length_cons]
        omega
      · simp at h
  · simp at h

theorem readEscape_length {cs rest : List Char} {c : Char} (h : readEscape cs = .ok (c, rest)) :
    rest.length < cs.length := by
  unfold readEscape at h
  split at h
  · simp at h
  · rename_i tail
    cases hx : readHexFour tail with
    | error e => simp [hx, bind, Except.bind] at h
    | ok p =>
      have hp := @readHexFour_length _ p.2 p.1 hx
      simp only [hx, bind, Except.bind] at h
      split at h
      · simp at h
      · split at h
        · have := readLowHalf_length h
          simp only [List.length_cons]
          omega
        · simp only [Except.ok.injEq, Prod.mk.injEq] at h
          obtain ⟨-, rfl⟩ := h
          simp only [List.length_cons]
          omega
  · split at h
    · simp only [Except.ok.injEq, Prod.mk.injEq] at h
      obtain ⟨-, rfl⟩ := h
      simp
    · simp at h

theorem skipEscape_length {cs rest : List Char} (h : skipEscape cs = .ok rest) :
    rest.length < cs.length := by
  unfold skipEscape at h
  split at h
  · simp at h
  · rename_i tail
    cases hx : readHexFour tail with
    | error e => simp [hx, Except.map] at h
    | ok p =>
      have hp := @readHexFour_length _ p.2 p.1 hx
      simp only [hx, Except.map, Except.ok.injEq] at h
      subst h
      simp only [List.length_cons]
      omega
  · split at h
    · simp only [Except.ok.injEq] at h
      subst h
      simp
    · simp at h

/-- A string up to its closing quote; the opening one is read already. -/
def readString (cs : List Char) : Except Error (List Char × List Char) :=
  match cs with
  | [] => .error .endOfString
  | '"' :: rest => .ok ([], rest)
  | '\\' :: rest =>
    match h : readEscape rest with
    | .error e => .error e
    | .ok (c, tail) =>
      have : tail.length < rest.length := readEscape_length h
      (readString tail).map fun (s, r) => (c :: s, r)
  | c :: rest =>
    if c.toNat < 0x20 then .error .controlCharacter
    else (readString rest).map fun (s, r) => (c :: s, r)
  termination_by cs.length

/-- A string that is passed over, up to its closing quote. -/
def skipString (cs : List Char) : Except Error (List Char) :=
  match cs with
  | [] => .error .endOfString
  | '"' :: rest => .ok rest
  | '\\' :: rest =>
    match h : skipEscape rest with
    | .error e => .error e
    | .ok tail =>
      have : tail.length < rest.length := skipEscape_length h
      skipString tail
  | c :: rest => if c.toNat < 0x20 then .error .controlCharacter else skipString rest
  termination_by cs.length

end CallAudio.Json
