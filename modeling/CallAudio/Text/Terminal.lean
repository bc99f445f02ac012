import CallAudio.Text.Hex

/-!
Texts that are safe to show on a terminal. The controls that a terminal takes for a command, or for
the beginning of one, are shown by their codes; tabs, line feeds and the other controls stay.
-/

namespace CallAudio.Text

/-- The controls below U+0080 that act on a terminal: bell, backspace, form feed, escape, delete. -/
def terminalControls : List Char :=
  ['\x07', '\x08', '\x0c', '\x1b', '\x7f']

/-- One character: a control that acts on a terminal by its code, any other as it is. From U+0080 to
U+009F lie the controls that stand for an escape and a second character. -/
def disarmChar (c : Char) : List Char :=
  if c ∈ terminalControls then ['\\', 'x'] ++ hexDigits c.toNat 2
  else if 0x80 ≤ c.toNat ∧ c.toNat ≤ 0x9F then
    ['\\', 'u', '\x7b'] ++ Nat.toDigits 16 c.toNat ++ ['\x7d']
  else [c]

/-- The text with each character shown on its own. -/
def disarm (s : String) : String :=
  String.ofList (s.toList.flatMap disarmChar)

end CallAudio.Text
