import Mathlib
import CallAudio.Controller.State
import CallAudio.Proofs.Arbiter.Transition

/-!
The texts by which diagnostics show a value tell it from every other one: descriptors, selections that
an arbiter can hold, routed messages and audio states. Addresses and payloads may hold anything,
marks of these texts included, since they stand where nothing but the end can follow them.
-/

namespace CallAudio

/-! ## Texts with a mark in them -/

namespace Text

/-- The text is at its end or goes on with the mark. -/
def Marked (mark : Char) (text : List Char) : Prop :=
  ∀ c ∈ text.head?, c = mark

theorem marked_nil (mark : Char) : Marked mark [] := nofun

theorem marked_cons (mark : Char) (text : List Char) : Marked mark (mark :: text) := by
  intro c hc
  cases hc
  rfl

theorem takeWhile_of_marked {mark : Char} {word text : List Char} (free : mark ∉ word)
    (marked : Marked mark text) : (word ++ text).takeWhile (· != mark) = word := by
  have all : ∀ c ∈ word, (c != mark) = true := by
    intro c hc
    rw [bne_iff_ne]
    rintro rfl
    exact free hc
  have stops : text.takeWhile (· != mark) = [] := by
    cases text with
    | nil => rfl
    | cons c rest => rw [marked c rfl, List.takeWhile_cons_of_neg (by simp)]
  rw [List.takeWhile_append_of_pos all, stops, List.append_nil]

/-- A word without the mark is told from what follows it. -/
theorem append_inj_of_marked {mark : Char} {word word' text text' : List Char}
    (free : mark ∉ word) (free' : mark ∉ word') (marked : Marked mark text)
    (marked' : Marked mark text') (h : word ++ text = word' ++ text') :
    word = word' ∧ text = text' := by
  have same : word = word' := by
    rw [← takeWhile_of_marked free marked, h, takeWhile_of_marked free' marked']
  rw [same] at h
  exact ⟨same, List.append_cancel_left h⟩

/-- A part of a text that may be absent: the mark, a label and what is shown of the value. -/
def optional {α : Type} (mark : Char) (label : String) (shown : α → List Char) :
    Option α → List Char
  | none => []
  | some a => mark :: (label.toList ++ shown a)

section

variable {α : Type} {mark : Char} {label : String} {shown : α → List Char}

theorem marked_optional_append (o : Option α) {rest : List Char} (marked : Marked mark rest) :
    Marked mark (optional mark label shown o ++ rest) := by
  cases o with
  | none => exact marked
  | some a => exact marked_cons mark _

theorem marked_optional (o : Option α) : Marked mark (optional mark label shown o) := by
  rw [← List.append_nil (optional mark label shown o)]
  exact marked_optional_append o (marked_nil mark)

theorem optional_injective (h : Function.Injective shown) :
    Function.Injective (optional mark label shown) := by
  intro o o' same
  cases o with
  | none => cases o' <;> first | rfl | cases same
  | some a =>
    cases o' with
    | none => cases same
    | some b => rw [h (List.append_cancel_left (List.cons.inj same).2)]

end

/-- What follows the first word of a list of words. -/
def moreWords : List (List Char) → List Char
  | [] => []
  | w :: ws => ',' :: ' ' :: [',', ' '].intercalate (w :: ws)

theorem intercalate_cons (w : List Char) (ws : List (List Char)) :
    [',', ' '].intercalate (w :: ws) = w ++ moreWords ws := by
  cases ws with
  | nil => rw [moreWords, List.append_nil, List.intercalate_singleton]
  | cons v vs =>
    rw [List.intercalate_cons_cons, moreWords, List.append_assoc]
    rfl

theorem marked_moreWords (ws : List (List Char)) : Marked ',' (moreWords ws) := by
  cases ws with
  | nil => exact marked_nil ','
  | cons w ws => exact marked_cons ',' _

/-- Words that are not empty and hold no comma are told from each other in a list. -/
theorem intercalate_inj {ws vs : List (List Char)} (words : ∀ w ∈ ws, w ≠ [] ∧ ',' ∉ w)
    (words' : ∀ v ∈ vs, v ≠ [] ∧ ',' ∉ v)
    (h : [',', ' '].intercalate ws = [',', ' '].intercalate vs) : ws = vs := by
  induction ws generalizing vs with
  | nil =>
    cases vs with
    | nil => rfl
    | cons v vs =>
      rw [List.intercalate_nil, intercalate_cons] at h
      exact absurd (List.append_eq_nil_iff.1 h.symm).1 (words' v List.mem_cons_self).1
  | cons w ws ih =>
    cases vs with
    | nil =>
      rw [List.intercalate_nil, intercalate_cons] at h
      exact absurd (List.append_eq_nil_iff.1 h).1 (words w List.mem_cons_self).1
    | cons v vs =>
      rw [intercalate_cons, intercalate_cons] at h
      obtain ⟨rfl, more⟩ := append_inj_of_marked (words w List.mem_cons_self).2
        (words' v List.mem_cons_self).2 (marked_moreWords ws) (marked_moreWords vs) h
      have later : ws = vs := by
        cases ws with
        | nil => cases vs <;> first | rfl | cases more
        | cons w' ws =>
          cases vs with
          | nil => cases more
          | cons v' vs =>
            injection more with _ more
            injection more with _ more
            exact ih (fun u hu => words u (List.mem_cons_of_mem w hu))
              (fun u hu => words' u (List.mem_cons_of_mem w hu)) more
      rw [later]

end Text

open Text (Marked marked_nil marked_cons append_inj_of_marked)

/-! ## Descriptors and selections -/

namespace DeviceType

theorem name_injective : Function.Injective name := by
  have all : ∀ t ∈ all, ∀ u ∈ all, t.name = u.name → t = u := by decide
  exact fun t u => all t t.mem_all u u.mem_all

theorem bracket_notMem_name (t : DeviceType) : '[' ∉ t.name.toList := by
  cases t <;> decide

theorem name_ne_none (t : DeviceType) (text : List Char) :
    t.name.toList ++ text ≠ "NONE".toList := by
  cases t <;> exact fun h => by cases h

end DeviceType

theorem BluetoothAddress.toList_text_injective :
    Function.Injective fun a : BluetoothAddress => a.text.toList := by
  rintro ⟨text⟩ ⟨text'⟩ h
  exact congrArg mk (String.toList_inj.1 h)

namespace DeviceDescriptor

/-- The address after the name of the type. -/
def bracketed : Option BluetoothAddress → List Char :=
  Text.optional '[' "" fun a => a.text.toList ++ [']']

theorem bracketed_injective : Function.Injective bracketed :=
  Text.optional_injective fun _ _ h =>
    BluetoothAddress.toList_text_injective (List.append_cancel_right h)

theorem toList_displayTyped (t : DeviceType) (a : Option BluetoothAddress) :
    (displayTyped t a).toList = t.name.toList ++ bracketed a := by
  cases a with
  | none => exact (List.append_nil _).symm
  | some a => simp [displayTyped, bracketed, Text.optional]

/-- The name ends at the first bracket, whatever brackets the address holds. -/
theorem displayTyped_inj {t t' : DeviceType} {a a' : Option BluetoothAddress}
    (h : displayTyped t a = displayTyped t' a') : t = t' ∧ a = a' := by
  rw [← String.toList_inj, toList_displayTyped, toList_displayTyped] at h
  obtain ⟨name, address⟩ := append_inj_of_marked t.bracket_notMem_name t'.bracket_notMem_name
    (Text.marked_optional a) (Text.marked_optional a') h
  exact ⟨DeviceType.name_injective (String.toList_inj.1 name), bracketed_injective address⟩

theorem display_injective : Function.Injective display := by
  intro d d' h
  obtain ⟨type, address⟩ := displayTyped_inj h
  cases d
  cases d'
  cases type
  cases address
  rfl

end DeviceDescriptor

namespace Selection

/-- Without an active type the address is not shown, so selections are told apart only where none is
tracked then. -/
theorem Coherent.eq_of_display {s s' : Selection} (h : s.Coherent) (h' : s'.Coherent)
    (same : s.display = s'.display) : s = s' := by
  obtain ⟨type, address⟩ := s
  obtain ⟨type', address'⟩ := s'
  cases type with
  | none =>
    cases type' with
    | none =>
      cases (show address = none from h.address_eq_none rfl)
      cases (show address' = none from h'.address_eq_none rfl)
      rfl
    | some t' =>
      refine absurd ?_ (t'.name_ne_none (DeviceDescriptor.bracketed address'))
      rw [← DeviceDescriptor.toList_displayTyped]
      exact congrArg String.toList same.symm
  | some t =>
    cases type' with
    | none =>
      refine absurd ?_ (t.name_ne_none (DeviceDescriptor.bracketed address))
      rw [← DeviceDescriptor.toList_displayTyped]
      exact congrArg String.toList same
    | some t' =>
      obtain ⟨rfl, rfl⟩ := DeviceDescriptor.displayTyped_inj same
      rfl

example (a : BluetoothAddress) : display { address := some a } = display {} := rfl

end Selection

/-! ## Routed messages -/

namespace RouteMessage

theorem name_injective : Function.Injective name := by
  have all : ∀ m ∈ all, ∀ n ∈ all, m.name = n.name → m = n := by decide
  exact fun m n => all m m.mem_all n n.mem_all

theorem space_notMem_name (m : RouteMessage) : ' ' ∉ m.name.toList := by
  cases m <;> decide

theorem name_ne_task (m : RouteMessage) : m.name.toList ≠ "task".toList := by
  cases m <;> decide

end RouteMessage

theorem space_notMem_repr (n : Int) : ' ' ∉ n.repr.toList := by
  have digits (k : Nat) : ' ' ∉ k.repr.toList := by
    intro space
    rw [Nat.toList_repr] at space
    cases Nat.isDigit_of_mem_toDigits (by omega) (by omega) space
  rw [Int.repr_eq_if]
  split
  · exact digits _
  · rw [String.toList_append, List.mem_append, not_or]
    exact ⟨by decide, digits _⟩

namespace RoutedMessage

/-- The argument after the name of the message. -/
def argText : Option Int → List Char :=
  Text.optional ' ' "arg=" fun n => n.repr.toList

/-- The payload, which comes last. -/
def payloadText : Option String → List Char :=
  Text.optional ' ' "payload=" String.toList

theorem toList_display (m : RoutedMessage) :
    m.display.toList = m.message.name.toList ++ (argText m.arg ++ payloadText m.payload) := by
  cases ha : m.arg <;> cases hp : m.payload <;>
    simp [display, argText, payloadText, Text.optional, ha, hp, toString, List.append_assoc]

theorem marked_argText (arg : Option Int) (payload : Option String) :
    Marked ' ' (argText arg ++ payloadText payload) :=
  Text.marked_optional_append arg (Text.marked_optional payload)

theorem payloadText_injective : Function.Injective payloadText :=
  Text.optional_injective fun _ _ => String.toList_inj.1

theorem payloadText_ne_argText (payload : Option String) (n : Int) (text : List Char) :
    payloadText payload ≠ argText (some n) ++ text := by
  cases payload with
  | none => exact fun h => by cases h
  | some p =>
    intro h
    injection h with _ h
    cases h

/-- The argument, if there is one, ends at the first blank or at the end; no payload looks like one. -/
theorem argText_inj {arg arg' : Option Int} {payload payload' : Option String}
    (h : argText arg ++ payloadText payload = argText arg' ++ payloadText payload') :
    arg = arg' ∧ payload = payload' := by
  cases arg with
  | none =>
    cases arg' with
    | none => exact ⟨rfl, payloadText_injective h⟩
    | some n' => exact absurd h (payloadText_ne_argText payload n' _)
  | some n =>
    cases arg' with
    | none => exact absurd h.symm (payloadText_ne_argText payload' n _)
    | some n' =>
      simp only [argText, Text.optional, List.cons_append, List.cons.injEq, true_and,
        List.append_assoc] at h
      obtain ⟨number, rest⟩ := append_inj_of_marked (space_notMem_repr n) (space_notMem_repr n')
        (Text.marked_optional payload) (Text.marked_optional payload') (List.append_cancel_left h)
      rw [Int.repr_inj.1 (String.toList_inj.1 number), payloadText_injective rest]
      exact ⟨rfl, rfl⟩

theorem eq_of_display {m m' : RoutedMessage} (h : m.display = m'.display) :
    m.message = m'.message ∧ m.arg = m'.arg ∧ m.payload = m'.payload := by
  rw [← String.toList_inj, toList_display, toList_display] at h
  obtain ⟨name, rest⟩ := append_inj_of_marked m.message.space_notMem_name
    m'.message.space_notMem_name (marked_argText m.arg m.payload)
    (marked_argText m'.arg m'.payload) h
  exact ⟨RouteMessage.name_injective (String.toList_inj.1 name), argText_inj rest⟩

/-- No message is taken for a task. -/
theorem display_ne_task (m : RoutedMessage) : m.display ≠ "task" := by
  intro h
  rw [← String.toList_inj, toList_display] at h
  have free : ' ' ∉ "task".toList := by decide
  have name := (append_inj_of_marked m.message.space_notMem_name free
    (marked_argText m.arg m.payload) (marked_nil ' ') (by rw [h, List.append_nil])).1
  exact m.message.name_ne_task name

end RoutedMessage

/-! ## Audio states -/

namespace AudioRoute

theorem inspect_injective : Function.Injective inspect := by
  intro r r' h
  cases r <;> cases r' <;> first | rfl | exact absurd h (by decide)

/-- A route is shown by a word, which has none of the marks around it. -/
theorem inspect_word (r : AudioRoute) :
    r.inspect.toList ≠ [] ∧ ',' ∉ r.inspect.toList ∧ ' ' ∉ r.inspect.toList ∧
      ']' ∉ r.inspect.toList := by
  cases r <;> decide

end AudioRoute

namespace CallAudioState

/-- The routes on offer, between their brackets. -/
def supportedText (rs : List AudioRoute) : List Char :=
  [',', ' '].intercalate (rs.map fun r => r.inspect.toList)

theorem supportedText_injective : Function.Injective supportedText := by
  intro rs rs' h
  have words (rs : List AudioRoute) :
      ∀ w ∈ rs.map fun r => r.inspect.toList, w ≠ [] ∧ ',' ∉ w := by
    intro w hw
    obtain ⟨r, _, rfl⟩ := List.mem_map.1 hw
    exact ⟨r.inspect_word.1, r.inspect_word.2.1⟩
  refine (List.map_inj_right ?_).1 (Text.intercalate_inj (words rs) (words rs') h)
  exact fun r r' same => AudioRoute.inspect_injective (String.toList_inj.1 same)

theorem bracket_notMem_supportedText (rs : List AudioRoute) : ']' ∉ supportedText rs := by
  unfold supportedText
  induction rs with
  | nil => exact List.not_mem_nil
  | cons r rs ih =>
    rw [List.map_cons, Text.intercalate_cons, List.mem_append, not_or]
    refine ⟨r.inspect_word.2.2.2, ?_⟩
    cases rs with
    | nil => exact List.not_mem_nil
    | cons r' rs =>
      rw [List.map_cons, Text.moreWords]
      simp only [List.mem_cons, not_or]
      exact ⟨by decide, by decide, ih⟩

/-- The Bluetooth device, which comes last. -/
def deviceText : Option BluetoothAddress → List Char :=
  Text.optional ' ' "bt=" fun a => a.text.toList

/-- What follows the routes on offer. -/
def mutedText (s : CallAudioState) : List Char :=
  ']' :: (" muted=".toList ++ ((Text.Inspect.bool s.muted).toList ++ deviceText s.device))

theorem mutedText_inj {s s' : CallAudioState} (h : s.mutedText = s'.mutedText) :
    s.muted = s'.muted ∧ s.device = s'.device := by
  have word (b : Bool) : ' ' ∉ (Text.Inspect.bool b).toList := by cases b <;> decide
  obtain ⟨flag, device⟩ := append_inj_of_marked (word s.muted) (word s'.muted)
    (Text.marked_optional s.device) (Text.marked_optional s'.device)
    (List.append_cancel_left (List.cons.inj h).2)
  refine ⟨?_, Text.optional_injective BluetoothAddress.toList_text_injective device⟩
  cases hm : s.muted <;> cases hm' : s'.muted <;> rw [hm, hm'] at flag <;>
    first | rfl | exact absurd flag (by decide)

theorem toList_display (s : CallAudioState) :
    s.display.toList = "route=".toList ++ (s.route.inspect.toList ++
      ' ' :: ("supported=[".toList ++ (supportedText s.supported ++ s.mutedText))) := by
  cases hd : s.device <;>
    simp [display, supportedText, mutedText, deviceText, Text.optional, hd, Text.Inspect.list,
      String.toList_intercalate, List.append_assoc, Function.comp_def]

theorem display_injective : Function.Injective display := by
  intro s s' h
  rw [← String.toList_inj, toList_display, toList_display] at h
  obtain ⟨route, rest⟩ := append_inj_of_marked s.route.inspect_word.2.2.1
    s'.route.inspect_word.2.2.1 (marked_cons ' ' _) (marked_cons ' ' _) (List.append_cancel_left h)
  obtain ⟨supported, rest⟩ := append_inj_of_marked (bracket_notMem_supportedText s.supported)
    (bracket_notMem_supportedText s'.supported) (marked_cons ']' _) (marked_cons ']' _)
    (List.append_cancel_left (List.cons.inj rest).2)
  obtain ⟨muted, device⟩ := mutedText_inj rest
  have route := AudioRoute.inspect_injective (String.toList_inj.1 route)
  have supported := supportedText_injective supported
  cases s
  cases s'
  cases route
  cases supported
  cases muted
  cases device
  rfl

end CallAudioState

/-! ## No text stands for two values -/

/-- Whatever the texts of addresses and payloads are, and whatever the arguments:

* descriptors with the same text are equal;
* what two arbiters hold, after whatever runs, is equal if it is shown alike;
* messages with the same text have the same name, argument and payload, each present or absent alike,
  and none has the text of a task;
* audio states with the same text are equal. -/
theorem displays_unambiguous :
    Function.Injective DeviceDescriptor.display ∧
    (∀ devices kinds steps devices' kinds' steps',
      let held := ((AudioSystem.start devices kinds).run steps).arbiter.selection
      let held' := ((AudioSystem.start devices' kinds').run steps').arbiter.selection
      held.display = held'.display → held = held') ∧
    (∀ m m' : RoutedMessage, m.display = m'.display →
      m.message = m'.message ∧ m.arg = m'.arg ∧ m.payload = m'.payload) ∧
    (∀ (m : RoutedMessage) (work : Work) (session : Session),
      (Item.message m).description ≠ (Item.task work session).description) ∧
    Function.Injective CallAudioState.display := by
  refine ⟨DeviceDescriptor.display_injective, ?_, fun _ _ => RoutedMessage.eq_of_display,
    fun m _ _ => m.display_ne_task, CallAudioState.display_injective⟩
  intro devices kinds steps devices' kinds' steps' held held'
  exact (AudioSystem.coherent_run_start devices kinds steps).eq_of_display
    (AudioSystem.coherent_run_start devices' kinds' steps')

end CallAudio
