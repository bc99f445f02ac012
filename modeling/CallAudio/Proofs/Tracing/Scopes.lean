import CallAudio.Log.Line
import CallAudio.Message

/-!
The scope in which a session was opened is there to be named in texts. To say that nothing else
comes of it, `rescope f` replaces every such scope by what `f` makes of it: in records, in messages,
and in computations that leave records. Computations that are equal once they are rescoped differ in
those scopes only, and so do computations that are put together from them.
-/

namespace CallAudio

namespace Log

/-- The value, with another scope where it tells of a session. -/
def Value.rescope (f : Scope → Scope) : Value → Value
  | origin scope => origin (f scope)
  | session scope => session (f scope)
  | text s => text s
  | flag b => flag b

/-- The field, with another scope where it tells of a session. -/
def Field.rescope (f : Scope → Scope) (x : Field) : Field :=
  { x with value := x.value.rescope f }

/-- The span with its fields rescoped. -/
def Span.rescope (f : Scope → Scope) (s : Span) : Span :=
  { s with fields := s.fields.map (Field.rescope f) }

/-- The record with its fields and its spans rescoped. -/
def Record.rescope (f : Scope → Scope) (r : Record) : Record :=
  { r with
    fields := r.fields.map (Field.rescope f)
    spans := r.spans.map (Span.rescope f) }

variable {f : Scope → Scope}

/-! ## Computations -/

namespace Logged

variable {α β γ δ ε : Type} {g : α → β} {k : γ → δ}

/-- The computation with its records rescoped, and its result replaced by what `g` makes of it. -/
def rescope (f : Scope → Scope) (g : α → β) (x : Logged α) : Logged β :=
  ⟨g x.value, x.records.map (Record.rescope f)⟩

@[simp] theorem rescope_pure (a : α) : (pure a : Logged α).rescope f g = pure (g a) := rfl

theorem pure_alike {a b : α} (same : g a = g b) :
    (pure a : Logged α).rescope f g = (pure b : Logged α).rescope f g :=
  congrArg pure same

theorem pure_pair_alike (e : ε) {a b : α} (same : g a = g b) :
    (pure (e, a) : Logged (ε × α)).rescope f (Prod.map id g) =
      (pure (e, b) : Logged (ε × α)).rescope f (Prod.map id g) :=
  congrArg (fun b => pure (e, b)) same

@[simp] theorem rescope_within (span : Span) (x : Logged α) :
    (x.within span).rescope f g = (x.rescope f g).within (span.rescope f) := by
  unfold within rescope
  simp only [List.map_map]
  rfl

theorem rescope_bind (x : Logged α) (F : α → Logged γ) :
    (x >>= F).rescope f k =
      ⟨k (F x.value).value,
        x.records.map (Record.rescope f) ++ (F x.value).records.map (Record.rescope f)⟩ := by
  unfold rescope
  rw [records_bind, List.map_append]
  rfl

/-- Computations that differ in scopes only, followed by such computations. -/
theorem bind_alike {x y : Logged α} (first : x.rescope f g = y.rescope f g) {F G : α → Logged γ}
    (follow : ∀ a b, g a = g b → (F a).rescope f k = (G b).rescope f k) :
    (x >>= F).rescope f k = (y >>= G).rescope f k := by
  have value : g x.value = g y.value := congrArg Logged.value first
  have records : x.records.map (Record.rescope f) = y.records.map (Record.rescope f) :=
    congrArg Logged.records first
  have next := follow _ _ value
  have value' : k (F x.value).value = k (G y.value).value := congrArg Logged.value next
  have records' : (F x.value).records.map (Record.rescope f) =
      (G y.value).records.map (Record.rescope f) := congrArg Logged.records next
  rw [rescope_bind, rescope_bind, records, value', records']

/-- The same, where all that differs is the second part of the result. -/
theorem bind_pair_alike {x y : Logged (ε × α)}
    (first : x.rescope f (Prod.map id g) = y.rescope f (Prod.map id g))
    {F G : ε × α → Logged γ}
    (follow : ∀ e a b, g a = g b → (F (e, a)).rescope f k = (G (e, b)).rescope f k) :
    (x >>= F).rescope f k = (y >>= G).rescope f k := by
  refine bind_alike first fun a b same => ?_
  obtain ⟨e, a⟩ := a
  obtain ⟨e', b⟩ := b
  obtain ⟨rfl, alike⟩ : e = e' ∧ g a = g b := Prod.ext_iff.1 same
  exact follow e a b alike

end Logged

end Log

open Log (Logged Scope)

/-! ## Messages -/

/-- The session, opened in another scope. -/
def Session.rescope (f : Scope → Scope) (s : Session) : Session :=
  ⟨f s.scope⟩

/-- The message, submitted in another scope. -/
def RoutedMessage.rescope (f : Scope → Scope) (m : RoutedMessage) : RoutedMessage :=
  { m with session := m.session.rescope f }

end CallAudio
