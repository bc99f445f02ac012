import CallAudio.Log.Level

/-!
Log records and the spans around them. Operations emit records of every level and never ask which
levels are being watched; that choice is made where records are written out. So watching changes
nothing but what is written.
-/

namespace CallAudio.Log

/-- A stretch of work in progress, with the level at which it is watched. -/
structure Place where
  level : Level
  name : String
  deriving DecidableEq, Repr

/-- The places that are open at some moment, outermost first. -/
abbrev Scope := List Place

/-- Which records are watched: nothing, or everything that passes a threshold. -/
abbrev Watch := Option Level

/-- Whether a level is watched. -/
def Watch.sees (watch : Watch) (level : Level) : Bool :=
  match watch with
  | none => false
  | some limit => limit.passes level

/-- The name of the innermost watched place, or `unattributed` where no place is watched. -/
def Scope.origin (scope : Scope) (watch : Watch) : String :=
  match (scope.filter fun p => watch.sees p.level).getLast? with
  | none => "unattributed"
  | some p => p.name

theorem Scope.origin_none (scope : Scope) : scope.origin none = "unattributed" := by
  have h : (scope.filter fun p => Watch.sees none p.level) = [] :=
    List.filter_eq_nil_iff.2 fun _ _ => by simp [Watch.sees]
  rw [Scope.origin, h]
  rfl

/-- What is shown for the identifier of a session, which is drawn at random. -/
def sessionId : String := "<id>"

/-- What a field of a record or span holds. -/
inductive Value
  | text (s : String)
  | flag (b : Bool)
  /-- The origin of a session that was opened in the given scope. -/
  | origin (scope : Scope)
  /-- Such a session, by its origin and its identifier. -/
  | session (scope : Scope)
  deriving DecidableEq, Repr

/-- A named value. -/
structure Field where
  name : String
  value : Value
  deriving DecidableEq, Repr

/-- A place with the fields it carries. -/
structure Span where
  place : Place
  fields : List Field
  deriving DecidableEq, Repr

/-- A message with its fields, and the spans open when it was emitted, outermost first. -/
structure Record where
  level : Level
  message : String
  fields : List Field
  spans : List Span := []
  deriving DecidableEq, Repr

/-- The record as seen from outside `span`. -/
def Record.within (r : Record) (span : Span) : Record :=
  { r with spans := span :: r.spans }

/-- A result, with the records emitted on the way to it, oldest first. -/
structure Logged (α : Type) where
  value : α
  records : List Record

namespace Logged

variable {α β : Type}

/-- A result without records. -/
def quiet (a : α) : Logged α :=
  ⟨a, []⟩

/-- The second result, after the records of both. -/
def andThen (x : Logged α) (f : α → Logged β) : Logged β :=
  let y := f x.value
  ⟨y.value, x.records ++ y.records⟩

instance : Monad Logged where
  pure := quiet
  bind := andThen

/-- Everything emitted by `x` is emitted inside `span`. -/
def within (span : Span) (x : Logged α) : Logged α :=
  ⟨x.value, x.records.map (·.within span)⟩

/-- Emits one record. -/
def emit (level : Level) (message : String) (fields : List Field) : Logged Unit :=
  ⟨(), [{ level, message, fields }]⟩

@[simp] theorem value_pure (a : α) : (pure a : Logged α).value = a := rfl

@[simp] theorem value_bind (x : Logged α) (f : α → Logged β) :
    (x >>= f).value = (f x.value).value := rfl

@[simp] theorem value_map (f : α → β) (x : Logged α) : (f <$> x).value = f x.value := rfl

@[simp] theorem value_within (span : Span) (x : Logged α) : (x.within span).value = x.value := rfl

@[simp] theorem records_pure (a : α) : (pure a : Logged α).records = [] := rfl

@[simp] theorem records_bind (x : Logged α) (f : α → Logged β) :
    (x >>= f).records = x.records ++ (f x.value).records := rfl

end Logged

/-- A field that holds a text. -/
def Field.text (name value : String) : Field :=
  ⟨name, .text value⟩

/-- A field that holds a truth value. -/
def Field.flag (name : String) (value : Bool) : Field :=
  ⟨name, .flag value⟩

end CallAudio.Log
