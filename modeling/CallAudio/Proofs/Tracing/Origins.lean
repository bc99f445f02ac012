import CallAudio.Proofs.Tracing.Pipeline
import CallAudio.Proofs.Tracing.Places

/-!
What texts show of the scopes of sessions. Under a trace setting that is the origin and nothing
more: a scope of which only its innermost watched place is left shows the same.
-/

namespace CallAudio

namespace Log

/-- What is left of a scope when only the innermost watched place is kept. -/
def Scope.innermost (w : Watch) (scope : Scope) : Scope :=
  ((scope.filter fun p => w.sees p.level).getLast?).toList

theorem Scope.innermost_cases (w : Watch) (scope : Scope) :
    (scope.innermost w = [] ∧ (scope.filter fun p => w.sees p.level).getLast? = none) ∨
      ∃ p, scope.innermost w = [p] ∧ [p].filter (fun p => w.sees p.level) = [p] ∧
        (scope.filter fun p => w.sees p.level).getLast? = some p := by
  unfold innermost
  cases last : (scope.filter fun p => w.sees p.level).getLast? with
  | none => exact .inl ⟨rfl, rfl⟩
  | some p =>
    have watched := (List.mem_filter.1 (List.mem_of_getLast? last)).2
    exact .inr ⟨p, rfl, List.filter_cons_of_pos watched, rfl⟩

theorem Scope.origin_innermost (w : Watch) (scope : Scope) :
    (scope.innermost w).origin w = scope.origin w := by
  rcases scope.innermost_cases w with ⟨kept, last⟩ | ⟨p, kept, alone, last⟩
  · rw [kept, origin, origin, last]
    rfl
  · rw [kept, origin, origin, last, alone]
    rfl

theorem Scope.innermost_innermost (w : Watch) (scope : Scope) :
    (scope.innermost w).innermost w = scope.innermost w := by
  rcases scope.innermost_cases w with ⟨kept, -⟩ | ⟨p, kept, alone, -⟩
  · rw [kept]
    rfl
  · rw [kept, innermost, alone]
    rfl

example : Scope.innermost (some .info) [⟨.info, "route_message"⟩, ⟨.debug, "on_dock_changed"⟩] =
    [⟨.info, "route_message"⟩] := by
  decide

/-- No scope at all. -/
def Scope.blank (_ : Scope) : Scope :=
  []

/-! ## The log -/

theorem Value.display_rescope (w : Watch) (v : Value) :
    (v.rescope (Scope.innermost w)).display w = v.display w := by
  cases v with
  | text | flag => rfl
  | origin scope => exact scope.origin_innermost w
  | session scope => exact congrArg (· ++ "@" ++ sessionId) (scope.origin_innermost w)

theorem Field.display_rescope (w : Watch) :
    Field.display w ∘ Field.rescope (Scope.innermost w) = Field.display w := by
  funext x
  exact congrArg (fun text => x.name ++ "=" ++ text) (Value.display_rescope w x.value)

theorem Span.display_rescope (w : Watch) (s : Span) :
    (s.rescope (Scope.innermost w)).display w = s.display w := by
  unfold display rescope
  rw [List.map_map, Field.display_rescope]

theorem Record.line_rescope (w : Watch) (r : Record) :
    (r.rescope (Scope.innermost w)).line w = r.line w := by
  have spans : ((r.spans.map (Span.rescope (Scope.innermost w))).filter fun s =>
        w.sees s.place.level).map (fun s => "[" ++ s.display w ++ "]") =
      (r.spans.filter fun s => w.sees s.place.level).map fun s => "[" ++ s.display w ++ "]" := by
    rw [List.filter_map, List.map_map]
    refine List.map_congr_left fun s _ => ?_
    exact congrArg (fun text => "[" ++ text ++ "]") (Span.display_rescope w s)
  unfold line rescope
  dsimp only
  rw [spans, List.map_map, Field.display_rescope]

theorem lines_rescope (w : Watch) (records : List Record) :
    lines w (records.map (Record.rescope (Scope.innermost w))) = lines w records := by
  unfold lines
  rw [List.filter_map, List.map_map]
  exact List.map_congr_left fun r _ => Record.line_rescope w r

end Log

open Log (Scope Watch)

/-! ## The diagnostic text -/

/-- A diagnostic text: its lines up to the history, then a line for each description with the origin
that is named along with it. -/
def diagnosticText (head : List String) (entries : List (String × String)) : String :=
  String.join ((head ++ entries.map fun (description, origin) =>
    "    " ++ HistoryEntry.timeText ++ " " ++ description ++ " (" ++
      (origin ++ "@" ++ Log.sessionId) ++ ")").map (· ++ "\n"))

/-- Diagnostic texts that differ in the origins they name, and in nothing else. What stands for an
origin in either of them can be one. -/
def SameButOrigins (text text' : String) : Prop :=
  ∃ head entries entries', text = diagnosticText head entries ∧
    text' = diagnosticText head entries' ∧ entries.map Prod.fst = entries'.map Prod.fst ∧
    ∀ e ∈ entries ++ entries', e.2 ∈ Log.originNames

namespace Controller

/-- The lines of the diagnostic text up to the history. -/
def headLines (c : Controller) : List String :=
  ["RoutingController[" ++ c.config.workerName ++ "]",
   "  running: " ++ Text.Inspect.bool c.isRunning ++ ", queue: " ++ toString c.mailbox.pending ++
     "/" ++ toString c.config.queueCapacity,
   "  audio state: " ++ c.published.audioState.display,
   "  hfp device available: " ++ Text.Inspect.bool c.published.hfpAvailable,
   "  communication device: " ++ c.published.selection.display,
   "  processed: " ++ toString c.published.processed] ++
  machineLines c.published.machineDump ++ ["  history:"]

/-- The descriptions in the history, each with the origin of its session. -/
def origins (c : Controller) (w : Watch) : List (String × String) :=
  c.history.map fun e => (e.description, e.session.origin w)

theorem dump_eq (c : Controller) (w : Watch) :
    c.dump w = diagnosticText c.headLines (c.origins w) := by
  have lines : c.dumpLines w = c.headLines ++ c.history.map (HistoryEntry.line w) := by
    rw [headLines, List.append_assoc]
    rfl
  unfold dump diagnosticText origins
  rw [lines, List.map_map]
  rfl

variable {f : Scope → Scope} {c c' : Controller}

theorem headLines_alike (same : c.rescope f = c'.rescope f) : c.headLines = c'.headLines := by
  have head (c : Controller) : (c.rescope f).headLines = c.headLines := by
    unfold headLines
    rw [pending_rescope]
    rfl
  rw [← head c, same, head]

/-- Where every session was opened in a known scope, a trace setting decides about origins only. -/
theorem dump_same_but_origins (known : ∀ e ∈ c.history, e.session.scope.Known) (w w' : Watch) :
    SameButOrigins (c.dump w) (c.dump w') := by
  have described (w : Watch) :
      (c.origins w).map Prod.fst = c.history.map HistoryEntry.description := by
    unfold origins
    rw [List.map_map]
    rfl
  have named (w : Watch) : ∀ e ∈ c.origins w, e.2 ∈ Log.originNames := by
    intro e mem
    obtain ⟨entry, remembered, rfl⟩ := List.mem_map.1 mem
    exact (known entry remembered).origin_mem w
  refine ⟨c.headLines, c.origins w, c.origins w', c.dump_eq w, c.dump_eq w', ?_, ?_⟩
  · rw [described, described]
  · exact List.forall_mem_append.2 ⟨named w, named w'⟩

theorem dump_innermost {w : Watch}
    (same : c.rescope (Scope.innermost w) = c'.rescope (Scope.innermost w)) :
    c.dump w = c'.dump w := by
  have named (c : Controller) : (c.rescope (Scope.innermost w)).origins w = c.origins w := by
    unfold origins rescope
    rw [List.map_map]
    exact List.map_congr_left fun e _ =>
      congrArg (Prod.mk e.description) (e.session.scope.origin_innermost w)
  rw [dump_eq, dump_eq, headLines_alike same, ← named c, same, named]

end Controller

end CallAudio
