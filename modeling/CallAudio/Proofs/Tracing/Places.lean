import CallAudio.Controller.Worker
import CallAudio.Peripheral

/-!
The places that submissions are made in. There are few of them, and so there are few names that a
session can be attributed to.
-/

namespace CallAudio

namespace Log

/-- The names of these places: where the worker is at a message or at a task, and where a report of a
peripheral is handled. -/
def placeNames : List String :=
  ["route_message", "route_task", "on_device_list_changed", "on_active_device_present",
    "on_active_device_gone", "on_audio_connected", "on_audio_connecting", "on_audio_disconnected",
    "on_unexpected_state_change", "on_wired_headset_changed", "on_dock_changed"]

/-- What an origin can be. -/
def originNames : List String :=
  "unattributed" :: placeNames

/-- A scope in which none but these places are open. -/
def Scope.Known (scope : Scope) : Prop :=
  ∀ p ∈ scope, p.name ∈ placeNames

theorem Scope.known_nil : Scope.Known [] :=
  fun _ none => absurd none List.not_mem_nil

theorem Scope.known_singleton {p : Place} (named : p.name ∈ placeNames) : Scope.Known [p] := by
  intro q mem
  rwa [List.mem_singleton.1 mem]

theorem Scope.Known.origin_mem {scope : Scope} (known : scope.Known) (w : Watch) :
    scope.origin w ∈ originNames := by
  unfold origin
  cases last : (scope.filter fun p => w.sees p.level).getLast? with
  | none => exact List.mem_cons_self
  | some p =>
    have opened : p ∈ scope := (List.mem_filter.1 (List.mem_of_getLast? last)).1
    exact List.mem_cons_of_mem _ (known p opened)

end Log

open Log (Scope)

theorem Controller.known_itemSpan (item : Item) : Scope.Known [(itemSpan item).place] := by
  refine Scope.known_singleton ?_
  cases item with
  | message m => exact (by decide : "route_message" ∈ Log.placeNames)
  | task work session => exact (by decide : "route_task" ∈ Log.placeNames)

theorem Report.known_span (r : Report) : Scope.Known [r.span.place] := by
  refine Scope.known_singleton ?_
  cases r with
  | bluetooth event => cases event <;> decide
  | wired plugged => exact (by decide : "on_wired_headset_changed" ∈ Log.placeNames)
  | dock docked => exact (by decide : "on_dock_changed" ∈ Log.placeNames)

end CallAudio
