import CallAudio.Proofs.Controller.History
import CallAudio.Proofs.Pipeline.Publication
import CallAudio.Proofs.Tracing.Origins

/-!
The diagnostic history along a run. At every point it is the recent past, no more and no less: the
items that were processed last, each with its description and with the session in which it was
submitted.
-/

namespace CallAudio.Pipeline

open Controller (Moves Mirrors Recalls)

variable {setup : Setup} {past : List Turn} {p : Pipeline}

theorem recalls_fresh (published : RouteSnapshot) :
    (fresh setup published).Recalls setup.config.historySize where
  keeps := rfl
  recent := (List.rtake_nil _).symm
  unpublished _ crashed := by cases crashed

theorem Run.recalls (h : Run setup past p) :
    p.controller.Recalls setup.config.historySize := by
  obtain ⟨first, current, moves⟩ := h.moves_from_start
  exact moves.recalls (recalls_fresh first) (mirrors_fresh current)

end CallAudio.Pipeline
