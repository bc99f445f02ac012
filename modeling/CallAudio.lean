import CallAudio.Config.File
import CallAudio.Log.Probe
import CallAudio.Pipeline
import CallAudio.Registry.Run
import CallAudio.Proofs.Arbiter.Agreement
import CallAudio.Proofs.Arbiter.CatalogCalls
import CallAudio.Proofs.Arbiter.Clearing
import CallAudio.Proofs.Arbiter.NamedDevice
import CallAudio.Proofs.Arbiter.Notices
import CallAudio.Proofs.Arbiter.Outcome
import CallAudio.Proofs.Arbiter.Repetition
import CallAudio.Proofs.Config
import CallAudio.Proofs.Controller.Conservation
import CallAudio.Proofs.Display
import CallAudio.Proofs.Document
import CallAudio.Proofs.Pipeline.Backpressure
import CallAudio.Proofs.Peripheral.Image
import CallAudio.Proofs.Pipeline.Barrier
import CallAudio.Proofs.Pipeline.Cut
import CallAudio.Proofs.Pipeline.Focus
import CallAudio.Proofs.Pipeline.History
import CallAudio.Proofs.Pipeline.LastCall
import CallAudio.Proofs.Pipeline.Order
import CallAudio.Proofs.Pipeline.Publication
import CallAudio.Proofs.Pipeline.Refusal
import CallAudio.Proofs.Pipeline.Shutdown
import CallAudio.Proofs.Pipeline.Stoppable
import CallAudio.Proofs.Pipeline.Survival
import CallAudio.Proofs.Registry.Alternation
import CallAudio.Proofs.Json.Number
import CallAudio.Proofs.Json.Quoted
import CallAudio.Proofs.Json.Reader
import CallAudio.Proofs.Json.Shape
import CallAudio.Proofs.Tracing.Runs
