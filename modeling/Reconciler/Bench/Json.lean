import Reconciler.Bench.Rehearsal
import Reconciler.Bench.Station
import Reconciler.Error.Json
import Reconciler.Object.Json
/-!
Plans for the bench as records, and what is on it in short.
-/

set_option autoImplicit false

namespace Reconciler

open Json.Loose

/-- When something holds; always, unless another occasion is named. -/
def Occasion.ofJson : Json → Option Occasion
  | .text "never" => some .never
  | .text "deleted" => some .deleted
  | .list states => (states.mapM State.ofJson).map .inStates
  | _ => some .always

def Change.ofJson (j : Json) : Option Change :=
  match j.field? "transition", j.field? "set_state", j.field? "fail" with
  | some s, _, _ => (State.ofJson s).map .enter
  | _, some s, _ => (Json.asOption State.ofJson s).map .setState
  | _, _, some e => some (.fail (.ofJson e))
  | none, none, none =>
    match field j "label" with
    | .list [.text k, .text v] => some (.label k v)
    | _ => none

def Change.allOfJson (j : Json) (name : String) : Option (List Change) :=
  (items j name).mapM ofJson

def PlannedWrite.ofJson : Json → PlannedWrite
  | .text "update" => .update
  | .text "delete" => .delete
  | .text _ => .nothing
  | j => if flag j "hang" then .hang else .fail (.ofJson (field j "error"))

def Wait.ofPlan (j : Json) : Wait :=
  if flag j "hang" then .endless else .lasting (.ofMillis (nat j "delay_ms"))

def PlannedCall.ofJson (name : String) (j : Json) : Option PlannedCall := do
  some { name
         wait := Wait.ofPlan j
         changes := ← Change.allOfJson j "actions"
         outcome := match given j "error" with
           | some e => .error (.ofJson e)
           | none => .ok () }

/-- A rule of a rehearsal. Failures are treated as usual unless changes are planned for them,
and these are noted down. -/
def Rule.ofJson (k : Kind) (j : Json) : Option (Rule k PlannedCall PlannedWrite) := do
  let name := text j "name"
  let occasion ← Occasion.ofJson (field j "when")
  let call ← match given j "delegate" with
    | some d => (PlannedCall.ofJson name d).map some
    | none => some none
  let onSuccess ← Change.allOfJson j "success"
  let onFailure ← match given j "failure" with
    | some _ => (Change.allOfJson j "failure").map some
    | none => some none
  let write := (given j "persist").map PlannedWrite.ofJson
  let start : Rule k PlannedCall PlannedWrite := Rule.plain name occasion.holds
  some { start with
    call
    onSuccess := fun now r => Change.applyAll onSuccess now r
    onFailure := match onFailure with
      | some cs => fun e now r => Change.noteFailure e (Change.applyAll cs now r)
      | none => start.onFailure
    writeSuccess := ((given j "persist_success").map PlannedWrite.ofJson).or write
    writeFailure := ((given j "persist_failure").map PlannedWrite.ofJson).or write
    requeues := flag j "requeue" }

/-- An objection of a rehearsal: none, always the same, or one for an occasion. -/
def Objection.ofJson (k : Kind) (j : Json) : Option (Objection k) :=
  match j with
  | .null => some fun _ => none
  | .text t => some fun _ => some t
  | j => do
    let occasion ← Occasion.ofJson (field j "when")
    some fun r => if occasion.holds r then some (text j "text") else none

def ScriptedAnswer.ofJson (j : Json) : Option ScriptedAnswer := do
  let state ← match j.field? "state" with
    | some s => (Json.asOption State.ofJson s).map some
    | none => some none
  some { wait := Wait.ofPlan j, attach := text? j "attach", count := nat? j "count", state
         error := (given j "error").map ProviderError.ofJson }

def PlannedFault.ofJson (j : Json) : PlannedFault :=
  { call := text j "on"
    effect := if flag j "hang" then .hang else .fail (.ofJson (field j "error")) }

def LogEntry.toJson (e : LogEntry) : Json :=
  .list [Json.nat e.second, .text e.call, .text e.subject]

namespace Object

def sizesToJson : (k : Kind) → Object k → Json
  | .volume, o =>
    .list [Json.nat o.spec.sizeGb,
      Json.ofOption (fun s : Status .volume String String => Json.nat s.facts.sizeGb) o.status]
  | .workspace, _ => .list [.null, .null]
  | .storageOffer, _ => .list [.null, .null]
  | .networkOffer, _ => .list [.null, .null]

def summary {k : Kind} (o : Object k) : Json :=
  let lifecycle : Lifecycle String := (o.status.map (·.lifecycle)).getD .fresh
  .record [("kind", .text k.name), ("key", .text (ObjectKey.ofObject o).text),
    ("version", Json.ofOption .text o.version),
    ("deleting", .bool o.metadata.deletionTimestamp.isSome),
    ("state", Json.ofOption .text lifecycle.state),
    ("conditions", .list (lifecycle.conditions.map fun c => .text c.state)),
    ("message", Json.ofOption .text lifecycle.lastMessage), ("size", sizesToJson k o)]

end Object

def MemoryStore.summary {k : Kind} (s : MemoryStore k) : List Json :=
  s.objects.values.map Object.summary

end Reconciler
