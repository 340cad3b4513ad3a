import Reconciler.Handler
/-!
The handlers of volumes and workspaces. A resource is created, grown and deleted through
its provider; an error is retried by going back to the state it arose in.
-/

set_option autoImplicit false

namespace Reconciler

inductive Operation where
  | create
  | delete
  | increaseSize
  deriving DecidableEq, Repr

def Operation.name : Operation → String
  | .create => "create"
  | .delete => "delete"
  | .increaseSize => "increase_size"

inductive Write where
  | update
  | delete
  deriving DecidableEq, Repr

abbrev KindHandler (k : Kind) : Type := Handler k Operation Write

namespace Resource

variable {k : Kind}

def wantsDeletion (r : Resource k) : Bool := r.isDeleted || r.state = .deleting

def failedIn (s : State) (r : Resource k) : Bool := r.state = .error && r.previousState = some s

end Resource

namespace Rule

variable {k : Kind}

/-- A rule that enters a state without asking the provider, and looks again at once. -/
def entering (name : String) (applies : Resource k → Bool) (s : State) : Rule k Operation Write :=
  { (plain name applies : Rule k Operation Write) with
    onSuccess := fun now r => r.enter s now
    writeSuccess := some .update
    writeFailure := some .update
    requeues := true }

/-- A rule that asks the provider and is active afterwards, with what `onDone` notes down. -/
def activating (name : String) (applies : Resource k → Bool) (op : Operation)
    (onDone : Resource k → Resource k) : Rule k Operation Write :=
  { (plain name applies : Rule k Operation Write) with
    call := some op
    onSuccess := fun now r => (onDone r).enter .active now
    writeSuccess := some .update
    writeFailure := some .update }

def deleting : Rule k Operation Write :=
  { (plain "delete" Resource.wantsDeletion : Rule k Operation Write) with
    call := some .delete
    writeSuccess := some .delete
    writeFailure := some .update }

end Rule

namespace Volume

/-- A volume never shrinks, except while it is being created. -/
def shrinkObjection : Objection .volume := fun v =>
  if v.state ≠ .creating ∧ v.spec.sizeGb < Volume.observedSize v then
    some ("decrease storage size is not allowed (" ++ natText v.spec.sizeGb ++ " GB < " ++
      natText (Volume.observedSize v) ++ " GB)")
  else none

/-- A volume keeps the offer it was made from, except while it is being created. -/
def offerObjection : Objection .volume := fun v =>
  match Volume.observedOffer v with
  | some offer =>
    if offer ≠ v.spec.offer ∧ v.state ≠ .creating then
      some ("changing the storage sku from " ++ offer.resource ++ " to " ++ v.spec.offer.resource ++
        " is not allowed")
    else none
  | none => none

def handler : KindHandler .volume :=
  { objections := [shrinkObjection, offerObjection]
    rules :=
      [ .entering "pending" (fun v => v.state = .pending) .creating,
        .activating "create" (fun v => v.state = .creating) .create Volume.adoptSpec,
        .entering "update" (fun v => v.state = .active && Volume.needsResize v) .updating,
        .activating "increase_size" (fun v => v.state = .updating && Volume.needsResize v)
          .increaseSize Volume.copySize,
        .deleting,
        .entering "retry_create" (fun v => v.failedIn .creating) .creating,
        .entering "retry_increase_size" (fun v => v.failedIn .updating && Volume.needsResize v)
          .updating ] }

end Volume

namespace Workspace

def handler : KindHandler .workspace :=
  { objections := []
    rules :=
      [ .entering "pending" (fun w => w.state = .pending) .creating,
        .activating "create" (fun w => w.state = .creating) .create id,
        .deleting,
        .entering "retry_create" (fun w => w.failedIn .creating) .creating ] }

end Workspace

/-- The handler of a kind; offers are not reconciled. -/
def Kind.handler : (k : Kind) → KindHandler k
  | .volume => Volume.handler
  | .workspace => Workspace.handler
  | .storageOffer => ⟨[], []⟩
  | .networkOffer => ⟨[], []⟩

end Reconciler
