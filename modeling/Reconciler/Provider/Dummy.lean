import Reconciler.Handler.Table
import Reconciler.SortedMap
/-!
A provider that keeps volumes and workspaces in memory. Deleting takes a fixed number of
calls, all but the last of which answer that the work goes on.
-/

set_option autoImplicit false

namespace Reconciler

namespace Dummy

/-- How many deletion calls go unfinished, and the largest volume in GB. -/
structure Config where
  deletePolls : Nat
  maxSizeGb : Option Nat
  deriving DecidableEq, Repr

instance : Inhabited Config := ⟨⟨0, none⟩⟩

def providerName : String := "dummy"

end Dummy

structure Dummy where
  config : Dummy.Config
  /-- Sizes of volumes in GB. -/
  volumes : SortedMap String Nat
  workspaces : SortedMap String Unit
  deletions : SortedMap String Nat

namespace Dummy

def ofConfig (config : Config) : Dummy :=
  { config, volumes := ∅, workspaces := ∅, deletions := ∅ }

/-- What the provider knows a resource by. -/
def identity {k : Kind} (r : Resource k) : String := k.name ++ "/" ++ r.reference.text

def hasVolume (d : Dummy) (id : String) : Bool := d.volumes.contains id

def hasWorkspace (d : Dummy) (id : String) : Bool := d.workspaces.contains id

def volumeSize? (d : Dummy) (id : String) : Option Nat := d.volumes.get? id

def failure (op : Operation) (reason : String) : ProviderError :=
  .failed providerName op.name reason

def checkSize (d : Dummy) (op : Operation) (sizeGb : Nat) : CallOutcome :=
  match d.config.maxSizeGb with
  | some max =>
    if max < sizeGb then
      .error (failure op (natText sizeGb ++ " GB exceeds the provider limit of " ++ natText max ++ " GB"))
    else .ok ()
  | none => .ok ()

/-- Counts a deletion call; tells whether the resource can go now. -/
def countDown (d : Dummy) (id : String) : Bool × Dummy :=
  if d.config.deletePolls = 0 then (true, d)
  else
    match (d.deletions.get? id).getD d.config.deletePolls with
    | 0 => (true, { d with deletions := d.deletions.erase id })
    | n + 1 => (false, { d with deletions := d.deletions.insert id n })

def createVolume (d : Dummy) (id : String) (sizeGb : Nat) : CallOutcome × Dummy :=
  match d.checkSize .create sizeGb with
  | .ok () => (.ok (), { d with volumes := d.volumes.insert id sizeGb })
  | .error e => (.error e, d)

/-- What is not there is deleted already. -/
def deleteVolume (d : Dummy) (id : String) : CallOutcome × Dummy :=
  if d.hasVolume id then
    match d.countDown id with
    | (true, d) => (.ok (), { d with volumes := d.volumes.erase id })
    | (false, d) => (.error .stillProcessing, d)
  else (.ok (), d)

def growVolume (d : Dummy) (id : String) (sizeGb : Nat) : CallOutcome × Dummy :=
  match d.checkSize .increaseSize sizeGb with
  | .error e => (.error e, d)
  | .ok () =>
    match d.volumeSize? id with
    | none => (.error (.unknownResource providerName id), d)
    | some size =>
      if sizeGb < size then
        (.error (failure .increaseSize
          ("cannot shrink from " ++ natText size ++ " GB to " ++ natText sizeGb ++ " GB")), d)
      else (.ok (), { d with volumes := d.volumes.insert id sizeGb })

def createWorkspace (d : Dummy) (id : String) : CallOutcome × Dummy :=
  (.ok (), { d with workspaces := d.workspaces.insert id () })

def deleteWorkspace (d : Dummy) (id : String) : CallOutcome × Dummy :=
  if d.hasWorkspace id then
    match d.countDown id with
    | (true, d) => (.ok (), { d with workspaces := d.workspaces.erase id })
    | (false, d) => (.error .stillProcessing, d)
  else (.ok (), d)

/-- Does what is asked for a resource, which it never changes. Workspaces have no size, and
offers are not provisioned. -/
def perform {k : Kind} (d : Dummy) (op : Operation) (r : Resource k) : CallOutcome × Dummy :=
  match k, r, op with
  | .volume, v, .create => d.createVolume (identity v) v.spec.sizeGb
  | .volume, v, .delete => d.deleteVolume (identity v)
  | .volume, v, .increaseSize => d.growVolume (identity v) v.spec.sizeGb
  | .workspace, w, .create => d.createWorkspace (identity w)
  | .workspace, w, .delete => d.deleteWorkspace (identity w)
  | .workspace, _, .increaseSize => (.ok (), d)
  | .storageOffer, _, _ => (.ok (), d)
  | .networkOffer, _, _ => (.ok (), d)

end Dummy

end Reconciler
