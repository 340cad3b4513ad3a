import Reconciler.Controller
/-!
Manifests: the objects that a store is filled with at the start. Workspaces go first, and an
object that is not admitted is left out.
-/

set_option autoImplicit false

namespace Reconciler

structure Manifest where
  volumes : List (Object .volume)
  workspaces : List (Object .workspace)

namespace Manifest

def empty : Manifest := ⟨[], []⟩

instance : Inhabited Manifest := ⟨empty⟩

def size (m : Manifest) : Nat := m.volumes.length + m.workspaces.length

structure Seedling where
  kind : Kind
  object : Object kind

abbrev Seeding (α : Type) : Type :=
  Dialogue Seedling (fun q => Except Error (Object q.kind)) α

variable {k : Kind}

/-- Creates what is admitted of some objects and counts on; the first that the store does not
take ends the work. -/
def seedAll (stored : Nat) : List (Object k) → Seeding (Except Error Nat)
  | [] => return .ok stored
  | o :: rest =>
    match Controller.admission o with
    | .error _ => seedAll stored rest
    | .ok () => do
      let answer : Except Error (Object k) ← Dialogue.put (Seedling.mk k o)
      match answer with
      | .ok _ => seedAll (stored + 1) rest
      | .error e => return .error e

/-- Creates the objects of a manifest; the answer is how many were stored. -/
def seed (m : Manifest) : Seeding (Except Error Nat) := do
  let workspaces ← seedAll 0 m.workspaces
  match workspaces with
  | .error e => return .error e
  | .ok stored => seedAll stored m.volumes

end Manifest

end Reconciler
