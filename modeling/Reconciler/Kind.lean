import Reconciler.SortedMap
/-!
The kinds of resources and what each is made of: a desired state (`Kind.Spec`) and the
facts observed about it (`Kind.Facts`). Both mention other resources by a type of the
reader's choice, a structured `Reference` or plain text.
-/

set_option autoImplicit false

namespace Reconciler

/-- Volumes and workspaces are reconciled; offers are only read. -/
inductive Kind where
  | volume
  | workspace
  | storageOffer
  | networkOffer
  deriving DecidableEq, Repr

/-- The desired state of a volume: its size in GB, the offer it is made from and the
image it is filled with. -/
structure VolumeSpec (ρ : Type) where
  sizeGb : Nat
  offer : ρ
  image : Option ρ
  deriving DecidableEq, Repr

/-- The provisioned size in GB, the offer the volume was made from and the machine it is
attached to. -/
structure VolumeFacts (ρ : Type) where
  sizeGb : Nat
  offer : Option ρ
  attachedTo : Option ρ
  deriving DecidableEq, Repr

/-- Hints for the provider, passed through untouched. -/
structure WorkspaceSpec where
  properties : TextMap
  deriving DecidableEq

structure WorkspaceFacts where
  resourceCount : Option Nat
  deriving DecidableEq, Repr

/-- A storage offer; it takes volumes of at least `minVolumeSize` GB. -/
structure StorageOffer where
  iops : Int
  minVolumeSize : Int
  mediaType : String
  deriving DecidableEq, Repr

/-- A network offer: Mbit and packets per second. -/
structure NetworkOffer where
  bandwidth : Int
  packets : Int
  deriving DecidableEq, Repr

def StorageOffer.accepts (offer : StorageOffer) (sizeGb : Nat) : Bool :=
  offer.minVolumeSize ≤ sizeGb

namespace VolumeSpec

variable {ρ σ : Type}

def map (f : ρ → σ) (s : VolumeSpec ρ) : VolumeSpec σ :=
  ⟨s.sizeGb, f s.offer, s.image.map f⟩

end VolumeSpec

namespace VolumeFacts

variable {ρ σ : Type}

def none : VolumeFacts ρ := ⟨0, .none, .none⟩

def map (f : ρ → σ) (s : VolumeFacts ρ) : VolumeFacts σ :=
  ⟨s.sizeGb, s.offer.map f, s.attachedTo.map f⟩

end VolumeFacts

namespace Kind

def all : List Kind := [.volume, .workspace, .storageOffer, .networkOffer]

def name : Kind → String
  | .volume => "BlockStorage"
  | .workspace => "Workspace"
  | .storageOffer => "StorageSku"
  | .networkOffer => "NetworkSku"

def ofName? (name : String) : Option Kind := all.find? (·.name = name)

def group : Kind → String
  | .volume | .storageOffer => "storage.v1.secapi.cloud"
  | .workspace => "workspace.v1.secapi.cloud"
  | .networkOffer => "network.v1.secapi.cloud"

def plural : Kind → String
  | .volume => "block-storages"
  | .workspace => "workspaces"
  | .storageOffer => "storage-skus"
  | .networkOffer => "network-skus"

def apiVersion (k : Kind) : String := k.group ++ "/v1"

@[reducible] def Spec : Kind → Type → Type
  | .volume, ρ => VolumeSpec ρ
  | .workspace, _ => WorkspaceSpec
  | .storageOffer, _ => StorageOffer
  | .networkOffer, _ => NetworkOffer

/-- What is observed of a resource; nothing is of an offer. -/
@[reducible] def Facts : Kind → Type → Type
  | .volume, ρ => VolumeFacts ρ
  | .workspace, _ => WorkspaceFacts
  | .storageOffer, _ => Empty
  | .networkOffer, _ => Empty

variable {ρ σ : Type}

instance [DecidableEq ρ] : (k : Kind) → DecidableEq (k.Spec ρ)
  | .volume => inferInstanceAs (DecidableEq (VolumeSpec ρ))
  | .workspace => inferInstanceAs (DecidableEq WorkspaceSpec)
  | .storageOffer => inferInstanceAs (DecidableEq StorageOffer)
  | .networkOffer => inferInstanceAs (DecidableEq NetworkOffer)

instance [DecidableEq ρ] : (k : Kind) → DecidableEq (k.Facts ρ)
  | .volume => inferInstanceAs (DecidableEq (VolumeFacts ρ))
  | .workspace => inferInstanceAs (DecidableEq WorkspaceFacts)
  | .storageOffer => inferInstanceAs (DecidableEq Empty)
  | .networkOffer => inferInstanceAs (DecidableEq Empty)

def mapSpec (f : ρ → σ) : (k : Kind) → k.Spec ρ → k.Spec σ
  | .volume, s => s.map f
  | .workspace, s => s
  | .storageOffer, s => s
  | .networkOffer, s => s

def mapFacts (f : ρ → σ) : (k : Kind) → k.Facts ρ → k.Facts σ
  | .volume, s => s.map f
  | .workspace, s => s
  | .storageOffer, s => s
  | .networkOffer, s => s

/-- The facts before anything was observed; offers have no such facts. -/
def noFacts? : (k : Kind) → Option (k.Facts ρ)
  | .volume => some VolumeFacts.none
  | .workspace => some ⟨none⟩
  | .storageOffer => none
  | .networkOffer => none

end Kind

end Reconciler
