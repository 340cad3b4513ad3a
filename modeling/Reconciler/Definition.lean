import Reconciler.Definition.Schema
import Reconciler.Kind
import Reconciler.Yaml.Printer
/-!
What an API server has to know about the kinds: their names, the schemas of their objects and
the columns of their listings. `Definition.all` has them in the order of their installation,
`Definition.render` as one text.
-/

set_option autoImplicit false

namespace Reconciler

/-- A column of listings: what is found at a path of the object. -/
structure Column where
  name : String
  shape : String
  path : String
  deriving DecidableEq, Repr

namespace Column

def toJson (c : Column) : Json :=
  .record [("jsonPath", .text c.path), ("name", .text c.name), ("type", .text c.shape)]

def age : Column := ⟨"Age", "date", ".metadata.creationTimestamp"⟩

def state : Column := ⟨"State", "string", ".status.state"⟩

end Column

structure Definition where
  kind : Kind
  shortNames : List String
  columns : List Column
  spec : Schema
  /-- Kinds without a status are not reconciled. -/
  status : Option Schema

namespace Kind

open Schema (Note)

/-- A text that must be written, or that may be null or left out. -/
def textField (name : String) (required : Bool) (description : Option String) :
    String × Bool × Schema :=
  (name, required, .text { description, nullable := !required })

def conditionSchema : Schema :=
  let optional : Schema := .text { fallback := some (.text "") }
  .record [("lastTransitionAt", true, .text {}), ("message", false, optional),
    ("reason", false, optional), ("state", true, .text {})]
    { description := some "One recorded state transition" }

def lifecycleSchemas : List (String × Bool × Schema) :=
  [("conditions", false, .list conditionSchema
      { description := some "Transition history, oldest first", fallback := some (.list []) }),
    textField "state" false
      (some "Pending, Creating, Active, Updating, Deleting, Suspended or Error")]

def statusOf (k : Kind) (facts : List (String × Bool × Schema)) : Schema :=
  .record (lifecycleSchemas ++ facts)
    { description := some ("Status of the " ++ k.name), nullable := true }

def volumeDefinition : Definition where
  kind := .volume
  shortNames := ["bs"]
  columns := [⟨"Size", "integer", ".spec.sizeGB"⟩, ⟨"SKU", "string", ".spec.skuRef"⟩,
    Column.state, Column.age]
  spec := .record
    [("sizeGB", true, .integer .unsigned32 { description := some "Desired size in GB" }),
      textField "skuRef" true (some "Storage SKU the volume is provisioned from"),
      textField "sourceImageRef" false (some "Image to populate the volume from")]
    { description := some "BlockStorage is a volume provisioned by the region's CSP plugin" }
  status := some <| statusOf .volume
    [textField "attachedTo" false (some "Instance the volume is attached to"),
      ("sizeGB", false, .integer .unsigned32
        { description := some "Provisioned size in GB", fallback := some (Json.nat 0) }),
      textField "skuRef" false (some "SKU the volume was provisioned from")]

def workspaceDefinition : Definition where
  kind := .workspace
  shortNames := ["ws"]
  columns := [Column.state, ⟨"Resources", "integer", ".status.resourceCount"⟩, Column.age]
  spec := .record []
    { description := some "Workspace groups the regional resources of a tenant" }
  status := some <| statusOf .workspace
    [("resourceCount", false, .integer .unsigned32
      { description := some "Number of resources living in the workspace", nullable := true })]

def storageOfferDefinition : Definition where
  kind := .storageOffer
  shortNames := []
  columns := [⟨"Type", "string", ".spec.type"⟩, ⟨"IOPS", "integer", ".spec.iops"⟩]
  spec := .record
    [("iops", true, .integer .signed64 {}),
      ("minVolumeSize", true,
        .integer .signed64 { description := some "Smallest volume size in GB" }),
      textField "type" true
        (some "Media type, e.g. `remote-durable` or `local-ephemeral`")]
    { description := some "Storage SKU offered in the region" }
  status := none

def networkOfferDefinition : Definition where
  kind := .networkOffer
  shortNames := []
  columns := [⟨"Bandwidth", "integer", ".spec.bandwidth"⟩]
  spec := .record
    [("bandwidth", true, .integer .signed64 { description := some "Mbit/s" }),
      ("packets", true, .integer .signed64 { description := some "Packets per second" })]
    { description := some "Network SKU offered in the region" }
  status := none

def definition : Kind → Definition
  | .volume => volumeDefinition
  | .workspace => workspaceDefinition
  | .storageOffer => storageOfferDefinition
  | .networkOffer => networkOfferDefinition

end Kind

namespace Definition

/-- The names of the kind: that of its collection, and the singular in small letters. -/
def names (d : Definition) : Json :=
  .record [("categories", .list []), ("kind", .text d.kind.name), ("plural", .text d.kind.plural),
    ("shortNames", .list (d.shortNames.map .text)), ("singular", .text d.kind.name.toLower)]

def schema (d : Definition) : Json :=
  let properties := ("spec", d.spec.toJson) :: Json.present "status" Schema.toJson d.status
  let about := "Auto-generated derived type for " ++ d.kind.name ++ "Spec via `CustomResource`"
  .record [("description", .text about), ("properties", .record properties),
    ("required", .list [.text "spec"]), ("title", .text d.kind.name), ("type", .text "object")]

/-- The only version, with a status of its own where the kind has one. -/
def version (d : Definition) : Json :=
  .record [("additionalPrinterColumns", .list (d.columns.map Column.toJson)),
    ("name", .text "v1"), ("schema", .record [("openAPIV3Schema", d.schema)]),
    ("served", .bool true), ("storage", .bool true),
    ("subresources", .record (if d.status.isSome then [("status", .record [])] else []))]

def toJson (d : Definition) : Json :=
  .record [("apiVersion", .text "apiextensions.k8s.io/v1"),
    ("kind", .text "CustomResourceDefinition"),
    ("metadata", .record [("name", .text (d.kind.plural ++ "." ++ d.kind.group))]),
    ("spec", .record [("group", .text d.kind.group), ("names", d.names),
      ("scope", .text "Namespaced"), ("versions", .list [d.version])])]

/-- All definitions; workspaces come before what is placed in them. -/
def all : List Definition :=
  [Kind.workspace, .volume, .storageOffer, .networkOffer].map Kind.definition

def render : String :=
  String.intercalate "---\n" (all.map fun d => Yaml.print d.toJson.sortFields)

end Definition

end Reconciler
