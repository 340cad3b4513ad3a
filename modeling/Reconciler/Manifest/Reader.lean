import Reconciler.Manifest
import Reconciler.Object.Json
import Reconciler.Yaml.Json
/-!
Manifests as texts: each document holds one object, and an empty document none.
-/

set_option autoImplicit false

namespace Reconciler.Manifest

/-- The record of an object. Metadata and a specification that are null count as empty ones,
and no list stands for a specification. -/
def objectRecord (v : Yaml.Value) : Option Json :=
  match v.toRecord with
  | .record fields =>
    let fields := fields.map fun (name, j) =>
      if (name = "metadata" ∨ name = "spec") ∧ j.isNull then (name, Json.record []) else (name, j)
    let j := Json.record fields
    if (j.field? "spec").all Json.isRecord then some j else none
  | _ => none

def readObject (k : Kind) (v : Yaml.Value) : Except Error (Object k) :=
  match (objectRecord v).bind (Object.ofJson k) with
  | some o => .ok o
  | none => .error .malformedYaml

/-- Adds what a document holds. Volumes and workspaces are told apart by their kind, and
nothing else belongs into a manifest. -/
def add (m : Manifest) (v : Yaml.Value) : Except Error Manifest :=
  if v.isNull then .ok m
  else
    match (v.field? "kind").bind Yaml.Value.text? with
    | none => .error (.validation "manifest document without kind")
    | some kind =>
      if kind = Kind.volume.name then do
        .ok { m with volumes := m.volumes ++ [← readObject .volume v] }
      else if kind = Kind.workspace.name then do
        .ok { m with workspaces := m.workspaces ++ [← readObject .workspace v] }
      else .error (.validation ("unsupported kind '" ++ kind ++ "' in manifest"))

/-- Reads documents one after another; the first error counts. -/
def addAll (m : Manifest) : List Yaml.Document → Except Error Manifest
  | [] => .ok m
  | d :: rest =>
    match Yaml.Value.ofDocument? d with
    | none => .error .malformedYaml
    | some v =>
      match m.add v with
      | .error e => .error e
      | .ok m => addAll m rest

/-- Reads a manifest. What is malformed counts only after the documents before it. -/
def ofText (text : String) : Except Error Manifest := do
  let stream := Yaml.Stream.ofText text
  let m ← addAll empty stream.documents
  if stream.sound then .ok m else .error .malformedYaml

end Reconciler.Manifest
