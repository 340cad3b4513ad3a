import Reconciler.Configuration
/-!
Configurations as documents. A record may be left empty, and so may each of its fields;
fields without a meaning are passed over.
-/

set_option autoImplicit false

namespace Reconciler.Configuration

open Yaml (Document Node Following)
open Yaml.Following (fail)

def textOf (d : Document) (n : Node) : Following String := do
  match ← d.follow n with
  | .scalar s _ _ => return s
  | _ => fail

/-- A natural number of 64 bits, written plainly or as a block under the tag of integers. -/
def natOf (d : Document) (n : Node) : Following Nat := do
  match ← d.follow n with
  | .scalar s style tag =>
    if style = .plain ∨ (style = .block ∧ tag = some Yaml.Tag.int) then
      match Yaml.Plain.unsigned? s with
      | some n => if n < wordBound 64 then return n else fail
      | none => fail
    else fail
  | _ => fail

/-- A text, or none where nothing or a null is written. -/
def optionalTextOf (d : Document) (n : Node) : Following (Option String) := do
  match ← d.follow n with
  | .scalar s style tag =>
    if style ≠ .plain then return some s
    else if tag = some Yaml.Tag.null then
      if Yaml.Plain.isNull s then return none else fail
    else if tag.isSome then return some s
    else if s = "" ∨ Yaml.Plain.isNull s then return none
    else return some s
  | _ => fail

/-- Reads the entries of a mapping into a record, each field at most once. What is written
as nothing is a mapping without entries. -/
def fieldsOf {α : Type} (d : Document) (depth : Nat) (n : Node) (start : α)
    (field? : String → Option (Node → α → Following α)) : Following α := do
  match ← d.follow n with
  | .scalar s style _ => if s = "" ∧ style = .plain then return start else fail
  | .mapping entries _ => if depth = 0 then fail else go start [] entries
  | _ => fail
where
  go (a : α) (seen : List String) : List (Node × Node) → Following α
    | [] => return a
    | (k, v) :: rest => do
      let name ← textOf d k
      match field? name with
      | none => go a seen rest
      | some read =>
        if seen.contains name then fail
        go (← read v a) (name :: seen) rest

def providerField? (d : Document) (depth : Nat) :
    String → Option (Node → ProviderChoice → Following ProviderChoice)
  | "name" => some fun n p => do return { p with name := ← textOf d n }
  | "options" => some fun n p => do return { p with options := ← Yaml.Value.ofNode d depth n }
  | _ => none

def field? (d : Document) (depth : Nat) :
    String → Option (Node → Configuration → Following Configuration)
  | "requeueAfterSecs" => some fun n c => do return { c with requeueAfterSecs := ← natOf d n }
  | "reconcileTimeoutSecs" =>
    some fun n c => do return { c with reconcileTimeoutSecs := ← natOf d n }
  | "pollIntervalSecs" => some fun n c => do return { c with pollIntervalSecs := ← natOf d n }
  | "namespace" => some fun n c => do return { c with namespaceName := ← optionalTextOf d n }
  | "provider" => some fun n c => do
    let provider ← fieldsOf d depth n default (providerField? d (depth - 1))
    return { c with provider }
  | _ => none

/-- Reads a text that holds one document; fields that are not written have their usual
values. -/
def parse? (text : String) : Option Configuration :=
  let stream := Yaml.Stream.ofText text
  match stream.documents, stream.sound with
  | [d], true =>
    let depth := Yaml.maxDepth
    (fieldsOf d depth d.root default (field? d (depth - 1)) 0).map (·.1)
  | _, _ => none

def ofText (text : String) : Except Error Configuration :=
  match parse? text with
  | none => .error .malformedYaml
  | some c => do
    c.validate
    .ok c

end Reconciler.Configuration
