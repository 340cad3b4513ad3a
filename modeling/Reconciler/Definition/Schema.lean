import Reconciler.Json
/-!
Schemas of the records that objects are stored as. A schema says of each field whether it must
be written; `accepts` is the meaning of a schema, `toJson` its published form.
-/

set_option autoImplicit false

namespace Reconciler

namespace Schema

structure Note where
  description : Option String := none
  /-- A null may stand for the value. -/
  nullable : Bool := false
  /-- The value of a field that is not written. -/
  fallback : Option Json := none

inductive Width where
  | unsigned32
  | signed64
  deriving DecidableEq, Repr

end Schema

inductive Schema where
  | text (note : Schema.Note)
  | integer (width : Schema.Width) (note : Schema.Note)
  | list (item : Schema) (note : Schema.Note)
  /-- Fields by name, and whether each must be written; others may be there. -/
  | record (fields : List (String × Bool × Schema)) (note : Schema.Note)

namespace Schema

namespace Width

def format : Width → String
  | .unsigned32 => "uint32"
  | .signed64 => "int64"

def holds (w : Width) (n : Int) : Bool :=
  match w with
  | .unsigned32 => decide (0 ≤ n ∧ n < wordBound 32)
  | .signed64 => decide (-(wordBound 63) ≤ n ∧ n < wordBound 63)

/-- The least value is published where it is zero. -/
def bounds : Width → List (String × Json)
  | .unsigned32 => [("minimum", .decimal ⟨false, 0, 0⟩)]
  | .signed64 => []

end Width

def note : Schema → Note
  | .text n => n
  | .integer _ n => n
  | .list _ n => n
  | .record _ n => n

namespace Note

def toFields (n : Note) : List (String × Json) :=
  Json.present "default" id n.fallback ++ Json.present "description" .text n.description ++
    (if n.nullable then [("nullable", .bool true)] else [])

end Note

def requiredNames (fields : List (String × Bool × Schema)) : List String :=
  ((fields.filter (·.2.1)).map (·.1)).mergeSort fun a b => decide (a ≤ b)

/-- A field that is left out where there is nothing to list. -/
def unlessEmpty {α : Type} (name : String) (l : List α) (j : Json) : List (String × Json) :=
  if l.isEmpty then [] else [(name, j)]

mutual

def toJson : Schema → Json
  | .text n => .record (n.toFields ++ [("type", .text "string")])
  | .integer w n =>
    .record (n.toFields ++ [("format", .text w.format)] ++ w.bounds ++ [("type", .text "integer")])
  | .list item n =>
    .record (n.toFields ++ [("items", item.toJson), ("type", .text "array")])
  | .record fields n =>
    .record (n.toFields ++ unlessEmpty "properties" fields (.record (fieldsToJson fields)) ++
      unlessEmpty "required" (requiredNames fields)
        (.list ((requiredNames fields).map .text)) ++
      [("type", .text "object")])

def fieldsToJson : List (String × Bool × Schema) → List (String × Json)
  | [] => []
  | (name, _, s) :: rest => (name, s.toJson) :: fieldsToJson rest

end

mutual

def accepts : Schema → Json → Bool
  | .text n, j => (n.nullable && j.isNull) || (Json.asText j).isSome
  | .integer w n, j =>
    (n.nullable && j.isNull) ||
      match j with
      | .int i => w.holds i
      | _ => false
  | .list item n, j =>
    (n.nullable && j.isNull) ||
      match j with
      | .list items => items.all fun i => item.accepts i
      | _ => false
  | .record fields n, j => (n.nullable && j.isNull) || (j.isRecord && acceptsFields fields j)

/-- Every field is there with a value of its shape, or may be missing and is. -/
def acceptsFields : List (String × Bool × Schema) → Json → Bool
  | [], _ => true
  | (name, required, s) :: rest, j =>
    (match j.field? name with
      | none => !required
      | some v => s.accepts v) && acceptsFields rest j

end

end Schema

end Reconciler
