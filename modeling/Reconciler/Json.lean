import Reconciler.Decimal
/-!
Values of the data format that objects, conditions and messages are exchanged in,
and the rules by which typed records are read out of them.
-/

set_option autoImplicit false

namespace Reconciler

/-- A value: integers are kept apart from numbers with a point or an exponent. -/
inductive Json where
  | null
  | bool (b : Bool)
  | int (n : Int)
  | decimal (d : Decimal)
  | text (s : String)
  | list (items : List Json)
  | record (fields : List (String × Json))
  deriving Inhabited

namespace Json

/-- The field of a record; the last one if a name is repeated. -/
def field? (j : Json) (name : String) : Option Json :=
  match j with
  | .record fields => (fields.reverse.find? (·.1 = name)).map (·.2)
  | _ => none

def isNull : Json → Bool
  | .null => true
  | _ => false

def isRecord : Json → Bool
  | .record _ => true
  | _ => false

/-- A way to read a value; `none` when it has another shape. -/
abbrev Reader (α : Type) := Json → Option α

def asText : Reader String
  | .text s => some s
  | _ => none

def asBool : Reader Bool
  | .bool b => some b
  | _ => none

def asIntBetween (low high : Int) : Reader Int
  | .int n => if low ≤ n ∧ n ≤ high then some n else none
  | _ => none

def asNat (bits : Nat) : Reader Nat := fun j =>
  (asIntBetween 0 (wordBound bits - 1) j).map Int.toNat

def asInt64 : Reader Int := asIntBetween (-(wordBound 63)) (wordBound 63 - 1)

def asList {α : Type} (read : Reader α) : Reader (List α)
  | .list items => items.mapM read
  | _ => none

def asEntries {α : Type} (read : Reader α) : Reader (List (String × α))
  | .record fields => fields.mapM fun (k, v) => (read v).map (k, ·)
  | _ => none

def asOption {α : Type} (read : Reader α) : Reader (Option α)
  | .null => some none
  | j => (read j).map some

/-- A record; a list of at least `least` values counts as one whose fields have the given
names in their order. -/
def asStruct (names : List String) (least : Nat) : Reader Json
  | .record fields => some (.record fields)
  | .list items =>
    if least ≤ items.length ∧ items.length ≤ names.length then some (.record (names.zip items))
    else none
  | _ => none

def asRecord : Reader Json := asStruct [] 1

def required {α : Type} (j : Json) (name : String) (read : Reader α) : Option α :=
  (j.field? name).bind read

/-- A field with a value of its own when it is not written at all. -/
def withDefault {α : Type} (j : Json) (name : String) (fallback : α) (read : Reader α) :
    Option α :=
  match j.field? name with
  | none => some fallback
  | some v => read v

/-- A field that may be missing or `null`. -/
def optional {α : Type} (j : Json) (name : String) (read : Reader α) : Option (Option α) :=
  j.withDefault name none (asOption read)

def ofOption {α : Type} (write : α → Json) : Option α → Json
  | none => .null
  | some a => write a

/-- A field that is written only when it has a value. -/
def present {α : Type} (name : String) (write : α → Json) : Option α → List (String × Json)
  | none => []
  | some a => [(name, write a)]

def nat (n : Nat) : Json := .int n

/-- The record with one field set, at its place if it was there. -/
def setField (name : String) (value : Json) : List (String × Json) → List (String × Json)
  | [] => [(name, value)]
  | (k, v) :: rest => if k = name then (k, value) :: rest else (k, v) :: setField name value rest

end Json

end Reconciler
