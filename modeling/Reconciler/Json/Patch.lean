import Reconciler.Json
/-!
Changing and addressing parts of a value: merge patches, in which `null` removes a
field and records are merged while everything else is replaced, and pointers.
-/

set_option autoImplicit false

namespace Reconciler.Json

def dropField (name : String) (fields : List (String × Json)) : List (String × Json) :=
  fields.filter (·.1 ≠ name)

def lookup (name : String) (fields : List (String × Json)) : Json :=
  ((fields.find? (·.1 = name)).map (·.2)).getD .null

def fields : Json → List (String × Json)
  | .record fs => fs
  | _ => []

mutual

/-- Applies a merge patch to a value. -/
def merge (target : Json) : Json → Json
  | .record patch => .record (mergeFields target.fields patch)
  | patch => patch

def mergeFields (target : List (String × Json)) : List (String × Json) → List (String × Json)
  | [] => target
  | (k, .null) :: rest => mergeFields (dropField k target) rest
  | (k, patch) :: rest =>
    mergeFields (setField k (merge (lookup k target) patch) target) rest

end

/-- A step of a pointer with `~1` for a slash and `~0` for a tilde. -/
def unescapeStep : List Char → List Char
  | '~' :: '1' :: rest => '/' :: unescapeStep rest
  | '~' :: '0' :: rest => '~' :: unescapeStep rest
  | c :: rest => c :: unescapeStep rest
  | [] => []

/-- A place in a list: digits without a sign and without a leading zero. -/
def index? (step : List Char) : Option Nat :=
  if step = [] ∨ !step.all isDigit then none
  else if step.head? = some '0' ∧ step.length ≠ 1 then none
  else some (digitsValue step)

def follow (j : Json) : List String → Option Json
  | [] => some j
  | step :: rest =>
    match j with
    | .record _ => (j.field? step).bind fun v => follow v rest
    | .list items => (index? step.toList).bind fun n => (items[n]?).bind fun v => follow v rest
    | _ => none

/-- The part of a value that a pointer names: the empty pointer is the whole value,
any other starts with a slash. -/
def pointer? (j : Json) (pointer : String) : Option Json :=
  if pointer = "" then some j
  else
    match pointer.splitOn "/" with
    | "" :: steps => follow j (steps.map fun s => String.ofList (unescapeStep s.toList))
    | _ => none

end Reconciler.Json
