import Reconciler.Json
/-!
Records read loosely: a field that is missing or of another shape counts as empty. Plans for
the bench are written so.
-/

set_option autoImplicit false

namespace Reconciler.Json.Loose

def field (j : Json) (name : String) : Json := (j.field? name).getD .null

/-- A field that is there and not null. -/
def given (j : Json) (name : String) : Option Json :=
  match j.field? name with
  | some .null => none
  | o => o

def text? (j : Json) (name : String) : Option String := (field j name).asText

def textOr (j : Json) (name fallback : String) : String := (text? j name).getD fallback

def text (j : Json) (name : String) : String := textOr j name ""

/-- A natural number; one below zero counts as zero. -/
def nat? (j : Json) (name : String) : Option Nat :=
  match field j name with
  | .int n => some n.toNat
  | _ => none

def natOr (j : Json) (name : String) (fallback : Nat) : Nat := (nat? j name).getD fallback

def nat (j : Json) (name : String) : Nat := natOr j name 0

def flag (j : Json) (name : String) : Bool := ((field j name).asBool).getD false

def items (j : Json) (name : String) : List Json :=
  match field j name with
  | .list js => js
  | _ => []

end Reconciler.Json.Loose
