import Reconciler.Json
import Reconciler.Yaml.Node
/-!
Values of documents. A plain scalar is a null, a truth value, a number or a text, whichever it
spells; quoted ones are texts. Keys of a mapping are different values.
-/

set_option autoImplicit false

namespace Reconciler.Yaml

inductive Value where
  | null
  | bool (b : Bool)
  | int (n : Int)
  | decimal (d : Decimal)
  | infinite (negative : Bool)
  | notANumber
  | text (s : String)
  | sequence (items : List Value)
  | mapping (entries : List (Value × Value))
  /-- A value under a tag of the document's own, written without its exclamation mark. -/
  | tagged (tag : String) (value : Value)
  deriving Inhabited

namespace Plain

def isNull (s : String) : Bool := ["null", "Null", "NULL", "~"].contains s

def bool? (s : String) : Option Bool :=
  if ["true", "True", "TRUE"].contains s then some true
  else if ["false", "False", "FALSE"].contains s then some false
  else none

def digitsIn? (base : Nat) (cs : List Char) : Option Nat :=
  if cs = [] then none
  else cs.foldlM (fun n c =>
    (Json.hexValue? c).bind fun d => if d < base then some (base * n + d) else none) 0

/-- A digit follows a zero that leads: what is spelled so is no number. -/
def hasLeadingZero (cs : List Char) : Bool :=
  let cs := match cs with
    | '-' :: rest => rest
    | '+' :: rest => rest
    | _ => cs
  1 < cs.length && cs.head? = some '0' && cs.all isDigit

/-- A natural number in base ten, or in base 16, 8 or 2 after `0x`, `0o` or `0b`. -/
def natural? : List Char → Option Nat
  | '0' :: 'x' :: ds => digitsIn? 16 ds
  | '0' :: 'o' :: ds => digitsIn? 8 ds
  | '0' :: 'b' :: ds => digitsIn? 2 ds
  | ds => digitsIn? 10 ds

def unsigned? (s : String) : Option Nat :=
  let cs := s.toList
  if hasLeadingZero cs then none
  else
    match cs with
    | '+' :: ds => natural? ds
    | ds => natural? ds

def int? (s : String) : Option Int :=
  match s.toList with
  | '-' :: ds =>
    if hasLeadingZero ds then none else (natural? ds).map fun n => -(n : Int)
  | _ => (unsigned? s).map Int.ofNat

/-- A number with a point or an exponent, or one that has no digits; what no floating point
number is near to is not taken. -/
def real? (s : String) : Option Value :=
  let cs := s.toList
  let bare := match cs with
    | '+' :: '+' :: _ => []
    | '+' :: '-' :: _ => []
    | '+' :: rest => rest
    | _ => cs
  if [".inf", ".Inf", ".INF"].contains (String.ofList bare) then some (.infinite false)
  else if ["-.inf", "-.Inf", "-.INF"].contains s then some (.infinite true)
  else if [".nan", ".NaN", ".NAN"].contains s then some .notANumber
  else
    match Decimal.read? bare with
    | none => none
    | some d =>
      match Binary64.ofDecimal d with
      | .finite _ => some (.decimal d)
      | _ => none

/-- The value that an integer stands for, if it fits: `some none` where it does not fit 64
bits but would fit 128. -/
def ofInt? (n : Int) : Option (Option Value) :=
  if -(wordBound 63) ≤ n ∧ n < wordBound 64 then some (some (.int n))
  else if -(wordBound 127) ≤ n ∧ n < wordBound 128 then some none
  else none

/-- What a plain scalar spells; `none` for an integer of more than 64 bits. -/
def value? (s : String) : Option Value :=
  if s = "" || isNull s then some .null
  else
    match bool? s with
    | some b => some (.bool b)
    | none =>
      match (int? s).bind ofInt? with
      | some v => v
      | none =>
        if hasLeadingZero s.toList then some (.text s) else some ((real? s).getD (.text s))

end Plain

namespace Tag

def null : String := "tag:yaml.org,2002:null"
def bool : String := "tag:yaml.org,2002:bool"
def int : String := "tag:yaml.org,2002:int"
def float : String := "tag:yaml.org,2002:float"

def own? (tag : Option String) : Option String :=
  match tag.map String.toList with
  | some ['!'] => some "!"
  | some ('!' :: rest) => some (String.ofList rest)
  | _ => none

end Tag

namespace Value

/-- The value of a scalar without a tag of the document's own. The tags of the language say
what a scalar has to spell; under any other it is a text. -/
def ofScalar? (s : String) (style : Style) (tag : Option String) : Option Value :=
  match tag with
  | some t =>
    if t = Tag.bool then (Plain.bool? s).map .bool
    else if t = Tag.int then ((Plain.int? s).bind Plain.ofInt?).join
    else if t = Tag.float then Plain.real? s
    else if t = Tag.null then (if Plain.isNull s then some .null else none)
    else some (.text s)
  | none => if style = .plain then Plain.value? s else some (.text s)

mutual

/-- Are two values the same? Mappings are compared regardless of the order of their entries. -/
def same : Value → Value → Bool
  | .null, .null => true
  | .bool a, .bool b => a == b
  | .int m, .int n => m == n
  | .decimal a, .decimal b => Binary64.ofDecimal a == Binary64.ofDecimal b
  | .infinite a, .infinite b => a == b
  | .notANumber, .notANumber => true
  | .text a, .text b => a == b
  | .sequence as, .sequence bs => sameItems as bs
  | .mapping as, .mapping bs => as.length == bs.length && sameEntries as bs
  | .tagged s a, .tagged t b => s == t && same a b
  | _, _ => false

def sameItems : List Value → List Value → Bool
  | [], [] => true
  | a :: as, b :: bs => same a b && sameItems as bs
  | _, _ => false

/-- Every entry is one of the others. -/
def sameEntries : List (Value × Value) → List (Value × Value) → Bool
  | [], _ => true
  | (k, v) :: rest, bs => bs.any (fun e => same k e.1 && same v e.2) && sameEntries rest bs

end

end Value

/-- Following an alias counts: there may be a hundred of them for each event of the document. -/
abbrev Following (α : Type) := StateT Nat Option α

def Following.fail {α : Type} : Following α := fun _ => none

def Document.follow (d : Document) : Node → Following Node
  | .alias number => fun jumps =>
    if d.size * 100 < jumps + 1 then none else (d.find? number).map (·, jumps + 1)
  | n => return n

/-- How deep collections may lie within each other. -/
def maxDepth : Nat := 128

namespace Value

open Following (fail)

mutual

def ofNode (d : Document) : Nat → Node → Following Value
  | 0, n => do
    match ← d.follow n with
    | .scalar s style tag => ofLeaf s style tag
    | _ => fail
  | depth + 1, n => do
    match ← d.follow n with
    | .scalar s style tag => ofLeaf s style tag
    | .sequence items tag => wrap tag (.sequence <$> ofItems d depth items)
    | .mapping entries tag => wrap tag (.mapping <$> ofEntries d depth [] entries)
    | .alias _ => fail
where
  ofLeaf (s : String) (style : Style) (tag : Option String) : Following Value :=
    match Tag.own? tag with
    | some name => fun jumps => (ofScalar? s style none).map (.tagged name ·, jumps)
    | none => fun jumps => (ofScalar? s style tag).map (·, jumps)
  wrap (tag : Option String) (v : Following Value) : Following Value :=
    match Tag.own? tag with
    | some name => .tagged name <$> v
    | none => v

def ofItems (d : Document) (depth : Nat) : List Node → Following (List Value)
  | [] => return []
  | n :: rest => return (← ofNode d depth n) :: (← ofItems d depth rest)

/-- The entries after those that were read; a key must not be there already. -/
def ofEntries (d : Document) (depth : Nat) (seen : List Value) :
    List (Node × Node) → Following (List (Value × Value))
  | [] => return []
  | (k, v) :: rest => do
    let key ← ofNode d depth k
    if seen.any (same key) then fail
    let value ← ofNode d depth v
    return (key, value) :: (← ofEntries d depth (key :: seen) rest)

end

def ofDocument? (d : Document) : Option Value :=
  (ofNode d maxDepth d.root 0).map (·.1)

def untagged : Value → Value
  | .tagged _ v => v.untagged
  | v => v

def isNull (v : Value) : Bool :=
  match v.untagged with
  | .null => true
  | _ => false

def text? (v : Value) : Option String :=
  match v.untagged with
  | .text s => some s
  | _ => none

def field? (v : Value) (name : String) : Option Value :=
  match v.untagged with
  | .mapping entries => (entries.find? (fun e => e.1.same (.text name))).map (·.2)
  | _ => none

end Value

end Reconciler.Yaml
