import Reconciler.Json.Text
import Reconciler.Yaml.Value
/-!
Values of documents in the format that objects are exchanged in: `toJson` shows all there is,
`toRecord` is what typed records are read from.
-/

set_option autoImplicit false

namespace Reconciler.Yaml.Value

def keyText : Value → String
  | .text s => s
  | .int n => intText n
  | .bool b => if b then "true" else "false"
  | .decimal d => d.toText
  | .tagged _ v => keyText v
  | _ => "null"

mutual

/-- The value with its tags; each shows as the name of a record's only field. What is no number
is shown as null. -/
def toJson : Value → Json
  | .null => .null
  | .bool b => .bool b
  | .int n => .int n
  | .decimal d => .decimal d
  | .infinite _ => .null
  | .notANumber => .null
  | .text s => .text s
  | .sequence items => .list (itemsToJson items)
  | .mapping entries => .record (entriesToJson entries)
  | .tagged tag v => .record [("!" ++ tag, v.toJson)]

def itemsToJson : List Value → List Json
  | [] => []
  | v :: rest => v.toJson :: itemsToJson rest

def entriesToJson : List (Value × Value) → List (String × Json)
  | [] => []
  | (k, v) :: rest => (k.keyText, v.toJson) :: entriesToJson rest

end

def names? : List (Value × Value) → Option (List String)
  | [] => some []
  | (k, _) :: rest => do some ((← k.text?) :: (← names? rest))

mutual

/-- The value without its tags. A mapping is a record if its keys are texts, and a list of
pairs otherwise. Numbers beyond all bounds are those that no typed record takes. -/
def toRecord : Value → Json
  | .null => .null
  | .bool b => .bool b
  | .int n => .int n
  | .decimal d => .decimal d
  | .infinite negative => .decimal ⟨negative, 1, 400⟩
  | .notANumber => .decimal ⟨false, 0, 0⟩
  | .text s => .text s
  | .sequence items => .list (itemsToRecord items)
  | .mapping entries =>
    match names? entries with
    | some names => .record (names.zip (entriesToRecord entries))
    | none => .list (pairsToRecord entries)
  | .tagged _ v => v.toRecord

def itemsToRecord : List Value → List Json
  | [] => []
  | v :: rest => v.toRecord :: itemsToRecord rest

def entriesToRecord : List (Value × Value) → List Json
  | [] => []
  | (_, v) :: rest => v.toRecord :: entriesToRecord rest

def pairsToRecord : List (Value × Value) → List Json
  | [] => []
  | (k, v) :: rest => .list [k.toRecord, v.toRecord] :: pairsToRecord rest

end

mutual

def ofJson : Json → Value
  | .null => .null
  | .bool b => .bool b
  | .int n => .int n
  | .decimal d => .decimal d
  | .text s => .text s
  | .list items => .sequence (ofJsonItems items)
  | .record fields => .mapping (ofJsonFields fields)

def ofJsonItems : List Json → List Value
  | [] => []
  | j :: rest => ofJson j :: ofJsonItems rest

def ofJsonFields : List (String × Json) → List (Value × Value)
  | [] => []
  | (k, j) :: rest => (.text k, ofJson j) :: ofJsonFields rest

end

end Reconciler.Yaml.Value
