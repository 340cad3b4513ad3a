import Reconciler.Yaml.Token.Lexer
/-!
Documents of a text: scalars, sequences and mappings, with aliases for nodes that were given a
name before. `Stream.ofText` has the documents up to the first fault.
-/

set_option autoImplicit false

namespace Reconciler.Yaml

/-- A node of a document, with its tag if it has one. An alias refers to the holder of a number. -/
inductive Node where
  | scalar (text : String) (style : Style) (tag : Option String)
  | sequence (items : List Node) (tag : Option String)
  | mapping (entries : List (Node × Node)) (tag : Option String)
  | alias (number : Nat)
  deriving Inhabited

/-- A node that something refers to. Numbers are given out by the count of names in use, so a
name that is set again shares its new number with the next new name; the later holder counts. -/
structure Holder where
  number : Nat
  /-- How many events of the document came before the node. -/
  place : Nat
  node : Node

structure Document where
  root : Node
  holders : List Holder
  /-- Its scalars, aliases, and beginnings and ends of collections. -/
  size : Nat

def Document.find? (d : Document) (number : Nat) : Option Node :=
  let candidates := d.holders.filter (·.number = number)
  let last := candidates.foldl (fun best h =>
    match best with
    | none => some h
    | some b => if b.place < h.place then some h else some b) (none : Option Holder)
  last.map (·.node)

/-- The documents of a text, and whether nothing after them is malformed. -/
structure Stream where
  documents : List Document
  sound : Bool

structure Reading where
  tokens : List Token
  /-- Shorthands for tags, by their handles. -/
  shorthands : List (String × String)
  /-- Names in use and the numbers of their holders. -/
  names : List (String × Nat)
  holders : List Holder
  size : Nat

/-- A step of reading; `none` where the document is malformed. -/
abbrev Read (α : Type) := StateT Reading Option α

namespace Read

def fail {α : Type} : Read α := fun _ => none

def peek : Read Token := fun r =>
  match r.tokens with
  | [] => none
  | t :: _ => some (t, r)

def advance : Read Unit := fun r => some ((), { r with tokens := r.tokens.drop 1 })

def sees (t : Token) : Read Bool := do return (← peek) = t

def seesOne (ts : List Token) : Read Bool := do return ts.contains (← peek)

def accept (t : Token) : Read Bool := do
  if ← sees t then
    advance
    return true
  else return false

def count (n : Nat) : Read Unit := modify fun r => { r with size := r.size + n }

structure Properties where
  anchor : Option String
  tag : Option String

def resolveTag (handle suffix : String) : Read String := do
  if handle = "" then return suffix
  else
    match (← get).shorthands.lookup handle with
    | some start => return start ++ suffix
    | none => fail

def anchor? : Read (Option String) := do
  match ← peek with
  | .anchor name =>
    advance
    return some name
  | _ => return none

def tag? : Read (Option String) := do
  match ← peek with
  | .tag handle suffix =>
    advance
    return some (← resolveTag handle suffix)
  | _ => return none

def properties : Read Properties := do
  match ← anchor? with
  | some name => return ⟨some name, ← tag?⟩
  | none =>
    let tag ← tag?
    return ⟨← anchor?, tag⟩

/-- Gives a node that begins here a number if it has a name. -/
def number (anchor : Option String) : Read (Option (Nat × Nat)) := do
  match anchor with
  | none => return none
  | some name =>
    let r ← get
    let n := r.names.length
    set { r with names := (name, n) :: r.names.filter (·.1 ≠ name) }
    return some (n, r.size)

def hold (number : Option (Nat × Nat)) (node : Node) : Read Node := do
  match number with
  | none => return node
  | some (n, place) =>
    modify fun r => { r with holders := ⟨n, place, node⟩ :: r.holders }
    return node

def scalar (p : Properties) (text : String) (style : Style) (tag : Option String) : Read Node := do
  let n ← number p.anchor
  count 1
  hold n (.scalar text style tag)

/-- The scalar that is not written. -/
def emptyNode : Read Node := scalar ⟨none, none⟩ "" .plain none

def aliased (name : String) : Read Node := do
  match (← get).names.lookup name with
  | some n =>
    count 1
    return .alias n
  | none => fail

def collection {α : Type} (p : Properties) (parts : Read (List α)) (build : List α → Node) :
    Read Node := do
  let n ← number p.anchor
  count 1
  let parts ← parts
  count 1
  hold n (build parts)

mutual

/-- A node. In a block it may be a collection of its own line or lines; as the value of a
mapping it may be a sequence that is not indented. -/
def node (inBlock indentless : Bool) : Nat → Read Node
  | 0 => fail
  | fuel + 1 => do
    if let .alias name ← peek then
      advance
      return ← aliased name
    let p ← properties
    let t ← peek
    match t with
    | .scalar text style =>
      advance
      scalar p text style p.tag
    | .flowSequenceStart =>
      advance
      collection p (flowItems true fuel) (.sequence · p.tag)
    | .flowMappingStart =>
      advance
      collection p (flowEntries true fuel) (.mapping · p.tag)
    | _ =>
      if indentless ∧ t = .item then
        collection p (indentlessItems fuel) (.sequence · p.tag)
      else if inBlock ∧ t = .blockSequenceStart then
        advance
        collection p (blockItems fuel) (.sequence · p.tag)
      else if inBlock ∧ t = .blockMappingStart then
        advance
        collection p (blockEntries fuel) (.mapping · p.tag)
      else if p.anchor.isSome ∨ p.tag.isSome then scalar p "" .plain p.tag
      else fail

def nodeUnless (ends : List Token) (inBlock indentless : Bool) : Nat → Read Node
  | 0 => fail
  | fuel + 1 => do
    if ← seesOne ends then emptyNode else node inBlock indentless fuel

def blockItems : Nat → Read (List Node)
  | 0 => fail
  | fuel + 1 => do
    if ← accept .item then
      let n ← nodeUnless [.item, .blockEnd] true false fuel
      return n :: (← blockItems fuel)
    else if ← accept .blockEnd then return []
    else fail

def indentlessItems : Nat → Read (List Node)
  | 0 => fail
  | fuel + 1 => do
    if ← accept .item then
      let n ← nodeUnless [.item, .key, .value, .blockEnd] true false fuel
      return n :: (← indentlessItems fuel)
    else return []

def blockEntries : Nat → Read (List (Node × Node))
  | 0 => fail
  | fuel + 1 => do
    if ← accept .key then
      let ends := [Token.key, .value, .blockEnd]
      let k ← nodeUnless ends true true fuel
      let v ← if ← accept .value then nodeUnless ends true true fuel else emptyNode
      return (k, v) :: (← blockEntries fuel)
    else if ← accept .blockEnd then return []
    else fail

/-- Items between brackets, with commas before all but the first. A key makes a mapping of
its own item. -/
def flowItems (first : Bool) : Nat → Read (List Node)
  | 0 => fail
  | fuel + 1 => do
    if ← accept .flowSequenceEnd then return []
    if !first then
      if !(← accept .comma) then fail
      if ← accept .flowSequenceEnd then return []
    let n ←
      if ← accept .key then
        collection ⟨none, none⟩ (flowPair fuel) (.mapping · none)
      else node false false fuel
    return n :: (← flowItems false fuel)

/-- The entry that a key between brackets begins; a token that ends an empty key is lost. -/
def flowPair : Nat → Read (List (Node × Node))
  | 0 => fail
  | fuel + 1 => do
    let k ←
      if ← seesOne [.value, .comma, .flowSequenceEnd] then
        advance
        emptyNode
      else node false false fuel
    let v ← if ← accept .value then nodeUnless [.comma, .flowSequenceEnd] false false fuel
      else emptyNode
    return [(k, v)]

/-- Entries between braces, with commas before all but the first. -/
def flowEntries (first : Bool) : Nat → Read (List (Node × Node))
  | 0 => fail
  | fuel + 1 => do
    if ← accept .flowMappingEnd then return []
    if !first then
      if !(← accept .comma) then fail
      if ← accept .flowMappingEnd then return []
    let ends := [Token.comma, .flowMappingEnd]
    let entry ←
      if ← accept .key then
        let k ← nodeUnless (.value :: ends) false false fuel
        let v ← if ← accept .value then nodeUnless ends false false fuel else emptyNode
        pure (k, v)
      else
        let k ← node false false fuel
        pure (k, ← emptyNode)
    return entry :: (← flowEntries false fuel)

end

/-- The directives before a document: at most one version, which is 1.1 or 1.2, and shorthands
with handles of their own. -/
def directives : Nat → Bool → List (String × String) → Read (Bool × List (String × String))
  | 0, _, _ => fail
  | fuel + 1, versioned, shorthands => do
    match ← peek with
    | .version major minor =>
      if versioned ∨ major ≠ 1 ∨ (minor ≠ 1 ∧ minor ≠ 2) then fail
      advance
      directives fuel true shorthands
    | .tagShorthand handle start =>
      if (shorthands.lookup handle).isSome then fail
      advance
      directives fuel versioned (shorthands ++ [(handle, start)])
    | _ => return (versioned, shorthands)

def usualShorthands : List (String × String) := [("!", "!"), ("!!", "tag:yaml.org,2002:")]

def skipDocumentEnds : Nat → Read Unit
  | 0 => fail
  | fuel + 1 => do if ← accept .documentEnd then skipDocumentEnds fuel else return ()

/-- Reads a document, if there is one. Only the first may go without a mark at its start. -/
def document (first : Bool) (fuel : Nat) : Read (Option Document) := do
  if !first then skipDocumentEnds fuel
  if ← accept .streamEnd then return none
  modify fun r => { r with shorthands := usualShorthands, names := [], holders := [], size := 0 }
  let (versioned, shorthands) ← directives fuel false []
  modify fun r => { r with shorthands := shorthands ++ usualShorthands }
  let marked ← accept .documentStart
  if !marked ∧ (!first ∨ versioned ∨ shorthands ≠ []) then fail
  let empty ← seesOne [.documentStart, .documentEnd, .streamEnd]
  let directive := match ← peek with
    | .version .. | .tagShorthand .. => true
    | _ => false
  let root ← if marked && (empty || directive) then emptyNode else node true false fuel
  let _ ← peek
  let _ ← accept .documentEnd
  let r ← get
  return some { root, holders := r.holders, size := r.size }

end Read

def documentsOf (fuel : Nat) (first : Bool) : Nat → Reading → Stream
  | 0, _ => ⟨[], false⟩
  | n + 1, r =>
    match Read.document first fuel r with
    | none => ⟨[], false⟩
    | some (none, _) => ⟨[], true⟩
    | some (some d, r) =>
      let s := documentsOf fuel false n r
      ⟨d :: s.documents, s.sound⟩

/-- The documents of a text; one that holds none at all counts as one empty document. -/
def Stream.ofText (text : String) : Stream :=
  let tokens := tokensOf text
  let fuel := 4 * tokens.length + 4
  let s := documentsOf fuel true (tokens.length + 1) ⟨tokens, [], [], [], 0⟩
  if s.documents.isEmpty ∧ s.sound then ⟨[⟨.scalar "" .plain none, [], 1⟩], true⟩ else s

end Reconciler.Yaml
