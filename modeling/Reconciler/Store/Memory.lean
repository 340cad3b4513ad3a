import Reconciler.Store
import Reconciler.Selector
import Reconciler.Context
/-!
A store in memory: objects in key order and a counter that gives every write a version
of its own. A replacement or a guarded deletion goes through only on the version that is
stored, and an unsuccessful call changes nothing.
-/

set_option autoImplicit false

namespace Reconciler

structure MemoryStore (k : Kind) where
  objects : SortedMap ObjectKey (Object k)
  /-- The number of versions given so far, which is the latest of them. -/
  lastVersion : Nat

namespace MemoryStore

variable {k : Kind}

def empty : MemoryStore k := ⟨SortedMap.empty, 0⟩

instance : Inhabited (MemoryStore k) := ⟨empty⟩

def size (s : MemoryStore k) : Nat := s.objects.size

def keys (s : MemoryStore k) : List ObjectKey := s.objects.keys

def contains (s : MemoryStore k) (key : ObjectKey) : Bool := s.objects.contains key

def write (s : MemoryStore k) (key : ObjectKey) (o : Object k) : Object k × MemoryStore k :=
  let o := o.setVersion (some (natText (s.lastVersion + 1)))
  (o, { objects := s.objects.insert key o, lastVersion := s.lastVersion + 1 })

/-- The key to write an object under; it must have a name. -/
def writeKey (o : Object k) : Except Error ObjectKey :=
  if o.metadata.name.getD "" = "" then
    .error (.validation (k.name ++ " without metadata.name"))
  else .ok (ObjectKey.ofObject o)

def get (s : MemoryStore k) (key : ObjectKey) : Except Error (Object k) :=
  match s.objects.get? key with
  | some o => .ok o
  | none => .error (.missing k key)

def selected (s : MemoryStore k) (query : ListQuery) (selector : Selector) :
    List (ObjectKey × Object k) :=
  let range := match query.continueAfter with
    | some token => s.objects.after (ObjectKey.parse token)
    | none => s.objects
  range.entries.filter fun (key, o) =>
    (query.namespaceName.isNone || key.namespaceName = query.namespaceName) &&
      selector.selects o.metadata.labelMap

/-- The first entries of a listing; where more follow, the last key tells where to go on. -/
def pageOf (limit : Option Nat) (entries : List (ObjectKey × Object k)) : Page (Object k) :=
  match limit with
  | none | some 0 => ⟨entries.map (·.2), none⟩
  | some n =>
    let shown := entries.take n
    { items := shown.map (·.2)
      next := if entries.length ≤ n then none else shown.getLast?.map (·.1.text) }

def list (s : MemoryStore k) (query : ListQuery) : Except Error (Page (Object k)) :=
  match Selector.parseOptional query.selector with
  | .ok selector => .ok (pageOf query.limit (s.selected query selector))
  | .error fault => .error (.invalidSelector fault.message)

def create (now : Instant) (s : MemoryStore k) (o : Object k) :
    Except Error (Object k × MemoryStore k) := do
  let key ← writeKey o
  if s.contains key then .error (.alreadyExists k.name key.text)
  else
    .ok (s.write key { o with metadata :=
      { o.metadata with creationTimestamp := some now, deletionTimestamp := none } })

/-- The version a replacement names must be the stored one; time stamps are the store's. -/
def replace (s : MemoryStore k) (o : Object k) : Except Error (Object k × MemoryStore k) := do
  let key ← writeKey o
  let current ← s.get key
  match o.version with
  | none => .error (.unversioned k key)
  | some base =>
    if some base ≠ current.version then .error (.stale k key base current.version)
    else
      .ok (s.write key { o with metadata :=
        { o.metadata with
          creationTimestamp := current.metadata.creationTimestamp
          deletionTimestamp := current.metadata.deletionTimestamp } })

def delete (s : MemoryStore k) (key : ObjectKey) (version : Option String) :
    Except Error (MemoryStore k) := do
  let current ← s.get key
  match version with
  | none => .ok { s with objects := s.objects.erase key }
  | some expected =>
    if some expected ≠ current.version then .error (.stale k key expected current.version)
    else .ok { s with objects := s.objects.erase key }

/-- The object with another history. It is written out and read back, which leaves times as their
written forms name them, those of the metadata to the second, and takes a set of fields that is
null for none. -/
def withConditions (o : Object k) (conditions : List (Condition String)) : Object k :=
  let m := o.metadata
  { o with
    metadata :=
      { m with
        creationTimestamp := m.creationTimestamp.map Instant.truncate
        deletionTimestamp := m.deletionTimestamp.map Instant.truncate
        managedFields := m.managedFields.map fun ms => ms.map fun f =>
          { f with
            fieldsV1 := f.fieldsV1.filter (!·.isNull)
            time := f.time.map Instant.truncate } }
    status :=
      match o.status with
      | some s => some { s with lifecycle :=
          { s.lifecycle with conditions := conditions.map Condition.settled } }
      | none => k.noFacts?.map fun facts => ⟨⟨none, conditions.map Condition.settled⟩, facts⟩ }

/-- Appends a condition to the raw history; tells whether it was not there already. -/
def record (s : MemoryStore k) (key : ObjectKey) (c : Condition String) :
    Except Error (Bool × MemoryStore k) := do
  let current ← s.get key
  match current.conditionsWith? c with
  | none => .ok (false, s)
  | some conditions => .ok (true, (s.write key (withConditions current conditions)).2)

/-- Marks an object for deletion, once. -/
def requestDeletion (now : Instant) (s : MemoryStore k) (key : ObjectKey) :
    Except Error (MemoryStore k) := do
  let current ← s.get key
  match current.metadata.deletionTimestamp with
  | some _ => .ok s
  | none =>
    .ok (s.write key { current with metadata :=
      { current.metadata with deletionTimestamp := some now } }).2

/-- Answers a call; after an error the store is what it was. -/
def perform (now : Instant) (s : MemoryStore k) : (c : StoreCall k) → c.Answer × MemoryStore k
  | .get key => (s.get key, s)
  | .list query => (s.list query, s)
  | .create o =>
    match s.create now o with
    | .ok (o, s) => (.ok o, s)
    | .error e => (.error e, s)
  | .replace o =>
    match s.replace o with
    | .ok (o, s) => (.ok o, s)
    | .error e => (.error e, s)
  | .delete key version =>
    match s.delete key version with
    | .ok s => (.ok (), s)
    | .error e => (.error e, s)
  | .record key c =>
    match s.record key c with
    | .ok (b, s) => (.ok b, s)
    | .error e => (.error e, s)

/-- Answers a call under a context, which must not have ended. -/
def performUnder (ctx : Context) (clock : Moment) (now : Instant) (s : MemoryStore k)
    (c : StoreCall k) : c.Answer × MemoryStore k :=
  match ctx.check clock with
  | .ok () => s.perform now c
  | .error i => (.error i.toError, s)

end MemoryStore

end Reconciler
