import Reconciler.Store.Memory

/-!
Clients of a store in memory. Requests are served one at a time, so that any interleaving
of any number of clients is one list of requests. What a request changed shows in its
answer: it wrote an object under a key, removed one, or left the store as it was.
-/

set_option autoImplicit false

namespace Reconciler

/-- What a client asks of a store: a call under its own context at a moment of the clock,
or the mark that an object is to be deleted. -/
inductive Request (k : Kind) where
  | call (ctx : Context) (clock : Moment) (now : Instant) (c : StoreCall k)
  | mark (now : Instant) (key : ObjectKey)

namespace Request

variable {k : Kind}

@[reducible] def Reply : Request k → Type
  | .call _ _ _ c => c.Reply
  | .mark .. => Unit

abbrev Answer (q : Request k) : Type := Except Error q.Reply

end Request

/-- A volume of tenant `a` as its user stores it at first. -/
def Object.plainVolume : Object .volume :=
  { metadata :=
      { ObjectMeta.blank with
        name := some "v"
        namespaceName := some "a"
        labels := some (SortedMap.empty.insert "internal/tenant" "a") }
    spec := ⟨10, "offers/small", none⟩
    status := none }

namespace MemoryStore

variable {k : Kind}

def serve (s : MemoryStore k) : (q : Request k) → q.Answer × MemoryStore k
  | .call ctx clock now c => s.performUnder ctx clock now c
  | .mark now key =>
    match s.requestDeletion now key with
    | .ok s => (.ok (), s)
    | .error e => (.error e, s)

def after (s : MemoryStore k) (q : Request k) : MemoryStore k := (s.serve q).2

def afterAll (s : MemoryStore k) (qs : List (Request k)) : MemoryStore k := qs.foldl after s

@[simp] theorem afterAll_nil (s : MemoryStore k) : s.afterAll [] = s := rfl

@[simp] theorem afterAll_cons (s : MemoryStore k) (q : Request k) (qs : List (Request k)) :
    s.afterAll (q :: qs) = (s.after q).afterAll qs := rfl

def lacksMark (s : MemoryStore k) (key : ObjectKey) : Bool :=
  match s.objects.get? key with
  | some o => o.metadata.deletionTimestamp.isNone
  | none => false

def version? (s : MemoryStore k) (key : ObjectKey) : Option String :=
  (s.objects.get? key).bind Object.version

/-- The key that a request, so answered, wrote an object under. -/
def wrote? (s : MemoryStore k) : (q : Request k) → q.Answer → Option ObjectKey
  | .call _ _ _ (.create o), .ok _ => some (.ofObject o)
  | .call _ _ _ (.replace o), .ok _ => some (.ofObject o)
  | .call _ _ _ (.record key _), .ok true => some key
  | .mark _ key, .ok () => if s.lacksMark key then some key else none
  | _, _ => none

/-- The key that a request, so answered, removed the object of. -/
def removed? : (q : Request k) → q.Answer → Option ObjectKey
  | .call _ _ _ (.delete key _), .ok () => some key
  | _, _ => none

/-- The objects that an answer hands out, each with the key it is stored under. -/
def copies : (q : Request k) → q.Answer → List (ObjectKey × Object k)
  | .call _ _ _ (.get key), .ok o => [(key, o)]
  | .call _ _ _ (.list _), .ok page => page.items.map fun o => (.ofObject o, o)
  | .call _ _ _ (.create _), .ok o => [(.ofObject o, o)]
  | .call _ _ _ (.replace _), .ok o => [(.ofObject o, o)]
  | _, _ => []

/-- No request of a run writes an object under the key or removes it. -/
def Untouched (key : ObjectKey) : MemoryStore k → List (Request k) → Prop
  | _, [] => True
  | s, q :: qs =>
    s.wrote? q (s.serve q).1 ≠ some key ∧ removed? q (s.serve q).1 ≠ some key ∧
      Untouched key (s.after q) qs

/-- The versions that the successful writes of a run gave, in their order. -/
def versionsGiven : MemoryStore k → List (Request k) → List (Option String)
  | _, [] => []
  | s, q :: qs =>
    match s.wrote? q (s.serve q).1 with
    | some key => (s.after q).version? key :: versionsGiven (s.after q) qs
    | none => versionsGiven (s.after q) qs

end MemoryStore

end Reconciler
