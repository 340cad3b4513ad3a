import Reconciler.Store.Key
/-!
What can be asked of a store of objects, and what it answers. Every store, in memory or
behind an API server, answers the same calls.
-/

set_option autoImplicit false

namespace Reconciler

/-- Which objects to list: those of a namespace, with matching labels, at most so many, and
only those after a place where an earlier page ended. -/
structure ListQuery where
  namespaceName : Option String
  selector : Option String
  limit : Option Nat
  continueAfter : Option String
  deriving DecidableEq, Repr, Inhabited

def ListQuery.everything : ListQuery :=
  { namespaceName := none, selector := none, limit := none, continueAfter := none }

/-- A page of a listing and where the next one begins, if there is more. -/
structure Page (α : Type) where
  items : List α
  next : Option String
  deriving DecidableEq, Repr

namespace Page

variable {α β ε : Type}

def empty : Page α := ⟨[], none⟩

/-- Converts every item; the first that fails is the failure of the page. -/
def mapM (f : α → Except ε β) (p : Page α) : Except ε (Page β) :=
  (p.items.mapM f).map fun items => ⟨items, p.next⟩

end Page

/-- A call on the store of a kind. A replacement and a deletion name the version they were
decided on. -/
inductive StoreCall (k : Kind) where
  | get (key : ObjectKey)
  | list (query : ListQuery)
  | create (o : Object k)
  | replace (o : Object k)
  | delete (key : ObjectKey) (version : Option String)
  | record (key : ObjectKey) (condition : Condition String)

namespace StoreCall

variable {k : Kind}

@[reducible] def Reply : StoreCall k → Type
  | .get _ => Object k
  | .list _ => Page (Object k)
  | .create _ => Object k
  | .replace _ => Object k
  | .delete .. => Unit
  | .record .. => Bool

abbrev Answer (c : StoreCall k) : Type := Except Error c.Reply

def name : StoreCall k → String
  | .get _ => "get"
  | .list _ => "list"
  | .create _ => "create"
  | .replace _ => "replace"
  | .delete .. => "delete"
  | .record .. => "record"

/-- The key a call is about, or the place a listing goes on from. -/
def subject : StoreCall k → String
  | .get key => key.text
  | .list query => query.continueAfter.getD ""
  | .create o => (ObjectKey.ofObject o).text
  | .replace o => (ObjectKey.ofObject o).text
  | .delete key _ => key.text
  | .record key _ => key.text

end StoreCall

def Error.missing (k : Kind) (key : ObjectKey) : Error := .notFound k.name key.text

def Error.stale (k : Kind) (key : ObjectKey) (expected : String) (head : Option String) : Error :=
  .conflict k.name key.text
    ("resourceVersion " ++ expected ++ " is stale, current is " ++ head.getD "")

def Error.unversioned (k : Kind) (key : ObjectKey) : Error :=
  .conflict k.name key.text "write without resourceVersion"

namespace Object

variable {k : Kind}

/-- The history with a condition appended, unless the last one says the same already. -/
def conditionsWith? (o : Object k) (c : Condition String) : Option (List (Condition String)) :=
  match o.conditions.getLast? with
  | some last => if last.repeats c then none else some (o.conditions ++ [c])
  | none => some (o.conditions ++ [c])

end Object

end Reconciler
