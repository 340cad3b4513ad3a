import Reconciler.Context
/-!
Families of contexts. A context is cancelled through its token; a token that derives from
another is cancelled together with it, but not the other way round.
-/

set_option autoImplicit false

namespace Reconciler

/-- A token: the number of the one it derives from, and when it was cancelled itself. -/
structure CancelToken where
  parent : Option Nat
  cancelledAt : Option Moment
  deriving DecidableEq, Repr

/-- The earlier of two moments that may not come. -/
def Moment.earliest : Option Moment → Option Moment → Option Moment
  | some a, some b => some (if b.nanos < a.nanos then b else a)
  | some a, none => some a
  | none, b => b

namespace CancelToken

/-- When a token is cancelled, by itself or through one it derives from. Tokens are numbered
from 0 and listed newest first. -/
def cancellation? : List CancelToken → Nat → Option Moment
  | [], _ => none
  | t :: older, id =>
    if id = older.length then
      Moment.earliest t.cancelledAt (t.parent.bind (cancellation? older))
    else cancellation? older id

/-- Cancels one token, unless it was cancelled before. -/
def cancel (now : Moment) : List CancelToken → Nat → List CancelToken
  | [], _ => []
  | t :: older, id =>
    if id = older.length then
      { t with cancelledAt := Moment.earliest t.cancelledAt (some now) } :: older
    else t :: cancel now older id

end CancelToken

structure FamilyMember where
  token : Nat
  deadline : Option Moment
  deriving DecidableEq, Repr, Inhabited

/-- Contexts, numbered from 0, and their tokens, newest first. -/
structure ContextFamily where
  tokens : List CancelToken
  members : List FamilyMember
  deriving DecidableEq, Repr

namespace ContextFamily

def founded : ContextFamily := ⟨[⟨none, none⟩], [⟨0, none⟩]⟩

instance : Inhabited ContextFamily := ⟨founded⟩

def member (f : ContextFamily) (id : Nat) : FamilyMember := f.members[id]?.getD default

def context (f : ContextFamily) (id : Nat) : Context :=
  let m := f.member id
  ⟨CancelToken.cancellation? f.tokens m.token, m.deadline⟩

def addMember (f : ContextFamily) (m : FamilyMember) : ContextFamily :=
  { f with members := f.members ++ [m] }

/-- Adds a context with a token of its own that derives from `parent`. -/
def addToken (f : ContextFamily) (parent : Option Nat) (deadline : Option Moment) :
    ContextFamily :=
  { tokens := ⟨parent, none⟩ :: f.tokens, members := f.members ++ [⟨f.tokens.length, deadline⟩] }

def addFresh (f : ContextFamily) : ContextFamily := f.addToken none none

/-- Adds a context that is cancelled with another and can be cancelled on its own. -/
def addChild (f : ContextFamily) (id : Nat) : ContextFamily :=
  f.addToken (some (f.member id).token) (f.member id).deadline

/-- Adds a context with the token of another and no deadline. -/
def addSharing (f : ContextFamily) (id : Nat) : ContextFamily :=
  f.addMember ⟨(f.member id).token, none⟩

/-- Adds a context like another with a deadline, if it has none that is earlier. -/
def addDeadline (f : ContextFamily) (id : Nat) (t : Moment) : ContextFamily :=
  f.addMember ⟨(f.member id).token, ((f.context id).withDeadline t).deadline⟩

def cancel (f : ContextFamily) (id : Nat) (now : Moment) : ContextFamily :=
  { f with tokens := CancelToken.cancel now f.tokens (f.member id).token }

def await (f : ContextFamily) (id : Nat) (now : Moment) (wait : Wait)
    (cancelAfter : Option Duration) : Except Interruption Unit × Moment × ContextFamily :=
  match cancelAfter with
  | none =>
    let (r, t) := (f.context id).await now wait
    (r, t, f)
  | some d =>
    let due := Moment.add now d
    match ((f.context id).cancelledBy due).await now wait with
    | (.error .cancelled, t) => (.error .cancelled, t, if t = due then f.cancel id due else f)
    | (r, t) => (r, t, f)

end ContextFamily

end Reconciler
