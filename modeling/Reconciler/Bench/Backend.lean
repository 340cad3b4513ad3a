import Reconciler.Provider.Dummy
/-!
Providers on the bench: the dummy provider, or a script that answers call by call and keeps
a record of what was asked.
-/

set_option autoImplicit false

namespace Reconciler

/-- An answer with the moment it is there; it may never be. What the question does to the
surroundings is done at once. -/
structure Reply (σ α : Type) where
  due : Option Moment
  after : σ
  answer : α

/-- A scripted answer: how long it takes, what it does to the resource, and how it ends. -/
structure ScriptedAnswer where
  wait : Wait
  /-- The machine a volume is attached to. -/
  attach : Option String
  /-- The resources counted in a workspace. -/
  count : Option Nat
  /-- A state that is set, against the rules. -/
  state : Option (Option State)
  error : Option ProviderError
  deriving DecidableEq, Repr

namespace ScriptedAnswer

def success : ScriptedAnswer :=
  { wait := .lasting .zero, attach := none, count := none, state := none, error := none }

instance : Inhabited ScriptedAnswer := ⟨success⟩

def attachTo (target : Option String) : (k : Kind) → Resource k → Resource k
  | .volume, v =>
    match target with
    | some t => Resource.mapFacts (k := .volume) (fun f => { f with attachedTo := some (.plain t) }) v
    | none => v
  | .workspace, r => r
  | .storageOffer, r => r
  | .networkOffer, r => r

def countResources (count : Option Nat) : (k : Kind) → Resource k → Resource k
  | .workspace, w =>
    match count with
    | some n => Resource.mapFacts (k := .workspace) (fun _ => ⟨some n⟩) w
    | none => w
  | .volume, r => r
  | .storageOffer, r => r
  | .networkOffer, r => r

def change {k : Kind} (a : ScriptedAnswer) (r : Resource k) : Resource k :=
  let r := countResources a.count k (attachTo a.attach k r)
  match a.state with
  | some s => r.setState s
  | none => r

def outcome (a : ScriptedAnswer) : CallOutcome :=
  match a.error with
  | some e => .error e
  | none => .ok ()

end ScriptedAnswer

inductive Backend where
  | dummy (d : Dummy)
  /-- The answers to come, and the calls so far, oldest first. -/
  | scripted (answers : List ScriptedAnswer) (calls : List String)

namespace Backend

instance : Inhabited Backend := ⟨.scripted [] []⟩

structure Response (k : Kind) where
  backend : Backend
  wait : Wait
  resource : Resource k
  outcome : CallOutcome

def name : Backend → String
  | .dummy _ => Dummy.providerName
  | .scripted .. => "scripted"

def describeName (name : String) : String :=
  "PluginSet \x7b provider: " ++ Text.quoted name ++ ", .. \x7d"

def calls : Backend → List String
  | .dummy _ => []
  | .scripted _ calls => calls

def forgetCalls : Backend → Backend
  | .dummy d => .dummy d
  | .scripted answers _ => .scripted answers []

def extend (more : List ScriptedAnswer) : Backend → Backend
  | .dummy d => .dummy d
  | .scripted answers calls => .scripted (answers ++ more) calls

def volumeSize? (id : String) : Backend → Option Nat
  | .dummy d => d.volumeSize? id
  | .scripted .. => none

/-- Takes a call; where the script ends every call succeeds. -/
def respond {k : Kind} (op : Operation) (r : Resource k) : Backend → Response k
  | .dummy d =>
    let (outcome, d) := d.perform op r
    { backend := .dummy d, wait := .lasting .zero, resource := r, outcome }
  | .scripted answers calls =>
    let answer := answers.headD .success
    { backend := .scripted answers.tail (calls ++ [op.name ++ " " ++ r.reference.text])
      wait := answer.wait
      resource := answer.change r
      outcome := answer.outcome }

/-- Takes a call under a context, which cuts short what takes too long. -/
def call {k : Kind} (ctx : Context) (now : Moment) (op : Operation) (r : Resource k)
    (b : Backend) : Reply Backend (Resource k × Except Interruption CallOutcome) :=
  match ctx.check now with
  | .error i => ⟨some now, b, (r, .error i)⟩
  | .ok () =>
    let response := b.respond op r
    match ctx.await now response.wait with
    | (.ok (), t) => ⟨some t, response.backend, (response.resource, .ok response.outcome)⟩
    | (.error i, t) =>
      let endless := response.wait = .endless ∧ ctx.ending?.isNone
      ⟨if endless then none else some t, response.backend, (r, .error i)⟩

end Backend

end Reconciler
