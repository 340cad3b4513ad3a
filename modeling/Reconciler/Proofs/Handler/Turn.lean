import Reconciler.Proofs.Handler

/-!
One look at a resource. `Resource.turn` is what the rule for a resource comes to when the
provider, if it is asked, leaves the resource as it is; `Turned` sorts the turns by the shape of
the rule and the end of the call, so that no later proof has to read the table.
-/

set_option autoImplicit false

namespace Reconciler

variable {k : Kind}

/-- What is asked of the provider, what is written, what has become of the resource, and
whether to look at it again. -/
structure Turn (k : Kind) where
  asked : Option Operation
  written : Option Write
  left : Resource k
  again : Bool

/-- What the rule comes to if a call ends like this. -/
def Rule.turn (rule : Rule k Operation Write) (outcome : CallOutcome) (now : Instant)
    (r : Resource k) : Turn k :=
  match rule.call with
  | none => ⟨none, rule.writeSuccess, rule.onSuccess now r, rule.requeues⟩
  | some op =>
    match outcome with
    | .ok () => ⟨some op, rule.writeSuccess, rule.onSuccess now r, rule.requeues⟩
    | .error .stillProcessing => ⟨some op, none, r, true⟩
    | .error e => ⟨some op, rule.writeFailure, rule.onFailure e now r, true⟩

def Resource.turn (outcome : CallOutcome) (now : Instant) (r : Resource k) : Turn k :=
  match k.handler.rule? r with
  | some rule => rule.turn outcome now r
  | none => ⟨none, none, r, false⟩

/-- The turns there are. -/
inductive Turned (r : Resource k) (now : Instant) : CallOutcome → Turn k → Prop
  | rested {outcome : CallOutcome} (idle : k.handler.rule? r = none) :
      Turned r now outcome ⟨none, none, r, false⟩
  | entered {outcome : CallOutcome} {s : State} (enters : r.Enters s) :
      Turned r now outcome ⟨none, some .update, r.enter s now, true⟩
  | activated {op : Operation} (asks : r.Asks op) (lasting : op ≠ .delete) :
      Turned r now (.ok ()) ⟨some op, some .update, (r.noting op).enter .active now, false⟩
  | deleted (asks : r.Asks .delete) :
      Turned r now (.ok ()) ⟨some .delete, some .delete, r, false⟩
  | awaited {op : Operation} (asks : r.Asks op) :
      Turned r now (.error .stillProcessing) ⟨some op, none, r, true⟩
  | failed {op : Operation} {e : ProviderError} (asks : r.Asks op)
      (final : e ≠ .stillProcessing) :
      Turned r now (.error e) ⟨some op, some .update, r.fail e now, true⟩

section Turned

variable {r : Resource k} {now : Instant} {outcome : CallOutcome} {t : Turn k}

theorem Next.turned {rule : Rule k Operation Write} (next : Next r rule) :
    Turned r now outcome (rule.turn outcome now r) := by
  cases next with
  | entering enters => exact .entered enters
  | activating asks lasting =>
    cases outcome with
    | ok _ => exact .activated asks lasting
    | error e =>
      cases e with
      | stillProcessing => exact .awaited asks
      | failed provider operation reason => exact .failed asks nofun
      | unknownResource provider name => exact .failed asks nofun
  | deleting asks =>
    cases outcome with
    | ok _ => exact .deleted asks
    | error e =>
      cases e with
      | stillProcessing => exact .awaited asks
      | failed provider operation reason => exact .failed asks nofun
      | unknownResource provider name => exact .failed asks nofun

theorem Resource.turned (r : Resource k) (outcome : CallOutcome) (now : Instant) :
    Turned r now outcome (r.turn outcome now) := by
  unfold Resource.turn
  cases chosen : k.handler.rule? r with
  | none => exact .rested chosen
  | some rule => exact (Next.of_rule? chosen).turned

theorem Turned.metadata (turned : Turned r now outcome t) : t.left.metadata = r.metadata := by
  cases turned with
  | activated asks lasting => exact r.metadata_noting _
  | _ => rfl

theorem Turned.spec (turned : Turned r now outcome t) : t.left.spec = r.spec := by
  cases turned with
  | activated asks lasting => exact r.spec_noting _
  | _ => rfl

theorem Turned.left_of_unwritten (turned : Turned r now outcome t) (unwritten : t.written = none) :
    t.left = r := by
  cases turned with
  | rested idle => rfl
  | awaited asks => rfl
  | entered enters => cases unwritten
  | activated asks lasting => cases unwritten
  | deleted asks => cases unwritten
  | failed asks final => cases unwritten

theorem Resource.observable_of_written {w : Write}
    (written : (r.turn outcome now).written = some w) :
    (k.noFacts? : Option (k.Facts Reference)).isSome := by
  unfold Resource.turn at written
  cases chosen : k.handler.rule? r with
  | none =>
    rw [chosen] at written
    cases written
  | some rule => exact Kind.observable_of_rule? chosen

end Turned

namespace Resource

variable {r r' : Resource k} {op op' : Operation} {s s' : State}

theorem state_of_failedIn (failed : r.failedIn s = true) : r.state = .error :=
  of_decide_eq_true (Bool.and_eq_true_iff.mp failed).1

theorem Enters.not_asks (enters : r.Enters s) : ¬ r.Asks op := by
  intro asks
  have state_of_asks : r.state = .creating ∨ r.state = .updating ∨ r.wantsDeletion = true := by
    cases asks with
    | create creating => exact .inl (state_of_rawState creating)
    | grow updating small => exact .inr (.inl (state_of_rawState updating))
    | delete wanted begun made large => exact .inr (.inr wanted)
  have not_failed (failed : r.state = .error) (unwanted : r.wantsDeletion = false) : False := by
    rcases state_of_asks with creating | updating | wanted
    · cases failed.symm.trans creating
    · cases failed.symm.trans updating
    · cases unwanted.symm.trans wanted
  cases enters with
  | begin pending =>
    cases asks with
    | create creating => cases pending.symm.trans (state_of_rawState creating)
    | grow updating small => cases pending.symm.trans (state_of_rawState updating)
    | delete wanted begun made large => exact begun pending
  | outgrow active small =>
    cases asks with
    | create creating => cases active.symm.trans creating
    | grow updating small => cases active.symm.trans updating
    | delete wanted begun made large => cases small.symm.trans (large (.inl active))
  | retryCreation failed unwanted => exact not_failed (state_of_failedIn failed) unwanted
  | retryGrowth failed small unwanted => exact not_failed (state_of_failedIn failed) unwanted

theorem Asks.unique (asks : r.Asks op) (asks' : r.Asks op') : op = op' := by
  cases asks with
  | create creating =>
    cases asks' with
    | create => rfl
    | grow updating small => cases creating.symm.trans updating
    | delete wanted begun made large => exact absurd creating made
  | grow updating small =>
    cases asks' with
    | create creating => cases creating.symm.trans updating
    | grow => rfl
    | delete wanted begun made large => cases small.symm.trans (large (.inr updating))
  | delete wanted begun made large =>
    cases asks' with
    | create creating => exact absurd creating made
    | grow updating small => cases small.symm.trans (large (.inr updating))
    | delete => rfl

theorem Asks.not_delete (asks : r.Asks op) (lasting : op ≠ .delete) : ¬ r.Asks .delete :=
  fun deletes => lasting (asks.unique deletes)

theorem Asks.of_active (mark : r.isDeleted = true) (state : r.rawState = some .active)
    (large : r.outgrown = false) : r.Asks .delete := by
  refine .delete (wantsDeletion_of_mark mark) ?_ ?_ fun _ => large
  · rw [state_of_rawState state]
    decide
  · rw [state]
    decide

theorem Asks.of_error (mark : r.isDeleted = true) (state : r.rawState = some .error) :
    r.Asks .delete := by
  refine .delete (wantsDeletion_of_mark mark) ?_ ?_ ?_
  · rw [state_of_rawState state]
    decide
  · rw [state]
    decide
  · rw [state]
    rintro (active | updating)
    · cases active
    · cases updating

theorem Enters.asks (enters : r.Enters s) (state : r'.rawState = some s)
    (same : r'.outgrown = r.outgrown) : ∃ op, r'.Asks op ∧ op ≠ .delete := by
  cases enters with
  | begin pending => exact ⟨.create, .create state, by decide⟩
  | outgrow active small => exact ⟨.increaseSize, .grow state (same.trans small), by decide⟩
  | retryCreation failed unwanted => exact ⟨.create, .create state, by decide⟩
  | retryGrowth failed small unwanted =>
    exact ⟨.increaseSize, .grow state (same.trans small), by decide⟩

theorem failedIn_unique (failed : r.failedIn s = true) (failed' : r.failedIn s' = true) :
    s = s' := by
  have before := of_decide_eq_true (Bool.and_eq_true_iff.mp failed).2
  have before' := of_decide_eq_true (Bool.and_eq_true_iff.mp failed').2
  exact Option.some.inj (before.symm.trans before')

theorem Enters.unique (enters : r.Enters s) (enters' : r.Enters s') : s = s' := by
  -- A resource that failed is neither pending nor active.
  have apart {s : State} (failed : r.failedIn s = true) :
      r.state ≠ .pending ∧ r.rawState ≠ some .active := by
    have error := state_of_failedIn failed
    refine ⟨?_, fun active => ?_⟩
    · rw [error]
      decide
    · cases error.symm.trans (state_of_rawState active)
  cases enters with
  | begin pending =>
    cases enters' with
    | begin => rfl
    | outgrow active small => cases pending.symm.trans (state_of_rawState active)
    | retryCreation failed unwanted => rfl
    | retryGrowth failed small unwanted => exact absurd pending (apart failed).1
  | outgrow active small =>
    cases enters' with
    | begin pending => cases pending.symm.trans (state_of_rawState active)
    | outgrow => rfl
    | retryCreation failed unwanted => exact absurd active (apart failed).2
    | retryGrowth failed small unwanted => rfl
  | retryCreation failed unwanted =>
    cases enters' with
    | begin => rfl
    | outgrow active small => exact absurd active (apart failed).2
    | retryCreation => rfl
    | retryGrowth failed' small unwanted => exact failedIn_unique failed failed'
  | retryGrowth failed small unwanted =>
    cases enters' with
    | begin pending => exact absurd pending (apart failed).1
    | outgrow => rfl
    | retryCreation failed' unwanted => exact failedIn_unique failed failed'
    | retryGrowth => rfl

section Observable

variable {outcome : CallOutcome} {now : Instant}
  (observable : (k.noFacts? : Option (k.Facts Reference)).isSome)

include observable

theorem Enters.turn (enters : r.Enters s) :
    r.turn outcome now = ⟨none, some .update, r.enter s now, true⟩ := by
  have turned := r.turned outcome now
  generalize r.turn outcome now = t at turned
  cases turned with
  | rested idle => exact absurd enters (Rests.of_rule? observable idle).no_enters
  | entered enters' => rw [enters.unique enters']
  | activated asks => exact absurd asks enters.not_asks
  | deleted asks => exact absurd asks enters.not_asks
  | awaited asks => exact absurd asks enters.not_asks
  | failed asks => exact absurd asks enters.not_asks

theorem Asks.turn (asks : r.Asks op) : r.turn outcome now =
    match outcome with
    | .ok () =>
      if op = .delete then ⟨some op, some .delete, r, false⟩
      else ⟨some op, some .update, (r.noting op).enter .active now, false⟩
    | .error .stillProcessing => ⟨some op, none, r, true⟩
    | .error e => ⟨some op, some .update, r.fail e now, true⟩ := by
  have turned := r.turned outcome now
  generalize r.turn outcome now = t at turned
  cases turned with
  | rested idle => exact absurd asks (Rests.of_rule? observable idle).no_asks
  | entered enters => exact absurd asks enters.not_asks
  | activated asks' lasting =>
    obtain rfl := asks.unique asks'
    exact (if_neg lasting).symm
  | deleted asks' =>
    obtain rfl := asks.unique asks'
    rfl
  | awaited asks' =>
    obtain rfl := asks.unique asks'
    rfl
  | @failed _ e asks' final =>
    obtain rfl := asks.unique asks'
    cases e with
    | stillProcessing => exact absurd rfl final
    | failed provider operation reason => rfl
    | unknownResource provider name => rfl

theorem Asks.turn_done (asks : r.Asks op) (lasting : op ≠ .delete) : r.turn (.ok ()) now =
    ⟨some op, some .update, (r.noting op).enter .active now, false⟩ := by
  rw [asks.turn observable]
  exact if_neg lasting

theorem Asks.turn_failed (asks : r.Asks op) {e : ProviderError} (final : e ≠ .stillProcessing) :
    r.turn (.error e) now = ⟨some op, some .update, r.fail e now, true⟩ := by
  rw [asks.turn observable]
  cases e with
  | stillProcessing => exact absurd rfl final
  | failed provider operation reason => rfl
  | unknownResource provider name => rfl

theorem Asks.asked (asks : r.Asks op) : (r.turn outcome now).asked = some op := by
  rw [asks.turn observable]
  cases outcome with
  | error e => cases e <;> rfl
  | ok _ =>
    by_cases deletes : op = .delete
    · subst deletes
      rfl
    · simp only [deletes, if_false]

end Observable

theorem Rests.of_active (active : r.rawState = some .active) (large : r.outgrown = false)
    (unwanted : r.wantsDeletion = false) : r.Rests where
  begun := by
    rw [state_of_rawState active]
    decide
  made := by
    rw [active]
    decide
  large := fun _ => large
  unwanted := unwanted
  created := by simp [failedIn, state_of_rawState active]
  enlarged := fun _ => large

end Resource

end Reconciler
