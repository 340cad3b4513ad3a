import Reconciler.Proofs.Dialogue
import Reconciler.Proofs.Handler.Glance

/-!
What a failure is followed by. A resource that failed is told by its history what it failed in:
however the glances at it end, the latest condition tells of its state, and so the state it
failed in is that of the condition before the latest.
-/

set_option autoImplicit false

namespace Reconciler

variable {k : Kind}

namespace Lifecycle

def Recorded (l : Lifecycle State) : Prop := l.conditions.getLast?.map (·.state) = l.state

theorem recorded_fresh : (fresh : Lifecycle State).Recorded := rfl

theorem recorded_record (l : Lifecycle State) (c : Condition State) : (l.record c).Recorded := by
  simp [Recorded, record]

/-- A recorded state is that of the condition before the one that is appended. -/
theorem Recorded.previous_record {l : Lifecycle State} (recorded : l.Recorded)
    (c : Condition State) : (l.record c).previous = l.state := by
  rw [← recorded, ← List.head?_reverse]
  unfold previous record
  rw [List.reverse_append, List.reverse_singleton, List.singleton_append]
  cases l.conditions.reverse <;> rfl

end Lifecycle

section Observable

variable {r r' : Resource k} {now : Instant} {outcome : CallOutcome} {t : Turn k}
  (observable : (k.noFacts? : Option (k.Facts Reference)).isSome)

include observable

theorem Turned.recorded (recorded : r.lifecycle.Recorded) (turned : Turned r now outcome t) :
    t.left.lifecycle.Recorded := by
  cases turned with
  | entered enters =>
    rw [r.lifecycle_enter observable]
    exact Lifecycle.recorded_record _ _
  | @activated op asks lasting =>
    rw [(r.noting op).lifecycle_enter observable]
    exact Lifecycle.recorded_record _ _
  | failed asks final =>
    rw [r.lifecycle_fail observable]
    exact Lifecycle.recorded_record _ _
  | _ => exact recorded

theorem Resource.previousState_fail (recorded : r.lifecycle.Recorded) (e : ProviderError)
    (now : Instant) : (r.fail e now).previousState = r.rawState := by
  unfold previousState
  rw [r.lifecycle_fail observable]
  exact recorded.previous_record _

end Observable

/-- A glance may be cut short, a call leaves the resource alone however it ends, and a write hands
back what the repository has of the resource, or fails. -/
inductive Demand.Met : (d : Demand k Operation Write) → d.Answer → Prop
  | checked (alive : Except Interruption Unit) : Met .check alive
  | called (op : Operation) (r : Resource k) (ended : Except Interruption CallOutcome) :
      Met (.call op r) (r, ended)
  | written {w : Write} {r r' : Resource k} (kept : r.KeptAs r') (done : Except Error Unit) :
      Met (.write w r) (r', done)

namespace Resource

/-- The handler, looking at one resource, left the other and answered with the result. -/
def Handled (now : Instant) (r r' : Resource k) (result : Except Stop Bool) : Prop :=
  ∃ log, Dialogue.Held (fun (_ : Unit) d answer _ => Demand.Met d answer)
    (k.handler.reconcile now r) () log (r', result) ()

variable {r r' : Resource k} {now : Instant} {result : Except Stop Bool}
  {log : List (Dialogue.Exchange (Demand.Answer (k := k) (C := Operation) (W := Write)))}

theorem keptAs_of_conclude {w : Option Write} {again : Bool}
    (held : Dialogue.Held (fun (_ : Unit) d answer _ => Demand.Met d answer)
      (Rule.conclude w again r) () log (r', result) ()) : r.KeptAs r' := by
  cases w with
  | none =>
    obtain ⟨alive, _, rest, -, -, ended⟩ := held.of_ask
    obtain ⟨-, rfl, -, -⟩ := ended.of_done_pair
    exact .refl _
  | some w =>
    obtain ⟨answer, _, rest, -, met, ended⟩ := held.of_ask
    obtain ⟨-, rfl, -, -⟩ := ended.of_done_pair
    cases met with
    | written kept done => exact kept

theorem left_of_settle {rule : Rule k Operation Write} {outcome : CallOutcome}
    (asked : rule.call = none → outcome = .ok ())
    (held : Dialogue.Held (fun (_ : Unit) d answer _ => Demand.Met d answer)
      (rule.settle now r outcome) () log (r', result) ()) :
    (rule.turn outcome now r).left.KeptAs r' := by
  unfold Rule.turn
  cases call : rule.call with
  | none =>
    obtain rfl := asked call
    exact keptAs_of_conclude held
  | some op =>
    cases outcome with
    | ok _ => exact keptAs_of_conclude held
    | error e =>
      cases e with
      | stillProcessing =>
        obtain ⟨-, rfl, -, -⟩ := held.of_done_pair
        exact .refl _
      | failed provider operation reason => exact keptAs_of_conclude held
      | unknownResource provider name => exact keptAs_of_conclude held

theorem left_of_proceed {rule : Rule k Operation Write} {ended : Except Interruption CallOutcome}
    (asked : rule.call = none → ∀ outcome, ended = .ok outcome → outcome = .ok ())
    (held : Dialogue.Held (fun (_ : Unit) d answer _ => Demand.Met d answer)
      (Controller.Stage.proceed now rule r (r, ended)) () log (r', result) ()) :
    r' = r ∨ ∃ outcome, (rule.turn outcome now r).left.KeptAs r' := by
  cases ended with
  | error i =>
    obtain ⟨-, rfl, -, -⟩ := held.of_done_pair
    exact .inl rfl
  | ok outcome =>
    have settles : Controller.Stage.proceed now rule r (r, .ok outcome) =
        rule.settle now r outcome := by
      simp only [Controller.Stage.proceed, ne_eq, not_true_eq_false, if_false]
    rw [settles] at held
    exact .inr ⟨outcome, left_of_settle (fun none => asked none outcome rfl) held⟩

theorem Handled.left (handled : r.Handled now r' result) :
    r' = r ∨ ∃ outcome, (r.turn outcome now).left.KeptAs r' := by
  obtain ⟨log, held⟩ := handled
  unfold Handler.reconcile at held
  obtain ⟨alive, _, rest, -, -, held⟩ := held.of_put
  cases alive with
  | error i =>
    obtain ⟨-, rfl, -, -⟩ := held.of_done_pair
    exact .inl rfl
  | ok _ =>
    unfold Resource.turn
    cases chosen : k.handler.rule? r with
    | none =>
      simp only [chosen] at held
      obtain ⟨-, rfl, -, -⟩ := held.of_done_pair
      exact .inl rfl
    | some rule =>
      simp only [chosen] at held
      cases call : rule.call with
      | none =>
        rw [Controller.Stage.perform_of_none now r call] at held
        obtain ⟨alive, _, rest, -, -, held⟩ := held.of_ask
        refine left_of_proceed ?_ held
        intro _ outcome ended
        cases alive with
        | error i => cases ended
        | ok _ => exact (Except.ok.inj ended).symm
      | some op =>
        rw [Controller.Stage.perform_of_call now r call] at held
        obtain ⟨answer, _, rest, -, met, held⟩ := held.of_ask
        cases met with
        | called op r ended =>
          apply left_of_proceed _ held
          intro none
          rw [call] at none
          cases none

end Resource

theorem Glance.handled (glance : Glance k) (r : Resource k) :
    r.Handled glance.now (glance.left r) (glance.result r) := by
  have met (done : List Operation × List Write) (d : Demand k Operation Write) :
      Demand.Met d (glance.meet d done).1 := by
    cases d with
    | check => exact .checked _
    | call op r => exact .called op r _
    | write w r =>
      cases w with
      | update => exact .written (glance.faithful r) _
      | delete => exact .written (.refl r) _
  exact Dialogue.Held.of_run (fun _ => ()) glance.meet met (k.handler.reconcile glance.now r)
    ([], [])

namespace Resource

variable {r r' : Resource k}

/-- The resources there are: those without a status, and what edits, requests for deletion and
glances of the handler make of them. An edit leaves the status as it is. -/
inductive Reached : Resource k → Prop
  | fresh {r : Resource k} (unobserved : r.status = none) : Reached r
  | edited {r r' : Resource k} (reached : Reached r) (same : r'.status = r.status) : Reached r'
  | handled {r r' : Resource k} {now : Instant} {result : Except Stop Bool} (reached : Reached r)
      (handled : r.Handled now r' result) : Reached r'

/-- The engine has entered the state and has recorded it. -/
structure Tracked (r : Resource k) : Prop where
  recorded : r.lifecycle.Recorded
  driven : Driven r.rawState

theorem Tracked.of_lifecycle (tracked : r.Tracked) (same : r'.lifecycle = r.lifecycle) :
    r'.Tracked := by
  constructor
  · rw [same]
    exact tracked.recorded
  · rw [rawState_of_lifecycle same]
    exact tracked.driven

theorem Tracked.of_unobserved (unobserved : r.status = none) : r.Tracked := by
  have fresh : r.lifecycle = .fresh := by
    unfold lifecycle
    rw [unobserved]
    rfl
  refine ⟨fresh ▸ Lifecycle.recorded_fresh, ?_⟩
  rw [rawState_of_unobserved unobserved]
  exact .fresh

variable (observable : (k.noFacts? : Option (k.Facts Reference)).isSome)

include observable

theorem Tracked.handled (tracked : r.Tracked) {now : Instant} {result : Except Stop Bool}
    (handled : r.Handled now r' result) : r'.Tracked := by
  rcases handled.left with rfl | ⟨outcome, kept⟩
  · exact tracked
  · have turned := r.turned outcome now
    have left : (r.turn outcome now).left.Tracked :=
      ⟨turned.recorded observable tracked.recorded,
        r.driven_of_turned observable tracked.driven turned⟩
    exact left.of_lifecycle kept.lifecycle

theorem Reached.tracked (reached : r.Reached) : r.Tracked := by
  induction reached with
  | fresh unobserved => exact .of_unobserved unobserved
  | edited reached same ih =>
    apply ih.of_lifecycle
    unfold lifecycle
    rw [same]
  | handled reached handled ih => exact ih.handled observable handled

/-- What failed to be made is made again, unless it is to be deleted. -/
theorem Asks.retried (tracked : r.Tracked) {op : Operation} (asks : r.Asks op)
    (unmarked : r.isDeleted = false) (e : ProviderError) (now : Instant)
    (kept : (r.fail e now).KeptAs r') :
    ∃ s, r'.Enters s ∧ ∀ r'' : Resource k, r''.rawState = some s →
      r''.outgrown = r'.outgrown → r''.Asks op := by
  have raw : r'.rawState = some .error := by
    rw [kept.rawState, r.rawState_fail observable]
  have before : r'.previousState = r.rawState := by
    rw [← r.previousState_fail observable tracked.recorded e now]
    exact congrArg Lifecycle.previous kept.lifecycle
  have failedIn {s : State} (state : r.rawState = some s) : r'.failedIn s = true := by
    unfold Resource.failedIn
    rw [state_of_rawState raw, before, state]
    simp
  have unwanted : r'.wantsDeletion = false := by
    rw [wantsDeletion_of_driven (raw ▸ .error), kept.isDeleted]
    exact unmarked
  have outgrown : r'.outgrown = r.outgrown := by
    rw [kept.outgrown]
    exact r.outgrown_mapLifecycle _
  cases asks with
  | create creating =>
    refine ⟨.creating, .retryCreation (failedIn creating) unwanted, ?_⟩
    intro r'' state _
    exact .create state
  | grow updating small =>
    have small' : r'.outgrown = true := outgrown.trans small
    refine ⟨.updating, .retryGrowth (failedIn updating) small' unwanted, ?_⟩
    intro r'' state same
    exact .grow state (same.trans small')
  | delete wanted begun made large =>
    rw [wantsDeletion_of_driven tracked.driven, unmarked] at wanted
    cases wanted

end Resource

namespace Glance

variable {r : Resource k}

theorem entered (observable : (k.noFacts? : Option (k.Facts Reference)).isSome) {s : State}
    (enters : r.Enters s) (glance : Glance k) : glance.calls r = [] ∧
      (glance.left r).rawState = some s ∧ (glance.left r).outgrown = r.outgrown := by
  have kept := glance.keptAs_left r
  rw [enters.turn observable] at kept
  refine ⟨?_, ?_, ?_⟩
  · rw [calls_eq, enters.turn observable]
    rfl
  · rw [kept.rawState, r.rawState_enter observable]
  · rw [kept.outgrown, r.outgrown_enter]

/-- A glance at a volume or a workspace that asks for another one leaves something to do. A call
that failed for good is made again by the second glance from then on, or the resource is marked for
deletion and the next glance deletes it; a call that is not over is made again at once. -/
theorem requeue_followed_up (reconciled : k = .volume ∨ k = .workspace) (reached : r.Reached)
    (glance : Glance k) (again : glance.result r = .ok true) :
    (k.handler.rule? (glance.left r)).isSome ∧
    ∀ {op e}, glance.calls r = [op] → glance.outcome = .error e →
      (e = .stillProcessing → ∀ next : Glance k, next.calls (glance.left r) = [op]) ∧
      (e ≠ .stillProcessing → r.isDeleted = true →
        ∀ next : Glance k, next.calls (glance.left r) = [.delete]) ∧
      (e ≠ .stillProcessing → r.isDeleted = false → ∀ first second : Glance k,
        first.calls (glance.left r) = [] ∧ second.calls (first.left (glance.left r)) = [op]) := by
  have observable : (k.noFacts? : Option (k.Facts Reference)).isSome := by
    rcases reconciled with rfl | rfl
    · rfl
    · rfl
  have tracked := reached.tracked observable
  have due := Resource.isSome_rule?_iff (r := glance.left r) observable
  have left := glance.left_eq r
  have kept := glance.keptAs_left r
  have calls := glance.calls_eq r
  rw [result_eq, Except.ok.injEq] at again
  have turned := r.turned glance.outcome glance.now
  generalize r.turn glance.outcome glance.now = t at turned left kept calls again
  generalize glance.outcome = outcome at turned
  cases turned with
  | rested idle => cases again
  | @entered outcome s enters =>
    have state : (glance.left r).rawState = some s := by
      rw [kept.rawState, r.rawState_enter observable]
    have outgrown : (glance.left r).outgrown = r.outgrown := by
      rw [kept.outgrown, r.outgrown_enter]
    obtain ⟨op, asks, -⟩ := enters.asks state outgrown
    refine ⟨due.mpr (.inr ⟨op, asks⟩), ?_⟩
    intro op e called
    cases calls.symm.trans called
  | activated asks lasting => cases again
  | deleted asks => cases again
  | @awaited op asks =>
    have same : glance.left r = r := left
    rw [same] at due ⊢
    refine ⟨due.mpr (.inr ⟨op, asks⟩), ?_⟩
    intro op' e called ended
    obtain rfl := List.singleton_inj.mp (calls.symm.trans called)
    obtain rfl := Except.error.inj ended
    exact ⟨fun _ next => calls_of_asks observable asks next, fun final => absurd rfl final,
      fun final => absurd rfl final⟩
  | @failed op e asks final =>
    have deletes (marked : r.isDeleted = true) : (glance.left r).Asks .delete := by
      refine .of_error (kept.isDeleted.trans marked) ?_
      rw [kept.rawState, r.rawState_fail observable]
    refine ⟨due.mpr ?_, ?_⟩
    · cases marked : r.isDeleted with
      | true => exact .inr ⟨.delete, deletes marked⟩
      | false =>
        obtain ⟨s, enters, -⟩ := asks.retried observable tracked marked e glance.now kept
        exact .inl ⟨s, enters⟩
    intro op' e' called ended
    obtain rfl := List.singleton_inj.mp (calls.symm.trans called)
    obtain rfl := Except.error.inj ended
    refine ⟨fun pending => absurd pending final, ?_, ?_⟩
    · intro _ marked next
      exact calls_of_asks observable (deletes marked) next
    · intro _ unmarked first second
      obtain ⟨s, enters, asks'⟩ := asks.retried observable tracked unmarked e glance.now kept
      obtain ⟨quiet, state, outgrown⟩ := entered observable enters first
      exact ⟨quiet, calls_of_asks observable (asks' _ state outgrown) second⟩

def failing : Glance k := { calm with outcome := .error (.failed "p" "create" "no space") }

def plainVolume : Volume :=
  { metadata := .ofName "v" "t"
    spec := ⟨10, .plain "skus/fast", none⟩
    status := none }

/-- The creation of a volume has failed; it is tried again, or the volume is deleted if it was to
be by then. -/
theorem failed_creation_followed_up :
    failing.calls (calm.left plainVolume) = [.create] ∧
    (∀ first second : Glance .volume,
      second.calls (first.left (failing.left (calm.left plainVolume))) = [.create]) := by
  have reached : (calm.left plainVolume).Reached :=
    .handled (.fresh rfl) (calm.handled plainVolume)
  have called : failing.calls (calm.left plainVolume) = [.create] := rfl
  obtain ⟨-, followed⟩ := requeue_followed_up (.inl rfl) reached failing rfl
  refine ⟨called, ?_⟩
  intro first second
  exact ((followed called rfl).2.2 nofun rfl first second).2

end Glance

end Reconciler
