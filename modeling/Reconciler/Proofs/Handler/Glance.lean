import Reconciler.Proofs.Controller.Stage
import Reconciler.Proofs.Controller.Tended
import Reconciler.Proofs.Volume.Facts

/-!
One glance of a handler at a resource, with a provider that leaves the resource alone and a
repository that takes every write. What is made of a resource is its turn, read back from the
repository, and when the glance says that it is done the table says so too, but for resources
that are marked for deletion while they are created or grow.
-/

set_option autoImplicit false

namespace Reconciler

variable {k : Kind}

namespace Resource

variable {r r' : Resource k}

/-- What a repository hands back of a resource that it has kept: the bookkeeping is its own, what
has no place in an object may be lost, and the mark for deletion stays. -/
def KeptAs (r r' : Resource k) : Prop :=
  ∃ version created deleted, deleted.isSome = r.isDeleted ∧
    r'.stored = r.stored.restamp version created deleted

theorem KeptAs.refl (r : Resource k) : r.KeptAs r := ⟨_, _, _, rfl, rfl⟩

theorem KeptAs.isDeleted (kept : r.KeptAs r') : r'.isDeleted = r.isDeleted := by
  obtain ⟨version, created, deleted, mark, same⟩ := kept
  have read : r'.stored.isDeleted = deleted.isSome := congrArg Resource.isDeleted same
  exact read.trans mark

theorem KeptAs.lifecycle (kept : r.KeptAs r') : r'.lifecycle = r.lifecycle := by
  obtain ⟨version, created, deleted, -, same⟩ := kept
  rw [← r'.lifecycle_stored, ← r.lifecycle_stored, same]
  rfl

theorem KeptAs.rawState (kept : r.KeptAs r') : r'.rawState = r.rawState :=
  rawState_of_lifecycle kept.lifecycle

theorem KeptAs.outgrown (kept : r.KeptAs r') : r'.outgrown = r.outgrown := by
  obtain ⟨version, created, deleted, -, same⟩ := kept
  rw [← r'.outgrown_stored, ← r.outgrown_stored, same]
  cases k <;> rfl

theorem Alike.of_lifecycle (lifecycle : r'.lifecycle = r.lifecycle)
    (mark : r'.isDeleted = r.isDeleted) (outgrown : r'.outgrown = r.outgrown) : r.Alike r' := by
  have state : r'.state = r.state :=
    congrArg (fun raw => raw.getD .pending) (rawState_of_lifecycle lifecycle)
  have before : r'.previousState = r.previousState := congrArg Lifecycle.previous lifecycle
  refine ⟨state, ?_, outgrown, ?_⟩
  · unfold Resource.wantsDeletion
    rw [mark, state]
  · intro s
    unfold Resource.failedIn
    rw [state, before]

theorem KeptAs.rule?_eq (kept : r.KeptAs r') : k.handler.rule? r' = k.handler.rule? r :=
  (Alike.of_lifecycle kept.lifecycle kept.isDeleted kept.outgrown).rule?_eq

end Resource

/-- When a glance takes place, how a call of the provider ends, if one is made, and what the
repository makes of a resource that it is to keep. -/
structure Glance (k : Kind) where
  now : Instant
  outcome : CallOutcome
  kept : Resource k → Resource k
  faithful : ∀ r : Resource k, r.KeptAs (kept r)

namespace Glance

variable {glance : Glance k} {r : Resource k}

def meet (glance : Glance k) : (d : Demand k Operation Write) → List Operation × List Write →
    d.Answer × (List Operation × List Write)
  | .check, done => (.ok (), done)
  | .call op r, (calls, writes) => ((r, .ok glance.outcome), (calls ++ [op], writes))
  | .write .update r, (calls, writes) => ((glance.kept r, .ok ()), (calls, writes ++ [.update]))
  | .write .delete r, (calls, writes) => ((r, .ok ()), (calls, writes ++ [.delete]))

def run (glance : Glance k) (r : Resource k) :
    (Resource k × Except Stop Bool) × (List Operation × List Write) :=
  (k.handler.reconcile glance.now r).run glance.meet ([], [])

def left (glance : Glance k) (r : Resource k) : Resource k := (glance.run r).1.1

def result (glance : Glance k) (r : Resource k) : Except Stop Bool := (glance.run r).1.2

def calls (glance : Glance k) (r : Resource k) : List Operation := (glance.run r).2.1

def writes (glance : Glance k) (r : Resource k) : List Write := (glance.run r).2.2

/-- What is left of a resource that was to be written. -/
def keep (glance : Glance k) : Option Write → Resource k → Resource k
  | some .update, r => glance.kept r
  | some .delete, r | none, r => r

theorem keptAs_keep (w : Option Write) (r : Resource k) : r.KeptAs (glance.keep w r) := by
  cases w with
  | none => exact .refl r
  | some w =>
    cases w with
    | update => exact glance.faithful r
    | delete => exact .refl r

theorem run_conclude (glance : Glance k) (w : Option Write) (again : Bool) (r : Resource k)
    (calls : List Operation) : (Rule.conclude w again r).run glance.meet (calls, []) =
      ((glance.keep w r, .ok again), (calls, w.toList)) := by
  cases w with
  | none => rfl
  | some w => cases w <;> rfl

theorem run_perform (glance : Glance k) (rule : Rule k Operation Write) (r : Resource k) :
    (rule.perform glance.now r).run glance.meet ([], []) =
      ((glance.keep (rule.turn glance.outcome glance.now r).written
          (rule.turn glance.outcome glance.now r).left,
        .ok (rule.turn glance.outcome glance.now r).again),
        ((rule.turn glance.outcome glance.now r).asked.toList,
          (rule.turn glance.outcome glance.now r).written.toList)) := by
  have proceeds (outcome : CallOutcome) : Controller.Stage.proceed glance.now rule r
      (r, .ok outcome) = rule.settle glance.now r outcome := by
    simp only [Controller.Stage.proceed, ne_eq, not_true_eq_false, if_false]
  unfold Rule.turn
  cases call : rule.call with
  | none =>
    rw [Controller.Stage.perform_of_none _ r call]
    change (Controller.Stage.proceed glance.now rule r (r, .ok (.ok ()))).run glance.meet
      ([], []) = _
    rw [proceeds]
    exact glance.run_conclude _ _ _ _
  | some op =>
    rw [Controller.Stage.perform_of_call _ r call]
    change (Controller.Stage.proceed glance.now rule r (r, .ok glance.outcome)).run glance.meet
      ([op], []) = _
    rw [proceeds]
    cases glance.outcome with
    | ok _ => exact glance.run_conclude _ _ _ _
    | error e =>
      cases e with
      | stillProcessing => rfl
      | failed provider operation reason => exact glance.run_conclude _ _ _ _
      | unknownResource provider name => exact glance.run_conclude _ _ _ _

theorem run_eq (glance : Glance k) (r : Resource k) : glance.run r =
    ((glance.keep (r.turn glance.outcome glance.now).written
        (r.turn glance.outcome glance.now).left,
      .ok (r.turn glance.outcome glance.now).again),
      ((r.turn glance.outcome glance.now).asked.toList,
        (r.turn glance.outcome glance.now).written.toList)) := by
  unfold run Handler.reconcile Resource.turn
  cases chosen : k.handler.rule? r with
  | none => rfl
  | some rule => exact glance.run_perform rule r

theorem left_eq (glance : Glance k) (r : Resource k) : glance.left r =
    glance.keep (r.turn glance.outcome glance.now).written
      (r.turn glance.outcome glance.now).left := by
  rw [left, run_eq]

theorem result_eq (glance : Glance k) (r : Resource k) :
    glance.result r = .ok (r.turn glance.outcome glance.now).again := by
  rw [result, run_eq]

theorem calls_eq (glance : Glance k) (r : Resource k) :
    glance.calls r = (r.turn glance.outcome glance.now).asked.toList := by
  rw [calls, run_eq]

theorem writes_eq (glance : Glance k) (r : Resource k) :
    glance.writes r = (r.turn glance.outcome glance.now).written.toList := by
  rw [writes, run_eq]

theorem keptAs_left (glance : Glance k) (r : Resource k) :
    (r.turn glance.outcome glance.now).left.KeptAs (glance.left r) := by
  rw [left_eq]
  exact keptAs_keep _ _

theorem isDeleted_left (glance : Glance k) (r : Resource k) :
    (glance.left r).isDeleted = r.isDeleted := by
  rw [(glance.keptAs_left r).isDeleted]
  exact congrArg Metadata.isDeleted (r.turned glance.outcome glance.now).metadata

theorem run_of_idle (glance : Glance k) (idle : k.handler.rule? r = none) :
    glance.run r = ((r, .ok false), ([], [])) := by
  have turn : r.turn glance.outcome glance.now = ⟨none, none, r, false⟩ := by
    simp only [Resource.turn, idle]
  rw [run_eq, turn]
  rfl

section Observable

variable (observable : (k.noFacts? : Option (k.Facts Reference)).isSome)

include observable

theorem calls_of_asks {op : Operation} (asks : r.Asks op) (glance : Glance k) :
    glance.calls r = [op] := by
  rw [calls_eq, asks.asked observable]
  rfl

/-- A glance that is done has found nothing to do, has removed the resource, or has made it. -/
theorem of_done (done : glance.result r = .ok false) (kept : .delete ∉ glance.writes r) :
    k.handler.rule? r = none ∨ ∃ op, op ≠ .delete ∧ glance.calls r = [op] ∧
      (glance.left r).rawState = some .active ∧ (glance.left r).outgrown = false := by
  have keeps := glance.keptAs_left r
  rw [result_eq, Except.ok.injEq] at done
  rw [writes_eq] at kept
  rw [keeps.rawState, keeps.outgrown, calls_eq]
  have turned := r.turned glance.outcome glance.now
  generalize r.turn glance.outcome glance.now = t at turned done kept
  generalize glance.outcome = outcome at turned
  cases turned with
  | rested idle => exact .inl idle
  | entered enters => cases done
  | @activated op asks lasting =>
    apply Or.inr
    refine ⟨op, lasting, rfl, ?_, ?_⟩
    · exact (r.noting op).rawState_enter observable .active glance.now
    · rw [Resource.outgrown_enter, r.outgrown_noting lasting]
  | deleted asks => exact absurd List.mem_cons_self kept
  | awaited asks => cases done
  | failed asks final => cases done

end Observable

/-- When a handler is done with a volume or a workspace and has not removed it, nothing is left
to do if and only if the resource is not marked for deletion. A marked one was created or has
grown in this very glance, and the next one deletes it. -/
theorem at_rest_after_done_iff (reconciled : k = .volume ∨ k = .workspace) (glance : Glance k)
    (r : Resource k) (done : glance.result r = .ok false) (kept : .delete ∉ glance.writes r) :
    (k.handler.rule? (glance.left r) = none ↔ r.isDeleted = false) ∧
    (r.isDeleted = false →
      ∀ later : Glance k, later.run (glance.left r) = ((glance.left r, .ok false), ([], []))) ∧
    (r.isDeleted = true →
      (glance.calls r = [.create] ∨ glance.calls r = [.increaseSize]) ∧
        ∀ later : Glance k, later.calls (glance.left r) = [.delete]) := by
  have observable : (k.noFacts? : Option (k.Facts Reference)).isSome := by
    rcases reconciled with rfl | rfl
    · rfl
    · rfl
  have mark : (glance.left r).isDeleted = r.isDeleted := glance.isDeleted_left r
  rcases of_done observable done kept with idle | ⟨op, lasting, calls, active, large⟩
  · -- Nothing was to be done, which is never so for a marked resource.
    have left : glance.left r = r := by
      rw [Glance.left, glance.run_of_idle idle]
    have unmarked : r.isDeleted = false := by
      have unwanted := (Resource.Rests.of_rule? observable idle).unwanted
      exact (Bool.or_eq_false_iff.mp unwanted).1
    rw [left]
    refine ⟨iff_of_true idle unmarked, ?_, ?_⟩
    · intro _ later
      exact later.run_of_idle idle
    · intro marked
      cases unmarked.symm.trans marked
  · cases marked : r.isDeleted with
    | false =>
      have rests : (glance.left r).Rests := by
        apply Resource.Rests.of_active active large
        rw [Resource.wantsDeletion_of_driven (active ▸ .active), mark, marked]
      refine ⟨iff_of_true rests.rule?_eq_none rfl, ?_, ?_⟩
      · intro _ later
        exact later.run_of_idle rests.rule?_eq_none
      · intro impossible
        cases impossible
    | true =>
      have deletes : (glance.left r).Asks .delete := .of_active (mark.trans marked) active large
      refine ⟨iff_of_false ?_ Bool.true_eq_false.mp, ?_, ?_⟩
      · intro idle
        exact (Resource.Rests.of_rule? observable idle).no_asks deletes
      · intro impossible
        cases impossible
      · intro _
        refine ⟨?_, fun later => calls_of_asks observable deletes later⟩
        rw [calls]
        cases op with
        | create => exact .inl rfl
        | increaseSize => exact .inr rfl
        | delete => exact absurd rfl lasting

/-- A glance in which every call succeeds and the repository keeps resources as they are. -/
def calm : Glance k := ⟨default, .ok (), id, Resource.KeptAs.refl⟩

def creatingWorkspace : Workspace :=
  { metadata := .ofName "w" "t"
    spec := ⟨∅⟩
    status := some ⟨⟨some .creating, []⟩, ⟨none⟩⟩ }

theorem created_workspace_at_rest :
    calm.result creatingWorkspace = .ok false ∧
      ∀ later : Glance .workspace, later.run (calm.left creatingWorkspace) =
        ((calm.left creatingWorkspace, .ok false), ([], [])) := by
  have kept : .delete ∉ calm.writes creatingWorkspace := by decide
  exact ⟨rfl, (at_rest_after_done_iff (.inr rfl) calm creatingWorkspace rfl kept).2.1 rfl⟩

/-- The workspace was marked for deletion before it was created: the handler is done with it and
has not removed it, and yet it is to be deleted. -/
theorem marked_workspace_not_at_rest :
    let marked : Workspace :=
      { creatingWorkspace with
        metadata := { creatingWorkspace.metadata with deletedAt := some default } }
    calm.result marked = .ok false ∧ calm.writes marked = [.update] ∧
      Kind.workspace.handler.rule? (calm.left marked) ≠ none ∧
        calm.calls (calm.left marked) = [.delete] := by
  intro marked
  refine ⟨rfl, rfl, ?_, rfl⟩
  nofun

end Glance

end Reconciler
