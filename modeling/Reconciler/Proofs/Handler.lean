import Mathlib.Data.List.Find
import Reconciler.Handler.Table

/-!
The tables of rules, read row by row. `Transition` lists the steps of a lifecycle; a rule
that is chosen for a resource is one of three shapes (`Row`), and what it does to the
resource is one of these steps.
-/

set_option autoImplicit false

namespace Reconciler

/-- The steps of a lifecycle, from no state at first. The last two are only taken by a
resource that is marked for deletion. -/
inductive Transition (marked : Bool) : Option State → State → Prop
  | begin : Transition marked none .creating
  | create : Transition marked (some .creating) .active
  | failCreation : Transition marked (some .creating) .error
  | outgrow : Transition marked (some .active) .updating
  | grow : Transition marked (some .updating) .active
  | failGrowth : Transition marked (some .updating) .error
  | retryCreation : Transition marked (some .error) .creating
  | retryGrowth : Transition marked (some .error) .updating
  | failDeletion (mark : marked = true) : Transition marked (some .active) .error
  | failDeletionAgain (mark : marked = true) : Transition marked (some .error) .error

inductive Driven : Option State → Prop
  | fresh : Driven none
  | creating : Driven (some .creating)
  | active : Driven (some .active)
  | updating : Driven (some .updating)
  | error : Driven (some .error)

theorem Transition.driven {marked : Bool} {old : Option State} {new : State}
    (step : Transition marked old new) : Driven (some new) := by
  cases step <;> constructor

namespace Resource

variable {k : Kind}

theorem lifecycle_mapLifecycle {f : Lifecycle State → Lifecycle State} {r : Resource k}
    (observed : r.statusOrFresh?.isSome) : (r.mapLifecycle f).lifecycle = f r.lifecycle := by
  unfold mapLifecycle lifecycle statusOrFresh? at *
  cases status : r.status with
  | some s => simp
  | none =>
    rw [status] at observed
    cases facts : (k.noFacts? : Option (k.Facts Reference)) with
    | none => simp [facts] at observed
    | some _ => simp

theorem statusOrFresh?_isSome_of_noFacts? (r : Resource k)
    (observable : (k.noFacts? : Option (k.Facts Reference)).isSome) :
    r.statusOrFresh?.isSome := by
  unfold statusOrFresh?
  cases r.status with
  | some s => rfl
  | none => simpa using observable

theorem lifecycle_enter (r : Resource k)
    (observable : (k.noFacts? : Option (k.Facts Reference)).isSome) (s : State) (now : Instant) :
    (r.enter s now).lifecycle = r.lifecycle.enter s now :=
  lifecycle_mapLifecycle (statusOrFresh?_isSome_of_noFacts? r observable)

theorem lifecycle_fail (r : Resource k)
    (observable : (k.noFacts? : Option (k.Facts Reference)).isSome) (e : ProviderError)
    (now : Instant) : (r.fail e now).lifecycle = r.lifecycle.fail e now :=
  lifecycle_mapLifecycle (statusOrFresh?_isSome_of_noFacts? r observable)

theorem lifecycle_mapFacts (f : k.Facts Reference → k.Facts Reference) (r : Resource k) :
    (r.mapFacts f).lifecycle = r.lifecycle := by
  unfold mapFacts lifecycle statusOrFresh?
  cases r.status with
  | some s => rfl
  | none => cases (k.noFacts? : Option (k.Facts Reference)) <;> rfl

theorem rawState_of_state {r : Resource k} {s : State} (state : r.state = s)
    (late : s ≠ .pending) : r.rawState = some s := by
  unfold Resource.state at state
  cases raw : r.rawState with
  | none => exact absurd (by rw [← state, raw]; rfl) late
  | some s' => rw [raw] at state; exact congrArg some state

theorem state_of_rawState {r : Resource k} {s : State} (raw : r.rawState = some s) :
    r.state = s := by
  unfold Resource.state
  rw [raw]
  rfl

theorem rawState_of_pending {r : Resource k} (driven : Driven r.rawState)
    (state : r.state = .pending) : r.rawState = none := by
  unfold Resource.state at state
  generalize r.rawState = raw at *
  cases driven with
  | fresh => rfl
  | creating => cases state
  | active => cases state
  | updating => cases state
  | error => cases state

theorem wantsDeletion_of_mark {r : Resource k} (mark : r.isDeleted = true) :
    r.wantsDeletion = true := Bool.or_eq_true_iff.mpr (.inl mark)

theorem isDeleted_of_wantsDeletion {r : Resource k} (driven : Driven r.rawState)
    (wanted : r.wantsDeletion = true) : r.isDeleted = true := by
  unfold wantsDeletion at wanted
  rcases Bool.or_eq_true_iff.mp wanted with mark | state
  · exact mark
  · have raw := rawState_of_state (of_decide_eq_true state) (by decide)
    rw [raw] at driven
    cases driven

theorem wantsDeletion_of_driven {r : Resource k} (driven : Driven r.rawState) :
    r.wantsDeletion = r.isDeleted := by
  cases wanted : r.wantsDeletion with
  | true => exact (isDeleted_of_wantsDeletion driven wanted).symm
  | false => exact (Bool.or_eq_false_iff.mp wanted).1.symm

/-- A deletion that fails is an error, whatever state it began in. -/
theorem failure_of_deletion {r : Resource k} (driven : Driven r.rawState)
    (begun : r.state ≠ .pending) (mark : r.isDeleted = true) :
    Transition r.isDeleted r.rawState .error := by
  unfold Resource.state at begun
  generalize r.rawState = raw at *
  cases driven with
  | fresh => exact absurd rfl begun
  | creating => exact .failCreation
  | active => exact .failDeletion mark
  | updating => exact .failGrowth
  | error => exact .failDeletionAgain mark

end Resource

namespace Resource

variable {k : Kind}

/-- More is wanted than was provided, which only a volume knows of. -/
def outgrown : {k : Kind} → Resource k → Bool
  | .volume, v => Volume.needsResize v
  | .workspace, _ | .storageOffer, _ | .networkOffer, _ => false

def noting : {k : Kind} → Operation → Resource k → Resource k
  | .volume, .create, v => Volume.adoptSpec v
  | .volume, .increaseSize, v => Volume.copySize v
  | _, _, r => r

@[simp] theorem outgrown_volume (v : Volume) : outgrown v = Volume.needsResize v := rfl

theorem metadata_noting (op : Operation) (r : Resource k) :
    (r.noting op).metadata = r.metadata := by
  cases k <;> cases op <;> rfl

theorem spec_noting (op : Operation) (r : Resource k) : (r.noting op).spec = r.spec := by
  cases k <;> cases op <;> rfl

theorem lifecycle_noting (op : Operation) (r : Resource k) :
    (r.noting op).lifecycle = r.lifecycle := by
  cases k with
  | volume =>
    cases op with
    | create => exact lifecycle_mapFacts (k := .volume) _ r
    | increaseSize => exact lifecycle_mapFacts (k := .volume) _ r
    | delete => rfl
  | workspace => rfl
  | storageOffer => rfl
  | networkOffer => rfl

inductive Enters (r : Resource k) : State → Prop
  | begin (state : r.state = .pending) : Enters r .creating
  | outgrow (state : r.rawState = some .active) (small : r.outgrown = true) : Enters r .updating
  | retryCreation (failed : r.failedIn .creating = true) (unwanted : r.wantsDeletion = false) :
      Enters r .creating
  | retryGrowth (failed : r.failedIn .updating = true) (small : r.outgrown = true)
      (unwanted : r.wantsDeletion = false) : Enters r .updating

/-- What is asked of the provider. A resource to be deleted is deleted once it is neither to be
created nor to grow. -/
inductive Asks (r : Resource k) : Operation → Prop
  | create (state : r.rawState = some .creating) : Asks r .create
  | grow (state : r.rawState = some .updating) (small : r.outgrown = true) : Asks r .increaseSize
  | delete (wanted : r.wantsDeletion = true) (begun : r.state ≠ .pending)
      (made : r.rawState ≠ some .creating)
      (large : r.rawState = some .active ∨ r.rawState = some .updating → r.outgrown = false) :
      Asks r .delete

end Resource

/-- The rules of the table, each with what its place there says of a resource it is chosen for.
Workspaces have the rules that do not deal with sizes. -/
inductive Next {k : Kind} (r : Resource k) : Rule k Operation Write → Prop
  | entering {name : String} {applies : Resource k → Bool} {s : State} (enters : r.Enters s) :
      Next r (.entering name applies s)
  | activating {name : String} {applies : Resource k → Bool} {op : Operation} (asks : r.Asks op)
      (lasting : op ≠ .delete) : Next r (.activating name applies op (Resource.noting op))
  | deleting (asks : r.Asks .delete) : Next r .deleting

structure Resource.Rests {k : Kind} (r : Resource k) : Prop where
  begun : r.state ≠ .pending
  made : r.rawState ≠ some .creating
  large : r.rawState = some .active ∨ r.rawState = some .updating → r.outgrown = false
  unwanted : r.wantsDeletion = false
  created : r.failedIn .creating = false
  enlarged : r.failedIn .updating = true → r.outgrown = false

namespace Volume

theorem large_of_looked {v : Volume}
    (content : (decide (v.state = .active) && needsResize v) = false)
    (settled : (decide (v.state = .updating) && needsResize v) = false)
    (state : v.rawState = some .active ∨ v.rawState = some .updating) :
    v.outgrown = false := by
  rcases state with active | updating
  · simpa [Resource.state_of_rawState active] using content
  · simpa [Resource.state_of_rawState updating] using settled

theorem next_or_rests (v : Volume) :
    (∃ rule, handler.rule? v = some rule ∧ Next v rule) ∨
      handler.rule? v = none ∧ Resource.Rests v := by
  have raw {s : State} (late : s ≠ .pending) (here : decide (v.state = s) = true) :
      v.rawState = some s := Resource.rawState_of_state (of_decide_eq_true here) late
  have not_raw {s : State} (elsewhere : decide (v.state = s) = false) : v.rawState ≠ some s :=
    fun here => of_decide_eq_false elsewhere (Resource.state_of_rawState here)
  unfold Handler.rule? handler
  simp only [List.find?_cons, List.find?_nil]
  split
  · rename_i pending
    exact .inl ⟨_, rfl, .entering (.begin (of_decide_eq_true pending))⟩
  rename_i begun
  split
  · rename_i creating
    exact .inl ⟨_, rfl, .activating (.create (raw (by decide) creating)) (by decide)⟩
  rename_i made
  split
  · rename_i outgrown
    obtain ⟨active, small⟩ := Bool.and_eq_true_iff.mp outgrown
    exact .inl ⟨_, rfl, .entering (.outgrow (raw (by decide) active) small)⟩
  rename_i content
  split
  · rename_i growing
    obtain ⟨updating, small⟩ := Bool.and_eq_true_iff.mp growing
    exact .inl ⟨_, rfl, .activating (.grow (raw (by decide) updating) small) (by decide)⟩
  rename_i settled
  split
  · rename_i wanted
    exact .inl ⟨_, rfl, .deleting (.delete wanted (of_decide_eq_false begun) (not_raw made)
      (large_of_looked content settled))⟩
  rename_i unwanted
  split
  · rename_i failed
    exact .inl ⟨_, rfl, .entering (.retryCreation failed unwanted)⟩
  rename_i created
  split
  · rename_i outgrown
    obtain ⟨failed, small⟩ := Bool.and_eq_true_iff.mp outgrown
    exact .inl ⟨_, rfl, .entering (.retryGrowth failed small unwanted)⟩
  rename_i enlarged
  refine .inr ⟨rfl, of_decide_eq_false begun, not_raw made, large_of_looked content settled,
    unwanted, created, fun failed => ?_⟩
  have known : (v.failedIn .updating && needsResize v) = false := enlarged
  simpa [failed] using known

end Volume

theorem Workspace.next_or_rests (w : Workspace) :
    (∃ rule, handler.rule? w = some rule ∧ Next w rule) ∨
      handler.rule? w = none ∧ Resource.Rests w := by
  have not_raw {s : State} (elsewhere : decide (w.state = s) = false) : w.rawState ≠ some s :=
    fun here => of_decide_eq_false elsewhere (Resource.state_of_rawState here)
  unfold Handler.rule? handler
  simp only [List.find?_cons, List.find?_nil]
  split
  · rename_i pending
    exact .inl ⟨_, rfl, .entering (.begin (of_decide_eq_true pending))⟩
  rename_i begun
  split
  · rename_i creating
    have raw := Resource.rawState_of_state (of_decide_eq_true creating) (by decide)
    exact .inl ⟨_, rfl, .activating (.create raw) (by decide)⟩
  rename_i made
  split
  · rename_i wanted
    exact .inl ⟨_, rfl, .deleting
      (.delete wanted (of_decide_eq_false begun) (not_raw made) fun _ => rfl)⟩
  rename_i unwanted
  split
  · rename_i failed
    exact .inl ⟨_, rfl, .entering (.retryCreation failed unwanted)⟩
  rename_i created
  exact .inr ⟨rfl, of_decide_eq_false begun, not_raw made, fun _ => rfl, unwanted, created,
    fun _ => rfl⟩

section Table

variable {k : Kind} {r : Resource k} {rule : Rule k Operation Write}

/-- For a volume or a workspace there is a rule with its place in the table, or nothing to do. -/
theorem Resource.next_or_rests (observable : (k.noFacts? : Option (k.Facts Reference)).isSome)
    (r : Resource k) :
    (∃ rule, k.handler.rule? r = some rule ∧ Next r rule) ∨
      k.handler.rule? r = none ∧ r.Rests := by
  cases k with
  | volume => exact Volume.next_or_rests r
  | workspace => exact Workspace.next_or_rests r
  | storageOffer => cases observable
  | networkOffer => cases observable

theorem Resource.Rests.of_rule? (observable : (k.noFacts? : Option (k.Facts Reference)).isSome)
    (idle : k.handler.rule? r = none) : r.Rests := by
  rcases r.next_or_rests observable with ⟨rule, chosen, -⟩ | ⟨-, rests⟩
  · cases idle.symm.trans chosen
  · exact rests

theorem Kind.observable_of_rule? (chosen : k.handler.rule? r = some rule) :
    (k.noFacts? : Option (k.Facts Reference)).isSome := by
  cases k with
  | volume => rfl
  | workspace => rfl
  | storageOffer => cases chosen
  | networkOffer => cases chosen

theorem Next.of_rule? (chosen : k.handler.rule? r = some rule) : Next r rule := by
  rcases r.next_or_rests (Kind.observable_of_rule? chosen) with ⟨rule', here, next⟩ | ⟨none, -⟩
  · obtain rfl := Option.some.inj (chosen.symm.trans here)
    exact next
  · rw [none] at chosen
    cases chosen

theorem Resource.Rests.no_enters (rests : r.Rests) {s : State} : ¬ r.Enters s := by
  intro enters
  cases enters with
  | begin state => exact rests.begun state
  | outgrow state small => exact absurd small (by simp [rests.large (.inl state)])
  | retryCreation failed unwanted => exact absurd failed (by simp [rests.created])
  | retryGrowth failed small unwanted => exact absurd small (by simp [rests.enlarged failed])

theorem Resource.Rests.no_asks (rests : r.Rests) {op : Operation} : ¬ r.Asks op := by
  intro asks
  cases asks with
  | create state => exact rests.made state
  | grow state small => exact absurd small (by simp [rests.large (.inr state)])
  | delete wanted begun made large => exact absurd wanted (by simp [rests.unwanted])

theorem Resource.Rests.rule?_eq_none (rests : r.Rests) : k.handler.rule? r = none := by
  cases chosen : k.handler.rule? r with
  | none => rfl
  | some rule =>
    cases Next.of_rule? chosen with
    | entering enters => exact absurd enters rests.no_enters
    | activating asks lasting => exact absurd asks rests.no_asks
    | deleting asks => exact absurd asks rests.no_asks

theorem Resource.isSome_rule?_iff
    (observable : (k.noFacts? : Option (k.Facts Reference)).isSome) :
    (k.handler.rule? r).isSome ↔ (∃ s, r.Enters s) ∨ ∃ op, r.Asks op := by
  constructor
  · intro some
    obtain ⟨rule, chosen⟩ := Option.isSome_iff_exists.mp some
    cases Next.of_rule? chosen with
    | entering enters => exact .inl ⟨_, enters⟩
    | activating asks lasting => exact .inr ⟨_, asks⟩
    | deleting asks => exact .inr ⟨_, asks⟩
  · intro due
    cases chosen : k.handler.rule? r with
    | some rule => rfl
    | none =>
      have rests := Resource.Rests.of_rule? observable chosen
      rcases due with ⟨s, enters⟩ | ⟨op, asks⟩
      · exact absurd enters rests.no_enters
      · exact absurd asks rests.no_asks

/-- All that the rules look at is the same. -/
structure Resource.Alike (r r' : Resource k) : Prop where
  state : r'.state = r.state
  wantsDeletion : r'.wantsDeletion = r.wantsDeletion
  outgrown : r'.outgrown = r.outgrown
  failedIn : ∀ s, r'.failedIn s = r.failedIn s

theorem Resource.Alike.rule?_eq {r' : Resource k} (alike : r.Alike r') :
    k.handler.rule? r' = k.handler.rule? r := by
  obtain ⟨state, wanted, outgrown, failedIn⟩ := alike
  refine List.find?_congr ?_
  intro rule listed
  cases k with
  | volume =>
    simp only [outgrown_volume] at outgrown
    simp only [Kind.handler, Volume.handler, List.mem_cons, List.not_mem_nil, or_false] at listed
    rcases listed with rfl | rfl | rfl | rfl | rfl | rfl | rfl
    · exact congrArg (decide <| · = State.pending) state
    · exact congrArg (decide <| · = State.creating) state
    · exact congrArg₂ (fun s small => decide (s = State.active) && small) state outgrown
    · exact congrArg₂ (fun s small => decide (s = State.updating) && small) state outgrown
    · exact wanted
    · exact failedIn .creating
    · exact congrArg₂ and (failedIn .updating) outgrown
  | workspace =>
    simp only [Kind.handler, Workspace.handler, List.mem_cons, List.not_mem_nil, or_false] at listed
    rcases listed with rfl | rfl | rfl | rfl
    · exact congrArg (decide <| · = State.pending) state
    · exact congrArg (decide <| · = State.creating) state
    · exact wanted
    · exact failedIn .creating
  | storageOffer => cases listed
  | networkOffer => cases listed

end Table

/-- A rule for a resource, with the step it takes: it enters a state without asking, it asks
and is active afterwards, or it deletes. A rule that asks may fail instead. -/
inductive Row {k : Kind} (r : Resource k) : Rule k Operation Write → Prop
  | entering {name : String} {applies : Resource k → Bool} {s : State}
      (step : Transition r.isDeleted r.rawState s) (passive : s ≠ .active) :
      Row r (.entering name applies s)
  | activating {name : String} {applies : Resource k → Bool} {op : Operation}
      {onDone : Resource k → Resource k} (step : Transition r.isDeleted r.rawState .active)
      (failure : Transition r.isDeleted r.rawState .error)
      (placed : ∀ called, (onDone called).metadata = called.metadata)
      (kept : ∀ called, (onDone called).lifecycle = called.lifecycle) :
      Row r (.activating name applies op onDone)
  | deleting (mark : r.isDeleted = true) (failure : Transition r.isDeleted r.rawState .error) :
      Row r .deleting

theorem Resource.Enters.transition {k : Kind} {r : Resource k} {s : State} (enters : r.Enters s)
    (driven : Driven r.rawState) : Transition r.isDeleted r.rawState s ∧ s ≠ .active := by
  have failed {s : State} (here : r.failedIn s = true) : r.rawState = some .error :=
    rawState_of_state (of_decide_eq_true (Bool.and_eq_true_iff.mp here).1) (by decide)
  cases enters with
  | begin state => exact ⟨rawState_of_pending driven state ▸ .begin, by decide⟩
  | outgrow state small => exact ⟨state ▸ .outgrow, by decide⟩
  | retryCreation retried unwanted => exact ⟨failed retried ▸ .retryCreation, by decide⟩
  | retryGrowth retried small unwanted => exact ⟨failed retried ▸ .retryGrowth, by decide⟩

theorem Next.row {k : Kind} {r : Resource k} {rule : Rule k Operation Write} (next : Next r rule)
    (driven : Driven r.rawState) : Row r rule := by
  cases next with
  | entering enters =>
    obtain ⟨step, passive⟩ := enters.transition driven
    exact .entering step passive
  | @activating name applies op asks lasting =>
    have placed := Resource.metadata_noting (k := k) op
    have kept := Resource.lifecycle_noting (k := k) op
    cases asks with
    | create state => exact .activating (state ▸ .create) (state ▸ .failCreation) placed kept
    | grow state small => exact .activating (state ▸ .grow) (state ▸ .failGrowth) placed kept
    | delete => exact absurd rfl lasting
  | deleting asks =>
    cases asks with
    | delete wanted begun made large =>
      have mark := Resource.isDeleted_of_wantsDeletion driven wanted
      exact .deleting mark (Resource.failure_of_deletion driven begun mark)

/-- The rule that is chosen for a resource has one of the shapes; it can record what it does. -/
theorem Row.of_rule? {k : Kind} {r : Resource k} {rule : Rule k Operation Write}
    (driven : Driven r.rawState) (chosen : k.handler.rule? r = some rule) :
    Row r rule ∧ (k.noFacts? : Option (k.Facts Reference)).isSome :=
  ⟨(Next.of_rule? chosen).row driven, Kind.observable_of_rule? chosen⟩

/-- A rule that leaves the metadata of a resource alone, whatever state the resource is in. -/
structure Rule.Placing {k : Kind} (rule : Rule k Operation Write) : Prop where
  success : ∀ now called, (rule.onSuccess now called).metadata = called.metadata
  failure : ∀ e now called, (rule.onFailure e now called).metadata = called.metadata

theorem Rule.placing_of_rule? {k : Kind} {r : Resource k} {rule : Rule k Operation Write}
    (chosen : k.handler.rule? r = some rule) : rule.Placing := by
  have listed : rule ∈ k.handler.rules := List.mem_of_find?_eq_some chosen
  cases k with
  | volume =>
    simp only [Kind.handler, Volume.handler, List.mem_cons, List.not_mem_nil, or_false] at listed
    rcases listed with rfl | rfl | rfl | rfl | rfl | rfl | rfl <;>
      exact ⟨fun _ _ => rfl, fun _ _ _ => rfl⟩
  | workspace =>
    simp only [Kind.handler, Workspace.handler, List.mem_cons, List.not_mem_nil, or_false] at listed
    rcases listed with rfl | rfl | rfl | rfl <;>
      exact ⟨fun _ _ => rfl, fun _ _ _ => rfl⟩
  | storageOffer => cases listed
  | networkOffer => cases listed

end Reconciler
