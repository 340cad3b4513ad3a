import Mathlib.Data.List.Nodup
import Reconciler.Proofs.Controller.Rejection
import Reconciler.Proofs.Handler.Retry

/-!
An object that stands for no resource for a while. It loses the label of its tenant, is reconciled
and gets the label back. What is left of the interlude is the condition that told of it, and that
matters to resources that failed: the table finds the state they failed in by its place in the
history, and finds another one there.
-/

set_option autoImplicit false

namespace Reconciler

open Controller (conversionFailure)

variable {k : Kind}

theorem Kind.nodup_ruleNames (k : Kind) : (k.handler.rules.map (·.name)).Nodup := by
  cases k <;> decide

namespace Resource

variable {r r' : Resource k}

theorem rule?_eq_of_name (same : (k.handler.rule? r').map (·.name) =
    (k.handler.rule? r).map (·.name)) : k.handler.rule? r' = k.handler.rule? r := by
  cases chosen : k.handler.rule? r with
  | none =>
    rw [chosen] at same
    exact Option.map_eq_none_iff.mp same
  | some rule =>
    rw [chosen] at same
    obtain ⟨rule', chosen', name⟩ := Option.map_eq_some_iff.mp same
    have listed := List.mem_of_find?_eq_some chosen
    have listed' := List.mem_of_find?_eq_some chosen'
    rw [chosen', List.inj_on_of_nodup_map k.nodup_ruleNames listed' listed name]

/-- The state that a resource goes back to if this was its state before it failed. -/
def retry (r : Resource k) : Option State → Option State
  | some .creating => some .creating
  | some .updating => bif r.outgrown then some .updating else none
  | _ => none

theorem retry_mem (r : Resource k) (before : Option State) :
    r.retry before ∈ [none, some .creating, some .updating] := by
  unfold retry
  generalize r.outgrown = outgrown
  cases before with
  | none => exact List.mem_cons_self
  | some s => cases s <;> cases outgrown <;> decide

def retryName (s : State) : String :=
  if s = .updating then "retry_increase_size" else "retry_create"

theorem name_of_failed (observable : (k.noFacts? : Option (k.Facts Reference)).isSome)
    (failed : r.state = .error) (unwanted : r.wantsDeletion = false) :
    (k.handler.rule? r).map (·.name) = (r.retry r.previousState).map retryName := by
  -- Only the retries are left of the table, and they look at the state before and at the size.
  unfold Handler.rule? retry
  cases k with
  | volume =>
    simp only [Kind.handler, Volume.handler, List.find?_cons, List.find?_nil, Rule.entering,
      Rule.activating, Rule.deleting, Rule.plain, failed, unwanted, failedIn, outgrown_volume]
    generalize r.previousState = before
    generalize Volume.needsResize r = small
    rcases before with _ | ⟨_ | _⟩ <;> cases small <;> rfl
  | workspace =>
    simp only [Kind.handler, Workspace.handler, List.find?_cons, List.find?_nil, Rule.entering,
      Rule.activating, Rule.deleting, Rule.plain, failed, unwanted, failedIn]
    generalize r.previousState = before
    rcases before with _ | ⟨_ | _⟩ <;> rfl
  | storageOffer => cases observable
  | networkOffer => cases observable

theorem rule?_eq_iff_of_failed (observable : (k.noFacts? : Option (k.Facts Reference)).isSome)
    (failed : r.state = .error) (unwanted : r.wantsDeletion = false) (failed' : r'.state = .error)
    (unwanted' : r'.wantsDeletion = false) : k.handler.rule? r' = k.handler.rule? r ↔
      r'.retry r'.previousState = r.retry r.previousState := by
  have name := r.name_of_failed observable failed unwanted
  have name' := r'.name_of_failed observable failed' unwanted'
  constructor
  · intro same
    have named : (r'.retry r'.previousState).map retryName =
        (r.retry r.previousState).map retryName := by
      rw [← name', same, name]
    -- Two names are the names of two states, for there are only these two to go back to.
    have apart : ∀ x ∈ [none, some State.creating, some .updating],
        ∀ y ∈ [none, some State.creating, some .updating],
          x.map retryName = y.map retryName → x = y := by
      decide
    exact apart _ (r'.retry_mem _) _ (r.retry_mem _) named
  · intro same
    apply rule?_eq_of_name
    rw [name', name, same]

theorem rule?_of_deletes (observable : (k.noFacts? : Option (k.Facts Reference)).isSome)
    (deletes : r.Asks .delete) : k.handler.rule? r = some .deleting := by
  obtain ⟨rule, chosen⟩ := Option.isSome_iff_exists.mp
    ((isSome_rule?_iff observable).mpr (.inr ⟨.delete, deletes⟩))
  cases Next.of_rule? chosen with
  | entering enters => exact absurd deletes enters.not_asks
  | activating asks lasting => exact absurd deletes (asks.not_delete lasting)
  | deleting asks => exact chosen

end Resource

theorem Lifecycle.previous_note (c : Condition State) (l : Lifecycle State) :
    (l.note c).previous = l.conditions.getLast?.map (·.state) := by
  rw [← List.head?_reverse]
  unfold previous note
  rw [← List.map_reverse, List.reverse_append, List.reverse_singleton, List.singleton_append]
  cases l.conditions.reverse <;> rfl

namespace Resource

variable {r r' : Resource k} {c : Condition State}

def latestState (r : Resource k) : Option State := r.conditions.getLast?.map (·.state)

/-- The same resource, but for bookkeeping of the store and a condition more in its history. -/
structure NotedAs (c : Condition State) (r r' : Resource k) : Prop where
  lifecycle : r'.lifecycle = r.lifecycle.note c
  isDeleted : r'.isDeleted = r.isDeleted
  outgrown : r'.outgrown = r.outgrown

theorem NotedAs.state (noted : r.NotedAs c r') : r'.state = r.state := by
  unfold Resource.state rawState
  rw [noted.lifecycle]
  rfl

theorem NotedAs.wantsDeletion (noted : r.NotedAs c r') : r'.wantsDeletion = r.wantsDeletion := by
  unfold Resource.wantsDeletion
  rw [noted.isDeleted, noted.state]

theorem NotedAs.previousState (noted : r.NotedAs c r') : r'.previousState = r.latestState := by
  unfold Resource.previousState
  rw [noted.lifecycle]
  exact r.lifecycle.previous_note c

theorem NotedAs.retry (noted : r.NotedAs c r') (before : Option State) :
    r'.retry before = r.retry before := by
  unfold Resource.retry
  rw [noted.outgrown]

/-- A condition more makes a difference to resources that are to be tried again only, and to these
if the latest state is not the one before. -/
theorem NotedAs.rule?_eq_iff (noted : r.NotedAs c r')
    (observable : (k.noFacts? : Option (k.Facts Reference)).isSome) :
    k.handler.rule? r' = k.handler.rule? r ↔ r.state ≠ .error ∨ r.wantsDeletion = true ∨
      r.retry r.latestState = r.retry r.previousState := by
  by_cases failed : r.state = .error
  · have failed' : r'.state = .error := noted.state.trans failed
    cases wanted : r.wantsDeletion with
    | true =>
      have deletes {q : Resource k} (state : q.state = .error) (marked : q.wantsDeletion = true) :
          k.handler.rule? q = some .deleting := by
        have raw : q.rawState = some .error := rawState_of_state state (by decide)
        rw [wantsDeletion_of_driven (raw ▸ .error)] at marked
        exact rule?_of_deletes observable (.of_error marked raw)
      have wanted' : r'.wantsDeletion = true := noted.wantsDeletion.trans wanted
      exact iff_of_true ((deletes failed' wanted').trans (deletes failed wanted).symm)
        (.inr (.inl rfl))
    | false =>
      have unwanted' : r'.wantsDeletion = false := noted.wantsDeletion.trans wanted
      rw [rule?_eq_iff_of_failed observable failed wanted failed' unwanted', noted.retry,
        noted.previousState]
      constructor
      · exact fun same => .inr (.inr same)
      · rintro (other | impossible | same)
        · exact absurd failed other
        · cases impossible
        · exact same
  · have alike : r.Alike r' := by
      refine ⟨noted.state, noted.wantsDeletion, noted.outgrown, ?_⟩
      intro s
      have elsewhere {q : Resource k} (other : q.state ≠ .error) : q.failedIn s = false := by
        unfold Resource.failedIn
        rw [decide_eq_false other, Bool.false_and]
      rw [elsewhere (noted.state ▸ failed), elsewhere failed]
    exact iff_of_true alike.rule?_eq (.inl failed)

/-- A resource whose failure is the latest condition is not tried again. -/
theorem NotedAs.rule?_eq_none (noted : r.NotedAs c r')
    (observable : (k.noFacts? : Option (k.Facts Reference)).isSome)
    (recorded : r.lifecycle.Recorded) (failed : r.state = .error)
    (unwanted : r.wantsDeletion = false) : k.handler.rule? r' = none := by
  have latest : r.latestState = some .error :=
    recorded.trans (rawState_of_state failed (by decide))
  have name := r'.name_of_failed observable (noted.state.trans failed)
    (noted.wantsDeletion.trans unwanted)
  rw [noted.retry, noted.previousState, latest] at name
  exact Option.map_eq_none_iff.mp name

end Resource

namespace Object

variable {o : Object k} {r : Resource k}

def withoutTenant (o : Object k) : Object k :=
  { o with metadata :=
    { o.metadata with labels := o.metadata.labels.map (·.erase Mapping.tenantLabel) } }

def withTenant (tenant : String) (o : Object k) : Object k :=
  { o with metadata :=
    { o.metadata with
      labels := some (o.metadata.labelMap.insert Mapping.tenantLabel tenant) } }

/-- Why an object without the label stands for no resource. -/
def ownerless (o : Object k) : Error :=
  .conversion k.name (o.metadata.name.getD "") Mapping.Fault.missingTenant.reason

theorem withTenant_withoutTenant {tenant : String}
    (label : o.metadata.label? Mapping.tenantLabel = some tenant) :
    o.withoutTenant.withTenant tenant = o := by
  obtain ⟨labels, told, found⟩ := Option.bind_eq_some_iff.mp label
  have back : some (o.withoutTenant.metadata.labelMap.insert Mapping.tenantLabel tenant) =
      o.metadata.labels := by
    have left : o.withoutTenant.metadata.labelMap = labels.erase Mapping.tenantLabel := by
      unfold withoutTenant ObjectMeta.labelMap
      rw [told]
      rfl
    rw [left, SortedMap.insert_erase found, told]
  unfold withTenant
  rw [back]
  rfl

theorem toResource_withoutTenant (read : o.toResource = .ok r) :
    o.withoutTenant.toResource = .error o.ownerless := by
  have named : o.withoutTenant.metadata.name.getD "" ≠ "" :=
    (Mapping.readMetadata_eq_ok.mp (toResource_eq_ok.mp read).1).1
  have label : o.withoutTenant.metadata.label? Mapping.tenantLabel = none := by
    unfold withoutTenant ObjectMeta.label?
    cases o.metadata.labels with
    | none => rfl
    | some labels => exact SortedMap.get?_erase_self labels _
  have unowned : Mapping.readMetadata o.withoutTenant.metadata = .error .missingTenant := by
    simp only [Mapping.readMetadata, named, if_false, Mapping.readTenant, label, bind, Except.bind]
  exact toResource_of_fault unowned

end Object

/-- When a user, who is not cut short, puts an object in the place of the one that is stored. -/
structure Edit where
  ctx : Context
  clock : Moment
  now : Instant
  live : ctx.check clock = .ok ()

namespace Edit

variable {key : ObjectKey} {s : MemoryStore k} {o : Object k} {r : Resource k}

def replacing (edit : Edit) (o : Object k) (s : MemoryStore k) : MemoryStore k :=
  s.after (.call edit.ctx edit.clock edit.now (.replace o))

theorem get?_replacing (edit : Edit) (sound : s.Sound) (found : s.objects.get? key = some o)
    (o' : Object k) (home : ObjectKey.ofObject o' = ObjectKey.ofObject o)
    (name : o'.metadata.name = o.metadata.name) (version : o'.version = o.version) :
    (edit.replacing o' s).objects.get? key = some (o'.restamp
      (some (natText (s.lastVersion + 1))) o.metadata.creationTimestamp
      o.metadata.deletionTimestamp) := by
  rw [replacing, sound.after_replace edit.now edit.live found o' home name version]
  exact MemoryStore.get?_write_self _ _ _

end Edit

namespace Object

variable {o : Object k} {r : Resource k}

theorem toResource_withTenant (read : o.toResource = .ok r) (version : Option String)
    (created deleted : Option Instant) :
    ((o.withoutTenant.withTenant r.metadata.tenant).restamp version created deleted).toResource =
      .ok (r.restamp (version.getD "") created deleted) := by
  rw [withTenant_withoutTenant (label?_of_read read)]
  exact toResource_restamp read version created deleted

theorem toResource_withTenant_noted (read : o.toResource = .ok r) (c : Condition State)
    (version : Option String) (created deleted : Option Instant) :
    ∃ r', (((o.withoutTenant.noted c).withTenant r.metadata.tenant).restamp version created
        deleted).toResource = .ok r' ∧
      r'.lifecycle = (r.noted c).lifecycle ∧ r'.isDeleted = deleted.isSome ∧
      r'.outgrown = r.outgrown := by
  have commutes : (o.withoutTenant.noted c).withTenant r.metadata.tenant =
      (o.withoutTenant.withTenant r.metadata.tenant).noted c := rfl
  rw [commutes, withTenant_withoutTenant (label?_of_read read), toResource_restamp_eq,
    toResource_noted, read]
  refine ⟨_, rfl, rfl, rfl, ?_⟩
  rw [← r.outgrown_mapLifecycle (·.note c)]
  cases k <;> rfl

end Object

namespace Round

variable {key : ObjectKey} {s : MemoryStore k} {o : Object k} {r : Resource k}

/-- What the object stands for once it has lost its label, was reconciled for some rounds and got
the label back. -/
def relabelled (taking giving : Edit) (rounds : List Round) (key : ObjectKey) (o : Object k)
    (tenant : String) (s : MemoryStore k) : Option (Resource k) := do
  let left := afterAll key rounds (taking.replacing o.withoutTenant s)
  let unlabelled ← left.objects.get? key
  let labelled ← (giving.replacing (unlabelled.withTenant tenant) left).objects.get? key
  labelled.toResource.toOption

theorem exists_relabelled (observable : (k.noFacts? : Option (k.Facts Reference)).isSome)
    (sound : s.Sound) (found : s.objects.get? key = some o) (read : o.toResource = .ok r)
    (taking giving : Edit) (rounds : List Round) :
    ∃ r', relabelled taking giving rounds key o r.metadata.tenant s = some r' ∧
      ((rounds = [] ∨ o.tells o.ownerless = true) ∧ r.Alike r' ∨
        ¬ (rounds = [] ∨ o.tells o.ownerless = true) ∧ ∃ c, r.NotedAs c r') := by
  have mark : o.metadata.deletionTimestamp.isSome = r.isDeleted :=
    congrArg Option.isSome
      (Mapping.of_readMetadata (Object.toResource_eq_ok.mp read).1).2.2.2.2.1.symm
  have found₁ := taking.get?_replacing sound found o.withoutTenant rfl rfl rfl
  have unread₁ : (o.withoutTenant.restamp (some (natText (s.lastVersion + 1)))
      o.metadata.creationTimestamp o.metadata.deletionTimestamp).toResource =
        .error o.ownerless := by
    rw [Object.toResource_restamp_eq, Object.toResource_withoutTenant read]
    rfl
  have sound₁ : (taking.replacing o.withoutTenant s).Sound := sound.after _
  obtain ⟨x, version, created, deleted, sound₂, found₂, marked, told⟩ :=
    exists_after_unreadable observable sound₁ found₁ unread₁ rounds
  generalize left_eq : afterAll key rounds (taking.replacing o.withoutTenant s) = left
    at sound₂ found₂
  have found₃ := giving.get?_replacing sound₂ found₂
    ((x.restamp version created deleted).withTenant r.metadata.tenant) rfl rfl rfl
  have back {r' : Resource k} (read' : ((x.withTenant r.metadata.tenant).restamp
      (some (natText (left.lastVersion + 1))) created deleted).toResource = .ok r') :
      relabelled taking giving rounds key o r.metadata.tenant s = some r' := by
    unfold relabelled
    rw [left_eq]
    simp only [Option.bind_eq_bind, found₂, Option.bind_some, found₃]
    exact congrArg Except.toOption read'
  rcases told with ⟨quiet, rfl⟩ | ⟨loud, now, rfl⟩
  · refine ⟨_, back (Object.toResource_withTenant read _ created deleted), .inl
      ⟨quiet, .of_lifecycle rfl (marked.trans mark) ?_⟩⟩
    cases k <;> rfl
  · obtain ⟨r', read', history, mark', outgrown⟩ := Object.toResource_withTenant_noted read
      (.unread o.ownerless now) (some (natText (left.lastVersion + 1))) created deleted
    refine ⟨r', back read', .inr ⟨loud, .unread o.ownerless now, ?_, ?_, outgrown⟩⟩
    · rw [history]
      exact Resource.lifecycle_mapLifecycle (r.statusOrFresh?_isSome_of_noFacts? observable)
    · rw [mark']
      exact marked.trans mark

/-- The interlude makes no difference to what is done next with a volume or a workspace if no
round took place, if the object told of the missing label before, if the resource has not failed
or is to be deleted, or if its history leads to the same retry from its latest state as from the
one before. A resource with its failure on record as the latest condition is otherwise left
alone. -/
theorem interlude_harmless_iff (reconciled : k = .volume ∨ k = .workspace)
    (past : List (Request k)) (stored : s = MemoryStore.empty.afterAll past)
    (found : s.objects.get? key = some o) (read : o.toResource = .ok r)
    (taking giving : Edit) (rounds : List Round) :
    ∃ r', relabelled taking giving rounds key o r.metadata.tenant s = some r' ∧
      (k.handler.rule? r' = k.handler.rule? r ↔
        rounds = [] ∨ o.tells o.ownerless = true ∨ r.state ≠ .error ∨ r.wantsDeletion = true ∨
          r.retry r.latestState = r.retry r.previousState) ∧
      (rounds ≠ [] → o.tells o.ownerless = false → r.state = .error → r.wantsDeletion = false →
        r.lifecycle.Recorded → k.handler.rule? r' = none) := by
  have observable : (k.noFacts? : Option (k.Facts Reference)).isSome := by
    rcases reconciled with rfl | rfl
    · rfl
    · rfl
  have sound : s.Sound := by
    rw [stored]
    exact MemoryStore.sound_empty.afterAll past
  obtain ⟨r', back, same⟩ := exists_relabelled observable sound found read taking giving rounds
  refine ⟨r', back, ?_, ?_⟩
  · rcases same with ⟨quiet, alike⟩ | ⟨loud, c, noted⟩
    · apply iff_of_true alike.rule?_eq
      rcases quiet with none | told
      · exact .inl none
      · exact .inr (.inl told)
    · obtain ⟨some, untold⟩ := not_or.mp loud
      rw [noted.rule?_eq_iff observable]
      constructor
      · exact fun harmless => .inr (.inr harmless)
      · rintro (none | told | harmless)
        · exact absurd none some
        · exact absurd told untold
        · exact harmless
  · intro some untold failed unwanted recorded
    rcases same with ⟨none | told, -⟩ | ⟨-, c, noted⟩
    · exact absurd none some
    · cases untold.symm.trans told
    · exact noted.rule?_eq_none observable recorded failed unwanted

def workspaceIn (state : String) (history : List String) : Object .workspace :=
  { metadata :=
      { ObjectMeta.blank with
        name := some "w"
        namespaceName := some "t"
        labels := some (SortedMap.empty.insert "internal/tenant" "t") }
    spec := ⟨∅⟩
    status := some ⟨⟨some state, history.map fun s => ⟨s, s, "", default⟩⟩, ⟨none⟩⟩ }

def stored (o : Object k) : MemoryStore k :=
  .afterAll .empty [.call .unbounded .zero default (.create o)]

def promptly : Edit := ⟨.unbounded, .zero, default, rfl⟩

/-- A workspace that was being created is created after two rounds without the label. -/
theorem creation_goes_on_after_interlude :
    ∃ o r r', (stored (workspaceIn "creating" ["creating"])).objects.get? ⟨some "t", "w"⟩ =
        some o ∧ o.toResource = .ok r ∧
      relabelled promptly promptly [calm, calm] ⟨some "t", "w"⟩ o "t"
        (stored (workspaceIn "creating" ["creating"])) = some r' ∧
      Kind.workspace.handler.rule? r' = Kind.workspace.handler.rule? r := by
  have found : (stored (workspaceIn "creating" ["creating"])).objects.get? ⟨some "t", "w"⟩ = some
      ((workspaceIn "creating" ["creating"]).restamp (some "1") (some default) none) := by rfl
  obtain ⟨r', back, harmless, -⟩ :=
    interlude_harmless_iff (.inr rfl) _ rfl found rfl promptly promptly [calm, calm]
  refine ⟨_, _, r', found, rfl, back, harmless.mpr ?_⟩
  exact .inr (.inr (.inl (by decide)))

/-- A workspace that failed to be created was to be created again; after one round without the
label it is left alone. -/
theorem failed_workspace_forgotten :
    ∃ o r r', (stored (workspaceIn "error" ["creating", "error"])).objects.get? ⟨some "t", "w"⟩ =
        some o ∧ o.toResource = .ok r ∧
      relabelled promptly promptly [calm] ⟨some "t", "w"⟩ o "t"
        (stored (workspaceIn "error" ["creating", "error"])) = some r' ∧
      (Kind.workspace.handler.rule? r).map (·.name) = some "retry_create" ∧
      Kind.workspace.handler.rule? r' = none := by
  refine ⟨_, _, _, rfl, rfl, rfl, ?_, ?_⟩
  · rfl
  · rfl

end Round

end Reconciler
