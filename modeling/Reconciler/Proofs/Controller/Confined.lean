import Reconciler.Proofs.Controller.Undisturbed

/-!
What a reconcile leaves alone. It reads an object under one key and writes under the key that the
labels of the object name, which may be another one; that its neighbours are safe all the same
rests on the version it writes with, which no other object has. Of its own object it changes what
the engine owns, and nothing that a user wrote.
-/

set_option autoImplicit false

namespace Reconciler

open Controller (Stage)
open Mapping (userEntries tenantLabel workspaceLabel regionLabel)

variable {k : Kind} {π : Type}

/-- The provider leaves the metadata and the spec of resources alone. -/
def Service.Discreet (service : Service k π) : Prop :=
  ∀ {op r p r' outcome p'}, service.serves op r p r' outcome p' →
    r'.metadata = r.metadata ∧ r'.spec = r.spec

theorem Service.Discreet.placing {service : Service k π} (discreet : service.Discreet) :
    service.Placing := by
  intro op r p r' outcome p' served
  exact (discreet served).1

theorem Service.Sparing.discreet {service : Service k π} (sparing : service.Sparing) :
    service.Discreet := by
  intro op r p r' outcome p' served
  obtain rfl := sparing served
  exact ⟨rfl, rfl⟩

namespace Resource

structure SameOrder (r r' : Resource k) : Prop where
  metadata : r'.metadata = r.metadata
  spec : r'.spec = r.spec

theorem SameOrder.trans {r r' r'' : Resource k} (first : r.SameOrder r')
    (second : r'.SameOrder r'') : r.SameOrder r'' :=
  ⟨second.metadata.trans first.metadata, second.spec.trans first.spec⟩

end Resource

structure Rule.Modest (rule : Rule k Operation Write) : Prop where
  success : ∀ now (called : Resource k), called.SameOrder (rule.onSuccess now called)
  failure : ∀ e now (called : Resource k), called.SameOrder (rule.onFailure e now called)

theorem Rule.modest_of_rule? {r : Resource k} {rule : Rule k Operation Write}
    (chosen : k.handler.rule? r = some rule) : rule.Modest := by
  obtain ⟨success, failure⟩ := Rule.placing_of_rule? chosen
  cases Next.of_rule? chosen with
  | entering enters =>
    exact ⟨fun now called => ⟨success now called, rfl⟩,
      fun e now called => ⟨failure e now called, rfl⟩⟩
  | @activating name applies op asks lasting =>
    exact ⟨fun now called => ⟨success now called, Resource.spec_noting op called⟩,
      fun e now called => ⟨failure e now called, rfl⟩⟩
  | deleting asks =>
    exact ⟨fun now called => ⟨success now called, rfl⟩,
      fun e now called => ⟨failure e now called, rfl⟩⟩

/-- The resource that a reconcile has at hand at a stage, if any, is wanted as the one that it
has read. -/
def Minding (r₀ : Resource k) : Stage k → Prop
  | .choosing r | .writing _ _ r => r₀.SameOrder r
  | .asking rule r => r₀.SameOrder r ∧ rule.Modest
  | .reading | .recording _ | .finished _ => True

namespace Minding

variable {service : Service k π} {ctx : Context} {requeueAfter : Duration} {wall : Instant}
  {key : ObjectKey} {w w' : World k π} {r₀ r called : Resource k} {rule : Rule k Operation Write}

theorem of_finished {st : Stage k} (ended : ∃ result, st = .finished result) :
    Minding r₀ st := by
  obtain ⟨result, rfl⟩ := ended
  exact trivial

theorem afterCheck (order : r₀.SameOrder r) (alive : Except Interruption Unit) :
    Minding r₀ (Stage.afterCheck r alive) := by
  cases alive with
  | error i => exact trivial
  | ok _ =>
    cases chosen : k.handler.rule? r with
    | none =>
      rw [Stage.afterCheck_none chosen]
      exact trivial
    | some rule =>
      rw [Stage.afterCheck_some chosen]
      exact ⟨order, Rule.modest_of_rule? chosen⟩

theorem afterCall (order : r₀.SameOrder called) (modest : rule.Modest) (outcome : CallOutcome) :
    Minding r₀ (Stage.afterCall requeueAfter wall rule r (called, .ok outcome)) := by
  by_cases state : called.rawState = r.rawState
  · rw [Stage.afterCall_of_same outcome state]
    cases outcome with
    | ok _ => exact order.trans (modest.success wall called)
    | error e =>
      cases e with
      | stillProcessing => exact trivial
      | failed provider operation reason => exact order.trans (modest.failure _ wall called)
      | unknownResource provider name => exact order.trans (modest.failure _ wall called)
  · rw [Stage.afterCall_of_changed outcome state]
    exact trivial

theorem afterRead (reads : ∀ {o r}, w.store.objects.get? key = some o → o.toResource = .ok r →
      r₀.SameOrder r) {found : (Query.read (.get key) : Query k).Answer}
    {happenings : List (Happening k)}
    (answers : w.Answers service ctx (.read (.get key)) found happenings w') :
    Minding r₀ (Stage.afterRead found) := by
  cases answers with
  | read access =>
    cases found with
    | error e => exact of_finished (Stage.afterRead_error e)
    | ok o =>
      cases read : o.toResource with
      | ok r =>
        rw [Stage.afterRead_ok read]
        exact reads (access.read.2 o rfl) read
      | error e =>
        rw [Stage.afterRead_unreadable read]
        exact trivial

theorem step (discreet : service.Discreet) {st : Stage k} {q : Query k}
    {next : q.Answer → Stage k} {answer : q.Answer} {happenings : List (Happening k)}
    (reads : st = .reading → ∀ {o r}, w.store.objects.get? key = some o →
      o.toResource = .ok r → r₀.SameOrder r)
    (minding : Minding r₀ st) (asks : Stage.Asks requeueAfter wall key st q next)
    (answers : w.Answers service ctx q answer happenings w') : Minding r₀ (next answer) := by
  cases asks with
  | reading => exact afterRead (reads rfl) answers
  | recording e => exact trivial
  | choosing r => exact afterCheck minding answer
  | calling r call =>
    obtain ⟨order, modest⟩ := minding
    cases answers with
    | refused t i r' later ended => exact trivial
    | abandoned t t' i r' p later waited live leaves => exact trivial
    | completed t t' r' outcome p later waited live serves =>
      obtain ⟨metadata, spec⟩ := discreet serves
      exact afterCall (order.trans ⟨metadata, spec⟩) modest outcome
  | passing r call =>
    obtain ⟨order, modest⟩ := minding
    cases answers with
    | checked t later =>
      cases ctx.check t with
      | error i => exact trivial
      | ok _ => exact afterCall order modest (.ok ())
  | updating again r => exact trivial
  | deleting again r => exact trivial
  | keeping again r => exact trivial

end Minding

/-- Users find in the second object what they know of the first: its name, its times, its
place, what is wanted of it and their own labels and annotations. -/
structure Object.SameToUsers (o o' : Object k) : Prop where
  name : o'.metadata.name = o.metadata.name
  created : o'.metadata.creationTimestamp = o.metadata.creationTimestamp
  deleted : o'.metadata.deletionTimestamp = o.metadata.deletionTimestamp
  tenant : o'.metadata.label? tenantLabel = o.metadata.label? tenantLabel
  workspace : o'.metadata.label? workspaceLabel = o.metadata.label? workspaceLabel
  region : o'.metadata.label? regionLabel = o.metadata.label? regionLabel
  spec : o'.spec = o.spec
  labels : userEntries o'.metadata.labelMap = userEntries o.metadata.labelMap
  annotations : userEntries (o'.metadata.annotations.getD ∅) =
    userEntries (o.metadata.annotations.getD ∅)

theorem Object.SameToUsers.refl (o : Object k) : o.SameToUsers o :=
  ⟨rfl, rfl, rfl, rfl, rfl, rfl, rfl, rfl, rfl⟩

theorem MemoryStore.sameToUsers_rewritten {o : Object k} {r r' : Resource k}
    (read : o.toResource = .ok r) (order : r.SameOrder r') (s : MemoryStore k) :
    o.SameToUsers (s.rewritten o r') := by
  obtain ⟨metadata, spec⟩ := order
  obtain ⟨reads, -, wanted⟩ := Object.toResource_eq_ok.mp read
  have tenant := Object.label?_of_read read
  obtain ⟨name, -⟩ := Mapping.of_readMetadata reads
  obtain ⟨-, _, _, -, -, told⟩ := Mapping.readMetadata_eq_ok.mp reads
  have workspace : r.metadata.workspace = o.metadata.label? Mapping.workspaceLabel := by rw [told]
  have region : r.metadata.region = o.metadata.label? Mapping.regionLabel := by rw [told]
  have written : (s.rewritten o r').metadata = (Mapping.writeMetadata r.metadata).restamp
      (some (natText (s.lastVersion + 1))) o.metadata.creationTimestamp
      o.metadata.deletionTimestamp := by
    rw [← metadata]
    rfl
  have place (label : String) : (s.rewritten o r').metadata.label? label =
      (Mapping.writeLabels r.metadata).get? label := by
    rw [written]
    rfl
  constructor
  case name => rw [written, name]; rfl
  case created => rfl
  case deleted => rfl
  case tenant => exact (place _).trans ((Mapping.get?_writeLabels r.metadata _).trans tenant.symm)
  case workspace => exact (place _).trans ((Mapping.get?_writeLabels r.metadata _).trans workspace)
  case region => exact (place _).trans ((Mapping.get?_writeLabels r.metadata _).trans region)
  case spec =>
    calc (s.rewritten o r').spec
      _ = k.mapSpec Reference.resource r'.spec := rfl
      _ = k.mapSpec Reference.resource (k.mapSpec Reference.plain o.spec) := by rw [spec, wanted]
      _ = k.mapSpec (fun m => m) o.spec := Kind.mapSpec_mapSpec _ _ _
      _ = o.spec := Kind.mapSpec_id _
  case labels =>
    calc userEntries (s.rewritten o r').metadata.labelMap
      _ = userEntries (Mapping.writeLabels r.metadata) := by rw [written]; rfl
      _ = userEntries r.metadata.labels := Mapping.userEntries_writeLabels _
      _ = userEntries o.metadata.labelMap := by rw [told, Mapping.userEntries_userEntries]
  case annotations =>
    calc userEntries ((s.rewritten o r').metadata.annotations.getD ∅)
      _ = userEntries (Mapping.writeAnnotations r.metadata) := by rw [written]; rfl
      _ = userEntries r.metadata.annotations := Mapping.userEntries_writeAnnotations _
      _ = userEntries (o.metadata.annotations.getD ∅) := by
        rw [told, Mapping.userEntries_userEntries]

/-- What a reconcile of an object that stands for a resource holds at a stage, of the store it
began with and of the one there is. -/
structure Confined (key : ObjectKey) (o : Object k) (r₀ : Resource k) (s s' : MemoryStore k)
    (st : Stage k) : Prop where
  undisturbed : Undisturbed key s s' st
  minding : Minding r₀ st
  same : ∀ {o'}, s'.objects.get? key = some o' → o.SameToUsers o'

namespace Confined

variable {service : Service k π} {ctx : Context} {requeueAfter : Duration} {wall : Instant}
  {key : ObjectKey} {o : Object k} {r₀ : Resource k} {s : MemoryStore k} {w w' : World k π}
  {st : Stage k} {q : Query k} {next : q.Answer → Stage k} {answer : q.Answer}
  {happenings : List (Happening k)}

theorem start (found : s.objects.get? key = some o) : Confined key o r₀ s s .reading where
  undisturbed := rfl
  minding := trivial
  same left := by
    obtain rfl := Option.some.inj (found.symm.trans left)
    exact .refl o

theorem same_of_answer (sound : s.Sound) (found : s.objects.get? key = some o)
    (read : o.toResource = .ok r₀) (confined : Confined key o r₀ s w.store st)
    (asks : Stage.Asks requeueAfter wall key st q next)
    (answers : w.Answers service ctx q answer happenings w') {o' : Object k}
    (left : w'.store.objects.get? key = some o') : o.SameToUsers o' := by
  cases asks with
  | reading =>
    cases answers with
    | read access => exact confined.same (access.read.1 ▸ left)
  | recording e =>
    -- Failures are recorded only of objects that stand for no resource.
    obtain ⟨-, o'', found', unread⟩ := confined.undisturbed
    obtain rfl := Option.some.inj (found.symm.trans found')
    rw [read] at unread
    cases unread
  | choosing r =>
    cases answers with
    | checked t later => exact confined.same left
  | calling r call =>
    cases answers with
    | refused t i r' later ended => exact confined.same left
    | abandoned t t' i r' p later waited live leaves => exact confined.same left
    | completed t t' r' outcome p later waited live serves => exact confined.same left
  | passing r call =>
    cases answers with
    | checked t later => exact confined.same left
  | updating again r' =>
    obtain ⟨rfl, -⟩ := confined.undisturbed
    have order : r₀.SameOrder r' := confined.minding
    cases answers with
    | commit access =>
      rcases access.rewrites (.of_get? sound found) read order.metadata with
        same | ⟨-, stored⟩
      · exact confined.same (same ▸ left)
      · rw [stored, MemoryStore.get?_rewritten] at left
        obtain rfl := Option.some.inj left
        exact MemoryStore.sameToUsers_rewritten read order w.store
  | deleting again r' =>
    obtain ⟨rfl, -⟩ := confined.undisturbed
    have order : r₀.SameOrder r' := confined.minding
    cases answers with
    | commit access =>
      rcases access.removes (.of_get? sound found) read order.metadata with same | ⟨-, gone⟩
      · exact confined.same (same ▸ left)
      · rw [gone, SortedMap.get?_erase_self] at left
        cases left
  | keeping again r' =>
    cases answers with
    | checked t later => exact confined.same left

theorem step (discreet : service.Discreet) (sound : s.Sound)
    (found : s.objects.get? key = some o) (read : o.toResource = .ok r₀)
    (confined : Confined key o r₀ s w.store st)
    (asks : Stage.Asks requeueAfter wall key st q next)
    (answers : w.Answers service ctx q answer happenings w') :
    Confined key o r₀ s w'.store (next answer) where
  undisturbed := confined.undisturbed.step discreet.placing sound asks answers
  minding := by
    refine confined.minding.step discreet ?_ asks answers
    rintro rfl o' r' found' read'
    have before : w.store = s := confined.undisturbed
    obtain rfl := Option.some.inj (found.symm.trans (before ▸ found'))
    obtain rfl := Except.ok.inj (read.symm.trans read')
    exact ⟨rfl, rfl⟩
  same := confined.same_of_answer sound found read asks answers

end Confined

/-- A volume of tenant `a`, and another one that is stored in the namespace of tenant `b` although
its labels name tenant `a`. -/
def World.misplaced : World .volume Dummy :=
  let o := Object.plainVolume
  let stray : Object .volume :=
    { o with metadata := { o.metadata with namespaceName := some "b" } }
  { plain with
    store := .afterAll .empty [.call .unbounded .zero default (.create o),
      .call .unbounded .zero default (.create stray)] }

namespace Visit

variable {service : Service k π} {ctx : Context} {requeueAfter : Duration} {wall : Instant}
  {key : ObjectKey} {w₀ w : World k π} {v : Visit k}

/-- At every moment of a reconcile in a world where nothing else happens, the objects under other
keys are what they were, wherever the labels of its own object say that it belongs; and of its
own object, if that stood for a resource and is still there, the reconcile has changed nothing
that users know of it. -/
theorem confined_to_its_own (discreet : service.Discreet) (past : List (Request k))
    (stored : w₀.store = MemoryStore.empty.afterAll past)
    (run : Run service (w₀, start ctx requeueAfter wall key) (w, v)) :
    (∀ key' ≠ key, w.store.objects.get? key' = w₀.store.objects.get? key') ∧
      ∀ {o r o'}, w₀.store.objects.get? key = some o → o.toResource = .ok r →
        w.store.objects.get? key = some o' → o.SameToUsers o' := by
  have sound : w₀.store.Sound := stored ▸ MemoryStore.sound_empty.afterAll past
  constructor
  · intro key' apart
    exact (run.treated discreet.placing sound).get?_of_ne apart
  · intro o r o' found read left
    obtain ⟨st, -, -, confined⟩ := run.stage
      (P := fun w _ st => Confined key o r w₀.store w.store st) (.start found)
      fun confined asks answers => confined.step discreet sound found read asks answers
    exact confined.same left

/-- The volume in the wrong namespace is told by its labels to belong where the other one is. Its
reconcile leaves that one alone, and a reconcile of the other one begins to create it and keeps
what its user wrote. -/
theorem stray_volume_harms_nobody :
    let w₀ := World.misplaced
    let here : ObjectKey := ⟨some "a", "v"⟩
    let astray : ObjectKey := ⟨some "b", "v"⟩
    (∃ w v o r, Run (Dummy.service .volume) (w₀, start .unbounded .zero default astray) (w, v) ∧
        v.Over ∧ w₀.store.objects.get? astray = some o ∧ o.toResource = .ok r ∧
        ObjectKey.ofReference r.reference = here ∧
        w.store.objects.get? here = w₀.store.objects.get? here) ∧
      ∃ w v o o', Run (Dummy.service .volume) (w₀, start .unbounded .zero default here) (w, v) ∧
        v.Over ∧ w.store.objects.get? astray = w₀.store.objects.get? astray ∧
        w₀.store.objects.get? here = some o ∧ w.store.objects.get? here = some o' ∧
        o'.lifecycle.state = some "creating" ∧ o.SameToUsers o' := by
  intro w₀ here astray
  have discreet : (Dummy.service .volume).Discreet :=
    Service.Sparing.discreet (Dummy.service_sparing .volume)
  have readable : ∀ key ∈ [here, astray], ∃ o r, w₀.store.objects.get? key = some o ∧
      o.toResource = .ok r ∧ ObjectKey.ofReference r.reference = here := by
    intro key listed
    have told : ∀ key ∈ [here, astray], (w₀.store.objects.get? key).bind (fun o =>
        o.toResource.toOption.map fun r => ObjectKey.ofReference r.reference) = some here := by
      decide +kernel
    obtain ⟨o, found, reads⟩ := Option.bind_eq_some_iff.mp (told key listed)
    obtain ⟨r, read, home⟩ := Option.map_eq_some_iff.mp reads
    cases told : o.toResource with
    | error e => simp [told, Except.toOption] at read
    | ok r' =>
      obtain rfl : r' = r := by simpa [told, Except.toOption] using read
      exact ⟨o, r', found, told, home⟩
  refine ⟨?_, ?_⟩
  · obtain ⟨v, ended, run⟩ := run_of_reconciled w₀ astray .unbounded default .zero
    obtain ⟨spared, -⟩ := confined_to_its_own discreet _ rfl run
    obtain ⟨o, r, found, read, home⟩ := readable astray (by simp)
    exact ⟨_, v, o, r, run, ended, found, read, home, spared here (by decide)⟩
  · obtain ⟨v, ended, run⟩ := run_of_reconciled w₀ here .unbounded default .zero
    obtain ⟨spared, same⟩ := confined_to_its_own discreet _ rfl run
    obtain ⟨o, r, found, read, -⟩ := readable here (by simp)
    have after : ((w₀.reconciled .unbounded default .zero here).store.objects.get? here).map
        (·.lifecycle.state) = some (some "creating") := by decide +kernel
    obtain ⟨o', left, creating⟩ := Option.map_eq_some_iff.mp after
    exact ⟨_, v, o, o', run, ended, spared astray (by decide), found, left, creating,
      same found read left⟩

end Visit

end Reconciler
