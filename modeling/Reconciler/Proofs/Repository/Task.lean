import Reconciler.Proofs.Mapping
import Reconciler.Proofs.Store.Listing
import Reconciler.Proofs.Store.Updates
import Reconciler.Store.Repository

/-!
Clients of a repository. Each of its operations is one call on the store and a reading of the
answer, so that what any number of clients do is one list of jobs, and the store is left as by the
requests that these make (`afterJobs_eq`). `saved` says what becomes of a resource that is written.
-/

set_option autoImplicit false

namespace Reconciler

variable {k : Kind}

namespace Repository

/-- A resource is written as a new one or in the place of one that was read. -/
inductive Saving where
  | create
  | update

inductive Task (k : Kind) where
  | list (query : ResourceQuery)
  | load (place : ResourceRef)
  | save (how : Saving) (r : Resource k)
  | delete (r : Resource k)

namespace Task

@[reducible] def Reply : Task k → Type
  | .list _ => Page (Resource k)
  | .load _ => Resource k
  | .save .. => Resource k
  | .delete _ => Unit

abbrev Answer (t : Task k) : Type := Except Error t.Reply

def dialogue : (t : Task k) → StoreDialogue k t.Answer
  | .list query => Repository.list query
  | .load place => Repository.load place
  | .save .create r => Repository.create r
  | .save .update r => Repository.update r
  | .delete r => Repository.delete r

def call : Task k → StoreCall k
  | .list query => .list query.toListQuery
  | .load place => .get (.ofReference place)
  | .save .create r => .create (.ofResource r)
  | .save .update r => .replace (.ofResource r)
  | .delete r => .delete (.ofReference r.reference) (some r.metadata.version)

def read : (t : Task k) → t.call.Answer → t.Answer
  | .list _, answer => Except.bind answer fun page => page.mapM Object.toResource
  | .load _, answer => Except.bind answer Object.toResource
  | .save .create _, answer => Except.bind answer Object.toResource
  | .save .update _, answer => Except.bind answer Object.toResource
  | .delete _, answer => answer

theorem ask_eq {α : Type} {c : StoreCall k} {next next' : c.Answer → StoreDialogue k α}
    (found : ∀ x, next (.ok x) = next' (.ok x)) (failed : ∀ e, next (.error e) = next' (.error e)) :
    (.ask c next : StoreDialogue k α) = .ask c next' := by
  congr 1
  funext answer
  cases answer with
  | ok x => exact found x
  | error e => exact failed e

theorem dialogue_eq (t : Task k) :
    t.dialogue = .ask t.call fun answer => .done (t.read answer) := by
  cases t with
  | list query => apply ask_eq <;> exact fun _ => rfl
  | load place => apply ask_eq <;> exact fun _ => rfl
  | save how r => cases how <;> apply ask_eq <;> exact fun _ => rfl
  | delete r => rfl

end Task

/-- A task under a context of its own, at a moment of the clock. -/
structure Job (k : Kind) where
  ctx : Context
  clock : Moment
  now : Instant
  task : Task k

def Job.request (j : Job k) : Request k := .call j.ctx j.clock j.now j.task.call

end Repository

open Repository (Job Saving Task)

namespace MemoryStore

def fulfil (s : MemoryStore k) (j : Job k) : j.task.Answer × MemoryStore k :=
  j.task.dialogue.run (fun c s => s.performUnder j.ctx j.clock j.now c) s

theorem fulfil_eq (s : MemoryStore k) (j : Job k) :
    s.fulfil j = (j.task.read (s.serve j.request).1, s.after j.request) := by
  rw [fulfil, Task.dialogue_eq]
  rfl

def afterJobs (s : MemoryStore k) (js : List (Job k)) : MemoryStore k :=
  js.foldl (fun s j => (s.fulfil j).2) s

@[simp] theorem afterJobs_nil (s : MemoryStore k) : s.afterJobs [] = s := rfl

@[simp] theorem afterJobs_cons (s : MemoryStore k) (j : Job k) (js : List (Job k)) :
    s.afterJobs (j :: js) = (s.fulfil j).2.afterJobs js := rfl

theorem afterJobs_eq (s : MemoryStore k) (js : List (Job k)) :
    s.afterJobs js = s.afterAll (js.map Job.request) := by
  induction js generalizing s with
  | nil => rfl
  | cons j js ih =>
    rw [afterJobs_cons, fulfil_eq, ih]
    rfl

section Plain

variable {α β : Type} (s : MemoryStore k)

/-- A computation that does not fail because an object stands for no resource. -/
def Plain (x : Except Error α) : Prop :=
  ∀ kind name reason, x ≠ .error (.conversion kind name reason)

theorem plain_bind {x : Except Error α} {f : α → Except Error β} (first : Plain x)
    (rest : ∀ a, Plain (f a)) : Plain (x >>= f) := by
  cases x with
  | error e =>
    intro kind name reason failed
    exact first kind name reason (congrArg Except.error (Except.error.inj failed))
  | ok a => exact rest a

theorem plain_get (key : ObjectKey) : Plain (s.get key) := by
  intro kind name reason failed
  unfold get at failed
  split at failed <;> cases failed

theorem plain_writeKey (o : Object k) : Plain (writeKey o) := by
  intro kind name reason failed
  unfold writeKey at failed
  split at failed <;> cases failed

theorem plain_create (now : Instant) (o : Object k) : Plain (s.create now o) := by
  apply plain_bind (plain_writeKey o)
  intro key kind name reason failed
  split at failed <;> cases failed

theorem plain_replace (o : Object k) : Plain (s.replace o) := by
  apply plain_bind (plain_writeKey o)
  intro key
  apply plain_bind (plain_get s key)
  intro current kind name reason failed
  split at failed
  · cases failed
  · split at failed <;> cases failed

end Plain

section Put

variable (s : MemoryStore k) (ctx : Context) (clock : Moment) (now : Instant) (how : Saving)
  (r : Resource k)

def put : Except Error (Object k) × MemoryStore k :=
  match how with
  | .create => s.performUnder ctx clock now (.create (.ofResource r))
  | .update => s.performUnder ctx clock now (.replace (.ofResource r))

theorem fulfil_save : s.fulfil ⟨ctx, clock, now, .save how r⟩ =
    (Except.bind (s.put ctx clock now how r).1 Object.toResource,
      (s.put ctx clock now how r).2) := by
  rw [fulfil_eq]
  cases how <;> rfl

/-- The place of a resource is free, or has the version that the resource was read at. -/
def Fits (s : MemoryStore k) (r : Resource k) : Saving → Prop
  | .create => s.objects.get? (.ofReference r.reference) = none
  | .update => r.metadata.version ≠ "" ∧
      s.version? (.ofReference r.reference) = some r.metadata.version

/-- What the store does with a resource that is written: it refuses it and stays as it is, or keeps
its object under the key of its reference. -/
inductive Put (s : MemoryStore k) (r : Resource k) (how : Saving) :
    Except Error (Object k) × MemoryStore k → Prop
  | refused (e : Error) (plain : ∀ kind name reason, e ≠ .conversion kind name reason) :
      Put s r how (.error e, s)
  | taken (named : r.metadata.name ≠ "") (fits : s.Fits r how) (created deleted : Option Instant) :
      Put s r how
        (.ok ((Object.ofResource r).restamp (some (natText (s.lastVersion + 1))) created deleted),
        (s.write (.ofReference r.reference) ((Object.ofResource r).restamp none created deleted)).2)

theorem version_eq_some {r : Resource k} {v : String} : (Object.ofResource r).version = some v ↔
    r.metadata.version ≠ "" ∧ r.metadata.version = v := by
  have named : (Object.ofResource r).version =
      if r.metadata.version = "" then none else some r.metadata.version := rfl
  rw [named]
  split <;> simp_all

theorem put_cases : Put s r how (s.put ctx clock now how r) := by
  cases alive : ctx.check clock with
  | error i =>
    have answered : s.put ctx clock now how r = (.error i.toError, s) := by
      cases how <;> exact performUnder_of_ended now s _ alive
    rw [answered]
    refine .refused _ fun kind name reason same => ?_
    cases i <;> cases same
  | ok _ =>
    cases how with
    | create =>
      rw [put, performUnder_of_live now s _ alive, perform]
      cases result : s.create now (.ofResource r) with
      | error e =>
        refine .refused e fun kind name reason same => ?_
        exact plain_create s now _ kind name reason (same ▸ result)
      | ok written =>
        obtain ⟨named, absent, rfl⟩ := create_eq_ok.mp result
        have fits : s.Fits r .create := absent
        exact .taken named fits (some now) none
    | update =>
      rw [put, performUnder_of_live now s _ alive, perform]
      cases result : s.replace (.ofResource r) with
      | error e =>
        refine .refused e fun kind name reason same => ?_
        exact plain_replace s _ kind name reason (same ▸ result)
      | ok written =>
        obtain ⟨named, current, found, told, fresh, rfl⟩ := replace_eq_ok.mp result
        -- An empty version is none in the object, and the store refuses objects without one.
        obtain ⟨v, version⟩ := Option.isSome_iff_exists.mp told
        obtain ⟨some, rfl⟩ := version_eq_some.mp version
        have here : s.objects.get? (.ofReference r.reference) = Option.some current := found
        have fits : s.Fits r .update := by
          refine ⟨some, ?_⟩
          rw [version?, here, Option.bind_some, ← fresh, version]
        exact .taken named fits current.metadata.creationTimestamp
          current.metadata.deletionTimestamp

theorem put_of_fits {s : MemoryStore k} {ctx : Context} {clock : Moment} {how : Saving}
    {r : Resource k} (live : ctx.check clock = .ok ()) (named : r.metadata.name ≠ "")
    (fits : s.Fits r how) : ∃ created deleted, s.put ctx clock now how r =
      (.ok ((Object.ofResource r).restamp (some (natText (s.lastVersion + 1))) created deleted),
        (s.write (.ofReference r.reference)
          ((Object.ofResource r).restamp none created deleted)).2) := by
  cases how with
  | create =>
    have accepted : s.create now (.ofResource r) =
        .ok (s.write (.ofReference r.reference) (created now (.ofResource r))) :=
      create_eq_ok.mpr ⟨named, fits, rfl⟩
    refine ⟨some now, none, ?_⟩
    rw [put, performUnder_of_live now s _ live, perform, accepted]
    rfl
  | update =>
    obtain ⟨some, stored⟩ := fits
    obtain ⟨current, found, fresh⟩ := Option.bind_eq_some_iff.mp stored
    have version := version_eq_some.mpr ⟨some, rfl⟩
    have accepted : s.replace (.ofResource r) =
        .ok (s.write (.ofReference r.reference) (replaced current (.ofResource r))) :=
      replace_eq_ok.mpr
        ⟨named, current, found, by rw [version]; rfl, version.trans fresh.symm, rfl⟩
    refine ⟨current.metadata.creationTimestamp, current.metadata.deletionTimestamp, ?_⟩
    rw [put, performUnder_of_live now s _ live, perform, accepted]
    rfl

theorem save_cases :
    (∃ e, (∀ kind name reason, e ≠ .conversion kind name reason) ∧
      s.fulfil ⟨ctx, clock, now, .save how r⟩ = (.error e, s)) ∨
    r.metadata.name ≠ "" ∧ s.Fits r how ∧ ∃ created deleted,
      s.fulfil ⟨ctx, clock, now, .save how r⟩ =
        ((Object.ofResource r).toResource.map
            (·.restamp (natText (s.lastVersion + 1)) created deleted),
          (s.write (.ofReference r.reference)
            ((Object.ofResource r).restamp none created deleted)).2) := by
  rw [fulfil_save]
  have put := s.put_cases ctx clock now how r
  generalize s.put ctx clock now how r = answered at put
  cases put with
  | refused e plain => exact .inl ⟨e, plain, rfl⟩
  | taken named fits created deleted =>
    refine .inr ⟨named, fits, created, deleted, ?_⟩
    rw [Except.bind, Object.toResource_restamp_eq]
    rfl

theorem fulfil_delete : s.fulfil ⟨ctx, clock, now, .delete r⟩ =
    s.performUnder ctx clock now
      (.delete (.ofReference r.reference) (some r.metadata.version)) := by
  rw [fulfil_eq]
  rfl

end Put

/-- The store that a job leaves, told by its task: it is what it was, or it has one object more or
another one under a key, or one less. -/
inductive Left (s : MemoryStore k) : Task k → MemoryStore k → Prop
  | same (t : Task k) : Left s t s
  | kept (how : Saving) {r : Resource k} (named : r.metadata.name ≠ "")
      (created deleted : Option Instant) :
      Left s (.save how r)
        (s.write (.ofReference r.reference) ((Object.ofResource r).restamp none created deleted)).2
  | removed (r : Resource k) :
      Left s (.delete r) { s with objects := s.objects.erase (.ofReference r.reference) }

theorem after_of_reading {s : MemoryStore k} {c : StoreCall k} (ctx : Context) (clock : Moment)
    (now : Instant) (reading : (s.perform now c).2 = s) :
    s.after (.call ctx clock now c) = s := by
  rcases s.after_call ctx clock now c with same | performed
  · exact same
  · exact performed.trans reading

theorem left_of_fulfil (s : MemoryStore k) (j : Job k) : Left s j.task (s.fulfil j).2 := by
  obtain ⟨ctx, clock, now, task⟩ := j
  cases task with
  | list query =>
    have same : (s.fulfil ⟨ctx, clock, now, .list query⟩).2 = s := by
      rw [fulfil_eq]
      exact after_of_reading ctx clock now rfl
    rw [same]
    exact .same _
  | load place =>
    have same : (s.fulfil ⟨ctx, clock, now, .load place⟩).2 = s := by
      rw [fulfil_eq]
      exact after_of_reading ctx clock now rfl
    rw [same]
    exact .same _
  | save how r =>
    rcases s.save_cases ctx clock now how r with
      ⟨e, -, answered⟩ | ⟨named, -, created, deleted, answered⟩
    · rw [answered]
      exact .same _
    · rw [answered]
      exact .kept how named created deleted
  | delete r =>
    rcases s.after_delete ctx clock now (.ofReference r.reference) (some r.metadata.version) with
      same | ⟨t, removed, after⟩
    · rw [fulfil_delete, show (s.performUnder ctx clock now _).2 = s from same]
      exact .same _
    · obtain ⟨-, -, -, rfl⟩ := delete_eq_ok.mp removed
      rw [fulfil_delete, show (s.performUnder ctx clock now _).2 = _ from after]
      exact .removed r

end MemoryStore

section Answers

variable {α β ε : Type} {f : α → Except ε β}

theorem bind_eq_ok {x : Except ε α} {b : β} :
    x >>= f = .ok b ↔ ∃ a, x = .ok a ∧ f a = .ok b := by
  cases x <;> simp [bind, Except.bind]

namespace Page

theorem of_mem_mapM {items : List α} {items' : List β} (mapped : items.mapM f = .ok items') {b : β}
    (shown : b ∈ items') : ∃ a ∈ items, f a = .ok b := by
  induction items generalizing items' with
  | nil =>
    obtain rfl := Except.ok.inj mapped
    cases shown
  | cons a rest ih =>
    rw [List.mapM_cons] at mapped
    obtain ⟨b', first, mapped⟩ := bind_eq_ok.mp mapped
    obtain ⟨rest', others, mapped⟩ := bind_eq_ok.mp mapped
    obtain rfl := Except.ok.inj mapped
    rcases List.mem_cons.mp shown with rfl | shown
    · exact ⟨a, List.mem_cons_self, first⟩
    · obtain ⟨a', listed, here⟩ := ih others shown
      exact ⟨a', List.mem_cons_of_mem a listed, here⟩

theorem of_mapM_eq_ok {page : Page α} {page' : Page β} (mapped : page.mapM f = .ok page') {b : β}
    (shown : b ∈ page'.items) : ∃ a ∈ page.items, f a = .ok b := by
  unfold Page.mapM at mapped
  cases converted : page.items.mapM f with
  | error e =>
    rw [converted] at mapped
    cases mapped
  | ok items =>
    rw [converted] at mapped
    obtain rfl := Except.ok.inj mapped
    exact of_mem_mapM converted shown

end Page

end Answers

namespace MemoryStore

theorem fulfil_load (s : MemoryStore k) (ctx : Context) (clock : Moment) (now : Instant)
    (place : ResourceRef) : (s.fulfil ⟨ctx, clock, now, .load place⟩).1 =
      Except.bind (s.performUnder ctx clock now (.get (.ofReference place))).1
        Object.toResource := by
  rw [fulfil_eq]
  rfl

theorem load_eq_ok {s : MemoryStore k} {ctx : Context} {clock : Moment} {now : Instant}
    {place : ResourceRef} {r : Resource k} :
    (s.fulfil ⟨ctx, clock, now, .load place⟩).1 = .ok r ↔ ctx.check clock = .ok () ∧
      ∃ o, s.objects.get? (.ofReference place) = some o ∧ o.toResource = .ok r := by
  rw [fulfil_load]
  apply bind_eq_ok.trans
  constructor
  · rintro ⟨o, answered, read⟩
    obtain ⟨live, found⟩ := performUnder_eq_ok.mp answered
    exact ⟨live, o, get_eq_ok.mp found, read⟩
  · rintro ⟨live, o, found, read⟩
    exact ⟨o, performUnder_eq_ok.mpr ⟨live, get_eq_ok.mpr found⟩, read⟩

theorem load_of_absent {s : MemoryStore k} {ctx : Context} {clock : Moment} (now : Instant)
    {place : ResourceRef} (live : ctx.check clock = .ok ())
    (absent : s.objects.get? (.ofReference place) = none) :
    (s.fulfil ⟨ctx, clock, now, .load place⟩).1 = .error (.missing k (.ofReference place)) := by
  rw [fulfil_load, performUnder_of_live now s _ live, perform, get_of_none absent]
  rfl

theorem of_list_eq_ok {s : MemoryStore k} {ctx : Context} {clock : Moment} {now : Instant}
    {query : ResourceQuery} {page : Page (Resource k)}
    (listed : (s.fulfil ⟨ctx, clock, now, .list query⟩).1 = .ok page) {r : Resource k}
    (shown : r ∈ page.items) : ∃ key o, s.objects.get? key = some o ∧
      query.toListQuery.Wants key o ∧ o.toResource = .ok r := by
  have answered : (s.fulfil ⟨ctx, clock, now, .list query⟩).1 =
      Except.bind (s.performUnder ctx clock now (.list query.toListQuery)).1
        fun page => page.mapM Object.toResource := by
    rw [fulfil_eq]
    rfl
  obtain ⟨objects, told, converted⟩ := bind_eq_ok.mp (answered.symm.trans listed)
  obtain ⟨-, found⟩ := performUnder_eq_ok.mp told
  obtain ⟨o, here, read⟩ := Page.of_mapM_eq_ok converted shown
  obtain ⟨key, stored, wanted⟩ := of_mem_list found here
  exact ⟨key, o, stored, wanted, read⟩

end MemoryStore

/-- Metadata that can be read back: there is a tenant, and the last change, if one is told, was
at a time of a clock in a year of four digits. -/
structure Metadata.Readable (m : Metadata) : Prop where
  owned : m.tenant ≠ ""
  clocked : ∀ t, m.modifiedAt = some t → t.nanos < 2 * Instant.nanosPerSecond
  dated : ∀ t, m.modifiedAt = some t → 0 ≤ t.year ∧ t.year ≤ 9999

theorem Metadata.Readable.of_unmodified {m : Metadata} (owned : m.tenant ≠ "")
    (unmodified : m.modifiedAt = none) : m.Readable := by
  refine ⟨owned, ?_, ?_⟩ <;> simp [unmodified]

theorem Metadata.Readable.settled {m : Metadata} (readable : m.Readable) {version : String}
    {created deleted : Option Instant} :
    (m.settled.stored.restamp version created deleted).Readable := by
  refine ⟨readable.owned, ?_, ?_⟩
  · intro t told
    obtain ⟨t', modified, rfl⟩ := Option.map_eq_some_iff.mp told
    exact (Instant.shown_settled (readable.clocked t' modified)).nanos_lt
  · intro t told
    obtain ⟨t', modified, rfl⟩ := Option.map_eq_some_iff.mp told
    rw [Instant.year_settled]
    exact readable.dated t' modified

namespace Object

variable {r : Resource k}

theorem toResource_of_readable (named : r.metadata.name ≠ "") (readable : r.metadata.Readable) :
    (ofResource r).toResource = .ok r.settled.stored := by
  rw [← ofResource_settled]
  apply toResource_ofResource
  exact Metadata.storable_settled named readable.owned fun t told =>
    ⟨readable.clocked t told, readable.dated t told⟩

theorem readable_of_toResource {r' : Resource k}
    (clocked : ∀ t, r.metadata.modifiedAt = some t → t.nanos < 2 * Instant.nanosPerSecond)
    (read : (ofResource r).toResource = .ok r') : r.metadata.Readable where
  owned := by
    have label : (ofResource r).metadata.label? Mapping.tenantLabel = some r.metadata.tenant :=
      Mapping.get?_writeLabels r.metadata _
    obtain ⟨-, -, owned, -⟩ := Mapping.of_readMetadata (toResource_eq_ok.mp read).1
    rwa [← Option.some.inj ((label?_of_read read).symm.trans label)]
  clocked := clocked
  dated t told := by
    by_contra far
    exact toResource_ofResource_of_far told far _ _ _ r' read

end Object

end Reconciler
