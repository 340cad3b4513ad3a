import Reconciler.Proofs.Repository.Task

/-!
A repository as a map of versioned resources. A job changes what is stored under a key just if it
succeeds in writing or removing there (`spared_iff_untouched`), so that what is known of versions
and copies in the store is known of the resources that clients hold.
-/

set_option autoImplicit false

namespace Reconciler

open Repository (Job Saving Task)

variable {k : Kind}

namespace Repository

def Task.subject? : Task k → Option ObjectKey
  | .list _ | .load _ => none
  | .save _ r | .delete r => some (.ofReference r.reference)

def Job.Readable (j : Job k) : Prop := ∀ how r, j.task = .save how r → r.metadata.Readable

end Repository

namespace MemoryStore

def grants (s : MemoryStore k) (j : Job k) : Bool := (s.fulfil j).1.isOk

/-- No job of a run succeeds in writing or removing under the key. -/
def Spared (key : ObjectKey) : MemoryStore k → List (Job k) → Prop
  | _, [] => True
  | s, j :: js =>
    ¬ (j.task.subject? = some key ∧ s.grants j = true) ∧ Spared key (s.fulfil j).2 js

section Jobs

variable {s : MemoryStore k} {key : ObjectKey} {j : Job k} {r : Resource k}

theorem grants_save (readable : r.metadata.Readable) (ctx : Context) (clock : Moment)
    (now : Instant) (how : Saving) : s.grants ⟨ctx, clock, now, .save how r⟩ =
      s.accepts (Job.request ⟨ctx, clock, now, .save how r⟩) := by
  have accepted : s.accepts (Job.request ⟨ctx, clock, now, .save how r⟩) =
      (s.put ctx clock now how r).1.isOk := by
    cases how <;> rfl
  rw [grants, fulfil_save, accepted]
  have put := s.put_cases ctx clock now how r
  generalize s.put ctx clock now how r = answered at put
  cases put with
  | refused e plain => rfl
  | taken named fits created deleted =>
    rw [Except.bind, Object.toResource_restamp_eq, Object.toResource_of_readable named readable]
    rfl

theorem grants_delete (s : MemoryStore k) (ctx : Context) (clock : Moment) (now : Instant)
    (r : Resource k) : s.grants ⟨ctx, clock, now, .delete r⟩ =
      s.accepts (Job.request ⟨ctx, clock, now, .delete r⟩) := by
  rw [grants, fulfil_delete]
  rfl

theorem grants_delete_iff {ctx : Context} {clock : Moment} {now : Instant} :
    s.grants ⟨ctx, clock, now, .delete r⟩ = true ↔
      (s.fulfil ⟨ctx, clock, now, .delete r⟩).1 = .ok () := by
  rw [grants]
  cases (s.fulfil ⟨ctx, clock, now, .delete r⟩).1 <;> simp [Except.isOk, Except.toBool]

/-- A call that is answered with a result has changed what it is about, unless it is a record. -/
theorem touched_iff_ok (s : MemoryStore k) (ctx : Context) (clock : Moment) (now : Instant)
    {c : StoreCall k} (plain : ∀ key condition, c ≠ .record key condition) (a : c.Answer) :
    s.wrote? (.call ctx clock now c) a = some key ∨ removed? (.call ctx clock now c) a = some key ↔
      (Request.call ctx clock now c).subject? = some key ∧ a.isOk = true := by
  cases c with
  | get key' => cases a <;> simp [wrote?, removed?, Request.subject?]
  | list query => cases a <;> simp [wrote?, removed?, Request.subject?]
  | create o => cases a <;> simp [wrote?, removed?, Request.subject?, Except.isOk, Except.toBool]
  | replace o => cases a <;> simp [wrote?, removed?, Request.subject?, Except.isOk, Except.toBool]
  | delete key' version =>
    cases a <;> simp [wrote?, removed?, Request.subject?, Except.isOk, Except.toBool]
  | record key' condition => exact absurd rfl (plain key' condition)

theorem touched_iff (s : MemoryStore k) (readable : j.Readable) :
    j.task.subject? = some key ∧ s.grants j = true ↔
      s.wrote? j.request (s.serve j.request).1 = some key ∨
        removed? j.request (s.serve j.request).1 = some key := by
  obtain ⟨ctx, clock, now, task⟩ := j
  have plain : ∀ key condition, task.call ≠ .record key condition := by
    intro key condition
    cases task with
    | save how r => cases how <;> exact fun impossible => nomatch impossible
    | _ => exact fun impossible => nomatch impossible
  refine Iff.trans ?_ (touched_iff_ok s ctx clock now plain _).symm
  cases task with
  | list query => simp [Task.subject?, Request.subject?, Task.call]
  | load place => simp [Task.subject?, Request.subject?, Task.call]
  | save how r =>
    rw [grants_save (readable how r rfl)]
    cases how <;> rfl
  | delete r =>
    rw [grants_delete]
    rfl

theorem spared_iff_untouched {js : List (Job k)} (readable : ∀ j ∈ js, j.Readable) :
    Spared key s js ↔ Untouched key s (js.map Job.request) := by
  induction js generalizing s with
  | nil => exact Iff.rfl
  | cons j js ih =>
    have left : (s.fulfil j).2 = s.after j.request := by rw [fulfil_eq]
    rw [Spared, touched_iff s (readable j List.mem_cons_self), not_or, left,
      ih fun j' listed => readable j' (List.mem_cons_of_mem j listed)]
    exact and_assoc

theorem spared_of_apart {js : List (Job k)} (apart : ∀ j ∈ js, j.task.subject? ≠ some key) :
    Spared key s js := by
  induction js generalizing s with
  | nil => exact trivial
  | cons j js ih =>
    exact ⟨fun touched => apart j List.mem_cons_self touched.1,
      ih fun j' listed => apart j' (List.mem_cons_of_mem j listed)⟩

end Jobs

section Copies

variable {s : MemoryStore k} {ctx : Context} {clock : Moment} {now : Instant} {how : Saving}
  {r r' : Resource k} {js : List (Job k)}

theorem of_saved (readable : r.metadata.Readable)
    (saved : (s.fulfil ⟨ctx, clock, now, .save how r⟩).1 = .ok r') :
    r.metadata.name ≠ "" ∧ ∃ created deleted,
      r' = r.settled.stored.restamp (natText (s.lastVersion + 1)) created deleted ∧
      (s.fulfil ⟨ctx, clock, now, .save how r⟩).2.objects.get? (.ofReference r.reference) =
        some ((Object.ofResource r).restamp (some (natText (s.lastVersion + 1))) created
          deleted) := by
  rcases s.save_cases ctx clock now how r with
    ⟨e, -, answered⟩ | ⟨named, -, created, deleted, answered⟩
  · rw [answered] at saved
    cases saved
  · rw [answered, Object.toResource_of_readable named readable] at saved
    refine ⟨named, created, deleted, (Except.ok.inj saved).symm, ?_⟩
    rw [answered]
    exact get?_write_self _ _ _

/-- A resource as a client holds it that has just read or written it: until something is written or
removed under its key, and no longer, it is what is loaded, and a resource of its place and version
replaces it and it can be removed. -/
structure Current (s : MemoryStore k) (r : Resource k) : Prop where
  loads : ∀ {js ctx clock now}, (∀ j ∈ js, j.Readable) → ctx.check clock = .ok () →
    Spared (.ofReference r.reference) s js →
      ((s.afterJobs js).fulfil ⟨ctx, clock, now, .load r.reference⟩).1 = .ok r
  updates : ∀ {js ctx clock now u}, (∀ j ∈ js, j.Readable) → ctx.check clock = .ok () →
    u.metadata.Readable → u.reference = r.reference → u.metadata.version = r.metadata.version →
      ((s.afterJobs js).grants ⟨ctx, clock, now, .save .update u⟩ = true ↔
        Spared (.ofReference r.reference) s js)
  deletes : ∀ {js ctx clock now}, (∀ j ∈ js, j.Readable) → ctx.check clock = .ok () →
    ((s.afterJobs js).grants ⟨ctx, clock, now, .delete r⟩ = true ↔
      Spared (.ofReference r.reference) s js)

/-- A place where nothing is found until something is written under its key. -/
def Vacant (s : MemoryStore k) (place : ResourceRef) : Prop :=
  ∀ {js ctx clock now}, (∀ j ∈ js, j.Readable) → ctx.check clock = .ok () →
    Spared (.ofReference place) s js →
      ((s.afterJobs js).fulfil ⟨ctx, clock, now, .load place⟩).1 =
        .error (.missing k (.ofReference place))

theorem get?_of_spared (sound : s.Sound) {key : ObjectKey} (readable : ∀ j ∈ js, j.Readable)
    (spared : Spared key s js) : (s.afterJobs js).objects.get? key = s.objects.get? key := by
  rw [afterJobs_eq]
  exact get?_afterAll_of_untouched sound ((spared_iff_untouched readable).mp spared)

theorem version?_iff_spared (sound : s.Sound) {key : ObjectKey} {o : Object k}
    (found : s.objects.get? key = some o) (readable : ∀ j ∈ js, j.Readable) :
    (s.afterJobs js).version? key = o.version ↔ Spared key s js := by
  rw [afterJobs_eq, version?_afterAll_iff sound found, spared_iff_untouched readable]

theorem current_of_stored (sound : s.Sound) {o : Object k}
    (found : s.objects.get? (.ofReference r.reference) = some o) (read : o.toResource = .ok r) :
    s.Current r := by
  obtain ⟨n, version, -⟩ := sound.versioned found
  obtain ⟨-, named, -, told, -⟩ := Mapping.of_readMetadata (Object.toResource_eq_ok.mp read).1
  have versioned : r.metadata.version ≠ "" ∧ o.version = some r.metadata.version := by
    have told : r.metadata.version = o.version.getD "" := told
    rw [told, version]
    exact ⟨natText_ne_empty n, rfl⟩
  obtain ⟨some, version⟩ := versioned
  constructor
  · intro js ctx clock now readable live spared
    refine load_eq_ok.mpr ⟨live, o, ?_, read⟩
    rw [get?_of_spared sound readable spared, found]
  · intro js ctx clock now u readable live readable' place same
    rw [grants_save readable', ← version?_iff_spared sound found readable, version, ← place]
    refine accepts_replace_iff live ?_ (version_eq_some.mpr ⟨same ▸ some, same⟩)
    have named : u.metadata.name ≠ "" := by
      rw [show u.metadata.name = r.metadata.name from congrArg ResourceRef.name place]
      exact named
    exact writeKey_eq_ok.mpr ⟨named, rfl⟩
  · intro js ctx clock now readable live
    rw [grants_delete, ← version?_iff_spared sound found readable, version]
    exact accepts_delete_iff live

theorem get?_of_deleted (deleted : (s.fulfil ⟨ctx, clock, now, .delete r⟩).1 = .ok ()) :
    (s.fulfil ⟨ctx, clock, now, .delete r⟩).2.objects.get? (.ofReference r.reference) = none := by
  rw [fulfil_delete] at deleted ⊢
  obtain ⟨live, removed⟩ := performUnder_eq_ok.mp deleted
  rw [performUnder_of_live now s _ live]
  rw [perform] at removed ⊢
  cases result : s.delete (.ofReference r.reference) (some r.metadata.version) with
  | error e =>
    rw [result] at removed
    cases removed
  | ok t =>
    obtain ⟨-, -, -, rfl⟩ := delete_eq_ok.mp result
    exact SortedMap.get?_erase_self _ _

theorem fulfil_create_empty (named : r.metadata.name ≠ "") (readable : r.metadata.Readable) :
    ((empty : MemoryStore k).fulfil ⟨.unbounded, .zero, default, .save .create r⟩).1 =
      .ok (r.settled.stored.restamp "1" (some default) none) := by
  have key : writeKey (Object.ofResource r) = .ok (.ofReference r.reference) :=
    writeKey_eq_ok.mpr ⟨named, rfl⟩
  have created : (empty : MemoryStore k).create default (Object.ofResource r) =
      .ok (empty.write (.ofReference r.reference)
        ((Object.ofResource r).restamp none (some default) none)) := by
    rw [create, key]
    rfl
  have stored : (put (empty : MemoryStore k) .unbounded .zero default .create r).1 =
      .ok ((Object.ofResource r).restamp (some "1") (some default) none) := by
    have live : Context.unbounded.check .zero = .ok () := rfl
    have one : natText 1 = "1" := by rfl
    rw [put, performUnder_of_live default _ _ live, perform, created, ← one]
    rfl
  rw [fulfil_save, stored]
  exact Object.toResource_restamp (Object.toResource_of_readable named readable) _ _ _

end Copies

end MemoryStore

namespace Repository

open MemoryStore

/-- In every store that requests have led to from an empty one: a resource that was written is
answered as it was handed in but for the stamps of the store and what has no place in an object,
and it is current from then on; and one that was deleted is not found until something is written
in its place. A last change in a leap second that does not end its minute is answered as one in the
second after, and a client that was cut short is granted nothing. -/
theorem kept_as_written (past : List (Request k)) :
    let s := (MemoryStore.empty : MemoryStore k).afterAll past
    (∀ {ctx clock now how r r'}, r.metadata.Readable →
      (s.fulfil ⟨ctx, clock, now, .save how r⟩).1 = .ok r' →
        (∃ version created deleted, r' = r.settled.stored.restamp version created deleted) ∧
        ((∀ t, r.metadata.modifiedAt = some t → t.Shown) → r.settled = r) ∧
        r'.metadata.Readable ∧
        (s.fulfil ⟨ctx, clock, now, .save how r⟩).2.Current r') ∧
    ∀ {ctx clock now r}, (s.fulfil ⟨ctx, clock, now, .delete r⟩).1 = .ok () →
      (s.fulfil ⟨ctx, clock, now, .delete r⟩).2.Vacant r.reference := by
  intro s
  have sound : s.Sound := sound_empty.afterAll past
  have later (j : Job k) : (s.fulfil j).2.Sound := by
    rw [fulfil_eq]
    exact sound.after j.request
  refine ⟨?_, ?_⟩
  · intro ctx clock now how r r' readable saved
    obtain ⟨named, created, deleted, rfl, stored⟩ := of_saved readable saved
    refine ⟨⟨_, created, deleted, rfl⟩, Resource.settled_of_shown, readable.settled, ?_⟩
    exact current_of_stored (later _) stored
      (Object.toResource_restamp (Object.toResource_of_readable named readable) _ created deleted)
  · intro ctx clock now r deleted js ctx' clock' now' readable live spared
    apply load_of_absent now' live
    rw [get?_of_spared (later _) readable spared]
    exact get?_of_deleted deleted

/-- A volume loses the label that its user may not set and most of its mention of an offer, and no
more. It outlasts the creation of its neighbour, and is then replaced once and not twice by the same
client, or deleted and not found any more. -/
theorem volume_kept_until_replaced :
    let v : Volume :=
      { metadata :=
          { Metadata.ofName "v" "a" with
            labels := (∅ : TextMap).insert Mapping.tenantLabel "mine" |>.insert "team" "blue"
            modifiedAt := some Object.leapSecond }
        spec := ⟨10, ⟨some "p", some "r", "skus/fast", none, none⟩, none⟩
        status := none }
    let r : Volume :=
      { v with
        metadata :=
          { v.metadata with
            labels := (∅ : TextMap).insert "team" "blue", version := "1"
            createdAt := some default }
        spec := ⟨10, .plain "skus/fast", none⟩ }
    let job (task : Task .volume) : Job .volume := ⟨.unbounded, .zero, default, task⟩
    let create := (MemoryStore.empty : MemoryStore .volume).fulfil (job (.save .create v))
    let neighbour := job (.save .create { v with metadata := { v.metadata with name := "w" } })
    let update := job (.save .update r)
    let deleted := (create.2.afterJobs [neighbour]).fulfil (job (.delete r))
    create.1 = .ok r ∧
      ((create.2.afterJobs [neighbour]).fulfil (job (.load r.reference))).1 = .ok r ∧
      (create.2.afterJobs [neighbour]).grants update = true ∧
      (create.2.afterJobs [neighbour, update]).grants update = false ∧
      deleted.1 = .ok () ∧
      (deleted.2.fulfil (job (.load r.reference))).1 = .error (.notFound "BlockStorage" "a/v") := by
  intro v r job create neighbour update deleted
  have changed : ∀ t, v.metadata.modifiedAt = some t → t = Object.leapSecond := by
    intro t told
    exact (Option.some.inj told).symm
  have readable : v.metadata.Readable := by
    refine ⟨show "a" ≠ "" by decide, fun t told => ?_, fun t told => ?_⟩
    · rw [changed t told]
      decide
    · rw [changed t told]
      exact ⟨by decide, by decide⟩
  have shown : ∀ t, v.metadata.modifiedAt = some t → t.Shown := by
    intro t told
    rw [changed t told]
    exact ⟨by decide, by decide⟩
  have made : create.1 = .ok r := by
    have answered := fulfil_create_empty (r := v) (by decide) readable
    rw [Resource.settled_of_shown shown] at answered
    exact answered
  have readable' : r.metadata.Readable := ((kept_as_written []).1 readable made).2.2.1
  have current : create.2.Current r := ((kept_as_written []).1 readable made).2.2.2
  have near : neighbour.Readable := by
    intro how r' task
    obtain ⟨-, rfl⟩ := Task.save.inj task
    exact ⟨readable.owned, readable.clocked, readable.dated⟩
  have again : update.Readable := by
    intro how r' task
    obtain ⟨-, rfl⟩ := Task.save.inj task
    exact readable'
  have alone : ∀ j ∈ [neighbour], j.Readable := by simpa using near
  have both : ∀ j ∈ [neighbour, update], j.Readable := by simpa using ⟨near, again⟩
  have elsewhere : neighbour.task.subject? ≠ some (.ofReference r.reference) := by decide
  have spared : Spared (.ofReference r.reference) create.2 [neighbour] :=
    spared_of_apart (by simpa using elsewhere)
  have live : Context.unbounded.check .zero = .ok () := rfl
  have loaded : ((create.2.afterJobs [neighbour]).fulfil (job (.load r.reference))).1 = .ok r :=
    current.loads alone live spared
  have first : (create.2.afterJobs [neighbour]).grants update = true :=
    (current.updates alone live readable' rfl rfl).mpr spared
  have second : (create.2.afterJobs [neighbour, update]).grants update = false := by
    rw [← Bool.not_eq_true]
    intro granted
    have untouched := (current.updates both live readable' rfl rfl).mp granted
    exact untouched.2.1 ⟨rfl, first⟩
  have granted : (create.2.afterJobs [neighbour]).grants (job (.delete r)) = true :=
    (current.deletes alone live).mpr spared
  have gone : deleted.1 = .ok () := grants_delete_iff.mp granted
  have store : create.2.afterJobs [neighbour] =
      MemoryStore.empty.afterAll ([job (.save .create v), neighbour].map Job.request) := by
    rw [← afterJobs_eq]
    exact (afterJobs_cons _ _ _).symm
  have vacant : deleted.2.Vacant r.reference := by
    simp only [deleted, store] at gone ⊢
    exact (kept_as_written _).2 gone
  have lost : ((deleted.2.afterJobs []).fulfil (job (.load r.reference))).1 =
      .error (.missing .volume (.ofReference r.reference)) := vacant (by simp) live trivial
  have text : Error.missing .volume (.ofReference r.reference) =
    .notFound "BlockStorage" "a/v" := rfl
  rw [text, afterJobs_nil] at lost
  exact ⟨made, loaded, first, second, gone, lost⟩

def volumeChanged (t : Option Instant) : Volume :=
  { metadata := { Metadata.ofName "v" "a" with modifiedAt := t }
    spec := ⟨10, .plain "skus/fast", none⟩
    status := none }

def atOnce (task : Task .volume) : Job .volume := ⟨.unbounded, .zero, default, task⟩

def recreated : MemoryStore .volume :=
  .afterJobs .empty
    [atOnce (.save .create (volumeChanged none)),
      atOnce (.delete ((volumeChanged none).restamp "1" (some default) none)),
      atOnce (.save .create (volumeChanged none))]

/-- A volume that was changed in a leap second within a minute is answered as changed later. The
client that holds the answer cannot write it back once it is cut short. And what was deleted is
found again when it was created anew. -/
theorem leap_within_minute_kept_later :
    (volumeChanged (some .lateLeap)).metadata.Readable ∧
    (∃ r, ((MemoryStore.empty : MemoryStore .volume).fulfil
        (atOnce (.save .create (volumeChanged (some .lateLeap))))).1 = .ok r ∧
      r.metadata.modifiedAt = some ⟨31, 500000000⟩ ∧
      (((MemoryStore.empty : MemoryStore .volume).fulfil
        (atOnce (.save .create (volumeChanged (some .lateLeap))))).2.grants
          ⟨Context.unbounded.cancelledBy .zero, .zero, default, .save .update r⟩) = false) ∧
    (recreated.fulfil (atOnce (.load (volumeChanged none).reference))).1 =
      .ok ((volumeChanged none).restamp "2" (some default) none) := by
  have readable : (volumeChanged (some .lateLeap)).metadata.Readable := by
    refine ⟨show "a" ≠ "" by decide, fun t told => ?_, fun t told => ?_⟩
    · obtain rfl := Option.some.inj told
      decide
    · obtain rfl := Option.some.inj told
      decide
  have made := fulfil_create_empty (r := volumeChanged (some .lateLeap)) (by decide) readable
  exact ⟨readable, ⟨_, made, rfl, rfl⟩, rfl⟩

end Repository

end Reconciler
