import Reconciler.Proofs.Repository.Task

/-!
Writes that fail. What is written is read back for the answer, and it is read back after it was
stored, so that an error may come from a write that took place. It does just if the resource has a
name but cannot be read; the error tells, for only then is it one of conversion.
-/

set_option autoImplicit false

namespace Reconciler

open Repository (Job Saving Task)

variable {k : Kind}

/-- Whatever the store holds, it is as before when the task is answered by an error. -/
def Repository.Task.AllOrNothing (t : Task k) : Prop :=
  ∀ (s : MemoryStore k) ctx clock now e,
    (s.fulfil ⟨ctx, clock, now, t⟩).1 = .error e → (s.fulfil ⟨ctx, clock, now, t⟩).2 = s

namespace MemoryStore

section Failures

variable {s : MemoryStore k} {ctx : Context} {clock : Moment} {now : Instant} {how : Saving}
  {r : Resource k} {e : Error}

theorem write_ne (s : MemoryStore k) (key : ObjectKey) (o : Object k) : (s.write key o).2 ≠ s := by
  intro same
  have counters := congrArg lastVersion same
  rw [lastVersion_write] at counters
  omega

theorem left_of_failed_delete
    (failed : (s.fulfil ⟨ctx, clock, now, .delete r⟩).1 = .error e) :
    (s.fulfil ⟨ctx, clock, now, .delete r⟩).2 = s := by
  rw [fulfil_delete] at failed ⊢
  exact performUnder_error failed

/-- A failed write has changed nothing, or it took place and could not be read back. -/
theorem failed_save (failed : (s.fulfil ⟨ctx, clock, now, .save how r⟩).1 = .error e) :
    (s.fulfil ⟨ctx, clock, now, .save how r⟩).2 = s ∧
        (∀ kind name reason, e ≠ .conversion kind name reason) ∨
      (s.fulfil ⟨ctx, clock, now, .save how r⟩).2 ≠ s ∧ r.metadata.name ≠ "" ∧ s.Fits r how ∧
        (Object.ofResource r).toResource = .error e := by
  rcases s.save_cases ctx clock now how r with
    ⟨e', plain, answered⟩ | ⟨named, fits, created, deleted, answered⟩
  · rw [answered] at failed ⊢
    obtain rfl := Except.error.inj failed
    exact .inl ⟨rfl, plain⟩
  · rw [answered] at failed ⊢
    refine .inr ⟨write_ne _ _ _, named, fits, ?_⟩
    cases read : (Object.ofResource r).toResource with
    | ok r' =>
      rw [read] at failed
      cases failed
    | error e' =>
      rw [read] at failed
      exact failed

theorem save_of_unreadable (clock : Moment) (now : Instant) (named : r.metadata.name ≠ "")
    (fits : s.Fits r how) {e' : Error} (unread : (Object.ofResource r).toResource = .error e') :
    (s.fulfil ⟨.unbounded, clock, now, .save how r⟩).1 = .error e' ∧
      (s.fulfil ⟨.unbounded, clock, now, .save how r⟩).2 ≠ s := by
  have live : Context.unbounded.check clock = .ok () := rfl
  obtain ⟨created, deleted, stored⟩ := put_of_fits now live named fits
  rw [fulfil_save, stored]
  refine ⟨?_, write_ne _ _ _⟩
  rw [Except.bind, Object.toResource_restamp_eq, unread]
  rfl

/-- Every resource that is to be written fits in some store, but for an update of one that was
never read. -/
theorem exists_fits (r : Resource k) (how : Saving)
    (read : how = .update → r.metadata.version ≠ "") : ∃ s : MemoryStore k, s.Fits r how := by
  cases how with
  | create => exact ⟨empty, rfl⟩
  | update =>
    refine ⟨⟨SortedMap.empty.insert (.ofReference r.reference) (.ofResource r), 0⟩, read rfl, ?_⟩
    rw [version?, SortedMap.get?_insert_self, Option.bind_some]
    exact version_eq_some.mpr ⟨read rfl, rfl⟩

end Failures

end MemoryStore

namespace Repository

open MemoryStore

/-- A removal is all or nothing, and so is a write of a resource if and only if the resource has
no name, in which case it is never stored, or can be read back, or was never read and is to be
updated. A write that failed has changed the store if and only if its error is one of
conversion. -/
theorem all_or_nothing_iff (how : Saving) {r : Resource k}
    (clocked : ∀ t, r.metadata.modifiedAt = some t → t.nanos < 2 * Instant.nanosPerSecond) :
    (Task.delete r).AllOrNothing ∧
    ((Task.save how r).AllOrNothing ↔ r.metadata.name = "" ∨ r.metadata.Readable ∨
      how = .update ∧ r.metadata.version = "") ∧
    ∀ (s : MemoryStore k) ctx clock now e,
      (s.fulfil ⟨ctx, clock, now, .save how r⟩).1 = .error e →
        ((s.fulfil ⟨ctx, clock, now, .save how r⟩).2 = s ↔
          ∀ kind name reason, e ≠ .conversion kind name reason) := by
  refine ⟨fun s ctx clock now e failed => left_of_failed_delete failed, ⟨?_, ?_⟩, ?_⟩
  · intro atomic
    by_contra neither
    obtain ⟨named, unreadable, read⟩ := by simpa only [not_or, not_and] using neither
    -- Where there is room for the resource its write takes place, and then fails.
    obtain ⟨s, fits⟩ := exists_fits r how read
    cases back : (Object.ofResource r).toResource with
    | ok r' => exact unreadable (Object.readable_of_toResource clocked back)
    | error e =>
      obtain ⟨failed, changed⟩ := save_of_unreadable .zero default named fits back
      exact changed (atomic s .unbounded .zero default e failed)
  · intro harmless s ctx clock now e failed
    rcases failed_save failed with ⟨same, -⟩ | ⟨-, named, fits, unread⟩
    · exact same
    rcases harmless with unnamed | readable | ⟨rfl, unversioned⟩
    · exact absurd unnamed named
    · rw [Object.toResource_of_readable named readable] at unread
      cases unread
    · exact absurd unversioned fits.1
  · intro s ctx clock now e failed
    rcases failed_save failed with ⟨same, plain⟩ | ⟨changed, -, -, unread⟩
    · exact iff_of_true same plain
    · obtain ⟨kind, name, reason, told⟩ := Object.conversion_of_toResource unread
      exact iff_of_false changed fun plain => plain kind name reason told

/-- A volume that was changed in the last second of the year 9999 is created or not; one changed a
second later may be stored although its creation fails. -/
theorem volumes_around_the_year_10000 :
    let changed (t : Instant) : Volume :=
      { metadata := { Metadata.ofName "v" "a" with modifiedAt := some t }
        spec := ⟨10, .plain "skus/fast", none⟩
        status := none }
    (Task.save .create (changed ⟨253402300799, 0⟩)).AllOrNothing ∧
      ¬ (Task.save .create (changed ⟨253402300800, 0⟩)).AllOrNothing := by
  intro changed
  have clocked (seconds : Int) : ∀ t, (changed ⟨seconds, 0⟩).metadata.modifiedAt = some t →
      t.nanos < 2 * Instant.nanosPerSecond := by
    intro t told
    obtain rfl := Option.some.inj told
    exact show 0 < 2 * Instant.nanosPerSecond by decide
  refine ⟨(all_or_nothing_iff .create (clocked _)).2.1.mpr (.inr (.inl ?_)), fun atomic => ?_⟩
  · refine ⟨by simp [changed, Metadata.ofName], clocked _, fun t told => ?_⟩
    obtain rfl := Option.some.inj told
    decide
  · rcases (all_or_nothing_iff .create (clocked _)).2.1.mp atomic with
      unnamed | readable | ⟨impossible, -⟩
    · simp [changed, Metadata.ofName] at unnamed
    · exact absurd (readable.dated _ rfl) (by decide)
    · cases impossible

/-- The creation of a volume without a tenant fails, and the volume is stored all the same. -/
theorem tenantless_volume_stored :
    let v : Volume :=
      { metadata := Metadata.ofName "v" "", spec := ⟨10, .plain "skus/fast", none⟩, status := none }
    let done := (MemoryStore.empty : MemoryStore .volume).fulfil
      ⟨.unbounded, .zero, default, .save .create v⟩
    done.1 = .error (.conversion "BlockStorage" "v" "missing label internal/tenant") ∧
      done.2.keys = [⟨some "", "v"⟩] ∧ done.2.lastVersion = 1 :=
  ⟨rfl, rfl, rfl⟩

end Repository

end Reconciler
