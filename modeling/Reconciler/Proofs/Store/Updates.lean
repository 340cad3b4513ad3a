import Reconciler.Proofs.SortedMap
import Reconciler.Proofs.Store.Versions

/-!
No update of a store in memory is lost. The versions that a run of requests gives only
grow, a write or a removal decided on a copy goes through exactly as long as the copy is
current, and a request that fails changes nothing.
-/

set_option autoImplicit false

namespace Reconciler.MemoryStore

variable {k : Kind}

def accepts (s : MemoryStore k) (q : Request k) : Bool := (s.serve q).1.isOk

theorem versionsGiven_increasing {s : MemoryStore k} (sound : s.Sound) (qs : List (Request k)) :
    ∃ ns : List Nat, versionsGiven s qs = ns.map (fun n => some (natText n)) ∧
      (∀ n ∈ ns, s.lastVersion < n) ∧ ns.Pairwise (· < ·) := by
  induction qs generalizing s with
  | nil => exact ⟨[], rfl, by simp, .nil⟩
  | cons q qs ih =>
    obtain ⟨ns, given, above, increasing⟩ := ih (sound.after q)
    cases served sound q with
    | quiet unwritten _ same =>
      refine ⟨ns, by simp [versionsGiven, unwritten, given], ?_, increasing⟩
      rw [same] at above
      exact above
    | @wrote key o wrote _ _ _ stored =>
      have counter : (s.after q).lastVersion = s.lastVersion + 1 := by rw [stored, lastVersion_write]
      have version : (s.after q).version? key = some (natText (s.lastVersion + 1)) := by
        rw [version?, stored, get?_write_self, Option.bind_some, write_fst,
          Object.version_setVersion]
      rw [counter] at above
      refine ⟨(s.lastVersion + 1) :: ns, by simp [versionsGiven, wrote, version, given], ?_, ?_⟩
      · intro n listed
        rcases List.mem_cons.mp listed with rfl | listed
        · exact Nat.lt_succ_self _
        · exact Nat.lt_of_succ_lt (above n listed)
      · exact List.pairwise_cons.mpr ⟨above, increasing⟩
    | removed unwritten _ _ left =>
      refine ⟨ns, by simp [versionsGiven, unwritten, given], ?_, increasing⟩
      rw [left] at above
      exact above

theorem get?_of_mem_list {s : MemoryStore k} (sound : s.Sound) {query : ListQuery}
    {page : Page (Object k)} (listed : s.list query = .ok page) {o : Object k}
    (shown : o ∈ page.items) : s.objects.get? (.ofObject o) = some o := by
  unfold list at listed
  cases parsed : Selector.parseOptional query.selector with
  | error fault => simp [parsed] at listed
  | ok selector =>
    simp only [parsed, Except.ok.injEq] at listed
    subst listed
    have chosen : ∃ key, (key, o) ∈ s.selected query selector := by
      unfold pageOf at shown
      split at shown
      · simpa using shown
      · simpa using shown
      · obtain ⟨entry, taken, rfl⟩ := List.mem_map.mp shown
        exact ⟨entry.1, List.mem_of_mem_take taken⟩
    obtain ⟨key, chosen⟩ := chosen
    have entry : (key, o) ∈ s.objects.entries := by
      unfold selected at chosen
      cases continued : query.continueAfter with
      | none =>
        simp only [continued] at chosen
        exact (List.mem_filter.mp chosen).1
      | some token =>
        simp only [continued] at chosen
        exact (List.mem_filter.mp (List.mem_filter.mp chosen).1).1
    have found := SortedMap.get?_eq_some_iff.mpr entry
    rw [sound.keyed found]
    exact found

theorem get?_of_mem_copies {s : MemoryStore k} (sound : s.Sound) {q : Request k}
    {key : ObjectKey} {o : Object k} (copy : (key, o) ∈ copies q (s.serve q).1) :
    (s.after q).objects.get? key = some o := by
  cases q with
  | mark => simp [copies] at copy
  | call ctx clock now c =>
    cases alive : ctx.check clock with
    | error i =>
      have answered : s.serve (.call ctx clock now c) = (.error i.toError, s) :=
        performUnder_of_ended now s c alive
      rw [answered] at copy
      cases c <;> simp [copies] at copy
    | ok _ =>
      have performed : s.serve (.call ctx clock now c) = s.perform now c :=
        performUnder_of_live now s c alive
      rw [after, performed]
      rw [performed] at copy
      cases c with
      | get key' =>
        cases found : s.get key' with
        | error e => simp [copies, perform, found] at copy
        | ok o' =>
          obtain ⟨rfl, rfl⟩ : key = key' ∧ o = o' := by simpa [copies, perform, found] using copy
          exact get_eq_ok.mp found
      | list query =>
        cases listed : s.list query with
        | error e => simp [copies, perform, listed] at copy
        | ok page =>
          obtain ⟨shown, rfl⟩ : o ∈ page.items ∧ ObjectKey.ofObject o = key := by
            simpa [copies, perform, listed] using copy
          exact get?_of_mem_list sound listed shown
      | create o' =>
        cases result : s.create now o' with
        | error e => simp [copies, perform, result] at copy
        | ok r =>
          obtain ⟨-, -, rfl⟩ := create_eq_ok.mp result
          obtain ⟨rfl, rfl⟩ : key = .ofObject (s.write (.ofObject o') (created now o')).1 ∧
              o = (s.write (.ofObject o') (created now o')).1 := by
            simpa [copies, perform, result] using copy
          simp only [perform, result]
          exact get?_write_self s (.ofObject o') (created now o')
      | replace o' =>
        cases result : s.replace o' with
        | error e => simp [copies, perform, result] at copy
        | ok r =>
          obtain ⟨-, current, -, -, -, rfl⟩ := replace_eq_ok.mp result
          obtain ⟨rfl, rfl⟩ : key = .ofObject (s.write (.ofObject o') (replaced current o')).1 ∧
              o = (s.write (.ofObject o') (replaced current o')).1 := by
            simpa [copies, perform, result] using copy
          simp only [perform, result]
          exact get?_write_self s (.ofObject o') (replaced current o')
      | delete => simp [copies] at copy
      | record => simp [copies] at copy

theorem accepts_replace_iff {s : MemoryStore k} {ctx : Context} {clock : Moment} {now : Instant}
    {key : ObjectKey} {o : Object k} {v : String} (live : ctx.check clock = .ok ())
    (target : writeKey o = .ok key) (base : o.version = some v) :
    s.accepts (.call ctx clock now (.replace o)) ↔ s.version? key = some v := by
  have performed : s.serve (.call ctx clock now (.replace o)) = s.perform now (.replace o) :=
    performUnder_of_live now s _ live
  obtain ⟨name, rfl⟩ := writeKey_eq_ok.mp target
  have replaceable : s.accepts (.call ctx clock now (.replace o)) ↔ ∃ r, s.replace o = .ok r := by
    rw [accepts, performed]
    cases result : s.replace o <;> simp [perform, result, Except.isOk, Except.toBool]
  rw [replaceable]
  simp only [replace_eq_ok, name, base, true_and, Option.isSome_some, version?,
    Option.bind_eq_some_iff, eq_comm (a := some v)]
  constructor
  · rintro ⟨_, current, found, version, -⟩
    exact ⟨current, found, version⟩
  · rintro ⟨current, found, version⟩
    exact ⟨_, current, found, version, rfl⟩

theorem accepts_delete_iff {s : MemoryStore k} {ctx : Context} {clock : Moment} {now : Instant}
    {key : ObjectKey} {v : String} (live : ctx.check clock = .ok ()) :
    s.accepts (.call ctx clock now (.delete key (some v))) ↔ s.version? key = some v := by
  have performed : s.serve (.call ctx clock now (.delete key (some v))) =
      s.perform now (.delete key (some v)) := performUnder_of_live now s _ live
  have removable : s.accepts (.call ctx clock now (.delete key (some v))) ↔
      ∃ t, s.delete key (some v) = .ok t := by
    rw [accepts, performed]
    cases result : s.delete key (some v) <;> simp [perform, result, Except.isOk, Except.toBool]
  rw [removable]
  simp only [delete_eq_ok, Option.some.injEq, forall_eq', version?, Option.bind_eq_some_iff]
  constructor
  · rintro ⟨_, current, found, version, -⟩
    exact ⟨current, found, version⟩
  · rintro ⟨current, found, version⟩
    exact ⟨_, current, found, version, rfl⟩

/-- A failed request changes nothing, and neither does a condition that is recorded already. -/
theorem after_of_unwritten {s : MemoryStore k} (sound : s.Sound) {q : Request k}
    (unwritten : s.wrote? q (s.serve q).1 = none) (unremoved : removed? q (s.serve q).1 = none) :
    s.after q = s := by
  cases served sound q with
  | quiet _ _ same => exact same
  | wrote wrote => simp [unwritten] at wrote
  | removed _ removed => simp [unremoved] at removed

/-- For every run of requests on a store that was empty: the versions given grow as numbers;
objects stored at any two moments with one version are one object; a copy that an answer hands
out is what is stored, and at any later moment a replacement or a removal that names its version
goes through if and only if its key was not touched since; and neither an error nor a condition
that is recorded already changes the store. -/
theorem no_update_lost (qs : List (Request k)) :
    (∃ ns : List Nat, versionsGiven (empty : MemoryStore k) qs =
      ns.map (fun n => some (natText n)) ∧ ns.Pairwise (· < ·)) ∧
    (∀ qs' key key' o o', ((empty : MemoryStore k).afterAll qs).objects.get? key = some o →
      (((empty : MemoryStore k).afterAll qs).afterAll qs').objects.get? key' = some o' →
      o.version = o'.version → key = key' ∧ o = o') ∧
    (∀ q key copy, (key, copy) ∈ copies q ((empty.afterAll qs).serve q).1 →
      ((empty.afterAll qs).after q).objects.get? key = some copy ∧
      ∃ v, copy.version = some v ∧
        ∀ qs' ctx clock now, ctx.check clock = .ok () →
          (∀ o, writeKey o = .ok key → o.version = some v →
            ((((empty.afterAll qs).after q).afterAll qs').accepts
              (.call ctx clock now (.replace o)) ↔
                Untouched key ((empty.afterAll qs).after q) qs')) ∧
          ((((empty.afterAll qs).after q).afterAll qs').accepts
            (.call ctx clock now (.delete key (some v))) ↔
              Untouched key ((empty.afterAll qs).after q) qs')) ∧
    (∀ q e, ((empty.afterAll qs).serve q).1 = .error e →
      (empty.afterAll qs).after q = (empty : MemoryStore k).afterAll qs) ∧
    (∀ ctx clock now key c,
      ((empty.afterAll qs).serve (.call ctx clock now (.record key c))).1 = .ok false →
        (empty.afterAll qs).after (.call ctx clock now (.record key c)) =
          (empty : MemoryStore k).afterAll qs) := by
  have sound : ((empty : MemoryStore k).afterAll qs).Sound := sound_empty.afterAll qs
  refine ⟨?_, ?_, ?_, ?_, ?_⟩
  · obtain ⟨ns, given, -, increasing⟩ := versionsGiven_increasing sound_empty qs
    exact ⟨ns, given, increasing⟩
  · intro qs' key key' o o' found found' same
    exact (Evolves.afterAll sound qs').same_of_version sound found found' same
  · intro q key copy handed
    have found := get?_of_mem_copies sound handed
    obtain ⟨n, version, -, -⟩ := (sound.after q).versioned found
    refine ⟨found, natText n, version, fun qs' ctx clock now live => ?_⟩
    have current := version?_afterAll_iff (sound.after q) found qs'
    rw [version] at current
    exact ⟨fun o target base => (accepts_replace_iff live target base).trans current,
      (accepts_delete_iff live).trans current⟩
  · intro q e failed
    exact after_of_unwritten sound (by rw [failed, wrote?_error]) (by rw [failed, removed?_error])
  · intro ctx clock now key c repeated
    exact after_of_unwritten sound (by rw [repeated]; rfl) (by rw [repeated]; rfl)

/-- Of two clients that replace the same copy only the first one is accepted. -/
theorem second_replacement_refused :
    let create : Request .volume := .call .unbounded .zero default (.create .plainVolume)
    let read : Request .volume := .call .unbounded .zero default (.get ⟨some "a", "v"⟩)
    let s := ((empty : MemoryStore .volume).afterAll [create]).after read
    ∃ copy, (⟨some "a", "v"⟩, copy) ∈ copies read ((empty.afterAll [create]).serve read).1 ∧
      let write : Request .volume := .call .unbounded .zero default (.replace copy)
      s.accepts write = true ∧ (s.afterAll [write]).accepts write = false := by
  intro create read s
  refine ⟨(s.objects.get? ⟨some "a", "v"⟩).getD .plainVolume, .head _, ?_⟩
  intro write
  obtain ⟨-, v, version, decided⟩ := (no_update_lost [create]).2.2.1 read ⟨some "a", "v"⟩ _ (.head _)
  have first := (decided [] .unbounded .zero default rfl).1 _ rfl version
  have second := (decided [write] .unbounded .zero default rfl).1 _ rfl version
  refine ⟨first.mpr trivial, ?_⟩
  rw [← Bool.not_eq_true]
  exact fun accepted => (second.mp accepted).1 (by decide)

end Reconciler.MemoryStore
