import Mathlib.Logic.Basic
import Mathlib.Tactic.ByContra
import Reconciler.Proofs.Store.Served

/-!
Versions. The counter of a store stands above every version it has given, so that an
object found at an earlier version is the object that was there earlier: `Evolves` says it
of two moments of one store, and every run of requests leads from one such moment to the
next.
-/

set_option autoImplicit false

namespace Reconciler.MemoryStore

variable {k : Kind}

theorem Sound.write {s : MemoryStore k} (sound : s.Sound) {key : ObjectKey} {o : Object k}
    (home : ObjectKey.ofObject o = key) (name : o.Named) : (s.write key o).2.Sound := by
  have lookup : ∀ {key' o'}, (s.write key o).2.objects.get? key' = some o' →
      (key' = key ∧ o' = (s.write key o).1) ∨ (key' ≠ key ∧ s.objects.get? key' = some o') := by
    intro key' o' found
    by_cases same : key' = key
    · subst same
      rw [get?_write_self] at found
      exact .inl ⟨rfl, (Option.some.inj found).symm⟩
    · rw [get?_write_of_ne s o same] at found
      exact .inr ⟨same, found⟩
  have newest : ∀ {key' o'}, s.objects.get? key' = some o' →
      o'.version ≠ (s.write key o).1.version := by
    intro key' o' found same
    obtain ⟨n, version, -, bound⟩ := sound.versioned found
    rw [version, write_fst, Object.version_setVersion, Option.some.injEq, natText_inj] at same
    omega
  refine ⟨?_, ?_, ?_, ?_⟩
  · intro key' o' found
    rcases lookup found with ⟨rfl, rfl⟩ | ⟨-, found⟩
    · exact home
    · exact sound.keyed found
  · intro key' o' found
    rcases lookup found with ⟨rfl, rfl⟩ | ⟨-, found⟩
    · exact name
    · exact sound.named found
  · intro key' o' found
    rcases lookup found with ⟨rfl, rfl⟩ | ⟨-, found⟩
    · exact ⟨s.lastVersion + 1, rfl, Nat.succ_pos _, Nat.le_refl _⟩
    · obtain ⟨n, version, positive, bound⟩ := sound.versioned found
      exact ⟨n, version, positive, Nat.le_succ_of_le bound⟩
  · intro key₁ key₂ o₁ o₂ found₁ found₂ same
    rcases lookup found₁ with ⟨here₁, rfl⟩ | ⟨-, old₁⟩ <;>
      rcases lookup found₂ with ⟨here₂, rfl⟩ | ⟨-, old₂⟩
    · exact here₁.trans here₂.symm
    · exact absurd same.symm (newest old₂)
    · exact absurd same (newest old₁)
    · exact sound.distinct old₁ old₂ same

theorem get?_erase {s : MemoryStore k} {key key' : ObjectKey} {o : Object k}
    (found : (s.objects.erase key).get? key' = some o) :
    key' ≠ key ∧ s.objects.get? key' = some o := by
  by_cases same : key' = key
  · subst same
    simp at found
  · rw [SortedMap.get?_erase_of_ne _ same] at found
    exact ⟨same, found⟩

theorem Sound.erase {s : MemoryStore k} (sound : s.Sound) (key : ObjectKey) :
    Sound { s with objects := s.objects.erase key } where
  keyed found := sound.keyed (get?_erase found).2
  named found := sound.named (get?_erase found).2
  versioned found := sound.versioned (get?_erase found).2
  distinct found found' := sound.distinct (get?_erase found).2 (get?_erase found').2

theorem Sound.after {s : MemoryStore k} (sound : s.Sound) (q : Request k) : (s.after q).Sound := by
  cases served sound q with
  | quiet _ _ same =>
    rw [same]
    exact sound
  | wrote _ _ home name stored =>
    rw [stored]
    exact sound.write home name
  | removed _ _ _ left =>
    rw [left]
    exact sound.erase _

theorem Sound.afterAll {s : MemoryStore k} (sound : s.Sound) (qs : List (Request k)) :
    (s.afterAll qs).Sound := by
  induction qs generalizing s with
  | nil => exact sound
  | cons q qs ih => exact ih (sound.after q)

/-- A later moment of a store: the counter has not gone back, and what is stored was there
before or has a version given since. -/
structure Evolves (s t : MemoryStore k) : Prop where
  counter : s.lastVersion ≤ t.lastVersion
  entries : ∀ {key o}, t.objects.get? key = some o → s.objects.get? key = some o ∨
    ∃ n, o.version = some (natText n) ∧ s.lastVersion < n

namespace Evolves

theorem refl (s : MemoryStore k) : Evolves s s := ⟨Nat.le_refl _, .inl⟩

theorem trans {s t u : MemoryStore k} (first : Evolves s t) (second : Evolves t u) :
    Evolves s u := by
  refine ⟨Nat.le_trans first.counter second.counter, fun found => ?_⟩
  rcases second.entries found with found | ⟨n, version, later⟩
  · exact first.entries found
  · exact .inr ⟨n, version, Nat.lt_of_le_of_lt first.counter later⟩

theorem write (s : MemoryStore k) (key : ObjectKey) (o : Object k) :
    Evolves s (s.write key o).2 := by
  refine ⟨Nat.le_succ _, fun {key' o'} found => ?_⟩
  by_cases same : key' = key
  · subst same
    rw [get?_write_self] at found
    obtain rfl := Option.some.inj found
    exact .inr ⟨s.lastVersion + 1, rfl, Nat.lt_succ_self _⟩
  · rw [get?_write_of_ne s o same] at found
    exact .inl found

theorem erase (s : MemoryStore k) (key : ObjectKey) :
    Evolves s { s with objects := s.objects.erase key } :=
  ⟨Nat.le_refl _, fun found => .inl (get?_erase found).2⟩

theorem after {s : MemoryStore k} (sound : s.Sound) (q : Request k) : Evolves s (s.after q) := by
  cases served sound q with
  | quiet _ _ same =>
    rw [same]
    exact refl s
  | wrote _ _ _ _ stored =>
    rw [stored]
    exact write s _ _
  | removed _ _ _ left =>
    rw [left]
    exact erase s _

theorem afterAll {s : MemoryStore k} (sound : s.Sound) (qs : List (Request k)) :
    Evolves s (s.afterAll qs) := by
  induction qs generalizing s with
  | nil => exact refl s
  | cons q qs ih => exact (after sound q).trans (ih (sound.after q))

/-- An object found at a version that was stored earlier is the object stored then, under
the key it was stored under. -/
theorem same_of_version {s t : MemoryStore k} (later : Evolves s t) (sound : s.Sound)
    {key key' : ObjectKey} {o o' : Object k} (found : s.objects.get? key = some o)
    (found' : t.objects.get? key' = some o') (same : o.version = o'.version) :
    key = key' ∧ o = o' := by
  obtain ⟨n, version, -, bound⟩ := sound.versioned found
  rcases later.entries found' with old | ⟨m, version', above⟩
  · obtain rfl := sound.distinct found old same
    exact ⟨rfl, Option.some.inj (found.symm.trans old)⟩
  · rw [version, version', Option.some.injEq, natText_inj] at same
    omega

end Evolves

theorem get?_afterAll_of_untouched {s : MemoryStore k} (sound : s.Sound) {key : ObjectKey}
    {qs : List (Request k)} (quiet : Untouched key s qs) :
    (s.afterAll qs).objects.get? key = s.objects.get? key := by
  induction qs generalizing s with
  | nil => rfl
  | cons q qs ih =>
    obtain ⟨unwritten, unremoved, quiet⟩ := quiet
    rw [afterAll_cons, ih (sound.after q) quiet]
    cases served sound q with
    | quiet _ _ same => rw [same]
    | wrote wrote _ _ _ stored =>
      rw [stored]
      exact get?_write_of_ne s _ fun same => unwritten (same ▸ wrote)
    | removed _ removed _ left =>
      rw [left]
      exact SortedMap.get?_erase_of_ne _ fun same => unremoved (same ▸ removed)

theorem version?_afterAll_of_touched {s : MemoryStore k} (sound : s.Sound) {key : ObjectKey}
    {qs : List (Request k)} (touched : ¬ Untouched key s qs) {n : Nat} (old : n ≤ s.lastVersion) :
    (s.afterAll qs).version? key ≠ some (natText n) := by
  induction qs generalizing s with
  | nil => exact absurd trivial touched
  | cons q qs ih =>
    rw [afterAll_cons]
    by_cases later : Untouched key (s.after q) qs
    · have kept := get?_afterAll_of_untouched (sound.after q) later
      have here : s.wrote? q (s.serve q).1 = some key ∨ removed? q (s.serve q).1 = some key := by
        by_contra neither
        obtain ⟨unwritten, unremoved⟩ := not_or.mp neither
        exact touched ⟨unwritten, unremoved, later⟩
      rw [version?, kept]
      cases served sound q with
      | quiet unwritten unremoved _ =>
        rw [unwritten, unremoved] at here
        simp at here
      | @wrote key' o wrote unremoved _ _ stored =>
        have same : key' = key := by
          rw [wrote, unremoved] at here
          simpa using here
        subst same
        rw [stored, get?_write_self]
        simp only [Option.bind_some, write_fst, Object.version_setVersion, ne_eq,
          Option.some.injEq, natText_inj]
        omega
      | @removed key' o unwritten removed _ left =>
        have same : key' = key := by
          rw [unwritten, removed] at here
          simpa using here
        subst same
        simp [left]
    · exact ih (sound.after q) later (Nat.le_trans old (Evolves.after sound q).counter)

theorem version?_afterAll_iff {s : MemoryStore k} (sound : s.Sound) {key : ObjectKey}
    {o : Object k} (found : s.objects.get? key = some o) (qs : List (Request k)) :
    (s.afterAll qs).version? key = o.version ↔ Untouched key s qs := by
  obtain ⟨n, version, -, bound⟩ := sound.versioned found
  constructor
  · intro stored
    by_contra touched
    exact version?_afterAll_of_touched sound touched bound (stored.trans version)
  · intro quiet
    rw [version?, get?_afterAll_of_untouched sound quiet, found, Option.bind_some]

end Reconciler.MemoryStore
