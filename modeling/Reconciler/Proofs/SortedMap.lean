import Mathlib.Data.List.Sort
import Reconciler.SortedMap

/-!
Sorted maps and their entries: a look-up finds exactly what is listed, and what is listed in
the order of its keys is told by its members.
-/

set_option autoImplicit false

namespace Reconciler.SortedMap

universe u v

variable {κ : Type u} {β : Type v} [Ord κ] [Std.LawfulEqOrd κ]

theorem mem_of_find {k : κ} {x : β} {entries : List (κ × β)} (found : find k entries = some x) :
    (k, x) ∈ entries := by
  induction entries with
  | nil => simp [find] at found
  | cons head rest ih =>
    obtain ⟨k', x'⟩ := head
    by_cases here : compare k k' = .eq
    · obtain rfl := Std.LawfulEqCmp.eq_of_compare here
      obtain rfl : x' = x := by simpa [find, Std.ReflCmp.compare_self] using found
      exact List.mem_cons_self
    · exact List.mem_cons_of_mem _ (ih (by simpa [find, here] using found))

theorem find_filter_of_failing {test : κ → β → Bool} {k : κ} (fails : ∀ x, test k x = false)
    (entries : List (κ × β)) : find k (entries.filter fun e => test e.1 e.2) = none := by
  induction entries with
  | nil => rfl
  | cons head rest ih =>
    obtain ⟨k', x'⟩ := head
    cases passes : test k' x' with
    | false => simpa [passes] using ih
    | true =>
      have apart : ¬ compare k k' = .eq := by
        intro same
        obtain rfl := Std.LawfulEqCmp.eq_of_compare same
        rw [fails x'] at passes
        cases passes
      simpa [passes, find, apart] using ih

theorem get?_filter_of_failing {m : SortedMap κ β} {test : κ → β → Bool} {k : κ}
    (fails : ∀ x, test k x = false) : (m.filter test).get? k = none :=
  find_filter_of_failing fails m.entries

theorem find_filter_of_passing {test : κ → β → Bool} {k : κ} (passes : ∀ x, test k x = true)
    (entries : List (κ × β)) :
    find k (entries.filter fun e => test e.1 e.2) = find k entries := by
  induction entries with
  | nil => rfl
  | cons head rest ih =>
    obtain ⟨k', x'⟩ := head
    by_cases here : compare k k' = .eq
    · obtain rfl := Std.LawfulEqCmp.eq_of_compare here
      simp [passes x', find]
    · cases kept : test k' x' <;> simp [kept, find, here, ih]

theorem get?_filter_of_passing {m : SortedMap κ β} {test : κ → β → Bool} {k : κ}
    (passes : ∀ x, test k x = true) : (m.filter test).get? k = m.get? k :=
  find_filter_of_passing passes m.entries

theorem filter_place_of_failing {test : κ → β → Bool} {k : κ} (fails : ∀ x, test k x = false)
    (x : β) (entries : List (κ × β)) :
    ((place k x entries).filter fun e => test e.1 e.2) = entries.filter fun e => test e.1 e.2 := by
  induction entries with
  | nil => simp [place, fails]
  | cons head rest ih =>
    obtain ⟨k', x'⟩ := head
    cases order : compare k k' with
    | lt => simp [place, order, fails]
    | eq =>
      obtain rfl := Std.LawfulEqCmp.eq_of_compare order
      simp [place, fails]
    | gt => simp only [place, order, List.filter_cons, ih]

theorem nodup_of_sorted {keys : List κ} (sorted : keys.Pairwise fun a b => compare a b = .lt) :
    keys.Nodup := by
  refine sorted.imp fun {a b} below same => ?_
  simp [same, Std.ReflCmp.compare_self] at below

variable [Std.TransOrd κ]

theorem find_of_mem {k : κ} {x : β} {entries : List (κ × β)}
    (sorted : entries.Pairwise fun a b => compare a.1 b.1 = .lt) (listed : (k, x) ∈ entries) :
    find k entries = some x := by
  induction entries with
  | nil => simp at listed
  | cons head rest ih =>
    obtain ⟨above, tail⟩ := List.pairwise_cons.mp sorted
    rcases List.mem_cons.mp listed with rfl | later
    · simp [find, Std.ReflCmp.compare_self]
    · have apart : ¬ compare k head.1 = .eq := by
        intro same
        have flipped : compare head.1 k = (compare k head.1).swap := Std.OrientedCmp.eq_swap
        rw [above _ later, same] at flipped
        contradiction
      simpa [find, apart] using ih tail later

/-- A filter does not see what is put under a key that it lets nothing of through. -/
theorem filter_insert_of_failing {test : κ → β → Bool} {k : κ} (fails : ∀ x, test k x = false)
    (m : SortedMap κ β) (x : β) : (m.insert k x).filter test = m.filter test :=
  ext (filter_place_of_failing fails x m.entries)

theorem get?_eq_some_iff {m : SortedMap κ β} {k : κ} {x : β} :
    m.get? k = some x ↔ (k, x) ∈ m.entries :=
  ⟨mem_of_find, find_of_mem m.sorted⟩

theorem erase_of_get?_eq_none {m : SortedMap κ β} {k : κ} (absent : m.get? k = none) :
    m.erase k = m := by
  refine ext (List.filter_eq_self.mpr fun e listed => decide_eq_true fun same => ?_)
  obtain rfl := Std.LawfulEqCmp.eq_of_compare same
  rw [get?_eq_some_iff.mpr listed] at absent
  cases absent

theorem eq_of_mem_iff {entries entries' : List (κ × β)}
    (sorted : entries.Pairwise fun a b => compare a.1 b.1 = .lt)
    (sorted' : entries'.Pairwise fun a b => compare a.1 b.1 = .lt)
    (same : ∀ e, e ∈ entries ↔ e ∈ entries') : entries = entries' := by
  have irrefl : Std.Irrefl fun a b : κ × β => compare a.1 b.1 = .lt :=
    ⟨fun a below => by simp [Std.ReflCmp.compare_self] at below⟩
  have antisymm : Std.Antisymm fun a b : κ × β => compare a.1 b.1 = .lt :=
    ⟨fun a b below above => absurd (Std.TransCmp.lt_trans below above) (irrefl.irrefl a)⟩
  exact sorted.eq_of_mem_iff sorted' same

omit [Std.LawfulEqOrd κ] in
theorem place_of_above {k : κ} {x : β} {entries : List (κ × β)}
    (above : ∀ e ∈ entries, compare e.1 k = .lt) : place k x entries = entries ++ [(k, x)] := by
  induction entries with
  | nil => rfl
  | cons head rest ih =>
    obtain ⟨k', x'⟩ := head
    have order : compare k k' = .gt := Std.OrientedCmp.gt_of_lt (above _ List.mem_cons_self)
    simp only [place, order, List.cons_append]
    rw [ih fun e listed => above e (List.mem_cons_of_mem _ listed)]

theorem entries_foldl_insert {m : SortedMap κ β} {entries : List (κ × β)}
    (sorted : (m.entries ++ entries).Pairwise fun a b => compare a.1 b.1 = .lt) :
    (entries.foldl (fun m e => m.insert e.1 e.2) m).entries = m.entries ++ entries := by
  induction entries generalizing m with
  | nil => simp
  | cons head rest ih =>
    have above : ∀ e ∈ m.entries, compare e.1 head.1 = .lt := fun e listed =>
      (List.pairwise_append.mp sorted).2.2 e listed head List.mem_cons_self
    have put : (m.insert head.1 head.2).entries = m.entries ++ [head] := place_of_above above
    rw [List.foldl_cons, ih, put, List.append_assoc, List.singleton_append]
    rw [put, List.append_assoc, List.singleton_append]
    exact sorted

theorem ofList_entries (m : SortedMap κ β) : ofList m.entries = m := by
  apply ext
  have : (empty : SortedMap κ β).entries ++ m.entries = m.entries := List.nil_append _
  exact (entries_foldl_insert (this ▸ m.sorted)).trans this

theorem insert_erase {m : SortedMap κ β} {k : κ} {x : β} (found : m.get? k = some x) :
    (m.erase k).insert k x = m := by
  apply ext
  apply eq_of_mem_iff ((m.erase k).insert k x).sorted m.sorted
  rintro ⟨k', x'⟩
  rw [← get?_eq_some_iff, ← get?_eq_some_iff]
  by_cases here : k' = k
  · subst here
    rw [get?_insert_self, found]
  · rw [get?_insert_of_ne _ _ here, get?_erase_of_ne _ here]

end Reconciler.SortedMap
