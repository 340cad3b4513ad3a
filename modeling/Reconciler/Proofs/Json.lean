import Mathlib.Data.Option.Basic
import Reconciler.Json

/-!
Records that are read back: which field stands under a name where records are put together,
and what a reader finds that was written for it.
-/

set_option autoImplicit false

namespace Reconciler.Json

variable {α β : Type} {name : String} {fields more : List (String × Json)} {j : Json}

mutual

def same : Json → Json → Bool
  | null, null => true
  | bool a, bool b => a = b
  | int a, int b => a = b
  | decimal a, decimal b => a = b
  | text a, text b => a = b
  | list a, list b => sameItems a b
  | record a, record b => sameFields a b
  | _, _ => false

def sameItems : List Json → List Json → Bool
  | [], [] => true
  | a :: as, b :: bs => same a b && sameItems as bs
  | _, _ => false

def sameFields : List (String × Json) → List (String × Json) → Bool
  | [], [] => true
  | (n, a) :: as, (m, b) :: bs => n = m && same a b && sameFields as bs
  | _, _ => false

end

mutual

theorem same_iff : (a b : Json) → (same a b = true ↔ a = b)
  | null, b => by cases b <;> simp [same]
  | bool a, b => by cases b <;> simp [same]
  | int a, b => by cases b <;> simp [same]
  | decimal a, b => by cases b <;> simp [same]
  | text a, b => by cases b <;> simp [same]
  | list a, b => by cases b <;> simp [same, sameItems_iff a]
  | record a, b => by cases b <;> simp [same, sameFields_iff a]

theorem sameItems_iff : (a b : List Json) → (sameItems a b = true ↔ a = b)
  | [], b => by cases b <;> simp [sameItems]
  | a :: as, b => by cases b <;> simp [sameItems, same_iff a, sameItems_iff as]

theorem sameFields_iff : (a b : List (String × Json)) → (sameFields a b = true ↔ a = b)
  | [], b => by cases b <;> simp [sameFields]
  | (n, a) :: as, b => by
    cases b <;> simp [sameFields, same_iff a, sameFields_iff as, Prod.ext_iff]

end

instance : DecidableEq Json := fun a b => decidable_of_iff _ (same_iff a b)

@[simp] theorem field?_nil : (record []).field? name = none := rfl

@[simp] theorem field?_append :
    (record (fields ++ more)).field? name =
      ((record more).field? name).or ((record fields).field? name) := by
  simp only [field?, List.reverse_append, List.find?_append]
  cases more.reverse.find? fun e => e.1 = name <;> rfl

@[simp] theorem field?_cons {other : String} {v : Json} :
    (record ((other, v) :: fields)).field? name =
      ((record fields).field? name).or (if other = name then some v else none) := by
  have : (record ([(other, v)])).field? name = if other = name then some v else none := by
    by_cases here : other = name <;> simp [field?, here]
  rw [← this, ← field?_append, List.singleton_append]

@[simp] theorem field?_present {other : String} {write : α → Json} {a : Option α} :
    (record (present other write a)).field? name = if other = name then a.map write else none := by
  cases a <;> simp [present]

theorem bind_of_known {o : Option α} {f : α → Option β} {a : α} {b : β}
    (read : (o >>= f) = some b) (known : o = some a) : f a = some b := by
  rw [known] at read
  exact read

theorem bind_eq_of_known {o : Option α} {f : α → Option β} {a : α} (known : o = some a) :
    (o >>= f) = f a := by
  rw [known]
  rfl

theorem bind_of_some {o : Option α} {f : α → Option β} {b : β} (read : (o >>= f) = some b) :
    ∃ a, f a = some b := by
  obtain ⟨a, -, read⟩ := Option.bind_eq_some_iff.mp read
  exact ⟨a, read⟩

/-- What was written for a reader and left out where there was nothing, is read back. -/
theorem optional_of_written {read : Reader α} (write : α → Json) {a : Option α}
    (found : j.field? name = a.map write) (reads : ∀ a, asOption read (write a) = some (some a)) :
    j.optional name read = some a := by
  unfold optional withDefault
  rw [found]
  cases a with
  | none => rfl
  | some a => exact reads a

theorem asOption_of_ne_null {read : Reader α} (proper : j.isNull = false) :
    asOption read j = (read j).map some := by
  cases j with
  | null => cases proper
  | _ => rfl

theorem optional_map {read : Reader β} (write : α → Json) (f : α → β) {a : Option α}
    (found : j.field? name = a.map write) (proper : ∀ x ∈ a, (write x).isNull = false)
    (reads : ∀ x ∈ a, read (write x) = some (f x)) : j.optional name read = some (a.map f) := by
  unfold optional withDefault
  rw [found]
  cases a with
  | none => rfl
  | some a =>
    change asOption read (write a) = some (some (f a))
    rw [asOption_of_ne_null (proper a rfl), reads a rfl]
    rfl

theorem optional_text {s : Option String} (found : j.field? name = s.map .text) :
    j.optional name asText = some s :=
  optional_of_written _ found fun _ => rfl

theorem asList_map_of {read : Reader β} (write : α → Json) (f : α → β) {items : List α}
    (reads : ∀ a ∈ items, read (write a) = some (f a)) :
    asList read (.list (items.map write)) = some (items.map f) := by
  induction items with
  | nil => rfl
  | cons a rest ih =>
    have later := ih fun b listed => reads b (List.mem_cons_of_mem _ listed)
    simp only [asList] at later
    simp only [asList, List.map_cons, List.mapM_cons, reads a List.mem_cons_self, later]
    rfl

theorem asList_map {read : Reader α} (write : α → Json) {items : List α}
    (reads : ∀ a ∈ items, read (write a) = some a) :
    asList read (.list (items.map write)) = some items := by
  rw [asList_map_of write id reads, List.map_id]

theorem eq_of_asList_map {read : Reader α} (write : α → Json) {items found : List α}
    (faithful : ∀ a ∈ items, ∀ b, read (write a) = some b → b = a)
    (reads : asList read (.list (items.map write)) = some found) : found = items := by
  simp only [asList] at reads
  induction items generalizing found with
  | nil => exact (Option.some.inj reads).symm
  | cons a rest ih =>
    rw [List.map_cons, List.mapM_cons] at reads
    obtain ⟨b, first, reads⟩ := Option.bind_eq_some_iff.mp reads
    obtain ⟨others, later, reads⟩ := Option.bind_eq_some_iff.mp reads
    rw [← Option.some.inj reads, faithful a List.mem_cons_self b first,
      ih (fun a listed => faithful a (List.mem_cons_of_mem _ listed)) later]

theorem eq_of_asNat {bits n m : Nat} (read : asNat bits (nat n) = some m) : m = n := by
  simp only [asNat, nat, asIntBetween, Option.map_eq_some_iff, Option.ite_none_right_eq_some] at read
  obtain ⟨i, ⟨-, same⟩, rfl⟩ := read
  rw [← Option.some.inj same]
  rfl

theorem optional_list {read : Reader α} (write : α → Json) {items : Option (List α)}
    (found : j.field? name = items.map fun items => .list (items.map write))
    (reads : ∀ a, read (write a) = some a) : j.optional name (asList read) = some items := by
  refine optional_of_written _ found fun items => ?_
  show (asList read (.list (items.map write))).map some = _
  rw [asList_map write fun a _ => reads a]
  rfl

theorem asEntries_map {read : Reader α} (write : α → Json) {entries : List (String × α)}
    (reads : ∀ a, read (write a) = some a) :
    asEntries read (.record (entries.map fun (k, v) => (k, write v))) = some entries := by
  induction entries with
  | nil => rfl
  | cons e rest ih =>
    simp only [asEntries] at ih
    simp only [asEntries, List.map_cons, List.mapM_cons, reads, ih]
    rfl

end Reconciler.Json
