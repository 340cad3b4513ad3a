import Mathlib.Data.List.Nodup
import Reconciler.Json.Patch
import Reconciler.Proofs.Json

/-!
What a merge patch leaves. A field that the patch names has the patch's value; any other is what
it was.
-/

set_option autoImplicit false

namespace Reconciler.Json

variable {name other : String} {v : Json} {target patch : List (String × Json)}

/-- A value that takes the place of any other: neither `null` nor a record. -/
def Plain (v : Json) : Prop := v.isNull = false ∧ v.isRecord = false

@[simp] theorem plain_text (s : String) : (text s).Plain := ⟨rfl, rfl⟩

@[simp] theorem plain_nat (n : Nat) : (nat n).Plain := ⟨rfl, rfl⟩

@[simp] theorem plain_list (items : List Json) : (list items).Plain := ⟨rfl, rfl⟩

theorem plain_present {α : Type} {write : α → Json} (plain : ∀ a, (write a).Plain) (a : Option α) :
    ∀ e ∈ present name write a, e.2.Plain := by
  cases a <;> simp [present, plain]

def Tidy (j : Json) : Prop := (j.fields.map Prod.fst).Nodup

theorem mem_setField (listed : other ∈ (setField name v target).map Prod.fst) :
    other = name ∨ other ∈ target.map Prod.fst := by
  induction target with
  | nil => simpa [setField] using listed
  | cons e rest ih =>
    obtain ⟨n, w⟩ := e
    by_cases here : n = name
    · rw [setField, if_pos here] at listed
      exact .inr listed
    · rw [setField, if_neg here, List.map_cons, List.mem_cons] at listed
      rcases listed with rfl | listed
      · exact .inr List.mem_cons_self
      · exact (ih listed).imp_right (List.mem_cons_of_mem _)

theorem nodup_setField (tidy : (target.map Prod.fst).Nodup) :
    ((setField name v target).map Prod.fst).Nodup := by
  induction target with
  | nil => simp [setField]
  | cons e rest ih =>
    obtain ⟨n, w⟩ := e
    obtain ⟨first, others⟩ := List.nodup_cons.mp tidy
    by_cases here : n = name
    · rw [setField, if_pos here]
      exact tidy
    · rw [setField, if_neg here, List.map_cons]
      refine List.nodup_cons.mpr ⟨fun again => ?_, ih others⟩
      exact (mem_setField again).elim here first

theorem field?_of_notMem (absent : name ∉ target.map Prod.fst) :
    (record target).field? name = none := by
  induction target with
  | nil => rfl
  | cons e rest ih =>
    obtain ⟨n, w⟩ := e
    rw [List.map_cons, List.mem_cons, not_or] at absent
    simp [ih absent.2, Ne.symm absent.1]

theorem field?_setField (tidy : (target.map Prod.fst).Nodup) :
    (record (setField name v target)).field? other =
      if name = other then some v else (record target).field? other := by
  induction target with
  | nil => simp [setField]
  | cons e rest ih =>
    obtain ⟨n, w⟩ := e
    obtain ⟨first, others⟩ := List.nodup_cons.mp tidy
    by_cases here : n = name
    · subst here
      by_cases same : n = other
      · subst same
        simp [setField, field?_of_notMem first]
      · simp [setField, same]
    · by_cases same : name = other
      · subst same
        simp [setField, here, ih others]
      · simp [setField, here, same, ih others]

theorem mergeFields_cons (plain : v.Plain) :
    mergeFields target ((name, v) :: patch) = mergeFields (setField name v target) patch := by
  obtain ⟨present, scalar⟩ := plain
  cases v with
  | null => cases present
  | record fields => cases scalar
  | _ => simp [mergeFields, merge]

/-- A patch of plain values says what it says, and leaves the rest. -/
theorem field?_mergeFields (plain : ∀ e ∈ patch, e.2.Plain) (tidy : (target.map Prod.fst).Nodup) :
    (record (mergeFields target patch)).field? name =
      ((record patch).field? name).or ((record target).field? name) := by
  induction patch generalizing target with
  | nil => simp [mergeFields]
  | cons e rest ih =>
    obtain ⟨n, v⟩ := e
    rw [mergeFields_cons (plain (n, v) List.mem_cons_self),
      ih (fun e listed => plain e (List.mem_cons_of_mem _ listed)) (nodup_setField tidy),
      field?_setField tidy, field?_cons, Option.or_assoc]
    by_cases here : n = name <;> simp [here]

/-- What a patch says is read as it was written, and what it leaves out as before. -/
theorem eq_or_of_optional {α : Type} {read : Reader α} {j old : Json} (write : α → Json)
    {a a₀ b : Option α} (found : j.field? name = (a.map write).or (old.field? name))
    (faithful : ∀ a b, asOption read (write a) = some b → b = some a)
    (before : old.optional name read = some a₀) (after : j.optional name read = some b) :
    b = a.or a₀ := by
  unfold optional withDefault at before after
  rw [found] at after
  cases a with
  | none => exact Option.some.inj (after.symm.trans before)
  | some a => exact faithful a b after

theorem eq_or_of_text {j old : Json} {a a₀ b : Option String}
    (found : j.field? name = (a.map text).or (old.field? name))
    (before : old.optional name asText = some a₀) (after : j.optional name asText = some b) :
    b = a.or a₀ := by
  refine eq_or_of_optional text found (fun a b read => ?_) before after
  replace read : some (some a) = some b := read
  exact (Option.some.inj read).symm

theorem eq_or_of_nat {bits : Nat} {j old : Json} {a a₀ b : Option Nat}
    (found : j.field? name = (a.map nat).or (old.field? name))
    (before : old.optional name (asNat bits) = some a₀)
    (after : j.optional name (asNat bits) = some b) : b = a.or a₀ := by
  refine eq_or_of_optional nat found (fun a b read => ?_) before after
  obtain ⟨n, counted, rfl⟩ := Option.map_eq_some_iff.mp read
  rw [eq_of_asNat counted]

end Reconciler.Json
