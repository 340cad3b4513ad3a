import Reconciler.Object
/-!
Where an object is stored: its namespace and its name. Keys without a namespace come
first; `ObjectKey.text` is the form in which keys are shown and continue a listing.
-/

set_option autoImplicit false

namespace Reconciler

structure ObjectKey where
  namespaceName : Option String
  name : String
  deriving DecidableEq, Repr, Inhabited

namespace ObjectKey

def inNamespace (namespaceName name : String) : ObjectKey := ⟨some namespaceName, name⟩

def text (key : ObjectKey) : String :=
  match key.namespaceName with
  | some ns => ns ++ "/" ++ key.name
  | none => key.name

/-- The key that a text shows: what stands before the first slash is the namespace. -/
def parse (text : String) : ObjectKey :=
  let cs := text.toList
  match cs.dropWhile (· ≠ '/') with
  | _ :: name => ⟨some (String.ofList (cs.takeWhile (· ≠ '/'))), String.ofList name⟩
  | [] => ⟨none, text⟩

def ofObject {k : Kind} (o : Object k) : ObjectKey :=
  ⟨o.metadata.namespaceName, o.metadata.anyName⟩

def ofReference (r : ResourceRef) : ObjectKey := inNamespace r.scope.namespaceName r.name

instance : Ord ObjectKey where
  compare a b := (compare a.namespaceName b.namespaceName).then (compare a.name b.name)

theorem compare_def (a b : ObjectKey) :
    compare a b = (compare a.namespaceName b.namespaceName).then (compare a.name b.name) := rfl

instance : Std.TransOrd ObjectKey where
  eq_swap {a b} := by
    have spaces : compare a.namespaceName b.namespaceName =
        (compare b.namespaceName a.namespaceName).swap := Std.OrientedCmp.eq_swap
    have names : compare a.name b.name = (compare b.name a.name).swap := Std.OrientedCmp.eq_swap
    simp only [compare_def, Ordering.swap_then, spaces, names]
  isLE_trans {a b c} := by
    intro hab hbc
    simp only [compare_def, Ordering.isLE_then_iff_or] at *
    rcases hab with hab | ⟨hab, hab'⟩ <;> rcases hbc with hbc | ⟨hbc, hbc'⟩
    · exact .inl (Std.TransCmp.lt_trans hab hbc)
    · exact .inl (Std.TransCmp.lt_of_lt_of_eq hab hbc)
    · exact .inl (Std.TransCmp.lt_of_eq_of_lt hab hbc)
    · exact .inr ⟨Std.TransCmp.eq_trans hab hbc, Std.TransCmp.isLE_trans hab' hbc'⟩

instance : Std.LawfulEqOrd ObjectKey where
  eq_of_compare {a b} h := by
    simp only [compare_def, Ordering.then_eq_eq] at h
    cases a; cases b
    simp only [mk.injEq]
    exact ⟨Std.LawfulEqCmp.eq_of_compare h.1, Std.LawfulEqCmp.eq_of_compare h.2⟩

end ObjectKey

end Reconciler
