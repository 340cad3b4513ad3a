import Mathlib.Data.List.Basic
import Mathlib.Data.List.TakeWhile
import Reconciler.Text.Blank

/-!
What is left of a text without the white space around it: the only part of it that has none at
either end and nothing but white space before and after it.
-/

set_option autoImplicit false

namespace Reconciler.Text

def Blank (cs : List Char) : Prop := ∀ c ∈ cs, isBlank c = true

/-- There is no white space at either end. -/
structure Tight (cs : List Char) : Prop where
  head : ∀ c ∈ cs.head?, isBlank c = false
  last : ∀ c ∈ cs.getLast?, isBlank c = false

variable {before cs after : List Char}

theorem blank_nil : Blank [] := by
  intro c among
  cases among

theorem Blank.append (first : Blank before) (second : Blank after) : Blank (before ++ after) := by
  intro c among
  exact (List.mem_append.mp among).elim (first c) (second c)

theorem tight_of_forall (filled : ∀ c ∈ cs, isBlank c = false) : Tight cs where
  head c here := filled c (List.mem_of_mem_head? here)
  last c here := filled c (List.mem_of_mem_getLast? here)

theorem Tight.append {first second : List Char} (tight : Tight first) (tight' : Tight second)
    (filled : first ≠ []) (filled' : second ≠ []) (between : List Char) :
    Tight (first ++ between ++ second) where
  head c here := by
    rw [List.append_assoc, List.head?_append_of_ne_nil _ filled] at here
    exact tight.head c here
  last c here := by
    rw [List.getLast?_append_of_ne_nil _ filled'] at here
    exact tight'.last c here

theorem trimStart_append (blank : Blank before) : trimStart (before ++ cs) = trimStart cs :=
  List.dropWhile_append_of_pos blank

theorem trimStart_of_head (filled : ∀ c ∈ cs.head?, isBlank c = false) : trimStart cs = cs := by
  cases cs with
  | nil => rfl
  | cons c cs => exact List.dropWhile_cons_of_neg (by simp [filled c rfl])

/-- White space around a text without any at its ends is taken away, and nothing else. -/
theorem trim_padded (blank : Blank before) (blank' : Blank after) (tight : Tight cs) :
    trim (before ++ cs ++ after) = cs := by
  have backwards : Blank after.reverse := fun c among => blank' c (List.mem_reverse.mp among)
  rw [trim, List.append_assoc, trimStart_append blank]
  cases cs with
  | nil =>
    have none : trimStart after = [] := List.dropWhile_eq_nil_iff.mpr blank'
    rw [List.nil_append, none]
    rfl
  | cons c cs =>
    have kept : trimStart ((c :: cs) ++ after) = (c :: cs) ++ after := trimStart_of_head tight.head
    have kept' : trimStart (c :: cs).reverse = (c :: cs).reverse :=
      trimStart_of_head (by rw [List.head?_reverse]; exact tight.last)
    rw [kept, List.reverse_append, trimStart_append backwards, kept', List.reverse_reverse]

theorem blank_takeWhile (cs : List Char) : Blank (cs.takeWhile isBlank) :=
  fun _ among => List.mem_takeWhile_imp among

theorem head_trimStart (cs : List Char) : ∀ c ∈ (trimStart cs).head?, isBlank c = false := by
  induction cs with
  | nil =>
    intro c here
    cases here
  | cons a cs ih =>
    cases blank : isBlank a with
    | true =>
      rw [trimStart, List.dropWhile_cons_of_pos blank]
      exact ih
    | false =>
      rw [trimStart, List.dropWhile_cons_of_neg (by simp [blank])]
      intro c here
      obtain rfl := Option.some.inj here
      exact blank

theorem exists_trimStart_eq (cs : List Char) :
    ∃ after, Blank after ∧ trimStart cs = trim cs ++ after := by
  refine ⟨((trimStart cs).reverse.takeWhile isBlank).reverse, ?_, ?_⟩
  · intro c among
    exact blank_takeWhile _ c (List.mem_reverse.mp among)
  · rw [trim, ← List.reverse_append]
    exact ((congrArg List.reverse List.takeWhile_append_dropWhile).trans
      (List.reverse_reverse _)).symm

theorem exists_padding (cs : List Char) :
    ∃ before after, Blank before ∧ Blank after ∧ cs = before ++ trim cs ++ after := by
  obtain ⟨after, blank, same⟩ := exists_trimStart_eq cs
  refine ⟨cs.takeWhile isBlank, after, blank_takeWhile cs, blank, ?_⟩
  rw [List.append_assoc, ← same]
  exact List.takeWhile_append_dropWhile.symm

theorem tight_trim (cs : List Char) : Tight (trim cs) where
  head c here := by
    obtain ⟨after, -, same⟩ := exists_trimStart_eq cs
    have filled : trim cs ≠ [] := by
      rintro none
      rw [none] at here
      cases here
    rw [← List.head?_append_of_ne_nil (trim cs) filled, ← same] at here
    exact head_trimStart cs c here
  last := by
    rw [trim, List.getLast?_reverse]
    exact head_trimStart _

theorem trim_eq_nil_iff : trim cs = [] ↔ Blank cs := by
  constructor
  · intro none
    obtain ⟨before, after, blank, blank', same⟩ := exists_padding cs
    rw [none, List.append_nil] at same
    rw [same]
    exact blank.append blank'
  · intro blank
    have padded := trim_padded blank blank_nil (tight_of_forall (List.forall_mem_nil _))
    rwa [List.append_nil, List.append_nil] at padded

end Reconciler.Text
