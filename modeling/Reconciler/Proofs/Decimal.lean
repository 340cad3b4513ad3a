import Reconciler.Decimal

/-!
Numbers and their digits. The digits of a number are read back as the number, so that
different numbers have different texts; filling up with zeros changes no value.
-/

set_option autoImplicit false

namespace Reconciler

@[simp] theorem digitsValue_digitsOf (n : Nat) : digitsValue (digitsOf n) = n :=
  Nat.ofDigitChars_ten_toDigits

theorem digitsOf_ne_nil (n : Nat) : digitsOf n ≠ [] := Nat.toDigits_ne_nil

@[simp] theorem natText_inj {m n : Nat} : natText m = natText n ↔ m = n := by
  refine ⟨fun same => ?_, fun same => same ▸ rfl⟩
  have digits : digitsOf m = digitsOf n := String.ofList_injective same
  simpa using congrArg digitsValue digits

theorem natText_ne_empty (n : Nat) : natText n ≠ "" := by
  intro blank
  exact digitsOf_ne_nil n (String.ofList_injective (blank.trans rfl))

theorem isDigit_of_mem_digitsOf {n : Nat} {c : Char} (digit : c ∈ digitsOf n) :
    isDigit c = true := by
  have plain := Nat.isDigit_of_mem_toDigits (by decide) (by decide) digit
  simp only [Char.isDigit, Bool.and_eq_true, decide_eq_true_eq] at plain
  simp only [isDigit, digit?, Char.le_def]
  rw [if_pos ⟨plain.1, plain.2⟩]
  rfl

theorem digit?_of_isDigit {c : Char} (digit : isDigit c = true) :
    digit? c = some (c.toNat - '0'.toNat) := by
  unfold isDigit digit? at *
  by_cases within : '0' ≤ c ∧ c ≤ '9'
  · rw [if_pos within]
  · simp [within] at digit

theorem isDigit_of_mem_paddedText {width n : Nat} {c : Char}
    (digit : c ∈ (paddedText width n).toList) : isDigit c = true := by
  simp only [paddedText, String.toList_ofList, List.mem_append, List.mem_replicate] at digit
  rcases digit with ⟨-, rfl⟩ | digit
  · decide
  · exact isDigit_of_mem_digitsOf digit

theorem length_paddedText {width n : Nat} (positive : 0 < width) (bound : n < Nat.pow 10 width) :
    (paddedText width n).toList.length = width := by
  have short : (digitsOf n).length ≤ width :=
    (Nat.length_toDigits_le_iff (by decide) positive).mpr bound
  simp only [paddedText, String.toList_ofList, List.length_append, List.length_replicate]
  omega

@[simp] theorem digitsValue_paddedText (width n : Nat) :
    digitsValue (paddedText width n).toList = n := by
  have filled : ∀ count, digitsValue (List.replicate count '0' ++ digitsOf n) = n := by
    intro count
    change Nat.ofDigitChars 10 (List.replicate count '0' ++ digitsOf n) 0 = n
    rw [Nat.ofDigitChars_append, Nat.ofDigitChars_replicate_zero]
    exact digitsValue_digitsOf n
  simpa [paddedText] using filled _

end Reconciler
