import Reconciler.Proofs.Time.Rfc3339

/-!
The relaxed reader takes back what is written with `Z` for UTC, signed years included. Digits
and marks are no blanks, so that its leave to skip blanks is never taken.
-/

set_option autoImplicit false

namespace Reconciler

namespace Rfc3339

theorem isBlank_of_isDigit {c : Char} (digit : isDigit c = true) : Text.isBlank c = false := by
  have within : '0' ≤ c ∧ c ≤ '9' := by
    refine Decidable.byContradiction fun outside => ?_
    unfold isDigit digit? at digit
    rw [if_neg outside] at digit
    cases digit
  have low : 48 ≤ c.toNat := within.1
  have high : c.toNat ≤ 57 := within.2
  simp only [Text.isBlank, Bool.or_eq_false_iff, Bool.and_eq_false_iff, decide_eq_false_iff_not]
  omega

theorem trimStart_cons {c : Char} {rest : List Char} (filled : Text.isBlank c = false) :
    Text.trimStart (c :: rest) = c :: rest := by
  simp [Text.trimStart, filled]

theorem mark_cons {c : Char} (filled : Text.isBlank c = false) (rest : List Char) :
    mark c (c :: rest) = some rest := by
  simp [mark, trimStart_cons filled, expect, Except.toOption]

theorem exists_paddedText (width n : Nat) :
    ∃ d ds, (paddedText width n).toList = d :: ds ∧ isDigit d = true := by
  have some : (paddedText width n).toList ≠ [] := by
    simp [paddedText, digitsOf_ne_nil]
  obtain ⟨d, ds, text⟩ := List.exists_cons_of_ne_nil some
  exact ⟨d, ds, text, isDigit_of_mem_paddedText (text ▸ List.mem_cons_self)⟩

theorem shortNumber_paddedText {width n : Nat} (positive : 0 < width)
    (bound : n < Nat.pow 10 width) (rest : List Char) :
    shortNumber width ((paddedText width n).toList ++ rest) = some (n, rest) := by
  obtain ⟨d, ds, text, digit⟩ := exists_paddedText width n
  have length := length_paddedText positive bound
  have untrimmed : Text.trimStart ((paddedText width n).toList ++ rest) =
      (paddedText width n).toList ++ rest := by
    rw [text]
    exact trimStart_cons (isBlank_of_isDigit digit)
  have taken : (((paddedText width n).toList ++ rest).takeWhile isDigit).take width =
      (paddedText width n).toList := by
    rw [List.takeWhile_append_of_pos fun c => isDigit_of_mem_paddedText]
    exact List.take_left' length
  have filled : (paddedText width n).toList ≠ [] := by simp [text]
  simp only [shortNumber, untrimmed, taken, filled, if_false, digitsValue_paddedText,
    List.drop_left]

theorem signedYear_signed {year : Int} {sign : Char}
    (signs : sign = '-' ∧ year < 0 ∨ sign = '+' ∧ 0 ≤ year) (rest : List Char) :
    signedYear (sign :: ((paddedText 4 year.natAbs).toList ++ '-' :: rest)) =
      some (year, '-' :: rest) := by
  have stop : isDigit '-' = false := by decide
  have taken : ((paddedText 4 year.natAbs).toList ++ '-' :: rest).takeWhile isDigit =
      (paddedText 4 year.natAbs).toList := by
    rw [List.takeWhile_append_of_pos fun c => isDigit_of_mem_paddedText]
    simp [stop]
  have dropped : ((paddedText 4 year.natAbs).toList ++ '-' :: rest).dropWhile isDigit =
      '-' :: rest := by
    rw [List.dropWhile_append_of_pos fun c => isDigit_of_mem_paddedText]
    simp [stop]
  have filled : (paddedText 4 year.natAbs).toList ≠ [] := by
    obtain ⟨d, ds, text, -⟩ := exists_paddedText 4 year.natAbs
    simp [text]
  have unblank : Text.isBlank sign = false := by
    rcases signs with ⟨rfl, -⟩ | ⟨rfl, -⟩ <;> decide
  unfold signedYear
  rw [trimStart_cons unblank]
  rcases signs with ⟨rfl, signed⟩ | ⟨rfl, signed⟩ <;>
    simp only [taken, dropped, filled, if_false, digitsValue_paddedText, Option.some.injEq,
      Prod.mk.injEq, and_true] <;>
    omega

theorem signedYear_yearText (year : Int) (rest : List Char) :
    signedYear ((Instant.yearText year).toList ++ '-' :: rest) = some (year, '-' :: rest) := by
  unfold Instant.yearText
  by_cases plain : 0 ≤ year ∧ year ≤ 9999
  · rw [if_pos plain]
    have bound : year.toNat < Nat.pow 10 4 := by change _ < 10000; omega
    have read := shortNumber_paddedText (by decide) bound ('-' :: rest)
    obtain ⟨d, ds, text, digit⟩ := exists_paddedText 4 year.toNat
    rw [text] at read ⊢
    have unsigned : d ≠ '-' ∧ d ≠ '+' := by
      constructor <;> rintro rfl <;> revert digit <;> decide
    simp only [signedYear, List.cons_append, trimStart_cons (isBlank_of_isDigit digit)] at read ⊢
    split
    · rename_i begins
      exact absurd (List.cons.inj begins).1 unsigned.1
    · rename_i begins
      exact absurd (List.cons.inj begins).1 unsigned.2
    · rw [read]
      simp [Int.toNat_of_nonneg plain.1]
  · rw [if_neg plain, String.toList_append, List.append_assoc]
    by_cases before : year < 0
    · have sign : "-".toList = ['-'] := rfl
      rw [if_pos before, sign, List.singleton_append]
      exact signedYear_signed (.inl ⟨rfl, before⟩) rest
    · have sign : "+".toList = ['+'] := rfl
      rw [if_neg before, sign, List.singleton_append]
      exact signedYear_signed (.inr ⟨rfl, Int.not_lt.mp before⟩) rest

theorem bind_eq_of_some {α β : Type} {o : Option α} {f : α → Option β} {a : α} (known : o = some a) :
    (o >>= f) = f a := by
  rw [known]
  rfl

theorem readRelaxed_parts {year : Int} {month day hour minute second nanos : Nat}
    (months : month < 100) (days : day < 100) (hours : hour < 100) (minutes : minute < 100)
    (seconds : second < 100) (short : nanos < Instant.nanosPerSecond) :
    readRelaxed ((Instant.yearText year).toList ++ '-' :: ((paddedText 2 month).toList ++ '-' ::
      ((paddedText 2 day).toList ++ 'T' :: ((paddedText 2 hour).toList ++ ':' ::
        ((paddedText 2 minute).toList ++ ':' :: ((paddedText 2 second).toList ++
          ((Instant.fractionText nanos).toList ++ ['Z']))))))) =
      if year < -262143 ∨ 262142 < year then none
      else Instant.ofClock? ⟨year, month, day⟩ hour minute second nanos 0 := by
  have two {n : Nat} (bound : n < 100) (rest : List Char) :
      shortNumber 2 ((paddedText 2 n).toList ++ rest) = some (n, rest) :=
    shortNumber_paddedText (by decide) bound rest
  have minus := mark_cons (c := '-') (by decide)
  have colon := mark_cons (c := ':') (by decide)
  have stroke (rest : List Char) : (if 'T' = 'T' ∨ 'T' = 't' ∨ 'T' = ' ' then some rest else none) =
      some rest := if_pos (.inl rfl)
  have part := optionalFraction_fractionText (c := 'Z') short (by decide) (by decide) []
  have utc : ¬((Text.trimStart ['Z']).take 3).map Char.toUpper = "UTC".toList := by decide
  have zone : (offset skipSeparators (Text.trimStart ['Z'])).toOption = some (0, []) := by rfl
  have done : ¬(Text.trimStart [] ≠ [] ∨ 86400 ≤ (0 : Int).natAbs) := by decide
  generalize (Instant.fractionText nanos).toList ++ ['Z'] = cs at part ⊢
  unfold readRelaxed
  refine (bind_eq_of_some (signedYear_yearText year _)).trans ?_
  refine (bind_eq_of_some (minus _)).trans ?_
  refine (bind_eq_of_some (two months _)).trans ?_
  refine (bind_eq_of_some (minus _)).trans ?_
  refine (bind_eq_of_some (two days _)).trans ?_
  refine (bind_eq_of_some (stroke _)).trans ?_
  refine (bind_eq_of_some (two hours _)).trans ?_
  refine (bind_eq_of_some (colon _)).trans ?_
  refine (bind_eq_of_some (two minutes _)).trans ?_
  refine (bind_eq_of_some (colon _)).trans ?_
  refine (bind_eq_of_some (two seconds _)).trans ?_
  -- the reader goes on in each way that the part of the second may begin
  dsimp only
  split
  · rename_i rest
    have read : (fraction rest).toOption = some (nanos, ['Z']) := congrArg Except.toOption part
    refine (bind_eq_of_some read).trans ?_
    refine (if_neg utc).trans ?_
    refine (bind_eq_of_some zone).trans ?_
    exact if_neg done
  · rename_i rest other
    obtain ⟨rfl, rfl⟩ := optionalFraction_of_ne other part
    refine (bind_eq_of_some (a := (0, ['Z'])) rfl).trans ?_
    refine (if_neg utc).trans ?_
    refine (bind_eq_of_some zone).trans ?_
    exact if_neg done

/-- A point in time is read back from its written form, whatever its year. -/
theorem relaxed?_toText {t : Instant} (shown : t.Shown) :
    relaxed? t.toText = if t.inRange then some t else none := by
  have months := Date.month_ofDay_le (t.seconds / 86400)
  have days := Date.day_ofDay_le (t.seconds / 86400)
  have second : (t.seconds % 86400).toNat % 60 + t.nanos / Instant.nanosPerSecond < 100 := by
    have bound := shown.nanos_lt
    unfold Instant.nanosPerSecond at *
    omega
  have short : t.nanos % Instant.nanosPerSecond < Instant.nanosPerSecond :=
    Nat.mod_lt _ (by decide)
  have text : t.toText.toList = (t.localText .exact).toList ++ ['Z'] := String.toList_append
  unfold relaxed?
  rw [text, toList_localText, readRelaxed_parts (by omega) (by omega) (by omega) (by omega) second
    short]
  by_cases far : t.year < -262143 ∨ 262142 < t.year
  · have outside : t.inRange = false := by
      simp only [Instant.inRange, Bool.and_eq_false_iff, decide_eq_false_iff_not]
      change ¬t.year ≤ 262142 ∨ ¬-262143 ≤ t.year
      omega
    rw [if_pos far, outside]
    rfl
  · rw [if_neg far]
    exact ofClock?_of_shown shown

end Rfc3339

end Reconciler
