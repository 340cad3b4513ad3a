import Reconciler.Proofs.Decimal
import Reconciler.Time.Rfc3339

/-!
Points in time written and read back. Each part of the written form is read where it stands,
whatever follows it, so that the strict reader takes back every point of the years 0 to 9999
that it could have read before.
-/

set_option autoImplicit false

namespace Reconciler

namespace Date

/-- No year is longer than 366 days when it begins in March. -/
theorem dayOfYear_bounds (inFour : Int) (low : 0 ≤ inFour) (high : inFour < 1461) :
    0 ≤ inFour - min (inFour / 365) 3 * 365 ∧ inFour - min (inFour / 365) 3 * 365 ≤ 365 := by
  omega

theorem month_ofDay_le (day : Int) : (ofDay day).month ≤ 12 := by
  unfold ofDay
  simp only
  generalize (day + epochShift) % cycle - _ = inCentury
  have bounds := dayOfYear_bounds (inCentury % 1461) (by omega) (by omega)
  generalize inCentury % 1461 - _ = doy at *
  split <;> omega

theorem day_ofDay_le (day : Int) : (ofDay day).day ≤ 31 := by
  unfold ofDay
  simp only
  generalize (day + epochShift) % cycle - _ = inCentury
  have bounds := dayOfYear_bounds (inCentury % 1461) (by omega) (by omega)
  generalize inCentury % 1461 - _ = doy at *
  omega

end Date

namespace Instant

def year (t : Instant) : Int := (Date.ofDay (t.seconds / 86400)).year

/-- Points that a clock can show: only the last second of a minute has a leap second. -/
structure Shown (t : Instant) : Prop where
  nanos_lt : t.nanos < 2 * nanosPerSecond
  leap : nanosPerSecond ≤ t.nanos → t.seconds % 60 = 59

theorem shown_of_ofClock? {date : Date} {hour minute second nanos : Nat} {offset : Int}
    {t : Instant} (whole : offset % 60 = 0)
    (shows : ofClock? date hour minute second nanos offset = some t) : t.Shown := by
  unfold ofClock? at shows
  by_cases valid : date.isValid ∧ hour < 24 ∧ minute < 60 ∧ second ≤ 60 ∧ nanos < nanosPerSecond
  · rw [if_pos valid] at shows
    obtain ⟨-, -, -, -, short⟩ := valid
    by_cases leap : second = 60
    · simp only [leap, if_true] at shows
      split at shows
      · obtain rfl := Option.some.inj shows
        exact ⟨by simp only; omega, fun _ => by simp only; omega⟩
      · cases shows
    · simp only [leap, if_false] at shows
      split at shows
      · obtain rfl := Option.some.inj shows
        exact ⟨by simp only; omega, fun late => by simp only at late; omega⟩
      · cases shows
  · rw [if_neg valid] at shows
    cases shows

theorem settled_of_shown {t : Instant} (shown : t.Shown) : t.settled = t := by
  unfold settled
  rw [if_neg]
  intro ⟨leap, within⟩
  exact within (shown.leap leap)

/-- A leap second half a minute after 1970 began. Its written form names the second after. -/
def lateLeap : Instant := ⟨30, 1500000000⟩

theorem shown_settled {t : Instant} (bound : t.nanos < 2 * nanosPerSecond) : t.settled.Shown := by
  unfold settled
  split
  · constructor
    · simp only
      omega
    · intro leap
      simp only at leap
      omega
  · rename_i proper
    constructor
    · exact bound
    · intro leap
      exact Decidable.not_not.mp fun within => proper ⟨leap, within⟩

@[simp] theorem year_settled (t : Instant) : t.settled.year = t.year := by
  unfold settled
  split
  · have day : (t.seconds + 1) / 86400 = t.seconds / 86400 := by omega
    simp only [year, day]
  · rfl

@[simp] theorem inRange_settled (t : Instant) : t.settled.inRange = t.inRange := by
  have same : (Date.ofDay (t.settled.seconds / 86400)).year = _ := year_settled t
  simp only [inRange, same]
  rfl

theorem localText_settled (precision : Precision) (t : Instant) :
    t.settled.localText precision = t.localText precision := by
  unfold settled
  split
  · rename_i within
    obtain ⟨leap, within⟩ := within
    -- the second after lies in the same minute, so that only the second is written otherwise
    have day : (t.seconds + 1) / 86400 = t.seconds / 86400 := by omega
    have hour : ((t.seconds + 1) % 86400).toNat / 3600 = (t.seconds % 86400).toNat / 3600 := by
      omega
    have minute : ((t.seconds + 1) % 86400).toNat / 60 = (t.seconds % 86400).toNat / 60 := by
      omega
    have second : ((t.seconds + 1) % 86400).toNat % 60 +
        (t.nanos - nanosPerSecond) / nanosPerSecond =
          (t.seconds % 86400).toNat % 60 + t.nanos / nanosPerSecond := by
      unfold nanosPerSecond at *
      omega
    have part : (t.nanos - nanosPerSecond) % nanosPerSecond = t.nanos % nanosPerSecond := by
      unfold nanosPerSecond at *
      omega
    simp only [localText, day, hour, minute, second, part]
  · rfl

theorem toText_settled (t : Instant) : t.settled.toText = t.toText :=
  congrArg (· ++ "Z") (localText_settled .exact t)

theorem toOffsetText_settled (t : Instant) : t.settled.toOffsetText = t.toOffsetText :=
  congrArg (· ++ "+00:00") (localText_settled .exact t)

theorem toSecondsText_settled (t : Instant) : t.settled.toSecondsText = t.toSecondsText :=
  congrArg (· ++ "Z") (localText_settled .wholeSeconds t)

end Instant

namespace Rfc3339

theorem offsetSeconds_whole {separator : List Char → Except Fault (List Char)} {cs rest : List Char}
    {n : Nat} (read : offsetSeconds separator cs = .ok (n, rest)) : n % 60 = 0 := by
  unfold offsetSeconds at read
  cases hours : offsetDigits cs with
  | error fault => simp [hours, bind, Except.bind] at read
  | ok found =>
    obtain ⟨h, h', rest₁⟩ := found
    simp only [hours, bind, Except.bind] at read
    split at read
    · cases skipped : separator rest₁ with
      | error fault => simp [skipped] at read
      | ok rest₂ =>
        simp only [skipped] at read
        cases minutes : offsetDigits rest₂ with
        | error fault => simp [minutes] at read
        | ok found =>
          obtain ⟨m, m', rest₃⟩ := found
          simp only [minutes] at read
          split at read
          · split at read
            · obtain ⟨rfl, -⟩ := Prod.mk.inj (Except.ok.inj read)
              omega
            · cases read
          · cases read
    · cases read

theorem map_offsetSeconds_whole {separator : List Char → Except Fault (List Char)}
    {cs rest : List Char} {ahead : Int} (sign : Nat → Int)
    (whole : ∀ n, n % 60 = 0 → sign n % 60 = 0)
    (read : (offsetSeconds separator cs).map (fun (n, r) => (sign n, r)) = .ok (ahead, rest)) :
    ahead % 60 = 0 := by
  cases seconds : offsetSeconds separator cs with
  | error fault => simp [seconds, Except.map] at read
  | ok found =>
    rw [seconds] at read
    obtain ⟨rfl, -⟩ := Prod.mk.inj (Except.ok.inj read)
    exact whole _ (offsetSeconds_whole seconds)

theorem offset_whole {separator : List Char → Except Fault (List Char)} {cs rest : List Char}
    {ahead : Int} (read : offset separator cs = .ok (ahead, rest)) : ahead % 60 = 0 := by
  cases cs with
  | nil => cases read
  | cons c cs =>
    simp only [offset] at read
    split at read
    · obtain ⟨rfl, -⟩ := Prod.mk.inj (Except.ok.inj read)
      rfl
    · split at read
      · exact map_offsetSeconds_whole (fun n => n) (fun n whole => by omega) read
      · split at read
        · exact map_offsetSeconds_whole (fun n => -n) (fun n whole => by omega) read
        · cases read

def Shows (x : Except Fault Instant) : Prop := ∀ t, x = .ok t → t.Shown

theorem shows_error (fault : Fault) : Shows (.error fault) := by
  intro t impossible
  cases impossible

theorem shows_bind {α : Type} {x : Except Fault α} {f : α → Except Fault Instant}
    (rest : ∀ a, x = .ok a → Shows (f a)) : Shows (x >>= f) := by
  intro t read
  cases x with
  | error fault => cases read
  | ok a => exact rest a rfl t read

theorem shows_zoned (date : Date) (hour minute second nanos : Nat) (cs : List Char) :
    Shows (if 24 ≤ hour ∨ 60 ≤ minute ∨ 60 < second then .error .outOfRange
      else do
        let (ahead, rest) ← offset (expect ':') cs
        if rest ≠ [] then .error .trailing
        else if 86400 ≤ ahead.natAbs then .error .outOfRange
        else
          match Instant.ofClock? date hour minute second nanos ahead with
          | some t => .ok t
          | none => .error .outOfRange) := by
  split
  · exact shows_error _
  · refine shows_bind fun zone read => ?_
    obtain ⟨ahead, rest⟩ := zone
    have whole := offset_whole read
    dsimp only
    split
    · exact shows_error _
    · split
      · exact shows_error _
      · split
        · rename_i t shows
          intro t' same
          obtain rfl := Except.ok.inj same
          exact Instant.shown_of_ofClock? whole shows
        · exact shows_error _

theorem shows_timed (date : Date) (cs : List Char) : Shows (do
    let (hour, rest) ← fixedNumber 2 0 cs
    let rest ← expect ':' rest
    let (minute, rest) ← fixedNumber 2 0 rest
    let rest ← expect ':' rest
    let (second, rest) ← fixedNumber 2 0 rest
    let (nanos, rest) ← match rest with
      | '.' :: rest => fraction rest
      | rest => .ok (0, rest)
    if 24 ≤ hour ∨ 60 ≤ minute ∨ 60 < second then .error .outOfRange
    else
      let (ahead, rest) ← offset (expect ':') rest
      if rest ≠ [] then .error .trailing
      else if 86400 ≤ ahead.natAbs then .error .outOfRange
      else
        match Instant.ofClock? date hour minute second nanos ahead with
        | some t => .ok t
        | none => .error .outOfRange) := by
  refine shows_bind fun hour _ => shows_bind fun rest _ => ?_
  refine shows_bind fun minute _ => shows_bind fun rest _ => ?_
  refine shows_bind fun second _ => ?_
  dsimp only
  split
  · exact shows_bind fun nanos _ => shows_zoned _ _ _ _ _ _
  · exact shows_bind fun nanos _ => shows_zoned _ _ _ _ _ _

theorem shows_readStrict (cs : List Char) : Shows (readStrict cs) := by
  unfold readStrict
  refine shows_bind fun year _ => shows_bind fun rest _ => ?_
  refine shows_bind fun month _ => shows_bind fun rest _ => ?_
  refine shows_bind fun day _ => ?_
  dsimp only
  split
  · exact shows_error _
  · split
    · split
      · exact shows_bind fun rest _ => shows_timed _ rest
      · exact shows_bind fun rest _ => shows_timed _ rest
    · exact shows_bind fun rest _ => shows_timed _ rest

theorem shown_of_strict? {text : String} {t : Instant} (read : strict? text = .ok t) :
    t.Shown := by
  unfold strict? at read
  split at read
  · cases read
  · exact shows_readStrict _ t read

theorem fixedNumber_digits {ds : List Char} (digits : ∀ c ∈ ds, isDigit c = true) (n : Nat)
    (rest : List Char) : fixedNumber ds.length n (ds ++ rest) =
      .ok (ds.foldl (fun n c => 10 * n + (c.toNat - '0'.toNat)) n, rest) := by
  induction ds generalizing n with
  | nil => rfl
  | cons c ds ih =>
    have first := digit?_of_isDigit (digits c List.mem_cons_self)
    have others := ih (fun d listed => digits d (List.mem_cons_of_mem c listed))
    simp only [List.length_cons, List.cons_append, fixedNumber, first, others, List.foldl_cons]

theorem fixedNumber_paddedText {width n : Nat} (positive : 0 < width)
    (bound : n < Nat.pow 10 width) (rest : List Char) :
    fixedNumber width 0 ((paddedText width n).toList ++ rest) = .ok (n, rest) := by
  have digits : ∀ c ∈ (paddedText width n).toList, isDigit c = true :=
    fun _ => isDigit_of_mem_paddedText
  have read := fixedNumber_digits digits 0 rest
  rw [length_paddedText positive bound] at read
  rw [read]
  exact congrArg (fun n => Except.ok (n, rest)) (digitsValue_paddedText width n)

theorem fraction_digits {ds rest : List Char} {c : Char} (digits : ∀ c ∈ ds, isDigit c = true)
    (some : ds ≠ []) (few : ds.length ≤ 9) (stop : isDigit c = false) :
    fraction (ds ++ c :: rest) =
      .ok (digitsValue ds * Nat.pow 10 (9 - ds.length), c :: rest) := by
  have taken : (ds ++ c :: rest).takeWhile isDigit = ds := by
    rw [List.takeWhile_append_of_pos digits]
    simp [stop]
  have dropped : (ds ++ c :: rest).dropWhile isDigit = c :: rest := by
    rw [List.dropWhile_append_of_pos digits]
    simp [stop]
  simp [fraction, taken, dropped, some, List.take_of_length_le few]

theorem fraction_paddedText {width part : Nat} {c : Char} (positive : 0 < width)
    (few : width ≤ 9) (bound : part < Nat.pow 10 width) (stop : isDigit c = false)
    (rest : List Char) : fraction ((paddedText width part).toList ++ c :: rest) =
      .ok (part * Nat.pow 10 (9 - width), c :: rest) := by
  have length := length_paddedText positive bound
  have some : (paddedText width part).toList ≠ [] := by
    intro none
    rw [none, List.length_nil] at length
    omega
  have short : (paddedText width part).toList.length ≤ 9 := by omega
  rw [fraction_digits (fun c => isDigit_of_mem_paddedText) some short stop,
    digitsValue_paddedText, length]

def optionalFraction : List Char → Except Fault (Nat × List Char)
  | '.' :: rest => fraction rest
  | rest => .ok (0, rest)

theorem optionalFraction_of_ne {nanos : Nat} {cs rest : List Char}
    (other : ∀ after, cs = '.' :: after → False)
    (part : optionalFraction cs = .ok (nanos, rest)) : 0 = nanos ∧ cs = rest := by
  have whole : optionalFraction cs = .ok (0, cs) := by
    unfold optionalFraction
    split
    · rename_i after
      exact (other after rfl).elim
    · rfl
  simpa using whole.symm.trans part

theorem optionalFraction_paddedText {width part : Nat} {c : Char} (positive : 0 < width)
    (few : width ≤ 9) (bound : part < Nat.pow 10 width) (stop : isDigit c = false)
    (rest : List Char) : optionalFraction (("." ++ paddedText width part).toList ++ c :: rest) =
      .ok (part * Nat.pow 10 (9 - width), c :: rest) := by
  have point : ".".toList = ['.'] := rfl
  rw [String.toList_append, point, List.append_assoc, List.singleton_append, optionalFraction]
  exact fraction_paddedText positive few bound stop rest

theorem optionalFraction_fractionText {nanos : Nat} {c : Char}
    (short : nanos < Instant.nanosPerSecond) (stop : isDigit c = false) (other : c ≠ '.')
    (rest : List Char) : optionalFraction ((Instant.fractionText nanos).toList ++ c :: rest) =
      .ok (nanos, c :: rest) := by
  unfold Instant.nanosPerSecond at short
  unfold Instant.fractionText
  split
  · rename_i none
    rw [none]
    show optionalFraction (c :: rest) = _
    unfold optionalFraction
    split
    · rename_i begins
      exact absurd (List.cons.inj begins).1 other
    · rfl
  · split
    · rename_i millis
      have bound : nanos / 1000000 < Nat.pow 10 3 := by change _ < 1000; omega
      rw [optionalFraction_paddedText (by decide) (by decide) bound stop]
      change Except.ok (nanos / 1000000 * 1000000, _) = _
      rw [Nat.div_mul_cancel (Nat.dvd_of_mod_eq_zero millis)]
    · split
      · rename_i micros
        have bound : nanos / 1000 < Nat.pow 10 6 := by change _ < 1000000; omega
        rw [optionalFraction_paddedText (by decide) (by decide) bound stop]
        change Except.ok (nanos / 1000 * 1000, _) = _
        rw [Nat.div_mul_cancel (Nat.dvd_of_mod_eq_zero micros)]
      · have bound : nanos < Nat.pow 10 9 := short
        rw [optionalFraction_paddedText (by decide) (by decide) bound stop]
        change Except.ok (nanos * 1, _) = _
        rw [Nat.mul_one]

theorem toList_localText (t : Instant) (zone : List Char) :
    (t.localText .exact).toList ++ zone =
      (Instant.yearText t.year).toList ++ '-' ::
        ((paddedText 2 (Date.ofDay (t.seconds / 86400)).month).toList ++ '-' ::
          ((paddedText 2 (Date.ofDay (t.seconds / 86400)).day).toList ++ 'T' ::
            ((paddedText 2 ((t.seconds % 86400).toNat / 3600)).toList ++ ':' ::
              ((paddedText 2 ((t.seconds % 86400).toNat / 60 % 60)).toList ++ ':' ::
                ((paddedText 2 ((t.seconds % 86400).toNat % 60 +
                  t.nanos / Instant.nanosPerSecond)).toList ++
                  ((Instant.fractionText (t.nanos % Instant.nanosPerSecond)).toList ++ zone)))))) := by
  simp [Instant.localText, Instant.year, String.toList_append]

theorem toList_toOffsetText (t : Instant) : t.toOffsetText.toList =
    (t.localText .exact).toList ++ ['+', '0', '0', ':', '0', '0'] :=
  String.toList_append

theorem readStrict_parts {year month day hour minute second nanos : Nat} {t : Instant}
    (years : year < 10000) (months : month < 100) (days : day < 100) (hours : hour < 24)
    (minutes : minute < 60) (seconds : second ≤ 60) (short : nanos < Instant.nanosPerSecond)
    (valid : (⟨year, month, day⟩ : Date).isValid = true)
    (shows : Instant.ofClock? ⟨year, month, day⟩ hour minute second nanos 0 = some t) :
    readStrict ((paddedText 4 year).toList ++ '-' :: ((paddedText 2 month).toList ++ '-' ::
      ((paddedText 2 day).toList ++ 'T' :: ((paddedText 2 hour).toList ++ ':' ::
        ((paddedText 2 minute).toList ++ ':' :: ((paddedText 2 second).toList ++
          ((Instant.fractionText nanos).toList ++ ['+', '0', '0', ':', '0', '0']))))))) =
      .ok t := by
  have two {n : Nat} (bound : n < 100) (rest : List Char) :
      fixedNumber 2 0 ((paddedText 2 n).toList ++ rest) = .ok (n, rest) :=
    fixedNumber_paddedText (by decide) bound rest
  have four := fixedNumber_paddedText (by decide : 0 < 4) years
  have hours' : hour < 100 := by omega
  have minutes' : minute < 100 := by omega
  have seconds' : second < 100 := by omega
  have clock : ¬ (24 ≤ hour ∨ 60 ≤ minute ∨ 60 < second) := by omega
  have zone : offset (expect ':') ['+', '0', '0', ':', '0', '0'] = .ok (0, []) := by rfl
  have part := optionalFraction_fractionText (c := '+') short (by decide) (by decide)
    ['0', '0', ':', '0', '0']
  generalize (Instant.fractionText nanos).toList ++ ['+', '0', '0', ':', '0', '0'] = cs at part ⊢
  unfold readStrict
  simp only [four, two months, two days, two hours', two minutes', two seconds', expect, bind,
    Except.bind, if_true, valid, Bool.not_true, Bool.false_eq_true, if_false, true_or]
  -- the reader goes on in each way that the part of the second may begin
  split
  · rename_i rest
    have read : fraction rest = .ok (nanos, ['+', '0', '0', ':', '0', '0']) := part
    simp [read, clock, zone, shows]
  · rename_i rest other
    obtain ⟨rfl, rfl⟩ := optionalFraction_of_ne other part
    simp [clock, zone, shows]

/-- A point in time is what a clock shows at it. -/
theorem ofClock?_of_shown {t : Instant} (shown : t.Shown) :
    Instant.ofClock? (Date.ofDay (t.seconds / 86400)) ((t.seconds % 86400).toNat / 3600)
      ((t.seconds % 86400).toNat / 60 % 60)
      ((t.seconds % 86400).toNat % 60 + t.nanos / Instant.nanosPerSecond)
      (t.nanos % Instant.nanosPerSecond) 0 = if t.inRange then some t else none := by
  obtain ⟨bound, leap⟩ := shown
  obtain ⟨seconds, nanos⟩ := t
  dsimp only at *
  have second : (seconds % 86400).toNat % 60 + nanos / Instant.nanosPerSecond ≤ 60 := by
    unfold Instant.nanosPerSecond at *
    omega
  unfold Instant.ofClock?
  rw [if_pos ⟨Date.isValid_ofDay _, by omega, by omega, second, Nat.mod_lt _ (by decide)⟩]
  by_cases last : (seconds % 86400).toNat % 60 + nanos / Instant.nanosPerSecond = 60
  · simp only [last, if_true, Date.toDay_ofDay]
    have point : (⟨seconds / 86400 * 86400 + ↑((seconds % 86400).toNat / 3600) * 3600 +
        ↑((seconds % 86400).toNat / 60 % 60) * 60 + 59 - 0,
        nanos % Instant.nanosPerSecond + Instant.nanosPerSecond⟩ : Instant) =
          ⟨seconds, nanos⟩ := by
      unfold Instant.nanosPerSecond at *
      simp only [Instant.mk.injEq]
      omega
    exact congrArg (fun t : Instant => if t.inRange then some t else none) point
  · simp only [last, if_false, Date.toDay_ofDay]
    have point : (⟨seconds / 86400 * 86400 + ↑((seconds % 86400).toNat / 3600) * 3600 +
        ↑((seconds % 86400).toNat / 60 % 60) * 60 +
          ↑((seconds % 86400).toNat % 60 + nanos / Instant.nanosPerSecond) - 0,
        nanos % Instant.nanosPerSecond⟩ : Instant) = ⟨seconds, nanos⟩ := by
      unfold Instant.nanosPerSecond at *
      simp only [Instant.mk.injEq]
      omega
    exact congrArg (fun t : Instant => if t.inRange then some t else none) point

theorem length_le_utf8ByteSize (cs : List Char) : cs.length ≤ (String.ofList cs).utf8ByteSize := by
  induction cs with
  | nil => exact Nat.zero_le _
  | cons c cs ih =>
    have split : String.ofList (c :: cs) = String.singleton c ++ String.ofList cs := by
      rw [String.singleton_eq_ofList, ← String.ofList_append]
      rfl
    rw [split, String.utf8ByteSize_append, String.utf8ByteSize_singleton, List.length_cons]
    have positive := Char.utf8Size_pos c
    omega

/-- A point in time is read back from its written form. -/
theorem strict?_toOffsetText {t : Instant} (shown : t.Shown) (early : 0 ≤ t.year)
    (late : t.year ≤ 9999) : strict? t.toOffsetText = .ok t := by
  have year : ((t.year.toNat : Nat) : Int) = t.year := by omega
  have years : t.year.toNat < 10000 := by omega
  have yearText : Instant.yearText t.year = paddedText 4 t.year.toNat :=
    if_pos ⟨early, late⟩
  have months := Date.month_ofDay_le (t.seconds / 86400)
  have days := Date.day_ofDay_le (t.seconds / 86400)
  have inside : t.inRange = true := by
    simp only [Instant.inRange, Bool.and_eq_true, decide_eq_true_eq]
    exact ⟨Int.le_trans late (by decide), Int.le_trans (by decide) early⟩
  have shows := ofClock?_of_shown shown
  rw [inside, if_pos rfl] at shows
  have second : (t.seconds % 86400).toNat % 60 + t.nanos / Instant.nanosPerSecond ≤ 60 := by
    have bound := shown.nanos_lt
    have leap := shown.leap
    unfold Instant.nanosPerSecond at *
    omega
  have date : (⟨t.year.toNat, (Date.ofDay (t.seconds / 86400)).month,
      (Date.ofDay (t.seconds / 86400)).day⟩ : Date) = Date.ofDay (t.seconds / 86400) := by
    rw [year]
    rfl
  have text := (toList_toOffsetText t).trans (toList_localText t _)
  rw [yearText] at text
  have long : 19 ≤ t.toOffsetText.utf8ByteSize := by
    have size := length_le_utf8ByteSize t.toOffsetText.toList
    have four : (paddedText 4 t.year.toNat).toList.length = 4 :=
      length_paddedText (by decide) years
    have two {n : Nat} (bound : n ≤ 60) : (paddedText 2 n).toList.length = 2 :=
      length_paddedText (by decide) (Nat.lt_of_le_of_lt bound (by decide))
    have month := two (Nat.le_trans months (by decide))
    have day := two (Nat.le_trans days (by decide))
    rw [String.ofList_toList, text] at size
    simp only [List.length_append, List.length_cons, four, month, day, List.length_nil] at size
    omega
  have hours : (t.seconds % 86400).toNat / 3600 < 24 := by omega
  have minutes : (t.seconds % 86400).toNat / 60 % 60 < 60 := by omega
  have short : t.nanos % Instant.nanosPerSecond < Instant.nanosPerSecond :=
    Nat.mod_lt _ (by decide)
  rw [← date] at shows
  unfold strict?
  rw [if_neg (Nat.not_lt.mpr long), text]
  exact readStrict_parts years (by omega) (by omega) hours minutes second short
    (by rw [date]; exact Date.isValid_ofDay _) shows

/-- A year that is written with a sign is not read back. -/
theorem strict?_toOffsetText_of_far {t : Instant} (far : ¬ (0 ≤ t.year ∧ t.year ≤ 9999)) :
    ∃ fault, strict? t.toOffsetText = .error fault := by
  have signed : ∃ c rest, t.toOffsetText.toList = c :: rest ∧ digit? c = none := by
    rw [toList_toOffsetText, toList_localText]
    unfold Instant.yearText
    rw [if_neg far, String.toList_append]
    by_cases before : t.year < 0
    · rw [if_pos before]
      exact ⟨'-', _, rfl, by decide⟩
    · rw [if_neg before]
      exact ⟨'+', _, rfl, by decide⟩
  obtain ⟨c, rest, text, sign⟩ := signed
  unfold strict?
  split
  · exact ⟨_, rfl⟩
  · rw [text]
    exact ⟨.invalid, by simp [readStrict, fixedNumber, sign, bind, Except.bind]⟩

end Rfc3339

end Reconciler
