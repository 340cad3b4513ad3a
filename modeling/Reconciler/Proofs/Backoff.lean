import Mathlib.Data.List.Induction
import Reconciler.Backoff
import Reconciler.Proofs.SortedMap

/-!
Delays told by what was called before. All that a backoff knows of a key is how many of its
failures were counted since it was forgotten last, so that each delay is a plain number: the
shortest one doubled for each of these failures, at most 16 times, and never above the limit.
-/

set_option autoImplicit false

namespace Reconciler

/-- Whole seconds and the nanoseconds of the last one multiplied apart, with a carry; none where
the seconds do not fit into 64 bits. -/
def Duration.carried (d : Duration) (n : Nat) : Option Duration :=
  let under := d.subsecond * n
  let seconds := d.seconds * n + under / 1000000000
  if seconds < wordBound 64 then some ⟨seconds * 1000000000 + under % 1000000000⟩ else none

theorem Duration.scale_eq_carried (d : Duration) (n : Nat) :
    d.scale n = (d.carried n).getD longest := by
  have split : d.nanos * n =
      (d.seconds * n + d.subsecond * n / 1000000000) * 1000000000 +
        d.subsecond * n % 1000000000 := by
    have parts : d.nanos = d.seconds * 1000000000 + d.subsecond := by
      unfold seconds subsecond
      omega
    rw [Nat.add_mul, Nat.add_assoc, Nat.div_add_mod', Nat.mul_right_comm, ← Nat.add_mul, ← parts]
  have below := Nat.mod_lt (d.subsecond * n) (show 0 < 1000000000 by decide)
  unfold carried scale longest
  generalize wordBound 64 = bound
  dsimp only
  rw [split]
  generalize d.seconds * n + d.subsecond * n / 1000000000 = seconds
  generalize d.subsecond * n % 1000000000 = under at below
  by_cases fits : seconds < bound
  · rw [if_pos fits]
    exact congrArg mk (by omega)
  · rw [if_neg fits]
    exact congrArg mk (by omega)

namespace Backoff

inductive Call where
  | next (key : ObjectKey)
  | retry (e : Error) (key : ObjectKey)
  | reset (key : ObjectKey)
  | retain (live : List ObjectKey)

namespace Call

def counts (key : ObjectKey) : Call → Bool
  | .next key' => key' = key
  | .retry e key' => key' = key && e.remedy = .backOff
  | .reset _ | .retain _ => false

def forgets (key : ObjectKey) : Call → Bool
  | .reset key' => key' = key
  | .retain live => !live.contains key
  | .next _ | .retry .. => false

end Call

def answer? (b : Backoff) : Call → Option Duration
  | .next key => some (b.next key).1
  | .retry e key => (b.retry e key).1
  | .reset _ | .retain _ => none

def after (b : Backoff) : Call → Backoff
  | .next key => (b.next key).2
  | .retry e key => (b.retry e key).2
  | .reset key => b.reset key
  | .retain live => b.retain live

def afterAll (b : Backoff) (calls : List Call) : Backoff := calls.foldl after b

/-- The failures of a key that were counted since it was forgotten last. -/
def failuresSince (key : ObjectKey) (calls : List Call) : Nat :=
  (calls.reverse.takeWhile (!·.forgets key)).countP (·.counts key)

variable {b : Backoff} {key : ObjectKey} {c : Call}

theorem retry_of_backOff {e : Error} (backs : e.remedy = .backOff) (key : ObjectKey) :
    b.retry e key = (some (b.next key).1, (b.next key).2) := by
  rw [retry, backs]
  rfl

theorem retry_of_steady {e : Error} (steady : e.remedy ≠ .backOff) (key : ObjectKey) :
    (b.retry e key).2 = b := by
  unfold retry
  split <;> first | rfl | contradiction

theorem answer?_of_counts (counts : c.counts key = true) :
    b.answer? c = some (b.delay (b.failures key)) := by
  cases c with
  | next key' =>
    obtain rfl : key' = key := of_decide_eq_true counts
    rfl
  | retry e key' =>
    obtain ⟨rfl, backs⟩ : key' = key ∧ e.remedy = .backOff := by simpa [Call.counts] using counts
    rw [answer?, retry_of_backOff backs]
    rfl
  | reset key' => cases counts
  | retain live => cases counts

@[simp] theorem limits_after (b : Backoff) (c : Call) :
    (b.after c).base = b.base ∧ (b.after c).max = b.max := by
  cases c with
  | retry e key =>
    cases remedy : e.remedy <;> simp [after, retry, remedy, next]
  | _ => exact ⟨rfl, rfl⟩

theorem failures_next_self (b : Backoff) (key : ObjectKey) :
    (b.next key).2.failures key = min (b.failures key + 1) (wordBound 32 - 1) := by
  simp [next, failures]

theorem failures_next_of_ne {key' : ObjectKey} (apart : key' ≠ key) :
    (b.next key').2.failures key = b.failures key := by
  simp [next, failures, SortedMap.get?_insert_of_ne _ _ apart.symm]

theorem failures_after_of_counts (counts : c.counts key = true) :
    (b.after c).failures key = min (b.failures key + 1) (wordBound 32 - 1) := by
  cases c with
  | next key' =>
    obtain rfl : key' = key := of_decide_eq_true counts
    exact failures_next_self b key'
  | retry e key' =>
    obtain ⟨rfl, backs⟩ : key' = key ∧ e.remedy = .backOff := by simpa [Call.counts] using counts
    rw [after, retry_of_backOff backs]
    exact failures_next_self b key'
  | reset key' => cases counts
  | retain live => cases counts

theorem failures_after_of_forgets (forgets : c.forgets key = true) :
    (b.after c).failures key = 0 := by
  cases c with
  | next key' => cases forgets
  | retry e key' => cases forgets
  | reset key' =>
    obtain rfl : key' = key := of_decide_eq_true forgets
    simp [after, reset, failures]
  | retain live =>
    have dead : live.contains key = false := by simpa [Call.forgets] using forgets
    have gone : (b.retain live).counts.get? key = none :=
      SortedMap.get?_filter_of_failing fun _ => dead
    rw [after, failures, gone]
    rfl

theorem failures_after_of_idle (uncounted : c.counts key = false)
    (remembered : c.forgets key = false) : (b.after c).failures key = b.failures key := by
  cases c with
  | next key' => exact failures_next_of_ne (of_decide_eq_false uncounted)
  | retry e key' =>
    by_cases backs : e.remedy = .backOff
    · rw [after, retry_of_backOff backs]
      exact failures_next_of_ne (by simpa [Call.counts, backs] using uncounted)
    · rw [after, retry_of_steady backs]
  | reset key' =>
    have apart : key ≠ key' := fun same => of_decide_eq_false remembered same.symm
    simp [after, reset, failures, SortedMap.get?_erase_of_ne _ apart]
  | retain live =>
    have lives : live.contains key = true := by simpa [Call.forgets] using remembered
    have kept : (b.retain live).counts.get? key = b.counts.get? key :=
      SortedMap.get?_filter_of_passing fun _ => lives
    rw [after, failures, kept, failures]

@[simp] theorem limits_afterAll (b : Backoff) (calls : List Call) :
    (b.afterAll calls).base = b.base ∧ (b.afterAll calls).max = b.max := by
  induction calls generalizing b with
  | nil => exact ⟨rfl, rfl⟩
  | cons c calls ih =>
    obtain ⟨base, max⟩ := ih (b.after c)
    exact ⟨base.trans (limits_after b c).1, max.trans (limits_after b c).2⟩

theorem afterAll_append (b : Backoff) (calls calls' : List Call) :
    b.afterAll (calls ++ calls') = (b.afterAll calls).afterAll calls' := List.foldl_append

theorem failuresSince_append_singleton (key : ObjectKey) (calls : List Call) (c : Call) :
    failuresSince key (calls ++ [c]) =
      if c.forgets key then 0
      else failuresSince key calls + if c.counts key then 1 else 0 := by
  cases forgets : c.forgets key <;> simp [failuresSince, forgets, List.countP_cons]

/-- A run of calls leaves what the failures since the last time that a key was forgotten come to,
up to the largest number of 32 bits. -/
theorem failures_afterAll (base max : Duration) (key : ObjectKey) (calls : List Call) :
    ((ofLimits base max).afterAll calls).failures key =
      min (failuresSince key calls) (wordBound 32 - 1) := by
  induction calls using List.reverseRecOn with
  | nil => rfl
  | append_singleton calls c ih =>
    rw [afterAll_append, failuresSince_append_singleton]
    change (after _ c).failures key = _
    cases forgets : c.forgets key with
    | true => simp [failures_after_of_forgets forgets]
    | false =>
      cases counts : c.counts key with
      | true =>
        rw [failures_after_of_counts counts, ih]
        simp
        omega
      | false => simp [failures_after_of_idle counts forgets, ih]

/-- Calls that neither count nor forget a key need not have been made. -/
theorem failuresSince_filter (key : ObjectKey) (calls : List Call) :
    failuresSince key (calls.filter fun c => c.counts key || c.forgets key) =
      failuresSince key calls := by
  induction calls using List.reverseRecOn with
  | nil => rfl
  | append_singleton calls c ih =>
    cases forgets : c.forgets key <;> cases counts : c.counts key <;>
      simp [List.filter_append, failuresSince_append_singleton, forgets, counts, ih]

theorem failuresSince_le_append (calls later : List Call)
    (remembered : ∀ c ∈ later, c.forgets key = false) :
    failuresSince key calls ≤ failuresSince key (calls ++ later) := by
  induction later using List.reverseRecOn with
  | nil => simp
  | append_singleton later c ih =>
    have kept : c.forgets key = false := remembered c (by simp)
    rw [← List.append_assoc, failuresSince_append_singleton, if_neg (by simp [kept])]
    exact Nat.le_add_right_of_le (ih fun c' early => remembered c' (by simp [early]))

/-- What the longest duration cuts off lies beyond the limit anyway. -/
theorem min_scale {base max : Duration} (bounded : max.nanos ≤ Duration.longest.nanos) (n : Nat) :
    min (base.scale n) max = ⟨min (base.nanos * n) max.nanos⟩ := by
  refine congrArg Duration.mk ?_
  change (if max.nanos < min (base.nanos * n) Duration.longest.nanos then max
    else ⟨min (base.nanos * n) Duration.longest.nanos⟩ : Duration).nanos = _
  generalize base.nanos * n = product
  split
  · omega
  · change min product Duration.longest.nanos = _
    omega

theorem delay_afterAll (base max : Duration) (calls : List Call) (key : ObjectKey) :
    let b := (ofLimits base max).afterAll calls
    b.delay (b.failures key) =
      min (base.scale (Nat.pow 2 (min (failuresSince key calls) 16))) max := by
  intro b
  obtain ⟨sameBase, sameMax⟩ := limits_afterAll (ofLimits base max) calls
  have same : Nat.min (b.failures key) 16 = min (failuresSince key calls) 16 := by
    change min (b.failures key) 16 = _
    have : wordBound 32 = 4294967296 := rfl
    rw [failures_afterAll]
    omega
  rw [delay, sameBase, sameMax, same]
  rfl

/-- Whatever was called before, a key's failures are those counted since it was forgotten last, and
a call that counts one more tells the shortest delay, doubled for each of them but at most 16
times, or the limit if that is less. Words of 64 bits are wide enough for this, as what does not
fit into them lies beyond the limit. Until the key is forgotten its delays only grow, up to the
limit. Errors that are not backed off from change nothing, and only calls that count or forget the
key matter to it. -/
theorem delays_exact {base max : Duration} (bounded : max.nanos ≤ Duration.longest.nanos)
    (calls : List Call) (key : ObjectKey) :
    let b := (ofLimits base max).afterAll calls
    let times := Nat.pow 2 (min (failuresSince key calls) 16)
    let delay : Duration := ⟨min (base.nanos * times) max.nanos⟩
    b.failures key = min (failuresSince key calls) (wordBound 32 - 1) ∧
    (∀ c : Call, c.counts key = true → b.answer? c = some delay) ∧
    delay = min ((base.carried times).getD .longest) max ∧
    (∀ later c, (∀ c' ∈ later, c'.forgets key = false) → c.counts key = true →
      ∃ d, (b.afterAll later).answer? c = some d ∧ delay.nanos ≤ d.nanos ∧ d.nanos ≤ max.nanos) ∧
    (∀ e key', e.remedy ≠ .backOff → b.after (.retry e key') = b) ∧
    failuresSince key (calls.filter fun c => c.counts key || c.forgets key) =
      failuresSince key calls := by
  intro b times delay
  have told (calls : List Call) (c : Call) (counts : c.counts key = true) :
      ((ofLimits base max).afterAll calls).answer? c =
        some ⟨min (base.nanos * Nat.pow 2 (min (failuresSince key calls) 16)) max.nanos⟩ := by
    rw [answer?_of_counts counts, delay_afterAll, min_scale bounded]
  refine ⟨failures_afterAll base max key calls, told calls, ?_, ?_, ?_,
    failuresSince_filter key calls⟩
  · rw [← Duration.scale_eq_carried, min_scale bounded]
  · intro later c remembered counts
    have more := failuresSince_le_append calls later remembered
    have next := told (calls ++ later) c counts
    rw [afterAll_append] at next
    have doubled : times ≤ Nat.pow 2 (min (failuresSince key (calls ++ later)) 16) :=
      Nat.pow_le_pow_right (by decide) (by omega)
    have longer := Nat.mul_le_mul_left base.nanos doubled
    refine ⟨_, next, ?_, Nat.min_le_right _ _⟩
    change min _ _ ≤ min _ _
    omega
  · intro e key' steady
    exact retry_of_steady steady key'

/-- With the longest durations as limits, the second delay of a key that fails is cut off at the
limit, although its double does not fit into 64 bits of seconds; a refusal and the failures of
another key in between do not matter, and after a reset the first delay is told again. -/
theorem long_delays_exact :
    let key : ObjectKey := ⟨some "acme", "vol-1"⟩
    let base : Duration := .ofSeconds (Nat.pow 2 63)
    let calls : List Call := [.next key, .retry (.forbidden "rbac") key, .next ⟨none, "vol-1"⟩]
    Duration.longest.nanos ≤ Duration.longest.nanos ∧
    ((ofLimits base .longest).afterAll calls).answer? (.retry (.unavailable "down") key) =
      some .longest ∧
    ((ofLimits base .longest).afterAll (calls ++ [.reset key])).answer? (.next key) =
      some base := by
  intro key base calls
  have one : failuresSince key calls = 1 := by decide
  have none : failuresSince key (calls ++ [.reset key]) = 0 := by decide
  have capped := (@delays_exact base .longest (Nat.le_refl _) calls key).2.1
    (.retry (.unavailable "down") key) (by decide)
  have anew := (@delays_exact base .longest (Nat.le_refl _) (calls ++ [.reset key]) key).2.1
    (.next key) (by decide)
  have beyond : (⟨min (base.nanos * Nat.pow 2 (min 1 16)) Duration.longest.nanos⟩ : Duration) =
      .longest := by decide +kernel
  have within : (⟨min (base.nanos * Nat.pow 2 (min 0 16)) Duration.longest.nanos⟩ : Duration) =
      base := by decide +kernel
  rw [one, beyond] at capped
  rw [none, within] at anew
  exact ⟨Nat.le_refl _, capped, anew⟩

end Backoff

end Reconciler
