import Reconciler.Context

/-!
Contexts and the clock: a context that has not ended now had not ended before, and a wait
under it takes the clock forward.
-/

set_option autoImplicit false

namespace Reconciler

namespace Moment

variable {at? : Option Moment} {s t : Moment}

theorem lt_of_unreached (ahead : reached at? s = false) (set : at? = some t) :
    s.nanos < t.nanos := by
  subst set
  simpa [reached] using ahead

theorem unreached_mono (earlier : s.nanos ≤ t.nanos) (ahead : reached at? t = false) :
    reached at? s = false := by
  cases at? with
  | none => rfl
  | some u =>
    have later := lt_of_unreached ahead rfl
    simp only [reached, decide_eq_false_iff_not]
    omega

end Moment

namespace Context

variable {ctx : Context} {s t : Moment}

theorem check_eq_ok : ctx.check t = .ok () ↔
    Moment.reached ctx.cancelledAt t = false ∧ Moment.reached ctx.deadline t = false := by
  unfold check interruption?
  cases Moment.reached ctx.cancelledAt t <;> cases Moment.reached ctx.deadline t <;> simp

theorem check_mono (earlier : s.nanos ≤ t.nanos) (live : ctx.check t = .ok ()) :
    ctx.check s = .ok () := by
  obtain ⟨uncancelled, early⟩ := check_eq_ok.mp live
  exact check_eq_ok.mpr
    ⟨Moment.unreached_mono earlier uncancelled, Moment.unreached_mono earlier early⟩

theorem lt_ending {i : Interruption} (live : ctx.check s = .ok ())
    (ends : ctx.ending? = some (t, i)) : s.nanos < t.nanos := by
  obtain ⟨uncancelled, early⟩ := check_eq_ok.mp live
  unfold ending? at ends
  cases cancelled : ctx.cancelledAt with
  | none =>
    cases late : ctx.deadline with
    | none => simp [cancelled, late] at ends
    | some d =>
      obtain ⟨rfl, -⟩ : d = t ∧ _ := by simpa [cancelled, late] using ends
      exact Moment.lt_of_unreached early late
  | some c =>
    cases late : ctx.deadline with
    | none =>
      obtain ⟨rfl, -⟩ : c = t ∧ _ := by simpa [cancelled, late] using ends
      exact Moment.lt_of_unreached uncancelled cancelled
    | some d =>
      simp only [cancelled, late] at ends
      by_cases first : c.nanos ≤ d.nanos
      · obtain ⟨rfl, -⟩ : c = t ∧ _ := by simpa [first] using ends
        exact Moment.lt_of_unreached uncancelled cancelled
      · obtain ⟨rfl, -⟩ : d = t ∧ _ := by simpa [first] using ends
        exact Moment.lt_of_unreached early late

theorem le_await (wait : Wait) (live : ctx.check s = .ok ()) :
    s.nanos ≤ (ctx.await s wait).2.nanos := by
  have going : ctx.interruption? s = none := by
    obtain ⟨uncancelled, early⟩ := check_eq_ok.mp live
    simp [interruption?, uncancelled, early]
  have passing (d : Duration) : s.nanos ≤ (Moment.add s d).nanos := Nat.le_add_right _ _
  unfold await
  rw [going]
  cases wait with
  | lasting d =>
    cases ends : ctx.ending? with
    | none => exact passing d
    | some ending =>
      obtain ⟨t, i⟩ := ending
      by_cases due : t.nanos ≤ (Moment.add s d).nanos
      · simpa [due] using Nat.le_of_lt (lt_ending live ends)
      · simpa [due] using passing d
  | endless =>
    cases ends : ctx.ending? with
    | none => exact Nat.le_refl _
    | some ending => exact Nat.le_of_lt (lt_ending live ends)

end Context

end Reconciler
