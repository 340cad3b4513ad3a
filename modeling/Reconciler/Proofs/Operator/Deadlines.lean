import Reconciler.Operator
import Reconciler.Proofs.Bench.Watch

/-!
The delays of an accepted configuration and the clock. All that acceptance asks of them is some time
for a look and between two sweeps, so that the clock may be unable to tell a deadline; when that
happens is told exactly, for the sweeps of a standalone run and for a watch.
-/

set_option autoImplicit false

namespace Reconciler

theorem Moment.seconds_add_ofSeconds (t : Moment) (n : Nat) :
    (add t (.ofSeconds n)).seconds = t.seconds + n :=
  Nat.add_mul_div_right _ _ (by decide)

theorem Patience.delayAfter_eq (requeueAfter : Duration) (p : Patience) (key : ObjectKey)
    (e : Error) :
    p.delayAfter requeueAfter key e =
      match e.remedy with
      | .awaitChange => requeueAfter
      | .retryAfter d => d
      | .backOff => p.backoff.delay (p.backoff.failures key) := by
  unfold delayAfter Backoff.retry
  cases e.remedy <;> rfl

namespace Configuration

variable {c : Configuration}

theorem validate_eq_ok : c.validate = .ok () ↔ c.reconcileTimeoutSecs ≠ 0 ∧
    c.pollIntervalSecs ≠ 0 ∧ Text.trim c.provider.name.toList ≠ [] := by
  unfold validate objection?
  split_ifs <;> simp_all

theorem pollInterval_ne_zero (accepted : c.validate = .ok ()) : c.pollInterval ≠ .zero := by
  intro none
  have nanos : c.pollIntervalSecs * 1000000000 = 0 := congrArg Duration.nanos none
  exact (validate_eq_ok.mp accepted).2.1 (by omega)

theorem exists_of_ofText {text : String} {p : Configuration → Bool}
    (holds : (match ofText text with | .ok c => p c | .error _ => false) = true) :
    ∃ c, ofText text = .ok c ∧ p c = true := by
  cases read : ofText text with
  | error e =>
    rw [read] at holds
    cases holds
  | ok c =>
    rw [read] at holds
    exact ⟨c, rfl, holds⟩

end Configuration

namespace Operator

variable {k : Kind} {c : Configuration}

theorem tooLate_pace_iff {t : Moment} : (pace c).TooLate t ↔
    Moment.latestSecond < t.seconds + c.reconcileTimeoutSecs := by
  rw [← Moment.seconds_add_ofSeconds]
  rfl

/-- An accepted configuration may ask for deadlines that the clock cannot tell. A look, be it of a
sweep or of a watch, crashes if and only if its time would end after the latest second, and a
failure if and only if its delay would, which is that of the configuration where only a change
helps. Neither driver crashes on the clock for any other reason. -/
theorem deadlines_crash_iff_late (accepted : c.validate = .ok ()) (wall : Instant) :
    (∀ requeue timeout, timeout ≠ 0 → { c with
      requeueAfterSecs := requeue, reconcileTimeoutSecs := timeout }.validate = .ok ()) ∧
    (∀ (s : Station k) (ctx : Context) (key : ObjectKey),
      (s.visit (pace c) wall ctx key).1 = .error (.crashed .momentOutOfRange) ↔
        Moment.latestSecond < s.now.seconds + c.reconcileTimeoutSecs) ∧
    (∀ (w : Watcher k) (root : Context) (key : ObjectKey),
      w.begin (pace c) wall root key = .error .momentOutOfRange ↔
        w.known.contains key = true ∧
          Moment.latestSecond < w.now.seconds + c.reconcileTimeoutSecs) ∧
    (∀ (s : Sweep) (key : ObjectKey) (e : Error) (now : Moment),
      (s.recordFailure c.requeueAfter key e now).2 = .error (.crashed .momentOutOfRange) ↔
        match e.remedy with
        | .awaitChange => Moment.latestSecond < now.seconds + c.requeueAfterSecs
        | .retryAfter d => Moment.latestSecond < (Moment.add now d).seconds
        | .backOff => Moment.latestSecond <
            (Moment.add now (s.patience.backoff.delay (s.patience.backoff.failures key))).seconds) ∧
    (∀ (s : Station k) (ctx : Context) (d : Duration) (crash : Crash),
      (s.runFor (pace c) wall ctx d).1 = .error (.crashed crash) →
        let t := (s.runFor (pace c) wall ctx d).2.now
        crash.Reason (Moment.latestSecond < t.seconds + c.reconcileTimeoutSecs ∨
          Moment.latestSecond < (Moment.add t (s.patience.longest c.requeueAfter)).seconds)) ∧
    ∀ (w : Watcher k) (d : Duration) (crash : Crash), w.looks = [] →
      w.runFor (pace c) wall d = .error crash →
        crash.Reason (Moment.latestSecond <
          (Moment.add w.now d).seconds + c.reconcileTimeoutSecs) := by
  refine ⟨?_, ?_, ?_, ?_, ?_, ?_⟩
  · intro requeue timeout some
    exact Configuration.validate_eq_ok.mpr ⟨some, (Configuration.validate_eq_ok.mp accepted).2⟩
  · intro s ctx key
    rw [Station.visit_crashes_iff, tooLate_pace_iff]
  · intro w root key
    rw [Watcher.begin_crashes_iff, tooLate_pace_iff]
  · intro s key e now
    rw [Sweep.recordFailure_crashes_iff, Patience.delayAfter_eq]
    cases e.remedy <;> simp [Configuration.requeueAfter, Moment.seconds_add_ofSeconds]
  · intro s ctx d crash crashed
    have ticks := Configuration.pollInterval_ne_zero accepted
    exact (Station.reason_of_runFor (pace c) wall ctx d s ticks crashed).imp
      (·.imp_left tooLate_pace_iff.mp)
  · intro w d crash rest crashed
    have sane : w.Sane (pace c).requeueAfter := by simp [Watcher.Sane, rest]
    exact (Watcher.reason_of_runFor sane crashed).imp tooLate_pace_iff.mp

/-- The longest delays that can be written are accepted, and crash whatever comes first of a look
and a failure that only a change helps; the usual ones do not. -/
theorem longest_delays_crash :
    let longest : Configuration := { (default : Configuration) with
      requeueAfterSecs := wordBound 64 - 1, reconcileTimeoutSecs := wordBound 64 - 1 }
    let key : ObjectKey := ⟨some "a", "v"⟩
    let w : Watcher .volume :=
      { Watcher.start Station.unlucky.surroundings .standard [] with known := [key] }
    let s : Sweep := .starting (.ofBackoff .standard)
    longest.validate = .ok () ∧
      (Station.unlucky.visit (pace longest) default .unbounded key).1 =
        .error (.crashed .momentOutOfRange) ∧
      w.begin (pace longest) default .unbounded key = .error .momentOutOfRange ∧
      (s.recordFailure longest.requeueAfter key (.validation "no size") .zero).2 =
        .error (.crashed .momentOutOfRange) ∧
      (Station.unlucky.visit (pace default) default .unbounded key).1 ≠
        .error (.crashed .momentOutOfRange) := by
  intro longest key w s
  have accepted : longest.validate = .ok () := by decide +kernel
  have late (seconds : Nat) : Moment.latestSecond < seconds + (wordBound 64 - 1) :=
    Nat.lt_add_left seconds (by decide)
  obtain ⟨-, look, watched, failure, -⟩ :=
    @deadlines_crash_iff_late .volume longest accepted default
  obtain ⟨-, usual, -⟩ := @deadlines_crash_iff_late .volume default (by decide +kernel) default
  refine ⟨accepted, ?_, ?_, ?_, ?_⟩
  · exact (look _ _ _).mpr (late _)
  · exact (watched w _ key).mpr ⟨by decide, late _⟩
  · exact (failure s key (.validation "no size") .zero).mpr (late _)
  · exact mt (usual _ _ _).mp (by decide)

def hopeless : Station .volume where
  now := .ofSeconds 2
  surroundings := {
    shelf := {
      store := Station.unlucky.surroundings.shelf.store
      faults := [⟨"replace", .fail (.validation "too large")⟩]
      log := [] }
    backend := Station.unlucky.surroundings.backend }
  metrics := none
  patience := .ofBackoff .standard

/-- A text is accepted whose time for a look crashes the first sweep over a volume, and one whose
delay crashes the sweep in which a volume fails for good. -/
theorem accepted_delays_crash_sweeps :
    (∃ c, Configuration.ofText "reconcileTimeoutSecs: 18446744073709551615" = .ok c ∧
      c.validate = .ok () ∧ (Station.unlucky.sweep (pace c) default .unbounded).1 =
        .error (.crashed .momentOutOfRange)) ∧
    ∃ c, Configuration.ofText "requeueAfterSecs: 18446744073709551615" = .ok c ∧
      c.validate = .ok () ∧ (hopeless.sweep (pace c) default .unbounded).1 =
        .error (.crashed .momentOutOfRange) := by
  constructor
  · obtain ⟨c, read, crashes⟩ := @Configuration.exists_of_ofText
      "reconcileTimeoutSecs: 18446744073709551615"
      (fun c => c.validate = .ok () ∧ (Station.unlucky.sweep (pace c) default .unbounded).1 =
        .error (.crashed .momentOutOfRange)) (by decide +kernel)
    exact ⟨c, read, of_decide_eq_true crashes⟩
  · obtain ⟨c, read, crashes⟩ := @Configuration.exists_of_ofText
      "requeueAfterSecs: 18446744073709551615"
      (fun c => c.validate = .ok () ∧ (hopeless.sweep (pace c) default .unbounded).1 =
        .error (.crashed .momentOutOfRange)) (by decide +kernel)
    exact ⟨c, read, of_decide_eq_true crashes⟩

end Operator

end Reconciler
