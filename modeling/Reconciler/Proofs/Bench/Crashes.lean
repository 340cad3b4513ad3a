import Mathlib.Order.Nat
import Reconciler.Proofs.Bench.Station
import Reconciler.Proofs.Controller.Ending
import Reconciler.Proofs.Sweep.Runs

/-!
What the sweeps of a station can crash of: a call that changed the state, or a clock that has come
so far that it cannot tell when the time of a look ends or when a key is tried again. A sweep is
followed look after look, and a run sweep after sweep.
-/

set_option autoImplicit false

namespace Reconciler

variable {k : Kind}

namespace Moment

variable {t t' : Moment}

theorem seconds_add_mono (later : t.nanos ≤ t'.nanos) (d : Duration) :
    (add t d).seconds ≤ (add t' d).seconds :=
  Nat.div_le_div_right (Nat.add_le_add_right later _)

end Moment

/-- The clock cannot tell any more when a look ends that is begun at this moment. -/
def Pace.TooLate (pace : Pace) (t : Moment) : Prop :=
  Moment.latestSecond < (Moment.add t pace.reconcileTimeout).seconds

theorem Pace.TooLate.mono {pace : Pace} {t t' : Moment} (late : pace.TooLate t)
    (later : t.nanos ≤ t'.nanos) : pace.TooLate t' :=
  late.trans_le (Moment.seconds_add_mono later _)

/-- Why work can have crashed: for a call that changed the state, or because it is too late for the
clock. -/
inductive Crash.Reason (late : Prop) : Crash → Prop
  | call (kind name rule : String) (before after : Option State) :
      Reason late (.stateChanged kind name rule before after)
  | clock (untold : late) : Reason late .momentOutOfRange

theorem Crash.Reason.imp {late late' : Prop} {c : Crash} (reason : c.Reason late)
    (later : late → late') : c.Reason late' := by
  cases reason with
  | call => exact .call ..
  | clock untold => exact .clock (later untold)

/-- It is never too late for a reconcile that is under way. -/
theorem Controller.Ending.reason {requeueAfter : Duration} {c : Crash}
    (ending : Ending requeueAfter (.error (.crashed c))) : c.Reason False := by
  cases ending
  exact .call ..

namespace Sweep

variable {requeueAfter : Duration} {s : Sweep} {key : ObjectKey} {e : Error} {now : Moment}

theorem recordFailure_crashes_iff {c : Crash} :
    (s.recordFailure requeueAfter key e now).2 = .error (.crashed c) ↔
      c = .momentOutOfRange ∧ Moment.latestSecond <
        (Moment.add now (s.patience.delayAfter requeueAfter key e)).seconds := by
  rw [← Moment.after?_eq_none_iff]
  cases told : Moment.after? now (s.patience.delayAfter requeueAfter key e) with
  | some due =>
    rw [recordFailure_of_told told]
    exact iff_of_false nofun nofun
  | none =>
    rw [recordFailure_of_untold told]
    simp [eq_comm]

theorem limit_recordFailure :
    (s.recordFailure requeueAfter key e now).1.patience.backoff.max = s.patience.backoff.max := by
  have limit := s.patience.backoff.max_retry e key
  cases told : Moment.after? now (s.patience.delayAfter requeueAfter key e) with
  | some due =>
    rw [recordFailure_of_told told]
    exact limit
  | none =>
    rw [recordFailure_of_untold told]
    exact limit

end Sweep

namespace Station

open Dialogue (Held)

/-- At this moment the clock cannot tell when a look ends, or when a key is tried again that is put
off for as long as keys can be. -/
def Late (pace : Pace) (p : Patience) (t : Moment) : Prop :=
  pace.TooLate t ∨ Moment.latestSecond < (Moment.add t (p.longest pace.requeueAfter)).seconds

theorem Late.mono {pace : Pace} {p : Patience} {t t' : Moment} (late : Late pace p t)
    (later : t.nanos ≤ t'.nanos) : Late pace p t' :=
  late.imp (·.mono later) fun untold => untold.trans_le (Moment.seconds_add_mono later _)

/-- Work from one moment to another: the clock only goes forward, the limit of the delays stays, and
where the work crashed there is a reason for it. -/
structure Course {α : Type} (pace : Pace) (t t' : Moment) (p p' : Patience)
    (result : Except Stop α) : Prop where
  later : t.nanos ≤ t'.nanos
  limit : p'.backoff.max = p.backoff.max
  crashes : ∀ c, result = .error (.crashed c) → c.Reason (Late pace p t')

namespace Course

variable {α β : Type} {pace : Pace} {t t' t'' : Moment} {p p' p'' : Patience}
  {first : Except Stop α} {second : Except Stop β}

theorem trans (before : Course pace t t' p p' first) (after : Course pace t' t'' p' p'' second) :
    Course pace t t'' p p'' second where
  later := before.later.trans after.later
  limit := after.limit.trans before.limit
  crashes c crashed := by
    have reason := after.crashes c crashed
    rwa [Late, Patience.longest, before.limit] at reason

theorem unharmed {result : Except Stop α} (later : t.nanos ≤ t'.nanos)
    (limit : p'.backoff.max = p.backoff.max) (sound : ∀ c, result ≠ .error (.crashed c)) :
    Course pace t t' p p' result :=
  ⟨later, limit, fun c crashed => absurd crashed (sound c)⟩

theorem of_crashes (course : Course pace t t' p p' first)
    (told : ∀ c, second = .error (.crashed c) → first = .error (.crashed c)) :
    Course pace t t' p p' second :=
  ⟨course.later, course.limit, fun c crashed => course.crashes c (told c crashed)⟩

end Course

section Look

variable (pace : Pace) (wall : Instant) (ctx : Context) (key : ObjectKey) (s : Station k)

theorem now_le_answer (q : Query k) : s.now.nanos ≤ (s.answer ctx wall q).2.now.nanos := by
  obtain ⟨happenings, answers⟩ := s.answers ctx wall q
  exact answers.clock_le

theorem now_le_reconcile : s.now.nanos ≤ (s.reconcile pace wall ctx key).2.now.nanos := by
  have later {q : Query k} {s' : Station k} (passed : s.now.nanos ≤ s'.now.nanos) :
      s.now.nanos ≤ (answer ctx wall q s').2.now.nanos :=
    passed.trans (now_le_answer wall ctx s' q)
  exact Dialogue.run_keeps (P := fun s' : Station k => s.now.nanos ≤ s'.now.nanos) @later
    (Controller.reconcile pace.requeueAfter wall key) (Nat.le_refl _)

theorem ending_of_reconcile {stop : Stop}
    (stopped : (s.reconcile pace wall ctx key).1 = .error stop) :
    Controller.Ending pace.requeueAfter (.error stop) := by
  have ending := Controller.ending_of_reconcile
    (Dialogue.canEnd_run (answer ctx wall) (Controller.reconcile pace.requeueAfter wall key) s)
  change Except.map _
    ((Controller.reconcile pace.requeueAfter wall key).run (answer ctx wall) s).1 = _ at stopped
  cases result : ((Controller.reconcile pace.requeueAfter wall key).run (answer ctx wall) s).1 with
  | ok decided =>
    rw [result] at stopped
    cases stopped
  | error stop' =>
    rw [result] at stopped ending
    obtain rfl := Except.error.inj stopped
    exact ending

theorem visit_of_untold (untold : Moment.after? s.now pace.reconcileTimeout = none) :
    s.visit pace wall ctx key = (.error (.crashed .momentOutOfRange), s) := by
  rw [visit, untold]

theorem visit_of_told {t : Moment} (told : Moment.after? s.now pace.reconcileTimeout = some t) :
    s.visit pace wall ctx key = s.reconcile pace wall (ctx.withDeadline t) key := by
  rw [visit, told]

/-- A look crashes on the clock if and only if its time would end after the latest moment. -/
theorem visit_crashes_iff :
    (s.visit pace wall ctx key).1 = .error (.crashed .momentOutOfRange) ↔ pace.TooLate s.now := by
  rw [Pace.TooLate, ← Moment.after?_eq_none_iff]
  cases told : Moment.after? s.now pace.reconcileTimeout with
  | none =>
    rw [visit_of_untold pace wall ctx key s told]
    exact iff_of_true rfl rfl
  | some t =>
    rw [visit_of_told pace wall ctx key s told]
    refine iff_of_false (fun crashed => ?_) nofun
    cases ending_of_reconcile pace wall (ctx.withDeadline t) key s crashed

theorem course_of_look (p : Patience) :
    Course pace s.now (s.visit pace wall ctx key).2.now p p (s.visit pace wall ctx key).1 := by
  cases told : Moment.after? s.now pace.reconcileTimeout with
  | none =>
    rw [visit_of_untold pace wall ctx key s told]
    refine ⟨Nat.le_refl _, rfl, fun c crashed => ?_⟩
    cases crashed
    exact .clock (.inl (Moment.after?_eq_none_iff.mp told))
  | some t =>
    rw [visit_of_told pace wall ctx key s told]
    exact ⟨now_le_reconcile pace wall _ key s, rfl,
      fun c crashed => (ending_of_reconcile pace wall _ key s crashed).reason.imp False.elim⟩

theorem course_of_failure (sweep : Sweep) (e : Error) (now : Moment) :
    Course pace now now sweep.patience
      (sweep.recordFailure pace.requeueAfter key e now).1.patience
      (sweep.recordFailure pace.requeueAfter key e now).2 where
  later := Nat.le_refl _
  limit := Sweep.limit_recordFailure
  crashes c crashed := by
    obtain ⟨rfl, late⟩ := Sweep.recordFailure_crashes_iff.mp crashed
    have shorter := sweep.patience.delayAfter_le pace.requeueAfter key e
    exact .clock (.inr (late.trans_le (Nat.div_le_div_right (Nat.add_le_add_left shorter _))))

end Look

section Held

variable {pace : Pace} {wall : Instant} {ctx : Context} {s s' : Station k} {sweep sweep' : Sweep}
  {log : Sweep.Log k} {result : Except Stop Unit}

theorem course_of_visit {key : ObjectKey}
    (held : Held (Answers pace wall ctx) (Sweep.visit pace.requeueAfter sweep key) s log
      (sweep', result) s') :
    Course pace s.now s'.now sweep.patience sweep'.patience result := by
  obtain ⟨now, s₁, log, rfl, read, held⟩ := held.of_put
  obtain ⟨rfl, rfl⟩ := Prod.mk.inj read
  cases passed : sweep.defers key s.now with
  | true =>
    rw [if_pos passed] at held
    obtain ⟨-, rfl, rfl, rfl⟩ := held.of_done_pair
    exact .unharmed (Nat.le_refl _) rfl nofun
  | false =>
    rw [if_neg (by rw [passed]; exact Bool.false_ne_true)] at held
    obtain ⟨answer, s₂, log, rfl, looked, held⟩ := held.of_put
    have course := course_of_look pace wall ctx key s sweep.patience
    rw [show s.visit pace wall ctx key = (answer, s₂) from looked] at course
    dsimp only at course
    rcases answer with (e | c) | d
    · by_cases cancelled : e = .cancelled
      · subst cancelled
        obtain ⟨-, rfl, rfl, rfl⟩ := held.of_done_pair
        exact .unharmed course.later rfl nofun
      · rw [Sweep.conclude_of_failed cancelled] at held
        obtain ⟨later, s₃, log, rfl, read, held⟩ := held.of_ask
        obtain ⟨rfl, rfl⟩ := Prod.mk.inj read
        obtain ⟨-, ended, rfl⟩ := held.of_done
        have failed := course_of_failure pace key sweep e s'.now
        rw [← ended] at failed
        exact course.trans failed
    · obtain ⟨-, rfl, rfl, rfl⟩ := held.of_done_pair
      refine course.of_crashes fun c' crashed => ?_
      cases crashed
      rfl
    · obtain ⟨-, rfl, rfl, rfl⟩ := held.of_done_pair
      exact .unharmed course.later rfl nofun

theorem course_of_visitAll {items : List (Object k)}
    (held : Held (Answers pace wall ctx) (Sweep.visitAll pace.requeueAfter sweep items) s log
      (sweep', result) s') :
    Course pace s.now s'.now sweep.patience sweep'.patience result := by
  induction items generalizing sweep s log with
  | nil =>
    obtain ⟨-, rfl, rfl, rfl⟩ := held.of_done_pair
    exact .unharmed (Nat.le_refl _) rfl nofun
  | cons o items ih =>
    obtain ⟨⟨sweep₁, result₁⟩, s₁, log₁, log₂, -, first, held⟩ := held.of_bind
    have course := course_of_visit first
    cases result₁ with
    | error stop =>
      obtain ⟨-, rfl, rfl, rfl⟩ := held.of_done_pair
      exact course
    | ok _ => exact course.trans (ih held)

theorem course_of_turnPages {pages : Nat} {query : ListQuery}
    (held : Held (Answers pace wall ctx) (Sweep.turnPages pace.requeueAfter pages query sweep) s
      log (sweep', result) s') :
    Course pace s.now s'.now sweep.patience sweep'.patience result := by
  induction pages generalizing query sweep s log with
  | zero =>
    obtain ⟨-, rfl, rfl, rfl⟩ := held.of_done_pair
    exact .unharmed (Nat.le_refl _) rfl nofun
  | succ pages ih =>
    obtain ⟨answer, s₁, log, -, listed, held⟩ := held.of_put
    have later : s.now.nanos ≤ s₁.now.nanos := by
      rw [← (Prod.mk.inj listed).2]
      exact now_le_answer wall ctx s _
    cases answer with
    | error e =>
      obtain ⟨-, rfl, rfl, rfl⟩ := held.of_done_pair
      exact .unharmed later rfl nofun
    | ok page =>
      obtain ⟨⟨sweep₁, result₁⟩, s₂, log₁, log₂, -, first, held⟩ := held.of_bind
      have listing : Course pace s.now s₁.now sweep.patience sweep.patience (.ok ()) :=
        .unharmed later rfl nofun
      have course := listing.trans (course_of_visitAll first)
      cases result₁ with
      | error stop =>
        obtain ⟨-, rfl, rfl, rfl⟩ := held.of_done_pair
        exact course
      | ok _ =>
        dsimp only at held
        cases next : page.next with
        | none =>
          rw [next] at held
          obtain ⟨-, rfl, rfl, rfl⟩ := held.of_done_pair
          exact course.trans (.unharmed (Nat.le_refl _) rfl nofun)
        | some token =>
          rw [next] at held
          exact course.trans (ih held)

end Held

variable (pace : Pace) (wall : Instant) (ctx : Context)

theorem course_of_sweep (s : Station k) :
    Course pace s.now (s.sweep pace wall ctx).2.now s.patience (s.sweep pace wall ctx).2.patience
      (s.sweep pace wall ctx).1 := by
  have answered (s : Station k) (q : SweepQuery k) : Answers pace wall ctx s q
      (answerSweep pace wall ctx q s).1 (answerSweep pace wall ctx q s).2 := rfl
  obtain ⟨log, held⟩ := Held.of_run id (answerSweep pace wall ctx) answered
    (Sweep.run pace.requeueAfter pace.pageSize (s.surroundings.shelf.store.size + 1) s.patience) s
  obtain ⟨⟨sweep, result⟩, s', log₁, log₂, -, turned, held⟩ := held.of_bind
  obtain ⟨-, ended, rfl⟩ := held.of_done
  have kept : (s.sweep pace wall ctx).2.patience = sweep.patience := congrArg Prod.fst ended
  have told : (s.sweep pace wall ctx).1 = result.map fun _ => sweep.report :=
    congrArg Prod.snd ended
  rw [kept, told]
  refine (course_of_turnPages turned).of_crashes fun c crashed => ?_
  cases result with
  | ok _ => cases crashed
  | error stop =>
    cases crashed
    rfl

theorem course_of_tick (ticks : Nat) (due : Moment) (s : Station k) :
    Course pace s.now (s.tick pace wall ctx ticks due).2.now s.patience
      (s.tick pace wall ctx ticks due).2.patience (s.tick pace wall ctx ticks due).1 := by
  induction ticks generalizing due s with
  | zero => exact .unharmed (Nat.le_refl _) rfl nofun
  | succ ticks ih =>
    unfold tick
    dsimp only
    split
    · exact .unharmed (Nat.le_refl _) rfl nofun
    · have wait : Course pace s.now ⟨max s.now.nanos due.nanos⟩ s.patience s.patience
          (.ok () : Except Stop Unit) := .unharmed (Nat.le_max_left _ _) rfl nofun
      have course := wait.trans
        (course_of_sweep pace wall ctx { s with now := ⟨max s.now.nanos due.nanos⟩ })
      split
      · rename_i swept
        rw [swept] at course
        exact .unharmed course.later course.limit nofun
      · rename_i swept
        rw [swept] at course
        refine course.of_crashes fun c crashed => ?_
        cases crashed
        rfl
      · rename_i swept
        rw [swept] at course
        exact course.trans (ih _ _)

/-- Sweeps at intervals crash only of a call, or because it has got too late for the clock. -/
theorem reason_of_runFor (d : Duration) (s : Station k) {c : Crash}
    (ticks : pace.interval ≠ .zero)
    (crashed : (s.runFor pace wall ctx d).1 = .error (.crashed c)) :
    c.Reason (Late pace s.patience (s.runFor pace wall ctx d).2.now) := by
  have course := course_of_tick pace wall (ctx.cancelledBy (Moment.add s.now d))
    (d.nanos / pace.interval.nanos + 1) s.now s
  unfold runFor at crashed ⊢
  rw [if_neg ticks] at crashed ⊢
  exact (course.crashes c crashed).imp fun late => late.mono (Nat.le_max_left _ _)

end Station

end Reconciler
