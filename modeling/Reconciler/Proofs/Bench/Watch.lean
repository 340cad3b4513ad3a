import Reconciler.Bench.Watch
import Reconciler.Proofs.Bench.Crashes

/-!
What a watch can crash of. Each of its looks, as far as it has come, can only end as a reconcile
does; one thing done after another keeps this, and no look is begun after the watch is over.
-/

set_option autoImplicit false

namespace Reconciler

variable {k : Kind}

/-- However the look goes on, it ends as a reconcile does. -/
def Look.Reconciles (requeueAfter : Duration) (l : Look k) : Prop :=
  ∀ result, l.rest.CanEnd result → Controller.Ending requeueAfter result

namespace Watcher

theorem ends_of_proceed (wall : Instant) (key : ObjectKey) (ctx : Context) (now : Moment)
    (work : Controller.Work k (Except Stop (Decision × Outcome))) (s : Surroundings k) :
    match (proceed wall ctx now key work s).1 with
    | .finished result => work.CanEnd result
    | .suspended look => ∀ result, look.rest.CanEnd result → work.CanEnd result := by
  induction work generalizing s with
  | done result => exact .done result
  | ask q next ih =>
    unfold proceed
    dsimp only
    split_ifs
    · have further := ih (s.reply ctx now wall q).answer (s.reply ctx now wall q).after
      split at further
      · exact .ask _ further
      · exact fun result ends => .ask _ (further result ends)
    · exact fun result ends => .ask _ ends

theorem resume_cases (wall : Instant) (w : Watcher k) (look : Look k) :
    (∃ s result, look.rest.CanEnd result ∧
      w.resume wall look = { w with surroundings := s }.conclude look.key result) ∨
    ∃ s look', (∀ result, look'.rest.CanEnd result → look.rest.CanEnd result) ∧
      w.resume wall look = .ok { w with surroundings := s, looks := w.looks ++ [look'] } := by
  have ends := ends_of_proceed wall look.key look.ctx w.now look.rest w.surroundings
  rcases went : proceed wall look.ctx w.now look.key look.rest w.surroundings with
    ⟨result | look', s⟩
  · rw [went] at ends
    exact .inl ⟨s, result, ends, by simp only [resume, went]⟩
  · rw [went] at ends
    exact .inr ⟨s, look', ends, by simp only [resume, went]⟩

/-- A key that is not known is passed over. For any other, its look is begun, or the clock cannot
tell when it ends. -/
theorem begin_cases (pace : Pace) (wall : Instant) (root : Context) (w : Watcher k)
    (key : ObjectKey) :
    w.known.contains key = false ∧
      w.begin pace wall root key = .ok { w with agenda := w.agenda.finish key } ∨
    w.known.contains key = true ∧ pace.TooLate w.now ∧
      w.begin pace wall root key = .error .momentOutOfRange ∨
    w.known.contains key = true ∧ ¬ pace.TooLate w.now ∧
      ∃ t, w.begin pace wall root key = w.resume wall ⟨key, root.withDeadline t, some w.now,
        Controller.reconcile pace.requeueAfter wall key⟩ := by
  rw [Pace.TooLate, ← Moment.after?_eq_none_iff]
  unfold begin
  cases w.known.contains key with
  | false => exact .inl ⟨rfl, rfl⟩
  | true =>
    cases Moment.after? w.now pace.reconcileTimeout with
    | none => exact .inr (.inl ⟨rfl, rfl, rfl⟩)
    | some t => exact .inr (.inr ⟨rfl, Option.some_ne_none t, t, rfl⟩)

def Sane (requeueAfter : Duration) (w : Watcher k) : Prop :=
  ∀ l ∈ w.looks, l.Reconciles requeueAfter

/-- What one thing that is done comes to: time has not passed and the looks go on as they should, or
there is a reason for a crash. -/
def Done (requeueAfter : Duration) (late : Prop) (w : Watcher k) :
    Except Crash (Watcher k) → Prop
  | .ok w' => w'.now = w.now ∧ (w.Sane requeueAfter → w'.Sane requeueAfter)
  | .error c => c.Reason late

section Done

variable {requeueAfter : Duration} {w : Watcher k} {key : ObjectKey}

theorem Done.imp {late late' : Prop} {result : Except Crash (Watcher k)}
    (done : Done requeueAfter late w result) (later : late → late') :
    Done requeueAfter late' w result := by
  cases result with
  | ok w' => exact done
  | error c => exact Crash.Reason.imp done later

theorem Done.of_looks {looks : List (Look k)} {result : Except Crash (Watcher k)} {late : Prop}
    (done : Done requeueAfter late { w with looks } result) (fewer : looks ⊆ w.looks) :
    Done requeueAfter late w result := by
  cases result with
  | ok w' => exact ⟨done.1, fun sane => done.2 fun l among => sane l (fewer among)⟩
  | error c => exact done

theorem done_conclude {result : Except Stop (Decision × Outcome)}
    (ending : Controller.Ending requeueAfter result) :
    Done requeueAfter False w (w.conclude key result) := by
  rcases result with (e | c) | ⟨decision, counted⟩
  · exact ⟨rfl, id⟩
  · exact ending.reason
  · exact ⟨rfl, id⟩

theorem done_resume (wall : Instant) {look : Look k} (reconciles : look.Reconciles requeueAfter) :
    Done requeueAfter False w (w.resume wall look) := by
  rcases resume_cases wall w look with ⟨s, result, ends, resumed⟩ | ⟨s, look', ends, resumed⟩
  · rw [resumed]
    exact done_conclude (w := { w with surroundings := s }) (reconciles result ends)
  · rw [resumed]
    have waits : look'.Reconciles requeueAfter :=
      fun result ended => reconciles result (ends result ended)
    exact ⟨rfl, fun sane => List.forall_mem_append.mpr ⟨sane, List.forall_mem_singleton.mpr waits⟩⟩

end Done

section Act

variable {pace : Pace} {wall : Instant} {root : Context} {w : Watcher k} {key : ObjectKey}

/-- A look that is begun crashes on the clock if and only if its time would end after the latest
moment. -/
theorem begin_crashes_iff :
    w.begin pace wall root key = .error .momentOutOfRange ↔
      w.known.contains key = true ∧ pace.TooLate w.now := by
  rcases begin_cases pace wall root w key with
    ⟨unknown, passed⟩ | ⟨known, late, crashes⟩ | ⟨known, told, t, begun⟩
  · rw [passed, unknown]
    exact iff_of_false nofun nofun
  · exact iff_of_true crashes ⟨known, late⟩
  · refine iff_of_false (fun crashed => ?_) fun late => told late.2
    have done : Done pace.requeueAfter False w (w.begin pace wall root key) := by
      rw [begun]
      exact done_resume wall fun _ => Controller.ending_of_reconcile
    rw [crashed] at done
    cases done with
    | clock never => exact never

theorem done_begin :
    Done pace.requeueAfter (pace.TooLate w.now) w (w.begin pace wall root key) := by
  rcases begin_cases pace wall root w key with ⟨-, passed⟩ | ⟨-, late, crashes⟩ | ⟨-, -, t, begun⟩
  · rw [passed]
    exact ⟨rfl, id⟩
  · rw [crashes]
    exact .clock late
  · rw [begun]
    exact (done_resume wall fun _ => Controller.ending_of_reconcile).imp False.elim

theorem done_continueLooks {result : Except Crash (Watcher k)} (sane : w.Sane pace.requeueAfter)
    (acted : act.continueLooks pace wall root w = some result) :
    Done pace.requeueAfter (pace.TooLate w.now) w result := by
  unfold act.continueLooks at acted
  split at acted
  · rename_i i _
    cases there : w.looks[i]? with
    | none =>
      rw [there] at acted
      cases acted
    | some look =>
      rw [there] at acted
      obtain rfl := Option.some.inj acted
      have done := done_resume (w := { w with looks := w.looks.eraseIdx i }) wall
        (sane look (List.mem_of_getElem? there))
      exact (done.imp False.elim).of_looks fun l => List.mem_of_mem_eraseIdx
  · dsimp only at acted
    split at acted
    · rename_i key agenda _
      obtain rfl := Option.some.inj acted
      exact done_begin (w := { w with agenda })
    · cases acted

/-- Whatever is done at a moment, it crashes on the clock only if it is too late for a look. -/
theorem done_act {result : Except Crash (Watcher k)} (sane : w.Sane pace.requeueAfter)
    (acted : w.act pace wall root = some result) :
    Done pace.requeueAfter (pace.TooLate w.now) w result := by
  unfold act at acted
  split at acted
  · rename_i a rest _
    split at acted
    · obtain rfl := Option.some.inj acted
      cases heard : a.notice <;> exact ⟨rfl, id⟩
    · exact done_continueLooks sane acted
  · exact done_continueLooks sane acted

end Act

section Run

variable {pace : Pace} {wall : Instant} {root : Context} {w : Watcher k} {c : Crash}

theorem reason_of_runUntil {stop : Moment} {fuel : Nat} (sane : w.Sane pace.requeueAfter)
    (crashed : w.runUntil pace wall root stop fuel = .error c) :
    c.Reason (pace.TooLate ⟨max w.now.nanos stop.nanos⟩) := by
  induction fuel generalizing w with
  | zero => cases crashed
  | succ fuel ih =>
    unfold runUntil at crashed
    split at crashed
    · rename_i w' acted
      obtain ⟨now, keeps⟩ := done_act sane acted
      rw [← now]
      exact ih (keeps sane) crashed
    · rename_i c' acted
      obtain rfl := Except.error.inj crashed
      exact (done_act sane acted).imp fun late => late.mono (Nat.le_max_left _ _)
    · dsimp only at crashed
      split at crashed
      · rename_i t _
        split at crashed
        · rename_i ahead
          -- The clock is moved on, but not beyond the end of the run.
          have within : max (max w.now.nanos t.nanos) stop.nanos ≤ max w.now.nanos stop.nanos := by
            omega
          have waiting : Sane pace.requeueAfter
            { w with agenda := w.agenda.park w.now, now := ⟨max w.now.nanos t.nanos⟩ } := sane
          exact (ih waiting crashed).imp fun late => late.mono within
        · cases crashed
      · cases crashed

/-- A watch for a while crashes only of a call, or because it ends too late for a look. -/
theorem reason_of_runFor {d : Duration} (sane : w.Sane pace.requeueAfter)
    (crashed : w.runFor pace wall d = .error c) : c.Reason (pace.TooLate (Moment.add w.now d)) := by
  have ahead : max w.now.nanos (Moment.add w.now d).nanos = (Moment.add w.now d).nanos :=
    Nat.max_eq_right (Nat.le_add_right _ _)
  have reason := reason_of_runUntil sane crashed
  rwa [ahead] at reason

end Run

end Watcher

end Reconciler
