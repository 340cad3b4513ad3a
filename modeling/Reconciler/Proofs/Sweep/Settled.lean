import Reconciler.Proofs.Sweep.Delays

/-!
Sweeps back to back until nothing asks for another one. A key that is passed over asks for nothing,
so that the last of these sweeps leaves aside what failed in the ones before it.
-/

set_option autoImplicit false

namespace Reconciler

namespace Sweep

variable {k : Kind} {requeueAfter : Duration} {p : Patience}

def Look.isDone : Look → Bool
  | .succeeded _ d => !d.requeue
  | _ => false

/-- Where no look ends the sweep, settled ones are those that leave nothing undone but what they
pass over. -/
theorem settled_counting {looks : List (ObjectKey × Look)}
    (unstopped : ∀ e ∈ looks, e.2.isStopped = false) :
    (counting .zero looks).settled = true ↔ ∀ e ∈ looks, e.2.isDone = true ∨ e.2.isPassed = true := by
  have settled : (counting .zero looks).settled = true ↔
      ∀ e ∈ looks, e.2.isRequeued = false ∧ e.2.isFailed = false := by
    have counted : (counting .zero looks).settled = true ↔
        0 + looks.countP (·.2.isRequeued) = 0 ∧ 0 + looks.countP (·.2.isFailed) = 0 := by
      rw [SweepReport.settled, Bool.and_eq_true, decide_eq_true_iff, decide_eq_true_iff]
      rfl
    rw [counted, Nat.zero_add, Nat.zero_add, List.countP_eq_zero, List.countP_eq_zero]
    simp [forall_and]
  rw [settled]
  refine forall₂_congr fun e among => ?_
  have going := unstopped e among
  cases look : e.2 with
  | succeeded started d => simp [Look.isRequeued, Look.isFailed, Look.isDone, Look.isPassed]
  | stopped => simp [look, Look.isStopped] at going
  | passed | failed => simp [Look.isRequeued, Look.isFailed, Look.isDone, Look.isPassed]

theorem deferred_counting {looks : List (ObjectKey × Look)}
    (atRest : ∀ e ∈ looks, e.2.isDone = true ∨ e.2.isPassed = true) :
    (counting .zero looks).deferred = 0 ↔ ∀ e ∈ looks, e.2.isDone = true := by
  have none : (counting .zero looks).deferred = 0 ↔ ∀ e ∈ looks, e.2.isPassed = false := by
    simp [counting, SweepReport.zero, List.countP_eq_zero]
  rw [none]
  refine forall₂_congr fun e among => ?_
  have here := atRest e among
  cases look : e.2 <;> simp_all [Look.isDone, Look.isPassed]

/-- A moment that is set for a key was set before, or by a failure of the key. -/
theorem Step.set_by {key : ObjectKey} {due : Moment} {event : Event} {p₁ : Patience}
    (step : Step requeueAfter p event (some p₁)) (set : p₁.notBefore.get? key = some due) :
    p.notBefore.get? key = some due ∨
      ∃ started e noticed, event = .look key (.failed started e noticed) := by
  cases step with
  | passed | stopped => exact .inl set
  | @succeeded key' =>
    by_cases same : key = key'
    · subst same
      rw [SortedMap.get?_erase_self] at set
      cases set
    · rw [SortedMap.get?_erase_of_ne _ same] at set
      exact .inl set
  | @failed key' =>
    by_cases same : key = key'
    · subst same
      exact .inr ⟨_, _, _, rfl⟩
    · rw [SortedMap.get?_insert_of_ne _ _ same] at set
      exact .inl set
  | @swept listed =>
    cases lists : Event.drops key (.swept listed) with
    | false =>
      rw [get?_retain lists] at set
      exact .inl set
    | true =>
      have gone : listed.contains key = false := by simpa [Event.drops] using lists
      have none : (p.retain listed).notBefore.get? key = none :=
        SortedMap.get?_filter_of_failing fun _ => gone
      rw [none] at set
      cases set

theorem Follows.set_by {key : ObjectKey} {due : Moment} {events : List Event} {p₁ : Patience}
    (follows : Follows requeueAfter p events (some p₁)) (set : p₁.notBefore.get? key = some due) :
    p.notBefore.get? key = some due ∨
      ∃ started e noticed, .look key (.failed started e noticed) ∈ events := by
  generalize ends : some p₁ = r at follows
  induction follows with
  | nil =>
    obtain rfl := Option.some.inj ends
    exact .inl set
  | step step _ ih =>
    rcases ih ends with before | ⟨started, e, noticed, among⟩
    · refine (step.set_by before).imp_right ?_
      rintro ⟨started, e, noticed, rfl⟩
      exact ⟨started, e, noticed, List.mem_cons_self⟩
    · exact .inr ⟨started, e, noticed, List.mem_cons_of_mem _ among⟩
  | late => cases ends

theorem Swept.look_mem_events {x : Swept k} {key : ObjectKey} {look : Look} :
    .look key look ∈ x.events ↔ (key, look) ∈ x.looks := by
  cases ended : x.result <;> simp [Swept.events, ended, Event.ofLook]

/-- Sweeps back to back up to the first one that is settled. -/
structure Settles {σ : Type} (answers : σ → (q : SweepQuery k) → q.Answer → σ → Prop)
    (requeueAfter : Duration) (p : Patience) (earlier : List (Swept k)) (last : Swept k) : Prop where
  swept : Sweeps answers requeueAfter p (earlier ++ [last])
  unsettled : ∀ x ∈ earlier, ∃ report, x.result = .ok report ∧ report.settled = false
  settled : ∃ report, last.result = .ok report ∧ report.settled = true

theorem Settles.last_of {σ : Type} {answers : σ → (q : SweepQuery k) → q.Answer → σ → Prop}
    {earlier : List (Swept k)} {last : Swept k}
    (settles : Settles answers requeueAfter p earlier last) :
    ∃ report, last.result = .ok report ∧ last.log.listed = last.looks.map (·.1) ∧
      last.log.visits = last.looks.filterMap (fun e => e.2.visit? e.1) ∧
      (∀ e ∈ last.looks, e.2.isDone = true ∨
        e.2.isPassed = true ∧ ((∃ due, p.notBefore.get? e.1 = some due) ∨
          ∃ x ∈ earlier, ∃ started error noticed, (e.1, .failed started error noticed) ∈ x.looks)) ∧
      (report.deferred = 0 ↔ ∀ e ∈ last.looks, e.2.isDone = true) := by
  obtain ⟨report, ended, settled⟩ := settles.settled
  obtain ⟨before, after, tells⟩ := settles.swept.tells last (by simp)
  obtain rfl := tells.counted report ended
  have atRest := (settled_counting (tells.unstopped _ ended)).mp settled
  refine ⟨_, ended, tells.listed _ ended, tells.visits, ?_, deferred_counting atRest⟩
  rintro ⟨key, look⟩ among
  rcases atRest _ among with done | passed
  · exact .inl done
  · refine .inr ⟨passed, ?_⟩
    have happens : .look key look ∈ (earlier ++ [last]).flatMap Swept.events :=
      List.mem_flatMap.mpr ⟨last, by simp, Swept.look_mem_events.mpr among⟩
    obtain ⟨first, second, told⟩ := List.append_of_mem happens
    obtain ⟨p', follows⟩ := settles.swept.follows
    rw [told] at follows
    obtain ⟨p₁, r, former, step⟩ := follows.step_of_split
    cases step with
    | @passed _ now due set early =>
      refine (former.set_by set).imp (fun before => ⟨due, before⟩) ?_
      rintro ⟨started, error, noticed, failed⟩
      have within : .look key (.failed started error noticed) ∈
          (earlier ++ [last]).flatMap Swept.events := by
        rw [told]
        exact List.mem_append_left _ failed
      obtain ⟨x, one, here⟩ := List.mem_flatMap.mp within
      rw [Swept.look_mem_events] at here
      refine ⟨x, ?_, started, error, noticed, here⟩
      rcases List.mem_append.mp one with one | one
      · exact one
      · rw [List.mem_singleton.mp one] at here
        rcases atRest _ here with done | passed
        · cases done
        · cases passed
    | succeeded | stopped | failed | late => cases passed

end Sweep

namespace Station

variable {k : Kind} (pace : Pace) (wall : Instant) (ctx : Context)

theorem sweptAfter_cons_zero (pauses : List Duration) (s : Station k) :
    s.sweptAfter pace wall ctx (.zero :: pauses) = s.swept pace wall ctx ::
      match s.sweep pace wall ctx with
      | (.ok _, s) => s.sweptAfter pace wall ctx pauses
      | (.error _, _) => [] := rfl

/-- Where a station tells how many sweeps it took, it made that many without a pause, and the last
of them was the first one that was settled. -/
theorem swept_of_settleFrom {done sweeps n : Nat} {s : Station k}
    (answered : (s.settleFrom pace wall ctx done sweeps).1 = .ok (some n)) :
    ∃ earlier last, n = done + (earlier.length + 1) ∧ earlier.length < sweeps ∧
      s.sweptAfter pace wall ctx (List.replicate (earlier.length + 1) .zero) = earlier ++ [last] ∧
      (∀ x ∈ earlier, ∃ report, x.result = .ok report ∧ report.settled = false) ∧
      ∃ report, last.result = .ok report ∧ report.settled = true := by
  induction sweeps generalizing done s with
  | zero => cases answered
  | succ sweeps ih =>
    have result : (s.swept pace wall ctx).result = (s.sweep pace wall ctx).1 := rfl
    rw [settleFrom] at answered
    rcases made : s.sweep pace wall ctx with ⟨result | report, s₁⟩
    · rw [made] at answered
      cases answered
    · rw [made] at answered result
      dsimp only at answered
      cases settled : report.settled with
      | true =>
        rw [if_pos settled] at answered
        obtain rfl := Option.some.inj (Except.ok.inj answered)
        refine ⟨[], s.swept pace wall ctx, rfl, Nat.succ_pos _, ?_, List.forall_mem_nil _, report,
          result, settled⟩
        change s.sweptAfter pace wall ctx [.zero] = _
        rw [sweptAfter_cons_zero, made]
        rfl
      | false =>
        rw [if_neg (by simp [settled])] at answered
        obtain ⟨earlier, last, counted, few, told, unsettled, ends⟩ := ih answered
        refine ⟨s.swept pace wall ctx :: earlier, last, ?_, Nat.succ_lt_succ few, ?_,
          List.forall_mem_cons.mpr ⟨⟨report, result, settled⟩, unsettled⟩, ends⟩
        · rw [counted, List.length_cons]
          omega
        · rw [List.length_cons, List.replicate_succ, sweptAfter_cons_zero, made]
          dsimp only
          rw [told, List.cons_append]

end Station

namespace Sweep

variable {k : Kind}

/-- Where a station tells how many sweeps it took to settle, the last of them looked at every key
that it was shown, and each of these was reconciled without anything left to do or passed over
after an earlier failure. Whether any was passed over is told by what the sweep counts as
deferred, which does not keep it from being settled. The same holds of sweeps that are answered in
any other way. -/
theorem settles_on_done_or_waiting :
    (∀ (pace : Pace) (wall : Instant) (ctx : Context) (sweeps n : Nat) (s : Station k),
      (s.settle pace wall ctx sweeps).1 = .ok (some n) → ∃ earlier last,
        n = earlier.length + 1 ∧ n ≤ sweeps ∧
        s.sweptAfter pace wall ctx (List.replicate n .zero) = earlier ++ [last] ∧
        Settles (Station.Answers pace wall ctx) pace.requeueAfter s.patience earlier last) ∧
    ∀ (σ : Type) (answers : σ → (q : SweepQuery k) → q.Answer → σ → Prop) (requeueAfter : Duration)
      (p : Patience) (earlier : List (Swept k)) (last : Swept k),
      Settles answers requeueAfter p earlier last → ∃ report, last.result = .ok report ∧
        last.log.listed = last.looks.map (·.1) ∧
        last.log.visits = last.looks.filterMap (fun e => e.2.visit? e.1) ∧
        (∀ e ∈ last.looks, e.2.isDone = true ∨
          e.2.isPassed = true ∧ ((∃ due, p.notBefore.get? e.1 = some due) ∨
            ∃ x ∈ earlier, ∃ started error noticed, (e.1, .failed started error noticed) ∈ x.looks)) ∧
        (report.deferred = 0 ↔ ∀ e ∈ last.looks, e.2.isDone = true) := by
  refine ⟨?_, fun _ _ _ _ _ _ settles => settles.last_of⟩
  intro pace wall ctx sweeps n s answered
  obtain ⟨earlier, last, rfl, few, told, unsettled, settled⟩ :=
    Station.swept_of_settleFrom pace wall ctx answered
  rw [Nat.zero_add]
  refine ⟨earlier, last, rfl, few, told, ?_, unsettled, settled⟩
  rw [← told]
  exact Station.sweeps_sweptAfter pace wall ctx _ s

/-- Two sweeps settle a station whose volume failed to be stored in the first of them: the second
one passes it over because of that failure. -/
theorem settles_on_waiting_volume :
    let pace : Pace := ⟨.ofSeconds 60, .ofSeconds 60, .ofSeconds 30, 100⟩
    let key : ObjectKey := ⟨some "a", "v"⟩
    ∃ (earlier : List (Swept .volume)) (last : Swept .volume) (report : SweepReport),
      (Station.unlucky.settle pace default .unbounded 5).1 = .ok (some 2) ∧
      Settles (Station.Answers pace default .unbounded) pace.requeueAfter (.ofBackoff .standard)
        earlier last ∧
      last.result = .ok report ∧ report.deferred ≠ 0 ∧
      ∃ x ∈ earlier, ∃ started error noticed, (key, .failed started error noticed) ∈ x.looks := by
  intro pace key
  have answered : (Station.unlucky.settle pace default .unbounded 5).1 = .ok (some 2) := by
    decide +kernel
  obtain ⟨telling, leaving⟩ := @settles_on_done_or_waiting .volume
  obtain ⟨earlier, last, -, -, told, settles⟩ :=
    telling pace default .unbounded 5 2 Station.unlucky answered
  obtain ⟨report, ended, -, -, atRest, deferred⟩ := leaving _ _ _ _ earlier last settles
  have looks : (Station.unlucky.sweptAfter pace default .unbounded
      (List.replicate 2 .zero)).getLast?.map (·.looks) = some [(key, .passed (.ofSeconds 2))] := by decide +kernel
  rw [told, List.getLast?_concat] at looks
  have looks : last.looks = _ := Option.some.inj looks
  have among : (key, .passed (.ofSeconds 2)) ∈ last.looks := by
    rw [looks]
    exact List.mem_cons_self
  refine ⟨earlier, last, report, answered, settles, ended, ?_, ?_⟩
  · intro none
    cases deferred.mp none _ among
  · rcases atRest _ among with done | ⟨-, ⟨due, before⟩ | failed⟩
    · cases done
    · cases before
    · exact failed

/-- The last sweep of a station that settled need not have reconciled what it was shown. -/
theorem settled_without_reconcile :
    let pace : Pace := ⟨.ofSeconds 60, .ofSeconds 60, .ofSeconds 30, 100⟩
    ∃ last, (Station.unlucky.settle pace default .unbounded 5).1 = .ok (some 2) ∧
      (Station.unlucky.sweptAfter pace default .unbounded (List.replicate 2 .zero)).getLast? =
        some last ∧
      ¬ ∀ key ∈ last.log.listed, ∃ d, (key, .ok d) ∈ last.log.visits ∧ d.requeue = false := by
  intro pace
  have shown : ((Station.unlucky.sweptAfter pace default .unbounded
      (List.replicate 2 .zero)).getLast?.map
        fun last => (last.log.listed, last.log.visits.length)) = some ([⟨some "a", "v"⟩], 0) := by
    decide +kernel
  obtain ⟨last, ends, told⟩ := Option.map_eq_some_iff.mp shown
  obtain ⟨listed, untried⟩ := Prod.mk.inj told
  refine ⟨last, by decide +kernel, ends, ?_⟩
  rw [listed, List.length_eq_zero_iff.mp untried]
  intro reconciled
  obtain ⟨d, among, -⟩ := reconciled _ List.mem_cons_self
  cases among

end Sweep

end Reconciler
