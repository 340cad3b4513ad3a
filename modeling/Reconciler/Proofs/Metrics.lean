import Mathlib.Algebra.GroupWithZero.Nat
import Reconciler.Bench
import Reconciler.Proofs.Controller.Ending
import Reconciler.Proofs.SortedMap
import Reconciler.Proofs.Store.Request

/-!
Counts of reconciles. However reconciles of different kinds follow one another, what is counted of
each kind by outcome and by class of errors adds up to the reconciles of that kind that returned.
-/

set_option autoImplicit false

namespace Reconciler

namespace Outcome

def all : List Outcome := [.requeue, .done, .skipped, .invalid, .error]

theorem label_injective {o o' : Outcome} (same : o.label = o'.label) : o = o' := by
  cases o <;> cases o' <;> first | rfl | exact absurd same (by decide)

theorem count_all (o : Outcome) : all.count o = 1 := by
  cases o <;> rfl

end Outcome

theorem Kind.name_injective {k k' : Kind} (same : k.name = k'.name) : k = k' := by
  cases k <;> cases k' <;> first | rfl | exact absurd same (by decide)

theorem Error.count_label (e : Error) : Metrics.errorLabels.count e.label = 1 := by
  have once : Metrics.errorLabels.Nodup := by decide
  have listed : e.label ∈ Metrics.errorLabels := by
    cases e <;> simp [Error.label, Metrics.errorLabels]
  exact List.count_eq_one_of_mem once listed

/-- A sum in which one of the terms, where it is raised at all, is raised by one. -/
theorem sum_map_of_raised {α : Type} [DecidableEq α] {p : Prop} [Decidable p] {f g : α → Nat}
    {a : α} (raised : ∀ x, g x = f x + if p ∧ x = a then 1 else 0) (xs : List α) :
    (xs.map g).sum = (xs.map f).sum + if p then xs.count a else 0 := by
  induction xs with
  | nil => simp
  | cons x xs ih =>
    rw [List.map_cons, List.map_cons, List.sum_cons, List.sum_cons, List.count_cons, ih, raised]
    by_cases here : x = a <;> by_cases holds : p <;> simp [here, holds] <;> omega

namespace Metrics

section Table

variable (t : Table) {a a' b b' : String} (n : Nat)

theorem cell_setCell_self : cell (setCell t a b n) a b = n := by
  simp [cell, setCell]

theorem cell_setCell_of_ne (apart : ¬ (a' = a ∧ b' = b)) :
    cell (setCell t a b n) a' b' = cell t a' b' := by
  unfold cell setCell
  by_cases row : a' = a
  · subst row
    have column : b' ≠ b := fun same => apart ⟨rfl, same⟩
    rw [SortedMap.get?_insert_self, Option.bind_some, SortedMap.get?_insert_of_ne _ _ column]
    cases t.get? a' <;> rfl
  · rw [SortedMap.get?_insert_of_ne _ _ row]

theorem cell_setCell_raised :
    cell (setCell t a b (cell t a b + 1)) a' b' =
      cell t a' b' + if a' = a ∧ b' = b then 1 else 0 := by
  by_cases here : a' = a ∧ b' = b
  · obtain ⟨rfl, rfl⟩ := here
    rw [cell_setCell_self, if_pos ⟨rfl, rfl⟩]
  · rw [cell_setCell_of_ne t _ here, if_neg here, Nat.add_zero]

theorem cell_setCell_same : cell (setCell t a b (cell t a b)) a' b' = cell t a' b' := by
  by_cases here : a' = a ∧ b' = b
  · obtain ⟨rfl, rfl⟩ := here
    exact cell_setCell_self t _
  · exact cell_setCell_of_ne t _ here

end Table

variable (m : Metrics) (kind kind' : String)

theorem reconcileCount_observe (o o' : Outcome) (elapsed : Duration) :
    (m.observe kind o elapsed).reconcileCount kind' o' =
      m.reconcileCount kind' o' + if kind' = kind ∧ o' = o then 1 else 0 := by
  have labels : o'.label = o.label ↔ o' = o := ⟨Outcome.label_injective, congrArg _⟩
  have raised : (m.observe kind o elapsed).reconcileCount kind' o' =
      m.reconcileCount kind' o' + if kind' = kind ∧ o'.label = o.label then 1 else 0 :=
    cell_setCell_raised m.reconciles
  simp only [labels] at raised
  exact raised

theorem errorCount_observe (o : Outcome) (label : String) (elapsed : Duration) :
    (m.observe kind o elapsed).errorCount kind' label = m.errorCount kind' label := rfl

theorem reconcileCount_observeError (e : Error) (o : Outcome) (elapsed : Duration) :
    (m.observeError kind e elapsed).reconcileCount kind' o =
      m.reconcileCount kind' o + if kind' = kind ∧ o = .error then 1 else 0 :=
  m.reconcileCount_observe kind kind' .error o elapsed

theorem errorCount_observeError (e : Error) (label : String) (elapsed : Duration) :
    (m.observeError kind e elapsed).errorCount kind' label =
      m.errorCount kind' label + if label = e.label ∧ kind' = kind then 1 else 0 :=
  cell_setCell_raised m.errors

/-- The reconciles of a kind, whatever their outcome. -/
def reconcileTotal (m : Metrics) (kind : String) : Nat :=
  (Outcome.all.map (m.reconcileCount kind)).sum

def errorTotal (m : Metrics) (kind : String) : Nat :=
  (errorLabels.map (m.errorCount kind)).sum

theorem reconcileTotal_observe (o : Outcome) (elapsed : Duration) :
    (m.observe kind o elapsed).reconcileTotal kind' =
      m.reconcileTotal kind' + if kind' = kind then 1 else 0 := by
  have raised := sum_map_of_raised (m.reconcileCount_observe kind kind' o · elapsed) Outcome.all
  rwa [Outcome.count_all] at raised

theorem errorTotal_observeError (e : Error) (elapsed : Duration) :
    (m.observeError kind e elapsed).errorTotal kind' =
      m.errorTotal kind' + if kind' = kind then 1 else 0 := by
  have counts (label : String) := m.errorCount_observeError kind kind' e label elapsed
  simp only [and_comm] at counts
  have raised := sum_map_of_raised counts errorLabels
  rwa [Error.count_label] at raised

end Metrics

/-- A reconcile that is over: the kind of its object, and what its caller was told. -/
structure Reconciled where
  kind : Kind
  answer : Except Stop Decision

namespace Reconciled

/-- A reconcile of the kind that returned, with an answer or an error; a crash does not. -/
def returned (k : Kind) (r : Reconciled) : Bool :=
  r.kind = k &&
    match r.answer with
    | .error (.crashed _) => false
    | _ => true

def failed (k : Kind) (r : Reconciled) : Bool :=
  r.kind = k &&
    match r.answer with
    | .error (.failed _) => true
    | _ => false

def requeued (k : Kind) (r : Reconciled) : Bool :=
  r.kind = k &&
    match r.answer with
    | .ok d => d.requeue
    | .error _ => false

end Reconciled

namespace Metrics

/-- What happens to counts: a reconcile ends, whoever answered it, or a count is read. -/
inductive Step (m : Metrics) : Option Reconciled → Metrics → Prop
  | reconciled {k : Kind} {requeueAfter : Duration} {wall : Instant} {key : ObjectKey}
      {result : Except Stop (Decision × Outcome)} (elapsed : Duration)
      (ends : (Controller.reconcile (k := k) requeueAfter wall key).CanEnd result) :
      Step m (some ⟨k, result.map (·.1)⟩) (m.record k.name elapsed result)
  | readReconciles (kind : String) (o : Outcome) : Step m none (m.readReconciles kind o).2
  | readErrors (kind label : String) : Step m none (m.readErrors kind label).2

/-- New counts, and what became of them with these reconciles, oldest first. -/
inductive Accounts : List Reconciled → Metrics → Prop
  | start : Accounts [] .empty
  | step {past : List Reconciled} {m m' : Metrics} {event : Option Reconciled}
      (accounts : Accounts past m) (step : m.Step event m') : Accounts (past ++ event.toList) m'

/-- The counts of a kind add up to what became of its reconciles. -/
structure Balance (m : Metrics) (past : List Reconciled) (k : Kind) : Prop where
  total : m.reconcileTotal k.name = past.countP (·.returned k)
  errors : m.reconcileCount k.name .error = past.countP (·.failed k)
  classes : m.errorTotal k.name = past.countP (·.failed k)
  requeues : m.reconcileCount k.name .requeue = past.countP (·.requeued k)

variable {m m' : Metrics} {past : List Reconciled} {k : Kind}

theorem Balance.of_same (balance : m.Balance past k)
    (reconciles : ∀ o, m'.reconcileCount k.name o = m.reconcileCount k.name o)
    (errors : ∀ label, m'.errorCount k.name label = m.errorCount k.name label) :
    m'.Balance past k where
  total := by
    rw [reconcileTotal, funext reconciles]
    exact balance.total
  errors := (reconciles _).trans balance.errors
  classes := by
    rw [errorTotal, funext errors]
    exact balance.classes
  requeues := (reconciles _).trans balance.requeues

theorem Balance.concat (balance : m.Balance past k) {r : Reconciled}
    (total : m'.reconcileTotal k.name = m.reconcileTotal k.name + if r.returned k then 1 else 0)
    (errors : m'.reconcileCount k.name .error =
      m.reconcileCount k.name .error + if r.failed k then 1 else 0)
    (classes : m'.errorTotal k.name = m.errorTotal k.name + if r.failed k then 1 else 0)
    (requeues : m'.reconcileCount k.name .requeue =
      m.reconcileCount k.name .requeue + if r.requeued k then 1 else 0) :
    m'.Balance (past ++ [r]) k := by
  constructor
  case total => rw [total, balance.total, List.countP_append, List.countP_singleton]
  case errors => rw [errors, balance.errors, List.countP_append, List.countP_singleton]
  case classes => rw [classes, balance.classes, List.countP_append, List.countP_singleton]
  case requeues => rw [requeues, balance.requeues, List.countP_append, List.countP_singleton]

theorem name_eq_iff {k k' : Kind} : k.name = k'.name ↔ k' = k :=
  ⟨fun same => (Kind.name_injective same).symm, fun same => same ▸ rfl⟩

theorem Balance.observe (balance : m.Balance past k) (k' : Kind) {d : Decision} {o : Outcome}
    (elapsed : Duration) (succeeded : o ≠ .error) (told : d.requeue = decide (o = .requeue)) :
    (m.observe k'.name o elapsed).Balance (past ++ [⟨k', .ok d⟩]) k := by
  refine balance.concat ?total ?errors ?classes ?requeues
  case total => simp [reconcileTotal_observe, Reconciled.returned, name_eq_iff]
  case errors => simp [reconcileCount_observe, Reconciled.failed, succeeded.symm]
  case classes =>
    have kept (label : String) := errorCount_observe m k'.name k.name o label elapsed
    simp [Reconciled.failed, errorTotal, funext kept]
  case requeues =>
    cases o <;> simp_all [reconcileCount_observe, Reconciled.requeued, name_eq_iff]

theorem Balance.observeError (balance : m.Balance past k) (k' : Kind) (e : Error)
    (elapsed : Duration) :
    (m.observeError k'.name e elapsed).Balance (past ++ [⟨k', .error (.failed e)⟩]) k := by
  have total : (m.observeError k'.name e elapsed).reconcileTotal k.name =
      m.reconcileTotal k.name + if k.name = k'.name then 1 else 0 :=
    m.reconcileTotal_observe k'.name k.name .error elapsed
  refine balance.concat ?total ?errors ?classes ?requeues
  case total => simp [total, Reconciled.returned, name_eq_iff]
  case errors => simp [reconcileCount_observeError, Reconciled.failed, name_eq_iff]
  case classes => simp [errorTotal_observeError, Reconciled.failed, name_eq_iff]
  case requeues => simp [reconcileCount_observeError, Reconciled.requeued]

theorem Balance.crash (balance : m.Balance past k) (k' : Kind) (c : Crash) :
    m.Balance (past ++ [⟨k', .error (.crashed c)⟩]) k := by
  refine balance.concat ?_ ?_ ?_ ?_ <;>
    simp [Reconciled.returned, Reconciled.failed, Reconciled.requeued]

theorem Balance.step (balance : m.Balance past k) {event : Option Reconciled}
    (step : m.Step event m') : m'.Balance (past ++ event.toList) k := by
  cases step with
  | @reconciled k' _ _ _ _ elapsed ends =>
    cases Controller.ending_of_reconcile ends with
    | skipped | invalid | done | again => exact balance.observe k' elapsed (by decide) rfl
    | failed e => exact balance.observeError k' e elapsed
    | stateChanged => exact balance.crash k' _
  | readReconciles kind o =>
    rw [Option.toList_none, List.append_nil]
    exact balance.of_same (fun _ => cell_setCell_same m.reconciles) fun _ => rfl
  | readErrors kind label =>
    rw [Option.toList_none, List.append_nil]
    exact balance.of_same (fun _ => rfl) fun _ => cell_setCell_same m.errors

theorem Accounts.balance (accounts : Accounts past m) (k : Kind) : m.Balance past k := by
  induction accounts with
  | start => exact ⟨rfl, rfl, rfl, rfl⟩
  | step _ step ih => exact ih.step step

theorem Step.others {r : Reconciled} (step : m.Step (some r) m') (other : k ≠ r.kind) :
    (∀ o, m'.reconcileCount k.name o = m.reconcileCount k.name o) ∧
      ∀ label, m'.errorCount k.name label = m.errorCount k.name label := by
  cases step with
  | @reconciled k' _ _ _ result elapsed ends =>
    have apart : k.name ≠ k'.name := fun same => other (Kind.name_injective same)
    rcases result with (e | c) | ⟨d, o⟩
    · refine ⟨fun o => ?_, fun label => ?_⟩
      · exact (m.reconcileCount_observeError k'.name k.name e o elapsed).trans (by simp [apart])
      · exact (m.errorCount_observeError k'.name k.name e label elapsed).trans (by simp [apart])
    · exact ⟨fun _ => rfl, fun _ => rfl⟩
    · refine ⟨fun o' => ?_, fun _ => rfl⟩
      exact (m.reconcileCount_observe k'.name k.name o o' elapsed).trans (by simp [apart])

/-- A reconcile on a bench, which both kinds share, is counted in this way. -/
theorem step_of_work {b : Bench} (counted : b.metrics = some m) (k : Kind) (pace : Pace)
    (wall : Instant) (ctx : Context) (key : ObjectKey) :
    ∃ m', (b.work k (Station.reconcile pace wall ctx key)).2.metrics = some m' ∧
      m.Step (some ⟨k, (b.work k (Station.reconcile pace wall ctx key)).1⟩) m' := by
  have kept : ((Controller.reconcile pace.requeueAfter wall key).run (Station.answer ctx wall)
      (b.station k)).2.metrics = some m :=
    Dialogue.run_keeps (P := fun s : Station k => s.metrics = some m) (fun same => same) _ counted
  refine ⟨_, congrArg (Option.map _) kept, ?_⟩
  exact .reconciled _ (Dialogue.canEnd_run _ _ _)

/-- After any reconciles of any kinds, whoever answered them, what is counted of a kind by outcome
adds up to its reconciles that returned, the errors among them are those that failed and add up by
class, and what is to be looked at again is counted as such. One more reconcile leaves the counts
of the other kinds alone. Reconciles on a bench are counted in this way. -/
theorem every_reconcile_accounted (accounts : Accounts past m) :
    (∀ k : Kind, m.Balance past k) ∧
    (∀ r m', m.Step (some r) m' → Accounts (past ++ [r]) m' ∧ ∀ k, k ≠ r.kind →
      (∀ o, m'.reconcileCount k.name o = m.reconcileCount k.name o) ∧
        ∀ label, m'.errorCount k.name label = m.errorCount k.name label) ∧
    ∀ (b : Bench) (k : Kind) (pace : Pace) (wall : Instant) (ctx : Context) (key : ObjectKey),
      b.metrics = some m → ∃ m',
        (b.work k (Station.reconcile pace wall ctx key)).2.metrics = some m' ∧
          m.Step (some ⟨k, (b.work k (Station.reconcile pace wall ctx key)).1⟩) m' := by
  refine ⟨accounts.balance, fun r m' step => ⟨accounts.step step, ?_⟩, ?_⟩
  · intro k other
    exact step.others other
  · intro b k pace wall ctx key counted
    exact step_of_work counted k pace wall ctx key

def plainBench : Bench :=
  let created := .afterAll .empty [.call .unbounded .zero default (.create .plainVolume)]
  (Bench.assemble (.dummy (.ofConfig default)) .standard (some .empty)).mapShelf .volume
    fun shelf => { shelf with store := created }

/-- A volume that is begun to be created, a reconcile of it that is cancelled, and a workspace that
is not there: what is counted of volumes adds up to two, and of workspaces to one. -/
theorem three_reconciles_accounted :
    ∃ past m, Accounts past m ∧ past.length = 3 ∧
      m.reconcileTotal "BlockStorage" = 2 ∧ m.reconcileCount "BlockStorage" .requeue = 1 ∧
      m.reconcileCount "BlockStorage" .error = 1 ∧ m.errorTotal "BlockStorage" = 1 ∧
      m.reconcileTotal "Workspace" = 1 ∧ m.errorTotal "Workspace" = 0 := by
  let pace : Pace := ⟨.ofSeconds 60, .ofSeconds 60, .ofSeconds 30, 100⟩
  let key : ObjectKey := ⟨some "a", "v"⟩
  let cancelled : Context := Context.unbounded.cancelledBy .zero
  obtain ⟨-, extends₀, onBench₀⟩ := every_reconcile_accounted .start
  obtain ⟨m₁, counted₁, step₁⟩ := onBench₀ plainBench .volume pace default .unbounded key rfl
  obtain ⟨-, extends₁, onBench₁⟩ := every_reconcile_accounted (extends₀ _ _ step₁).1
  obtain ⟨m₂, counted₂, step₂⟩ := onBench₁ _ .volume pace default cancelled key counted₁
  obtain ⟨-, extends₂, onBench₂⟩ := every_reconcile_accounted (extends₁ _ _ step₂).1
  obtain ⟨m₃, -, step₃⟩ := onBench₂ _ .workspace pace default .unbounded key counted₂
  obtain ⟨accounts, -⟩ := extends₂ _ _ step₃
  obtain ⟨balanced, -, -⟩ := every_reconcile_accounted accounts
  refine ⟨_, m₃, accounts, rfl, ?_, ?_, ?_, ?_, ?_, ?_⟩
  · exact (balanced .volume).total.trans (by decide +kernel)
  · exact (balanced .volume).requeues.trans (by decide +kernel)
  · exact (balanced .volume).errors.trans (by decide +kernel)
  · exact (balanced .volume).classes.trans (by decide +kernel)
  · exact (balanced .workspace).total.trans (by decide +kernel)
  · exact (balanced .workspace).classes.trans (by decide +kernel)

end Metrics

end Reconciler
