import Reconciler.Proofs.Bench.Station
import Reconciler.Proofs.Controller.Round
import Reconciler.Proofs.Dialogue

/-!
Stations at which no fault is planned. A store call goes there as it goes in memory; and a
reconcile under a context that has not ended goes as a round does, as long as it asks nothing of
the provider.
-/

set_option autoImplicit false

namespace Reconciler

variable {k : Kind} {ctx : Context}

namespace Station

abbrev store (s : Station k) : MemoryStore k := s.surroundings.shelf.store

def Faultless (s : Station k) : Prop := s.surroundings.shelf.faults = []

/-- The second station is the first one after a store call that was answered. -/
structure Served (ctx : Context) (wall : Instant) (c : StoreCall k) (s : Station k)
    (answer : c.Answer) (s' : Station k) : Prop where
  answered : answer = (s.store.performUnder ctx s.now wall c).1
  stored : s'.store = (s.store.performUnder ctx s.now wall c).2
  faultless : s'.Faultless
  now : s'.now = s.now

section Served

variable {s : Station k} (wall : Instant) (c : StoreCall k)

theorem Faultless.access (faultless : s.Faultless) : s.surroundings.shelf.access ctx s.now wall c =
    (some (s.store.performUnder ctx s.now wall c).1,
      { store := (s.store.performUnder ctx s.now wall c).2
        faults := []
        log := s.surroundings.shelf.log ++ [⟨Shelf.nearestSecond s.now, c.name, c.subject⟩] }) := by
  have none : s.surroundings.shelf.faults = [] := faultless
  simp [Shelf.access, Shelf.takeFault, none, store]

theorem Faultless.read (faultless : s.Faultless) :
    Served ctx wall c s (s.answer ctx wall (.read c)).1 (s.answer ctx wall (.read c)).2 := by
  simp only [Station.answer, Surroundings.reply, Surroundings.read, faultless.access wall c]
  exact ⟨rfl, rfl, rfl, rfl⟩

theorem Faultless.commit (faultless : s.Faultless) :
    Served ctx wall c s (s.answer ctx wall (.commit c)).1 (s.answer ctx wall (.commit c)).2 := by
  cases alive : ctx.check s.now with
  | error i =>
    have performed := MemoryStore.performUnder_of_ended wall s.store c alive
    simp only [Station.answer, Surroundings.reply, Surroundings.commit, alive]
    exact ⟨by rw [performed], by rw [performed], faultless, rfl⟩
  | ok _ =>
    simp only [Station.answer, Surroundings.reply, Surroundings.commit, alive,
      faultless.access wall c]
    exact ⟨rfl, rfl, rfl, rfl⟩

theorem Faultless.answer (faultless : s.Faultless) (q : Query k) :
    (s.answer ctx wall q).2.Faultless := by
  cases q with
  | check => exact faultless
  | call op r => exact faultless
  | read c => exact (faultless.read wall c).faultless
  | commit c => exact (faultless.commit wall c).faultless

theorem Faultless.reconcile (faultless : s.Faultless) (pace : Pace) (key : ObjectKey) :
    (s.reconcile pace wall ctx key).2.Faultless := by
  have held : ((Controller.reconcile pace.requeueAfter wall key).run
      (Station.answer ctx wall) s).2.Faultless :=
    Dialogue.run_keeps (fun held => held.answer wall _) _ faultless
  exact held

end Served

structure Ready (ctx : Context) (s : Station k) : Prop where
  live : ctx.check s.now = .ok ()
  faultless : s.Faultless

variable {s : Station k}

theorem Served.ready {wall : Instant} {c : StoreCall k} {answer : c.Answer} {s' : Station k}
    (served : Served ctx wall c s answer s') (ready : s.Ready ctx) :
    answer = (s.store.perform wall c).1 ∧ s'.store = (s.store.perform wall c).2 ∧ s'.Ready ctx := by
  obtain ⟨answered, stored, faultless, now⟩ := served
  rw [MemoryStore.performUnder_of_live wall s.store c ready.live] at answered stored
  exact ⟨answered, stored, now ▸ ready.live, faultless⟩

/-- Questions that are not put to the provider are answered as in a round. -/
theorem Ready.answer (ready : s.Ready ctx) (round : Round) {q : Query k} (apart : ∀ op r, q ≠ .call op r)
    (calls : Calls) :
    (s.answer ctx round.wall q).1 = (round.answer q (s.store, calls)).1 ∧
      round.answer q (s.store, calls) =
        ((round.answer q (s.store, calls)).1, ((s.answer ctx round.wall q).2.store, calls)) ∧
      (s.answer ctx round.wall q).2.Ready ctx := by
  cases q with
  | check => exact ⟨ready.live, rfl, ready⟩
  | call op r => exact absurd rfl (apart op r)
  | read c =>
    obtain ⟨answered, stored, later⟩ := (ready.faultless.read round.wall c).ready ready
    exact ⟨answered, by rw [stored]; rfl, later⟩
  | commit c =>
    obtain ⟨answered, stored, later⟩ := (ready.faultless.commit round.wall c).ready ready
    exact ⟨answered, by rw [stored]; rfl, later⟩

theorem calls_le {α : Type} (round : Round) (d : Controller.Work k α) (x : MemoryStore k × Calls) :
    x.2.length ≤ (d.run round.answer x).2.2.length := by
  refine Dialogue.run_keeps (P := fun y : MemoryStore k × Calls => x.2.length ≤ y.2.length) ?_ d
    (Nat.le_refl _)
  intro q y kept
  cases q with
  | call op r => simpa [Round.answer] using Nat.le_succ_of_le kept
  | _ => exact kept

/-- A dialogue that makes no call in a round goes at the station as it goes in the round. -/
theorem Ready.run {α : Type} (ready : s.Ready ctx) (round : Round) (d : Controller.Work k α) (calls : Calls)
    (silent : (d.run round.answer (s.store, calls)).2.2 = calls) :
    (d.run (Station.answer ctx round.wall) s).1 = (d.run round.answer (s.store, calls)).1 ∧
      (d.run (Station.answer ctx round.wall) s).2.store =
        (d.run round.answer (s.store, calls)).2.1 := by
  induction d generalizing s with
  | done a => exact ⟨rfl, rfl⟩
  | ask q next ih =>
    -- A call would still stand among the calls at the end, and the round made none.
    have apart : ∀ op r, q ≠ .call op r := by
      rintro op r rfl
      have more := calls_le round (next (r, .ok round.outcome))
        (s.store, calls ++ [(op, round.outcome)])
      simp only [Dialogue.run, Round.answer] at silent
      rw [silent, List.length_append] at more
      exact absurd more (Nat.not_succ_le_self _)
    obtain ⟨answered, goes, later⟩ := ready.answer round apart calls
    simp only [Dialogue.run] at silent ⊢
    rw [goes] at silent ⊢
    rw [answered]
    exact ih _ later silent

theorem Ready.reconcile (ready : s.Ready ctx) (pace : Pace) (wall : Instant) (key : ObjectKey)
    (silent : Round.calls ⟨pace.requeueAfter, wall, .ok ()⟩ key s.store = []) :
    (s.reconcile pace wall ctx key).1 =
        (Round.result ⟨pace.requeueAfter, wall, .ok ()⟩ key s.store).map (·.1) ∧
      (s.reconcile pace wall ctx key).2.store =
        Round.after ⟨pace.requeueAfter, wall, .ok ()⟩ key s.store := by
  obtain ⟨result, after⟩ := ready.run ⟨pace.requeueAfter, wall, .ok ()⟩
    (Controller.reconcile pace.requeueAfter wall key) [] silent
  exact ⟨congrArg (Except.map Prod.fst) result, after⟩

end Station

end Reconciler
