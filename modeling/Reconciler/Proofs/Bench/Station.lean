import Reconciler.Bench.Station
import Reconciler.Proofs.Controller.Visit

/-!
Reconciles on the bench are reconciles in a world: what a station answers is one of the
answers there are, so that whatever holds of every run of a visit holds on the bench.
-/

set_option autoImplicit false

namespace Reconciler

variable {k : Kind}

/-- The providers of the bench, which do at once what a call does to them. -/
def Backend.service (k : Kind) : Service k Backend where
  serves op r b r' outcome b' :=
    r' = (b.respond op r).resource ∧ outcome = (b.respond op r).outcome ∧
      b' = (b.respond op r).backend
  leaves op r b b' := b' = (b.respond op r).backend

namespace Shelf

theorem access_cases (ctx : Context) (now : Moment) (wall : Instant) (s : Shelf k)
    (c : StoreCall k) :
    ((∃ e, (s.access ctx now wall c).1 = some (.error e)) ∧
      (s.access ctx now wall c).2.store = s.store) ∨
    ((s.access ctx now wall c).1 = none ∧ (s.access ctx now wall c).2.store = s.store) ∨
    ((s.access ctx now wall c).1 = some (s.store.performUnder ctx now wall c).1 ∧
      (s.access ctx now wall c).2.store = (s.store.performUnder ctx now wall c).2) := by
  rcases planned : takeFault c.name s.faults with ⟨effect, faults⟩
  cases effect with
  | none => simp [access, planned]
  | some effect =>
    cases effect with
    | fail e => simp [access, planned]
    | hang => simp [access, planned]

end Shelf

namespace Station

def world (s : Station k) : World k Backend :=
  { store := s.surroundings.shelf.store, provider := s.surroundings.backend, clock := s.now }

variable (ctx : Context) (wall : Instant) (s : Station k)

theorem access_read (c : StoreCall k) : s.world.Access ctx c (s.answer ctx wall (.read c)).1
    (s.answer ctx wall (.read c)).2.world := by
  rcases made : s.surroundings.shelf.access ctx s.now wall c with ⟨answered, shelf⟩
  have did := s.surroundings.shelf.access_cases ctx s.now wall c
  simp only [made] at did
  rcases did with ⟨⟨e, rfl⟩, same⟩ | ⟨rfl, same⟩ | ⟨rfl, stored⟩
  · have replied : s.surroundings.read ctx s.now wall c =
        ⟨some s.now, { s.surroundings with shelf }, .error e⟩ := by
      simp [Surroundings.read, made]
    simp only [answer, Surroundings.reply, replied, world, same]
    exact .failed s.now e (Nat.le_refl _)
  · have replied : s.surroundings.read ctx s.now wall c =
        ⟨none, { s.surroundings with shelf }, .error .cancelled⟩ := by
      simp [Surroundings.read, made]
    simp only [answer, Surroundings.reply, replied, world, same]
    exact .failed s.now .cancelled (Nat.le_refl _)
  · have replied : s.surroundings.read ctx s.now wall c =
        ⟨some s.now, { s.surroundings with shelf },
          (s.surroundings.shelf.store.performUnder ctx s.now wall c).1⟩ := by
      simp [Surroundings.read, made]
    simp only [answer, Surroundings.reply, replied, world, stored]
    exact .performed s.now wall (Nat.le_refl _)

theorem access_commit (c : StoreCall k) : s.world.Access ctx c (s.answer ctx wall (.commit c)).1
    (s.answer ctx wall (.commit c)).2.world := by
  cases alive : ctx.check s.now with
  | error i =>
    have replied : s.surroundings.commit ctx s.now wall c =
        ⟨some s.now, s.surroundings, .error i.toError⟩ := by
      simp [Surroundings.commit, alive]
    simp only [answer, Surroundings.reply, replied, world]
    exact .failed s.now i.toError (Nat.le_refl _)
  | ok _ =>
    rcases made : s.surroundings.shelf.access ctx s.now wall c with ⟨answered, shelf⟩
    have did := s.surroundings.shelf.access_cases ctx s.now wall c
    simp only [made] at did
    rcases did with ⟨⟨e, rfl⟩, same⟩ | ⟨rfl, same⟩ | ⟨rfl, stored⟩
    · have replied : s.surroundings.commit ctx s.now wall c =
          ⟨some s.now, { s.surroundings with shelf }, .error e⟩ := by
        simp [Surroundings.commit, alive, made]
      simp only [answer, Surroundings.reply, replied, world, same]
      exact .failed s.now e (Nat.le_refl _)
    · cases ends : ctx.ending? with
      | none =>
        have replied : s.surroundings.commit ctx s.now wall c =
            ⟨none, { s.surroundings with shelf }, .error .cancelled⟩ := by
          simp [Surroundings.commit, alive, made, ends]
        simp only [answer, Surroundings.reply, replied, world, same]
        exact .failed s.now .cancelled (Nat.le_refl _)
      | some ending =>
        obtain ⟨t, i⟩ := ending
        have replied : s.surroundings.commit ctx s.now wall c =
            ⟨some t, { s.surroundings with shelf }, .error i.toError⟩ := by
          simp [Surroundings.commit, alive, made, ends]
        simp only [answer, Surroundings.reply, replied, world, same]
        exact .failed t i.toError (Nat.le_of_lt (Context.lt_ending alive ends))
    · have replied : s.surroundings.commit ctx s.now wall c =
          ⟨some s.now, { s.surroundings with shelf },
            (s.surroundings.shelf.store.performUnder ctx s.now wall c).1⟩ := by
        simp [Surroundings.commit, alive, made]
      simp only [answer, Surroundings.reply, replied, world, stored]
      exact .performed s.now wall (Nat.le_refl _)

theorem answers_call (op : Operation) (r : Resource k) :
    ∃ happenings, s.world.Answers (Backend.service k) ctx (.call op r)
      (s.answer ctx wall (.call op r)).1 happenings (s.answer ctx wall (.call op r)).2.world := by
  have here : s.now.nanos ≤ s.now.nanos := Nat.le_refl _
  cases alive : ctx.check s.now with
  | error i =>
    refine ⟨[], ?_⟩
    simp only [answer, Surroundings.reply, Backend.call, alive, world]
    exact .refused s.now i r here alive
  | ok _ =>
    have waited := Context.le_await (s.surroundings.backend.respond op r).wait alive
    rcases waits : ctx.await s.now (s.surroundings.backend.respond op r).wait with ⟨ended, t⟩
    rw [waits] at waited
    cases ended with
    | ok _ =>
      refine ⟨[.called op r (some ((s.surroundings.backend.respond op r).resource,
        (s.surroundings.backend.respond op r).outcome))], ?_⟩
      simp only [answer, Surroundings.reply, Backend.call, alive, waits, world]
      exact .completed s.now t _ _ _ here waited alive ⟨rfl, rfl, rfl⟩
    | error i =>
      refine ⟨[.called op r none], ?_⟩
      simp only [answer, Surroundings.reply, Backend.call, alive, waits, world]
      split
      · exact .abandoned s.now s.now i r _ here here alive rfl
      · exact .abandoned s.now t i r _ here waited alive rfl

theorem answers (q : Query k) :
    ∃ happenings, s.world.Answers (Backend.service k) ctx q (s.answer ctx wall q).1 happenings
      (s.answer ctx wall q).2.world := by
  cases q with
  | check => exact ⟨[], .checked s.now (Nat.le_refl _)⟩
  | call op r => exact s.answers_call ctx wall op r
  | read c => exact ⟨_, .read (s.access_read ctx wall c)⟩
  | commit c => exact ⟨_, .commit (s.access_commit ctx wall c)⟩

/-- A reconcile of a station is a run of a visit to its end. -/
theorem run_of_reconcile (pace : Pace) (key : ObjectKey) :
    ∃ result log, (s.reconcile pace wall ctx key).1 = result.map (·.1) ∧
      Visit.Run (Backend.service k) (s.world, .start ctx pace.requeueAfter wall key)
        ((s.reconcile pace wall ctx key).2.world, ⟨ctx, .done result, log⟩) := by
  obtain ⟨log, run⟩ := Visit.run_of_dialogue world (answer ctx wall)
    (fun s q => s.answers ctx wall q) (Controller.reconcile pace.requeueAfter wall key) s []
  exact ⟨_, log, rfl, run⟩

end Station

end Reconciler
