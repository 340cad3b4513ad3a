import Mathlib.Data.List.Basic
import Reconciler.Bench.Station
import Reconciler.Proofs.Store.Request
import Reconciler.Proofs.Sweep.Looks

/-!
Sweeps one after another, each going on with what the one before it kept, whoever answers them; the
sweeps that a station makes are of this kind.
-/

set_option autoImplicit false

namespace Reconciler

namespace Sweep

open Dialogue (Held)

variable {k : Kind} {requeueAfter : Duration}

def Event.moments : Event → List Moment
  | .look _ l => l.moments
  | .swept _ => []

/-- Sweeps one after another, each going on with what the one before it kept. Anything may happen
between them, and a sweep may fail; but where the clock could not tell a moment none follows. -/
inductive Sweeps {σ : Type} (answers : σ → (q : SweepQuery k) → q.Answer → σ → Prop)
    (requeueAfter : Duration) : Patience → List (Swept k) → Prop
  | nil {p : Patience} : Sweeps answers requeueAfter p []
  | cons {p p' : Patience} {pageSize pages : Nat} {w w' : σ} {log : Log k}
      {result : Except Stop SweepReport} {sweeps : List (Swept k)}
      (held : Held answers (run requeueAfter pageSize pages p) w log (p', result) w')
      (last : result = .error (.crashed .momentOutOfRange) → sweeps = [])
      (rest : Sweeps answers requeueAfter p' sweeps) :
      Sweeps answers requeueAfter p (⟨log, result⟩ :: sweeps)

section Sweeps

variable {σ : Type} {answers : σ → (q : SweepQuery k) → q.Answer → σ → Prop} {p : Patience}
  {sweeps : List (Swept k)}

theorem Sweeps.tells (swept : Sweeps answers requeueAfter p sweeps) :
    ∀ x ∈ sweeps, ∃ before after, x.Tells requeueAfter before after := by
  induction swept with
  | nil =>
    intro x among
    cases among
  | cons held last rest ih => exact List.forall_mem_cons.mpr ⟨⟨_, _, Swept.tells_of_held held⟩, ih⟩

theorem Sweeps.follows (swept : Sweeps answers requeueAfter p sweeps) :
    ∃ p', Follows requeueAfter p (sweeps.flatMap Swept.events) p' := by
  induction swept with
  | nil => exact ⟨_, .nil⟩
  | cons held last rest ih =>
    rcases (Swept.tells_of_held held).follows with kept | ⟨ended, late⟩
    · obtain ⟨p', further⟩ := ih
      exact ⟨p', kept.append further⟩
    · obtain rfl := last late
      exact ⟨none, by simpa using ended⟩

theorem Swept.Tells.moments {x : Swept k} {before after : Patience}
    (tells : x.Tells requeueAfter before after) : x.events.flatMap Event.moments = x.log.clocks := by
  rw [tells.clocks]
  cases ended : x.result <;>
    simp [Swept.events, ended, List.flatMap_map, Event.ofLook, Event.moments]

theorem Sweeps.moments (swept : Sweeps answers requeueAfter p sweeps) :
    (sweeps.flatMap Swept.events).flatMap Event.moments = sweeps.flatMap (·.log.clocks) := by
  rw [List.flatMap_assoc]
  refine List.flatMap_congr ?_
  intro x among
  obtain ⟨before, after, tells⟩ := swept.tells x among
  exact tells.moments

end Sweeps

end Sweep

namespace Station

open Dialogue (Held)

variable {k : Kind} (pace : Pace) (wall : Instant) (ctx : Context)

def Answers (s : Station k) (q : SweepQuery k) (answer : q.Answer) (s' : Station k) : Prop :=
  answerSweep pace wall ctx q s = (answer, s')

def swept (s : Station k) : Sweep.Swept k where
  log := (Sweep.run pace.requeueAfter pace.pageSize (s.surroundings.shelf.store.size + 1)
    s.patience).transcript (answerSweep pace wall ctx) s
  result := (s.sweep pace wall ctx).1

theorem held_swept (s : Station k) :
    ∃ s', Held (Answers pace wall ctx) (Sweep.run pace.requeueAfter pace.pageSize
      (s.surroundings.shelf.store.size + 1) s.patience) s (s.swept pace wall ctx).log
      ((s.sweep pace wall ctx).2.patience, (s.swept pace wall ctx).result) s' :=
  ⟨_, .of_transcript id (answerSweep pace wall ctx) (fun _ _ => rfl) _ s⟩

/-- The sweeps that a station makes after pauses, up to the first one that fails. -/
def sweptAfter : (pauses : List Duration) → Station k → List (Sweep.Swept k)
  | [], _ => []
  | pause :: pauses, s =>
    let s := { s with now := Moment.add s.now pause }
    s.swept pace wall ctx ::
      match s.sweep pace wall ctx with
      | (.ok _, s) => sweptAfter pauses s
      | (.error _, _) => []

theorem sweeps_sweptAfter (pauses : List Duration) (s : Station k) :
    Sweep.Sweeps (Answers pace wall ctx) pace.requeueAfter s.patience
      (s.sweptAfter pace wall ctx pauses) := by
  induction pauses generalizing s with
  | nil => exact .nil
  | cons pause pauses ih =>
    obtain ⟨s', held⟩ := held_swept pace wall ctx { s with now := Moment.add s.now pause }
    refine .cons held ?_ ?_
    · intro late
      change ({ s with now := Moment.add s.now pause }.sweep pace wall ctx).1 = _ at late
      split
      · rename_i made
        rw [made] at late
        cases late
      · rfl
    · split
      · rename_i made
        rw [made]
        exact ih _
      · exact .nil

/-- A station with a new volume, where the next two writes to the store fail. -/
def unlucky : Station .volume where
  now := .ofSeconds 2
  surroundings := {
    shelf := {
      store := .afterAll .empty [.call .unbounded .zero default (.create Object.plainVolume)]
      faults := List.replicate 2 ⟨"replace", .fail (.unavailable "down")⟩
      log := [] }
    backend := .dummy (.ofConfig default) }
  metrics := none
  patience := .ofBackoff .standard

end Station

end Reconciler
