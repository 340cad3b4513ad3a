import Reconciler.Proofs.Controller.Scene
import Reconciler.Proofs.SortedMap
import Reconciler.Provider.Dummy

/-!
The dummy provider at the service of reconciles. A call that it ends was made, and a call
that is cut short was made or was not; the sizes of its volumes are those it was told last.
-/

set_option autoImplicit false

namespace Reconciler

variable {k : Kind}

namespace Dummy

variable {d d' : Dummy} {id : String} {sizeGb : Nat}

theorem volumeSize?_of_createVolume (made : d.createVolume id sizeGb = (.ok (), d')) :
    d'.volumeSize? id = some sizeGb := by
  unfold createVolume at made
  split at made
  · cases made
    exact SortedMap.get?_insert_self _ _ _
  · cases made

theorem volumeSize?_of_growVolume (grown : d.growVolume id sizeGb = (.ok (), d')) :
    d'.volumeSize? id = some sizeGb := by
  unfold growVolume at grown
  split at grown
  · cases grown
  split at grown
  · cases grown
  split at grown
  · cases grown
  · cases grown
    exact SortedMap.get?_insert_self _ _ _

theorem volumeSize?_of_deleteVolume (gone : d.deleteVolume id = (.ok (), d')) :
    d'.volumeSize? id = none := by
  unfold deleteVolume at gone
  split at gone
  · split at gone
    · cases gone
      exact SortedMap.get?_erase_self _ _
    · cases gone
  · rename_i absent
    cases gone
    simpa [hasVolume, volumeSize?, SortedMap.contains] using absent

def service (k : Kind) : Service k Dummy where
  serves op r d r' outcome d' := r' = r ∧ d.perform op r = (outcome, d')
  leaves op r d d' := d' = d ∨ d' = (d.perform op r).2

theorem service_sparing (k : Kind) : (service k).Sparing := fun served => served.1

theorem service_faithful (k : Kind) : (service k).Faithful :=
  Service.Sparing.faithful (service_sparing k)

end Dummy

namespace World

variable (ctx : Context) (wall : Instant)

/-- A volume was just made, and nothing is provisioned. -/
def plain : World .volume Dummy :=
  { store := .afterAll .empty [.call .unbounded .zero default (.create .plainVolume)]
    provider := .ofConfig default
    clock := .zero }

def plainMade : Object .volume := Object.plainVolume.restamp (some "1") (some default) none

theorem plain_found : plain.store.objects.get? ⟨some "a", "v"⟩ = some plainMade := by rfl

theorem plain_formed : ∃ v, plainMade.WellFormed v := by
  refine ⟨_, rfl, rfl, ?_⟩
  intro t told
  cases told

/-- Answers a question while time stands still. -/
def prompt : (q : Query k) → World k Dummy → q.Answer × World k Dummy
  | .check, w => (ctx.check w.clock, w)
  | .call op r, w =>
    match ctx.check w.clock with
    | .error i => ((r, .error i), w)
    | .ok () =>
      let (outcome, provider) := w.provider.perform op r
      ((r, .ok outcome), { w with provider })
  | .read c, w | .commit c, w =>
    let (answer, store) := w.store.performUnder ctx w.clock wall c
    (answer, { w with store })

theorem prompt_answers (w : World k Dummy) (q : Query k) :
    ∃ happenings, w.Answers (Dummy.service k) ctx q (w.prompt ctx wall q).1 happenings
      (w.prompt ctx wall q).2 := by
  have here : w.clock.nanos ≤ w.clock.nanos := Nat.le_refl _
  cases q with
  | check => exact ⟨[], .checked w.clock here⟩
  | call op r =>
    cases alive : ctx.check w.clock with
    | error i =>
      refine ⟨[], ?_⟩
      simp only [prompt, alive]
      exact .refused w.clock i r here alive
    | ok _ =>
      refine ⟨[.called op r (some (r, (w.provider.perform op r).1))], ?_⟩
      simp only [prompt, alive]
      exact .completed w.clock w.clock r _ _ here here alive ⟨rfl, rfl⟩
  | read c => exact ⟨_, .read (.performed w.clock wall here)⟩
  | commit c => exact ⟨_, .commit (.performed w.clock wall here)⟩

def reconciled (requeueAfter : Duration) (key : ObjectKey) (w : World k Dummy) : World k Dummy :=
  ((Controller.reconcile requeueAfter wall key).run (prompt ctx wall) w).2

end World

theorem Visit.run_of_reconciled (w : World k Dummy) (key : ObjectKey) (ctx : Context)
    (wall : Instant) (requeueAfter : Duration) :
    ∃ v : Visit k, v.Over ∧ Run (Dummy.service k) (w, .start ctx requeueAfter wall key)
      (w.reconciled ctx wall requeueAfter key, v) := by
  obtain ⟨log, run⟩ := run_of_dialogue id (World.prompt ctx wall)
    (fun w q => World.prompt_answers ctx wall w q)
    (Controller.reconcile requeueAfter wall key) w []
  exact ⟨_, ⟨_, rfl⟩, run⟩

theorem Scene.run_of_reconciled {w : World k Dummy} {visits : List (Visit k)}
    (idle : ∀ v ∈ visits, v.Over) (key : ObjectKey) (overlapping : Bool) (ctx : Context)
    (wall : Instant) (requeueAfter : Duration) :
    ∃ v : Visit k, (∀ u ∈ visits ++ [v], u.Over) ∧
      Run ⟨key, Dummy.service k, overlapping⟩ ⟨w, visits⟩
        ⟨w.reconciled ctx wall requeueAfter key, visits ++ [v]⟩ := by
  obtain ⟨v, ended, run⟩ := Visit.run_of_reconciled w key ctx wall requeueAfter
  refine ⟨v, ?_, .head (.begun ctx requeueAfter wall (.inr idle))
    (reflTransGen_of_visit .advanced run)⟩
  intro u listed
  rcases List.mem_append.mp listed with listed | last
  · exact idle u listed
  · rw [List.mem_singleton.mp last]
    exact ended

end Reconciler
