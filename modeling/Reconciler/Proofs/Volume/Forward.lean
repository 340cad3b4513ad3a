import Reconciler.Proofs.Provider.Agreement
import Reconciler.Proofs.Volume.Standing

/-!
What is provisioned of a volume only moves forward, whatever users want in between. The store
enforces none of this: it is the rules that never take back a size or an offer, and the state
and the history that keep a volume from being created twice.
-/

set_option autoImplicit false

namespace Reconciler

open MemoryStore (Bears Change Stands)

variable {π : Type}

namespace MemoryStore

variable {key : ObjectKey} {fair : Fairness .volume} {made short : Gauge → Prop}
  {s s' : MemoryStore .volume} {o o' : Object .volume}

theorem Change.onward (change : s.Change key fair s') (bears : s.Bears key (Volume.Traced made short))
    (found : s.objects.get? key = some o) (found' : s'.objects.get? key = some o') :
    o.gauge.Onward o'.gauge := by
  cases change with
  | used deed allowed =>
    cases deed.left bears.sound with
    | same same =>
      obtain rfl := Option.some.inj (found.symm.trans (same ▸ found'))
      exact .refl _
    | gone gone => cases gone.symm.trans found'
    | made absent formed fresh version created made => cases absent.symm.trans found
    | changed was spec version created deleted marked left =>
      obtain rfl := Option.some.inj (found.symm.trans was)
      obtain rfl := Option.some.inj (found'.symm.trans left)
      exact ⟨Nat.le_refl _, fun _ same => same⟩
  | @turned o₀ v stands outcome now =>
    obtain rfl := Option.some.inj (found.symm.trans stands.found)
    have turned := v.turned outcome now
    rcases stands.of_saved turned.metadata found' with ⟨-, rfl⟩ | ⟨-, rfl, rewritten⟩
    · exact .refl _
    · have onward := (bears.of_stands stands).2.onward turned
      rw [stands.formed.gauge, ← Volume.gauge_stored] at onward
      exact rewritten.formed.gauge ▸ onward

end MemoryStore

theorem Volume.steady_offered (fair : Fairness .volume) :
    Steady fair Gauge.Offered Gauge.Offered where
  adopted := fun _ => rfl
  grown := fun known => known
  outgrown := fun known _ => known
  edited := by
    intro o o' _ _ offer
    have same : o.gauge.Offered → o'.gauge.Offered := by
      unfold Gauge.Offered
      rw [offer]
      exact id
    exact ⟨same, same⟩

namespace Scene

variable {set : Setting .volume π} {sc sc' : Scene .volume π}

def Stays (set : Setting .volume π) : Scene .volume π → Scene .volume π → Prop :=
  Relation.ReflTransGen fun sc sc' =>
    Step set sc sc' ∧ (sc'.world.store.objects.get? set.key).isSome

/-- While a volume is not removed, what is provisioned of it moves forward. -/
theorem Stays.onward (stays : Stays set sc sc') (sparing : set.service.Sparing)
    (orderly : Orderly set sc)
    (bears : sc.world.store.Bears set.key (Volume.Traced Gauge.Offered Gauge.Offered))
    {o : Object .volume} (found : sc.world.store.objects.get? set.key = some o) :
    Orderly set sc' ∧
      sc'.world.store.Bears set.key (Volume.Traced Gauge.Offered Gauge.Offered) ∧
      ∃ o', sc'.world.store.objects.get? set.key = some o' ∧ o.gauge.Onward o'.gauge := by
  induction stays with
  | refl => exact ⟨orderly, bears, o, found, .refl _⟩
  | tail _ moved ih =>
    obtain ⟨orderly₁, bears₁, o₁, found₁, onward₁⟩ := ih
    obtain ⟨step, there⟩ := moved
    obtain ⟨o₂, found₂⟩ := Option.isSome_iff_exists.mp there
    refine ⟨orderly₁.step (keeps_bound sparing) step, ?_⟩
    rcases step.fairStep.change orderly₁ with same | change
    · rw [same] at found₂ ⊢
      obtain rfl := Option.some.inj (found₁.symm.trans found₂)
      exact ⟨bears₁, o₁, found₁, onward₁⟩
    · exact ⟨change.bears (Volume.steady_offered _).lasting bears₁, o₂, found₂,
        onward₁.trans (change.onward bears₁ found₁ found₂)⟩

/-- From a volume without a status on, whatever users and the provider do: nothing is provisioned
as long as the volume has no state or is being created; until it is removed, its size never
decreases and its offer stays once it is there; and the provider is asked to grow a volume only
where more is wanted than it has. -/
theorem provisioned_moves_forward (sparing : set.service.Sparing)
    (past : List (Request .volume)) {w : World .volume π}
    (stored : w.store = MemoryStore.empty.afterAll past) {o : Object .volume} {v : Volume}
    (found : w.store.objects.get? set.key = some o) (formed : o.WellFormed v)
    (fresh : o.status = none) (run : Run set ⟨w, []⟩ sc) :
    (∀ o, sc.world.store.objects.get? set.key = some o →
      o.lifecycle.state = none ∨ o.lifecycle.state = some State.creating.name →
      o.gauge.size = 0 ∧ o.gauge.offer = none) ∧
    (∀ sc' o o', Stays set sc sc' → sc.world.store.objects.get? set.key = some o →
      sc'.world.store.objects.get? set.key = some o' →
      o.gauge.size ≤ o'.gauge.size ∧
        ∀ offer, o.gauge.offer = some offer → o'.gauge.offer = some offer) ∧
    ∀ visit ∈ sc.visits, ∀ v ended, .called .increaseSize v ended ∈ visit.log →
      Volume.observedSize v < v.spec.sizeGb := by
  obtain ⟨orderly, bears⟩ := FairRun.bears_of_fresh (Volume.steady_offered _).lasting sparing past
    stored found formed fresh (.of_unobserved (formed.unobserved fresh)) run.fairRun
  refine ⟨?_, ?_, ?_⟩
  · intro o found state
    obtain ⟨v, tended, traced⟩ := bears.held found
    have standing := traced.standing
    rw [← tended.gauge]
    rcases state with none | creating
    · rw [tended.rawState_eq_none none] at standing
      cases standing with
      | fresh unmade => exact unmade
    · exact traced.unmade_of_creating (tended.rawState creating)
  · intro sc' o o' stays found found'
    obtain ⟨-, -, o₁, found₁, onward⟩ := stays.onward sparing orderly bears found
    obtain rfl := Option.some.inj (found₁.symm.trans found')
    exact onward
  · intro visit begun v ended called
    obtain ⟨requeueAfter, wall, st, -, -, -, asked⟩ := orderly.visits visit begun
    cases asked called with
    | grow updating small => exact Volume.size_lt_of_outgrown small

def plainActive : Object .volume :=
  (plainProvisioned.store.objects.get? ⟨some "a", "v"⟩).getD .plainVolume

/-- A volume of 10 GB keeps them when 5 GB are wanted of it. -/
theorem shrinking_takes_nothing_back :
    ∃ sc sc' o o', Run ⟨⟨some "a", "v"⟩, Dummy.service .volume, false⟩ ⟨.plain, []⟩ sc ∧
      Stays ⟨⟨some "a", "v"⟩, Dummy.service .volume, false⟩ sc sc' ∧
      sc.world.store.objects.get? ⟨some "a", "v"⟩ = some o ∧ o.gauge.size = 10 ∧
      sc'.world.store.objects.get? ⟨some "a", "v"⟩ = some o' ∧ o'.spec.sizeGb = 5 ∧
      10 ≤ o'.gauge.size := by
  obtain ⟨v, formed⟩ := World.plain_formed
  obtain ⟨u, idle, first⟩ := run_of_reconciled (w := World.plain) (List.forall_mem_nil _)
    ⟨some "a", "v"⟩ false .unbounded default .zero
  obtain ⟨u', -, second⟩ :=
    run_of_reconciled idle ⟨some "a", "v"⟩ false .unbounded default .zero
  have found : plainProvisioned.store.objects.get? ⟨some "a", "v"⟩ = some plainActive := by rfl
  have deed := Deed.respec .unbounded .zero default found ⟨5, "offers/small", none⟩
  have told : ((plainProvisioned.store.after (.call .unbounded .zero default
      (.replace { plainActive with spec := ⟨5, "offers/small", none⟩ }))).objects.get?
        ⟨some "a", "v"⟩).map (·.spec.sizeGb) = some 5 := by rfl
  obtain ⟨o', found', size⟩ := Option.map_eq_some_iff.mp told
  have stays : Stays ⟨⟨some "a", "v"⟩, Dummy.service .volume, false⟩
      ⟨plainProvisioned, [u, u']⟩ ⟨{ plainProvisioned with store := _ }, [u, u']⟩ :=
    .single ⟨.used deed, Option.isSome_iff_exists.mpr ⟨o', found'⟩⟩
  refine ⟨_, _, plainActive, o', first.trans second, stays, found, rfl, found', size, ?_⟩
  exact ((provisioned_moves_forward (Dummy.service_sparing .volume) _ rfl World.plain_found formed
    rfl (first.trans second)).2.1 _ _ o' stays found found').1

end Scene

end Reconciler
