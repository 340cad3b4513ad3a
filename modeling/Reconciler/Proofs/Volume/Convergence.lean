import Reconciler.Proofs.Volume.Standing

/-!
Volumes come to be as they are wanted. As long as users only raise the size of a volume, what is
provisioned of it never exceeds what is wanted, and a volume that is to grow, or failed to, has
still some way to go. So no volume gets stuck: where nothing is left to do it is provisioned, and
two rounds in which every call succeeds are enough to get there.
-/

set_option autoImplicit false

namespace Reconciler

open MemoryStore (Bears Change Stands)

variable {π : Type}

namespace Gauge

/-- What is provisioned is of the wanted offer and not larger than wanted. -/
def Fits (g : Gauge) : Prop := g.size ≤ g.wantedSize ∧ g.offer = some g.wantedOffer

/-- What is provisioned is of the wanted offer and smaller than wanted. -/
def Short (g : Gauge) : Prop := g.size < g.wantedSize ∧ g.offer = some g.wantedOffer

end Gauge

namespace Object

/-- Users leave the offer of a volume and never lower its size. -/
def Raised : Fairness .volume := fun before after =>
  ∀ o o', before = some o → after = some o' →
    o.spec.sizeGb ≤ o'.spec.sizeGb ∧ o'.spec.offer = o.spec.offer

/-- The volume is active with the size and the offer that are wanted. -/
structure Provisioned (o : Object .volume) : Prop where
  active : o.lifecycle.state = some State.active.name
  size : o.gauge.size = o.spec.sizeGb
  offer : o.gauge.offer = some o.spec.offer

theorem Provisioned.fits {o : Object .volume} (provisioned : o.Provisioned) : o.gauge.Fits :=
  ⟨provisioned.size.le, provisioned.offer⟩

end Object

namespace Volume

theorem steady_raised : Steady Object.Raised Gauge.Fits Gauge.Short where
  adopted := fun _ => ⟨Nat.le_refl _, rfl⟩
  grown := fun known => ⟨Nat.le_refl _, known.2⟩
  outgrown := fun known small => ⟨small, known.2⟩
  edited := by
    intro o o' raised size offer
    obtain ⟨larger, same⟩ := raised o o' rfl rfl
    have kept (known : o.gauge.offer = some o.gauge.wantedOffer) :
        o'.gauge.offer = some o'.gauge.wantedOffer := by
      rw [offer, known]
      exact congrArg some same.symm
    constructor
    · intro fits
      exact ⟨size ▸ fits.1.trans larger, kept fits.2⟩
    · intro short
      exact ⟨size ▸ short.1.trans_le larger, kept short.2⟩

theorem Traced.met {v : Volume} (traced : Traced Gauge.Fits Gauge.Short v) (rests : v.Rests) :
    v.rawState = some .active ∧ v.gauge.Met := by
  have failed {s : State} (raw : v.rawState = some .error) (before : v.previousState = some s) :
      v.failedIn s = true := by
    simp [Resource.failedIn, Resource.state_of_rawState raw, before]
  have standing := traced.standing
  generalize raw : v.rawState = state at standing
  cases standing with
  | fresh unmade => exact absurd (by unfold Resource.state; rw [raw]; rfl) rests.begun
  | creating unmade => exact absurd raw rests.made
  | active known =>
    have large := le_size_of_not_outgrown (rests.large (.inl raw))
    exact ⟨rfl, known.1.antisymm large, known.2⟩
  | updating known =>
    have large := le_size_of_not_outgrown (rests.large (.inr raw))
    exact absurd known.1 (Nat.not_lt.mpr large)
  | failedCreation before unmade =>
    cases rests.created.symm.trans (failed raw before)
  | failedGrowth before known =>
    have large := le_size_of_not_outgrown (rests.enlarged (failed raw before))
    exact absurd known.1 (Nat.not_lt.mpr large)
  | failedDeletion mark =>
    cases rests.unwanted.symm.trans (Resource.wantsDeletion_of_mark mark)

end Volume

theorem Round.provision {key : ObjectKey} {s : MemoryStore .volume}
    (bears : s.Bears key (Volume.Traced Gauge.Fits Gauge.Short)) {o : Object .volume}
    (found : s.objects.get? key = some o) (unmarked : o.metadata.deletionTimestamp = none)
    {first second : Round} (done : first.outcome = .ok ()) (done' : second.outcome = .ok ()) :
    ∃ o' v', (second.after key (first.after key s)).Stands key o' v' ∧ v'.Rests ∧
      o'.spec = o.spec ∧ o'.Provisioned := by
  obtain ⟨o₂, v₂, stands₂, rests, spec, tended₂, traced₂⟩ :=
    Round.settle rfl Volume.steady_raised.lasting bears found unmarked done done'
  obtain ⟨active, met⟩ := traced₂.met rests
  have provisioned : o₂.gauge.Met := tended₂.gauge ▸ met
  refine ⟨o₂, v₂, stands₂, rests, spec, ?_, provisioned.1, provisioned.2⟩
  rw [tended₂.state, active]
  rfl

namespace Scene

variable {set : Setting .volume π} {sc : Scene .volume π}

/-- From a volume without a status on, however users raise its size and reconciles succeed, fail or
interleave: when they leave it alone, two rounds in which every call succeeds provision what is
wanted, unless it is marked for deletion. From then on every reconcile that succeeds is done at
once, and none asks the provider or writes anything, whatever it meets. -/
theorem volume_converges (sparing : set.service.Sparing) (past : List (Request .volume))
    {w : World .volume π} (stored : w.store = MemoryStore.empty.afterAll past)
    {o : Object .volume} {v : Volume} (found : w.store.objects.get? set.key = some o)
    (formed : o.WellFormed v) (fresh : o.status = none)
    (run : FairRun set Object.Raised ⟨w, []⟩ sc) {o' : Object .volume}
    (here : sc.world.store.objects.get? set.key = some o')
    (unmarked : o'.metadata.deletionTimestamp = none) {first second : Round}
    (done : first.outcome = .ok ()) (done' : second.outcome = .ok ()) :
    ∃ o'', (second.after set.key (first.after set.key sc.world.store)).objects.get? set.key =
        some o'' ∧
      o''.spec = o'.spec ∧ o''.Provisioned ∧
      (∀ round : Round,
        round.run set.key (second.after set.key (first.after set.key sc.world.store)) =
          (.ok (.done, .done), (second.after set.key (first.after set.key sc.world.store), []))) ∧
      (second.after set.key (first.after set.key sc.world.store)).Quiet set.service set.key := by
  obtain ⟨-, bears⟩ := FairRun.bears_of_fresh Volume.steady_raised.lasting sparing past stored found
    formed fresh (.of_unobserved (formed.unobserved fresh)) run
  obtain ⟨o₂, v₂, stands, rests, spec, provisioned⟩ :=
    Round.provision bears here unmarked done done'
  exact ⟨o₂, stands.found, spec, provisioned, fun round => round.run_of_rests stands rests,
    stands.quiet rests⟩

def plainBegun : World .volume Dummy :=
  World.plain.reconciled .unbounded default .zero ⟨some "a", "v"⟩

def plainCreating : Object .volume :=
  (plainBegun.store.objects.get? ⟨some "a", "v"⟩).getD .plainVolume

def plainRaised : World .volume Dummy :=
  { plainBegun with
    store := plainBegun.store.after (.call .unbounded .zero default
      (.replace { plainCreating with spec := ⟨20, "offers/small", none⟩ })) }

/-- A volume that is raised while it is being created is provisioned with its new size. -/
theorem raised_volume_provisioned :
    ∃ sc, FairRun ⟨⟨some "a", "v"⟩, Dummy.service .volume, false⟩ Object.Raised ⟨.plain, []⟩ sc ∧
      ∃ o, (Round.calm.after ⟨some "a", "v"⟩
          (Round.calm.after ⟨some "a", "v"⟩ sc.world.store)).objects.get? ⟨some "a", "v"⟩ = some o ∧
        o.spec.sizeGb = 20 ∧ o.Provisioned := by
  have creating : plainBegun.store.objects.get? ⟨some "a", "v"⟩ = some plainCreating := by rfl
  have raised : plainRaised.store.objects.get? ⟨some "a", "v"⟩ =
      some (({ plainCreating with spec := ⟨20, "offers/small", none⟩ } : Object .volume).restamp
        (some "3") (some default) none) := by rfl
  obtain ⟨u, -, run⟩ := Visit.run_of_reconciled World.plain ⟨some "a", "v"⟩ .unbounded default .zero
  have reconciled : FairRun ⟨⟨some "a", "v"⟩, Dummy.service .volume, false⟩ Object.Raised
      ⟨.plain, []⟩ ⟨plainBegun, [u]⟩ :=
    .head (.begun .unbounded .zero default (.inr (List.forall_mem_nil _)))
      (reflTransGen_of_visit .advanced run)
  have edited : FairRun ⟨⟨some "a", "v"⟩, Dummy.service .volume, false⟩ Object.Raised
      ⟨.plain, []⟩ ⟨plainRaised, [u]⟩ := by
    refine reconciled.tail (.used (.respec .unbounded .zero default creating _) ?_)
    intro o o' before after
    obtain rfl := Option.some.inj (creating.symm.trans before)
    obtain rfl := Option.some.inj (raised.symm.trans after)
    exact ⟨by decide, rfl⟩
  obtain ⟨v, formed⟩ := World.plain_formed
  have calm : Round.calm.outcome = .ok () := rfl
  obtain ⟨o, found, spec, provisioned, -⟩ := volume_converges (Dummy.service_sparing .volume) _ rfl
    World.plain_found formed rfl edited raised rfl calm calm
  exact ⟨_, edited, o, found, congrArg VolumeSpec.sizeGb spec, provisioned⟩

end Scene

end Reconciler
