import Reconciler.Proofs.Volume.Convergence
import Reconciler.Proofs.Volume.Forward

/-!
The rules of admission and the rules that drive a volume draw the same line. An edit of an active
volume is admitted if what is provisioned still fits, and then two rounds carry it out. An edit
that is not admitted wants what no turn ever comes back to: a smaller size, or another offer.
-/

set_option autoImplicit false

namespace Reconciler

open MemoryStore (Bears Change Stands)

variable {π : Type}

theorem Handler.admission_eq_ok {k : Kind} {C W : Type} {h : Handler k C W} {r : Resource k} :
    h.admission r = .ok () ↔ ∀ objection ∈ h.objections, objection r = none := by
  rw [← List.filterMap_eq_nil_iff]
  unfold admission violations
  split
  · rename_i admitted
    exact ⟨fun _ => admitted, fun _ => rfl⟩
  · rename_i objected
    exact ⟨nofun, fun admitted => absurd admitted objected⟩

/-- More is provisioned than is wanted, or of another offer than the one that is wanted. -/
def Gauge.Amiss (g : Gauge) : Prop :=
  g.wantedSize < g.size ∨ ∃ offer, g.offer = some offer ∧ offer ≠ g.wantedOffer

theorem Gauge.fits_or_amiss {g : Gauge} (offered : g.Offered) : g.Fits ∨ g.Amiss := by
  obtain ⟨offer, told⟩ := Option.isSome_iff_exists.mp offered
  by_cases same : offer = g.wantedOffer
  · rcases Nat.lt_or_ge g.wantedSize g.size with large | fits
    · exact .inr (.inl large)
    · exact .inl ⟨fits, told.trans (congrArg some same)⟩
  · exact .inr (.inr ⟨offer, told, same⟩)

theorem Gauge.Amiss.not_fits {g : Gauge} (amiss : g.Amiss) : ¬ g.Fits := by
  rintro ⟨fits, offered⟩
  rcases amiss with large | ⟨offer, told, other⟩
  · exact Nat.not_lt.mpr fits large
  · exact other (Option.some.inj (told.symm.trans offered))

theorem Gauge.Amiss.onward {g g' : Gauge} (amiss : g.Amiss) (onward : g.Onward g')
    (size : g'.wantedSize = g.wantedSize) (offer : g'.wantedOffer = g.wantedOffer) :
    g'.Amiss := by
  rcases amiss with large | ⟨told, some, other⟩
  · exact .inl (size ▸ large.trans_le onward.1)
  · exact .inr ⟨told, onward.2 told some, offer ▸ other⟩

namespace Volume

theorem shrinkObjection_eq_none {v : Volume} (active : v.rawState = some .active) :
    shrinkObjection v = none ↔ v.gauge.size ≤ v.gauge.wantedSize := by
  have made : v.state ≠ .creating := by
    rw [Resource.state_of_rawState active]
    decide
  unfold shrinkObjection
  split
  · rename_i small
    exact ⟨nofun, fun fits => absurd small.2 (Nat.not_lt.mpr fits)⟩
  · rename_i fits
    exact ⟨fun _ => Nat.le_of_not_lt fun small => fits ⟨made, small⟩, fun _ => rfl⟩

theorem offerObjection_eq_none {o : Object .volume} {v : Volume} (formed : o.WellFormed v)
    (active : v.rawState = some .active) (offered : v.gauge.Offered) :
    offerObjection v = none ↔ v.gauge.offer = some v.gauge.wantedOffer := by
  have made : v.state ≠ .creating := by
    rw [Resource.state_of_rawState active]
    decide
  rw [formed.gauge] at offered ⊢
  obtain ⟨offer, told⟩ := Option.isSome_iff_exists.mp offered
  -- Offers of a stored object are mentioned by their text alone.
  have mentioned : observedOffer v = some (.plain offer) := by
    rw [formed.facts.2, told]
    rfl
  have wanted : v.spec.offer = .plain o.spec.offer :=
    congrArg VolumeSpec.offer (Object.toResource_eq_ok.mp formed.read).2.2.symm
  unfold offerObjection
  rw [mentioned, told, wanted]
  by_cases same : offer = o.spec.offer
  · rw [same]
    simp only [ne_eq, not_true_eq_false, false_and, if_false, true_iff]
    rfl
  · have other : Reference.plain offer ≠ .plain o.spec.offer :=
      fun equal => same (congrArg Reference.resource equal)
    simp only [ne_eq, other, not_false_eq_true, made, and_self, if_true, reduceCtorEq, false_iff]
    exact fun equal => same (Option.some.inj equal)

/-- An active volume is admitted if what is provisioned of it fits. -/
theorem admission_iff {o : Object .volume} {v : Volume} (formed : o.WellFormed v)
    (active : v.rawState = some .active) (offered : v.gauge.Offered) :
    handler.admission v = .ok () ↔ v.gauge.Fits := by
  rw [Handler.admission_eq_ok]
  unfold handler Gauge.Fits
  rw [List.forall_mem_cons, List.forall_mem_singleton, shrinkObjection_eq_none active,
    offerObjection_eq_none formed active offered]

/-- What is provisioned of the volume is on record, and amiss. -/
structure Misfit (v : Volume) : Prop where
  traced : Traced Gauge.Offered Gauge.Offered v
  amiss : v.gauge.Amiss

theorem lasting_misfit : Lasting (fun _ _ => False) Misfit where
  fresh := fun _ _ never => never.elim
  changed := fun _ _ _ never => never.elim
  turned := by
    intro v now outcome t version created deleted misfit turned written marked
    have steady := steady_offered fun _ _ => False
    refine ⟨steady.lasting.turned misfit.traced turned written marked, ?_⟩
    have left : (gauge t.left).Amiss := misfit.amiss.onward (misfit.traced.onward turned)
      (congrArg VolumeSpec.sizeGb turned.spec)
      (congrArg (fun spec => spec.offer.resource) turned.spec)
    exact (gauge_stored t.left).symm ▸ left

theorem not_provisioned {key : ObjectKey} {s : MemoryStore .volume} (bears : s.Bears key Misfit)
    {o : Object .volume} (found : s.objects.get? key = some o) : ¬ o.Provisioned := by
  obtain ⟨v, tended, misfit⟩ := bears.held found
  have amiss : o.gauge.Amiss := tended.gauge ▸ misfit.amiss
  exact fun provisioned => amiss.not_fits provisioned.fits

def wanting (v : Volume) (spec : VolumeSpec String) : Volume :=
  { v with spec := spec.map Reference.plain }

end Volume

/-- Two rounds in which every call succeeds do not provision a volume that is amiss. -/
theorem Round.miss {key : ObjectKey} {s : MemoryStore .volume} (bears : s.Bears key Volume.Misfit)
    {o : Object .volume} (found : s.objects.get? key = some o)
    (unmarked : o.metadata.deletionTimestamp = none) {first second : Round}
    (done : first.outcome = .ok ()) (done' : second.outcome = .ok ()) :
    ∃ o', (second.after key (first.after key s)).objects.get? key = some o' ∧ o'.spec = o.spec ∧
      ¬ o'.Provisioned := by
  obtain ⟨o₂, v₂, stands₂, -, spec, -⟩ :=
    Round.settle rfl Volume.lasting_misfit bears found unmarked done done'
  have bears₁ := Round.bears Volume.lasting_misfit bears first
  have bears₂ := Round.bears Volume.lasting_misfit bears₁ second
  exact ⟨o₂, stands₂.found, spec, Volume.not_provisioned bears₂ stands₂.found⟩

def Object.wanting (o : Object .volume) (sizeGb : Nat) (offer : String) : Object .volume :=
  { o with spec := ⟨sizeGb, offer, o.spec.image⟩ }

def Scene.replaced {k : Kind} (sc : Scene k π) (ctx : Context) (clock : Moment) (now : Instant)
    (o : Object k) : Scene k π :=
  { sc with world := { sc.world with
      store := sc.world.store.after (.call ctx clock now (.replace o)) } }

namespace Scene

variable {set : Setting .volume π} {sc : Scene .volume π}

/-- However an active volume that is not to be deleted came about, and whatever size and offer a
user goes on to want of it: the edit is admitted if and only if two rounds in which every call
succeeds provision the volume as wanted; and what is not admitted no number of reconciles
provisions, however they succeed or fail. -/
theorem admitted_iff_carried_out (sparing : set.service.Sparing) (past : List (Request .volume))
    {w : World .volume π} (stored : w.store = MemoryStore.empty.afterAll past)
    {o : Object .volume} {v : Volume} (found : w.store.objects.get? set.key = some o)
    (formed : o.WellFormed v) (fresh : o.status = none) (run : Run set ⟨w, []⟩ sc)
    {o' : Object .volume} (here : sc.world.store.objects.get? set.key = some o')
    (active : o'.lifecycle.state = some State.active.name)
    (unmarked : o'.metadata.deletionTimestamp = none) (sizeGb : Nat) (offer : String)
    {ctx : Context} {clock : Moment} (now : Instant) (live : ctx.check clock = .ok ()) :
    ∃ edited, (o'.wanting sizeGb offer).toResource = .ok edited ∧
      (∀ first second : Round, first.outcome = .ok () → second.outcome = .ok () →
        ∃ o'', (second.after set.key (first.after set.key
            (sc.replaced ctx clock now (o'.wanting sizeGb offer)).world.store)).objects.get?
              set.key = some o'' ∧
          o''.spec = (o'.wanting sizeGb offer).spec ∧
          (Volume.handler.admission edited = .ok () ↔ o''.Provisioned)) ∧
      (Volume.handler.admission edited ≠ .ok () →
        ∀ sc' o'', FairRun set (fun _ _ => False)
            (sc.replaced ctx clock now (o'.wanting sizeGb offer)) sc' →
          sc'.world.store.objects.get? set.key = some o'' → ¬ o''.Provisioned) := by
  obtain ⟨orderly, bears⟩ := FairRun.bears_of_fresh (Volume.steady_offered _).lasting sparing past
    stored found formed fresh (.of_unobserved (formed.unobserved fresh)) run.fairRun
  obtain ⟨v, tended, traced⟩ := bears.held here
  have raw : v.rawState = some .active := tended.rawState active
  -- The edited volume is named once, lest its fields be unfolded in every fact about it.
  obtain ⟨u, changed⟩ : ∃ u, u = Volume.wanting v ⟨sizeGb, offer, o'.spec.image⟩ := ⟨_, rfl⟩
  have edited : (o'.wanting sizeGb offer).WellFormed u :=
    changed ▸ tended.toWellFormed.respec ⟨sizeGb, offer, o'.spec.image⟩
  have recorded : u.lifecycle.Recorded := changed ▸ traced.recorded
  have raw' : u.rawState = some .active := changed ▸ raw
  have offered : u.gauge.Offered := changed ▸ traced.made_of_active raw
  have stands : sc.world.store.Stands set.key o' v := ⟨bears.sound, here, tended.toWellFormed⟩
  have replaced := stands.get?_respec now live ⟨sizeGb, offer, o'.spec.image⟩
  -- What the edited volume is known for is known of it as it is stored.
  have bears_of (I : Volume → Prop) (holds : ∀ version created deleted,
      deleted.isSome = u.isDeleted → I (Resource.restamp u version created deleted)) :
      (sc.replaced ctx clock now (o'.wanting sizeGb offer)).world.store.Bears set.key I := by
    subst changed
    exact bears.respec here tended now live _ holds
  have gate := Volume.admission_iff edited raw' offered
  refine ⟨u, edited.read, ?_⟩
  rcases Gauge.fits_or_amiss offered with fits | amiss
  · have bears' := bears_of (Volume.Traced Gauge.Fits Gauge.Short) fun version created deleted marked =>
      (Volume.Traced.of_active recorded raw' fits).restamp version created deleted marked.trans
    refine ⟨fun first second done done' => ?_, fun refused => absurd (gate.mpr fits) refused⟩
    obtain ⟨o₂, v₂, stands₂, -, spec, provisioned⟩ :=
      Round.provision bears' replaced unmarked done done'
    exact ⟨o₂, stands₂.found, spec, iff_of_true (gate.mpr fits) provisioned⟩
  · have bears' := bears_of Volume.Misfit fun version created deleted marked =>
      ⟨(Volume.Traced.of_active recorded raw' offered).restamp version created deleted
        marked.trans, amiss⟩
    have refused : Volume.handler.admission u ≠ .ok () :=
      fun admitted => amiss.not_fits (gate.mp admitted)
    constructor
    · intro first second done done'
      obtain ⟨o₂, found₂, spec, missed⟩ := Round.miss bears' replaced unmarked done done'
      exact ⟨o₂, found₂, spec, iff_of_false refused missed⟩
    · intro _ sc' o₂ reconciles found₂
      have orderly' : Orderly set (sc.replaced ctx clock now (o'.wanting sizeGb offer)) :=
        orderly.step (keeps_bound sparing) (.used (.respec ctx clock now here _))
      have bears₂ := MemoryStore.Change.bears_of_run Volume.lasting_misfit
        (reconciles.changes sparing orderly') bears'
      exact Volume.not_provisioned bears₂ found₂

/-- The plain volume is admitted when 20 GB are wanted of it instead of 10, and gets them. -/
theorem growth_admitted_and_carried_out :
    ∃ sc edited o, Run ⟨⟨some "a", "v"⟩, Dummy.service .volume, false⟩ ⟨.plain, []⟩ sc ∧
      sc.world.store.objects.get? ⟨some "a", "v"⟩ = some plainActive ∧
      (plainActive.wanting 20 "offers/small").toResource = .ok edited ∧
      Volume.handler.admission edited = .ok () ∧
      (Round.calm.after ⟨some "a", "v"⟩ (Round.calm.after ⟨some "a", "v"⟩
        (sc.replaced .unbounded .zero default
          (plainActive.wanting 20 "offers/small")).world.store)).objects.get? ⟨some "a", "v"⟩ =
        some o ∧ o.spec.sizeGb = 20 ∧ o.Provisioned := by
  obtain ⟨v, formed⟩ := World.plain_formed
  obtain ⟨u, idle, first⟩ := run_of_reconciled (w := World.plain) (List.forall_mem_nil _)
    ⟨some "a", "v"⟩ false .unbounded default .zero
  obtain ⟨u', -, second⟩ :=
    run_of_reconciled idle ⟨some "a", "v"⟩ false .unbounded default .zero
  have found : plainProvisioned.store.objects.get? ⟨some "a", "v"⟩ = some plainActive := by rfl
  have admitted : Controller.admission (plainActive.wanting 20 "offers/small") = .ok () := by rfl
  have calm : Round.calm.outcome = .ok () := rfl
  have live : Context.unbounded.check .zero = .ok () := rfl
  obtain ⟨edited, read, carried, -⟩ := admitted_iff_carried_out (Dummy.service_sparing .volume) _ rfl
    World.plain_found formed rfl (first.trans second) found rfl rfl 20 "offers/small" default live
  obtain ⟨o, stored, spec, gate⟩ := carried _ _ calm calm
  have accepted : Volume.handler.admission edited = .ok () := by
    rw [Controller.admission, read] at admitted
    exact admitted
  exact ⟨_, edited, o, first.trans second, found, read, accepted, stored,
    congrArg VolumeSpec.sizeGb spec, gate.mp accepted⟩

end Scene

end Reconciler
