import Reconciler.Proofs.Controller.Tended
import Reconciler.Proofs.Handler.Turn
import Reconciler.Proofs.Volume.Facts

/-!
Size and offer of a volume, provisioned and wanted. A `Gauge` is read off a stored object and
off its resource alike; turns move it forward, and nothing else but an edit moves it.
-/

set_option autoImplicit false

namespace Reconciler

/-- Size and offer on record, 0 and none without a status, and those that are wanted. -/
structure Gauge where
  size : Nat
  offer : Option String
  wantedSize : Nat
  wantedOffer : String

namespace Gauge

def Unmade (g : Gauge) : Prop := g.size = 0 ∧ g.offer = none

def Offered (g : Gauge) : Prop := g.offer.isSome

/-- What is provisioned is what is wanted. -/
def Met (g : Gauge) : Prop := g.size = g.wantedSize ∧ g.offer = some g.wantedOffer

/-- What is provisioned was only added to. -/
def Onward (g g' : Gauge) : Prop :=
  g.size ≤ g'.size ∧ ∀ offer, g.offer = some offer → g'.offer = some offer

def adopted (g : Gauge) : Gauge :=
  { g with size := g.wantedSize, offer := some g.wantedOffer }

def grown (g : Gauge) : Gauge := { g with size := g.wantedSize }

theorem Onward.refl (g : Gauge) : g.Onward g := ⟨Nat.le_refl _, fun _ same => same⟩

theorem Onward.trans {g g' g'' : Gauge} (first : g.Onward g') (second : g'.Onward g'') :
    g.Onward g'' :=
  ⟨first.1.trans second.1, fun offer told => second.2 offer (first.2 offer told)⟩

theorem Unmade.onward {g : Gauge} (unmade : g.Unmade) (g' : Gauge) : g.Onward g' := by
  obtain ⟨size, offer⟩ := unmade
  refine ⟨size ▸ Nat.zero_le _, fun told some => ?_⟩
  cases offer.symm.trans some

theorem onward_grown {g : Gauge} (small : g.size < g.wantedSize) : g.Onward g.grown :=
  ⟨small.le, fun _ same => same⟩

end Gauge

namespace Volume

def gauge (v : Volume) : Gauge :=
  { size := observedSize v
    offer := (observedOffer v).map (·.resource)
    wantedSize := v.spec.sizeGb
    wantedOffer := v.spec.offer.resource }

theorem gauge_enter (v : Volume) (s : State) (now : Instant) :
    gauge (v.enter s now) = gauge v := by
  have size := observedSize_mapLifecycle (·.enter s now) v
  have offer := observedOffer_mapLifecycle (·.enter s now) v
  simp only [gauge, Resource.enter, size, offer]
  rfl

theorem gauge_fail (v : Volume) (e : ProviderError) (now : Instant) :
    gauge (v.fail e now) = gauge v := by
  have size := observedSize_mapLifecycle (·.fail e now) v
  have offer := observedOffer_mapLifecycle (·.fail e now) v
  simp only [gauge, Resource.fail, size, offer]
  rfl

theorem gauge_adoptSpec (v : Volume) : gauge (adoptSpec v) = (gauge v).adopted := by
  simp only [gauge, observedSize_adoptSpec, observedOffer_adoptSpec]
  rfl

theorem gauge_copySize (v : Volume) : gauge (copySize v) = (gauge v).grown := by
  simp only [gauge, observedSize_copySize, observedOffer_copySize]
  rfl

theorem gauge_stored (v : Volume) : gauge (Resource.stored v) = gauge v := by
  simp only [gauge, observedSize_stored, observedOffer_stored, Option.map_map]
  rfl

theorem size_lt_of_outgrown {v : Volume} (small : v.outgrown = true) :
    (gauge v).size < (gauge v).wantedSize := of_decide_eq_true small

theorem le_size_of_not_outgrown {v : Volume} (large : v.outgrown = false) :
    (gauge v).wantedSize ≤ (gauge v).size := Nat.le_of_not_lt (of_decide_eq_false large)

end Volume

namespace Object

def gauge (o : Object .volume) : Gauge :=
  { size := (o.status.map (·.facts.sizeGb)).getD 0
    offer := o.status.bind (·.facts.offer)
    wantedSize := o.spec.sizeGb
    wantedOffer := o.spec.offer }

theorem facts_of_readOptionalStatus {k : Kind} {status : Option (Status k String String)}
    {status' : Option (Status k State Reference)}
    (read : Mapping.readOptionalStatus status = .ok status') :
    status'.map (·.facts) = status.map fun s => k.mapFacts Reference.plain s.facts := by
  cases status with
  | none =>
    rw [← Except.ok.inj read]
    rfl
  | some s =>
    simp only [Mapping.readOptionalStatus, Mapping.readStatus] at read
    cases lifecycle : s.lifecycle.mapStates Mapping.readState with
    | error fault =>
      rw [lifecycle] at read
      cases read
    | ok l =>
      rw [lifecycle] at read
      rw [← Except.ok.inj read]
      rfl

theorem WellFormed.facts {o : Object .volume} {v : Volume} (formed : o.WellFormed v) :
    Volume.observedSize v = o.gauge.size ∧
      Volume.observedOffer v = o.gauge.offer.map Reference.plain := by
  have facts := facts_of_readOptionalStatus (toResource_eq_ok.mp formed.read).2.1
  unfold Object.gauge Volume.observedSize Volume.observedOffer
  cases told : v.status with
  | none =>
    rw [told] at facts
    rw [Option.map_eq_none_iff.mp facts.symm]
    exact ⟨rfl, rfl⟩
  | some s' =>
    rw [told] at facts
    obtain ⟨s, status, same⟩ := Option.map_eq_some_iff.mp facts.symm
    rw [status]
    exact ⟨(congrArg VolumeFacts.sizeGb same).symm, (congrArg VolumeFacts.offer same).symm⟩

theorem WellFormed.gauge {o : Object .volume} {v : Volume} (formed : o.WellFormed v) :
    Volume.gauge v = o.gauge := by
  obtain ⟨size, offer⟩ := formed.facts
  unfold Volume.gauge
  rw [size, offer, ← (toResource_eq_ok.mp formed.read).2.2, Option.map_map]
  have named : o.gauge.offer.map ((·.resource) ∘ Reference.plain) = o.gauge.offer :=
    congrFun Option.map_id o.gauge.offer
  rw [named]
  rfl

end Object

end Reconciler
