import Reconciler.Proofs.Cluster.Upkeep
import Reconciler.Proofs.Json.Patch

/-!
A status that is patched over another. A field that the new status leaves out is not in the patch
and keeps what the old one said.
-/

set_option autoImplicit false

namespace Reconciler

variable {k : Kind} {α : Type}

theorem or_eq_left_iff {a b : Option α} : a.or b = a ↔ (b.isSome → a.isSome) := by
  cases a <;> cases b <;> simp

namespace Kind

/-- Facts over others: what is left out stays. -/
def overFacts : (k : Kind) → k.Facts String → k.Facts String → k.Facts String
  | .volume, new, old => ⟨new.sizeGb, new.offer.or old.offer, new.attachedTo.or old.attachedTo⟩
  | .workspace, new, old => ⟨new.resourceCount.or old.resourceCount⟩
  | .storageOffer, new, _ => new
  | .networkOffer, new, _ => new

def CoversFacts : (k : Kind) → k.Facts String → k.Facts String → Prop
  | .volume, new, old => (old.offer.isSome → new.offer.isSome) ∧
      (old.attachedTo.isSome → new.attachedTo.isSome)
  | .workspace, new, old => old.resourceCount.isSome → new.resourceCount.isSome
  | .storageOffer, _, _ => True
  | .networkOffer, _, _ => True

theorem overFacts_eq_self_iff {new old : k.Facts String} :
    k.overFacts new old = new ↔ k.CoversFacts new old := by
  cases k with
  | volume =>
    obtain ⟨size, offer, attachedTo⟩ := new
    simp [overFacts, CoversFacts, or_eq_left_iff]
  | workspace =>
    obtain ⟨count⟩ := new
    simp [overFacts, CoversFacts, or_eq_left_iff]
  | storageOffer => exact nomatch new
  | networkOffer => exact nomatch new

end Kind

namespace Status

def laidOver (new old : Status k String String) : Status k String String :=
  ⟨⟨new.lifecycle.state.or old.lifecycle.state, new.lifecycle.conditions⟩,
    k.overFacts new.facts old.facts⟩

structure Covers (new old : Status k String String) : Prop where
  state : old.lifecycle.state.isSome → new.lifecycle.state.isSome
  facts : k.CoversFacts new.facts old.facts

theorem laidOver_eq_self_iff {new old : Status k String String} :
    new.laidOver old = new ↔ new.Covers old := by
  obtain ⟨⟨state, conditions⟩, facts⟩ := new
  simp only [laidOver, mk.injEq, Lifecycle.mk.injEq, and_true, or_eq_left_iff,
    Kind.overFacts_eq_self_iff]
  exact ⟨fun ⟨state, facts⟩ => ⟨state, facts⟩, fun ⟨state, facts⟩ => ⟨state, facts⟩⟩

end Status

namespace Object

/-- What is left of a status when another is written over it, or none. -/
def overStatus :
    Option (Status k String String) → Option (Status k String String) →
      Option (Status k String String)
  | none, old => old
  | some new, none => some new
  | some new, some old => some (new.laidOver old)

/-- The new status leaves out nothing that the old one tells. -/
def CoversStatus (new old : Option (Status k String String)) : Prop :=
  ∀ before, old = some before → ∃ after, new = some after ∧ after.Covers before

theorem overStatus_eq_self_iff {new old : Option (Status k String String)} :
    overStatus new old = new ↔ CoversStatus new old := by
  cases old with
  | none => cases new <;> simp [overStatus, CoversStatus]
  | some before =>
    cases new with
    | none => simp [overStatus, CoversStatus]
    | some after => simp [overStatus, CoversStatus, Status.laidOver_eq_self_iff]

theorem plain_lifecycleFields (l : Lifecycle String) : ∀ e ∈ lifecycleFields l, e.2.Plain := by
  unfold lifecycleFields
  refine List.forall_mem_append.mpr ⟨Json.plain_present Json.plain_text l.state, ?_⟩
  simp

theorem plain_factsFields (facts : k.Facts String) : ∀ e ∈ factsFields k facts, e.2.Plain := by
  cases k with
  | volume =>
    refine List.forall_mem_append.mpr ⟨List.forall_mem_append.mpr ⟨?_, ?_⟩, ?_⟩
    · simp
    · exact Json.plain_present Json.plain_text facts.offer
    · exact Json.plain_present Json.plain_text facts.attachedTo
  | workspace => exact Json.plain_present Json.plain_nat facts.resourceCount
  | storageOffer => exact nomatch facts
  | networkOffer => exact nomatch facts

section Merged

variable {t : List (String × Json)} {s s₀ s₂ : Status k String String}

def merged (t : List (String × Json)) (s : Status k String String) : Json :=
  .record (Json.mergeFields t (lifecycleFields s.lifecycle ++ factsFields k s.facts))

theorem field?_merged (tidy : (t.map Prod.fst).Nodup) (name : String) :
    (merged t s).field? name = (((Json.record (factsFields k s.facts)).field? name).or
      ((Json.record (lifecycleFields s.lifecycle)).field? name)).or
        ((Json.record t).field? name) := by
  unfold merged
  rw [Json.field?_mergeFields ?_ tidy, Json.field?_append]
  exact List.forall_mem_append.mpr ⟨plain_lifecycleFields _, plain_factsFields _⟩

theorem lifecycle_of_merged {l₀ l : Lifecycle String} (tidy : (t.map Prod.fst).Nodup)
    (shown : ∀ c ∈ s.lifecycle.conditions, c.since.Shown)
    (before : lifecycleOfFields (.record t) = some l₀)
    (after : lifecycleOfFields (merged t s) = some l) :
    l = ⟨s.lifecycle.state.or l₀.state, s.lifecycle.conditions⟩ := by
  unfold lifecycleOfFields at before after
  obtain ⟨state₀, stated₀, before⟩ := Option.bind_eq_some_iff.mp before
  obtain ⟨conditions₀, -, before⟩ := Option.bind_eq_some_iff.mp before
  obtain ⟨state, stated, after⟩ := Option.bind_eq_some_iff.mp after
  obtain ⟨conditions, listed, after⟩ := Option.bind_eq_some_iff.mp after
  cases before
  cases after
  have states : (merged t s).field? "state" =
      (s.lifecycle.state.map Json.text).or ((Json.record t).field? "state") := by
    rw [field?_merged tidy, field?_factsFields.1]
    simp [lifecycleFields]
  have history : (merged t s).field? "conditions" =
      some (.list (s.lifecycle.conditions.map conditionToJson)) := by
    rw [field?_merged tidy, field?_factsFields.2]
    simp [lifecycleFields]
  rw [Json.withDefault, history] at listed
  cases Json.eq_or_of_text states stated₀ stated
  cases Json.eq_of_asList_map conditionToJson
    (fun c listed _ => eq_of_condition (shown c listed)) listed
  rfl

theorem facts_of_merged {f₀ f : k.Facts String} (tidy : (t.map Prod.fst).Nodup)
    (before : factsOfFields k (.record t) = some f₀)
    (after : factsOfFields k (merged t s) = some f) : f = k.overFacts s.facts f₀ := by
  have unnamed : ∀ {name}, name ≠ "state" → name ≠ "conditions" →
      (merged t s).field? name =
        ((Json.record (factsFields k s.facts)).field? name).or ((Json.record t).field? name) := by
    intro name state conditions
    rw [field?_merged tidy]
    simp [lifecycleFields, state.symm, conditions.symm]
  cases k with
  | volume =>
    obtain ⟨size₀, -, before⟩ := Option.bind_eq_some_iff.mp before
    obtain ⟨offer₀, offered₀, before⟩ := Option.bind_eq_some_iff.mp before
    obtain ⟨attached₀, attaches₀, before⟩ := Option.bind_eq_some_iff.mp before
    obtain ⟨size, sized, after⟩ := Option.bind_eq_some_iff.mp after
    obtain ⟨offer, offered, after⟩ := Option.bind_eq_some_iff.mp after
    obtain ⟨attached, attaches, after⟩ := Option.bind_eq_some_iff.mp after
    cases before
    cases after
    have sizes : (merged t s).field? "sizeGB" = some (Json.nat s.facts.sizeGb) := by
      rw [unnamed (by decide) (by decide)]
      simp [factsFields, volumeFactsFields]
    have offers : (merged t s).field? "skuRef" =
        (s.facts.offer.map Json.text).or ((Json.record t).field? "skuRef") := by
      rw [unnamed (by decide) (by decide)]
      simp [factsFields, volumeFactsFields]
    have machines : (merged t s).field? "attachedTo" =
        (s.facts.attachedTo.map Json.text).or ((Json.record t).field? "attachedTo") := by
      rw [unnamed (by decide) (by decide)]
      simp [factsFields, volumeFactsFields]
    rw [Json.withDefault, sizes] at sized
    cases Json.eq_of_asNat sized
    cases Json.eq_or_of_text offers offered₀ offered
    cases Json.eq_or_of_text machines attaches₀ attaches
    rfl
  | workspace =>
    obtain ⟨count₀, counted₀, before⟩ := Option.bind_eq_some_iff.mp before
    obtain ⟨count, counted, after⟩ := Option.bind_eq_some_iff.mp after
    cases before
    cases after
    have counts : (merged t s).field? "resourceCount" =
        (s.facts.resourceCount.map Json.nat).or ((Json.record t).field? "resourceCount") := by
      rw [unnamed (by decide) (by decide)]
      simp [factsFields]
    cases Json.eq_or_of_nat counts counted₀ counted
    rfl
  | storageOffer => cases after
  | networkOffer => cases after

theorem status_of_merged (tidy : (t.map Prod.fst).Nodup)
    (shown : ∀ c ∈ s.lifecycle.conditions, c.since.Shown)
    (before : statusOfJson (.record t) = some s₀) (after : statusOfJson (merged t s) = some s₂) :
    s₂ = s.laidOver s₀ := by
  unfold statusOfJson at before after
  replace before := Json.bind_of_known before (rfl : _ = some (Json.record t))
  replace after := Json.bind_of_known after (rfl : _ = some (merged t s))
  obtain ⟨l₀, lives₀, before⟩ := Option.bind_eq_some_iff.mp before
  obtain ⟨f₀, facts₀, before⟩ := Option.bind_eq_some_iff.mp before
  obtain ⟨l, lives, after⟩ := Option.bind_eq_some_iff.mp after
  obtain ⟨f, facts, after⟩ := Option.bind_eq_some_iff.mp after
  cases before
  cases after
  cases lifecycle_of_merged tidy shown lives₀ lives
  cases facts_of_merged tidy facts₀ facts
  rfl

end Merged

theorem exists_blank (s : Status k String String) :
    ∃ s₀ : Status k String String, statusOfJson (.record []) = some s₀ ∧ s.Covers s₀ := by
  cases k with
  | volume => exact ⟨⟨⟨none, []⟩, ⟨0, none, none⟩⟩, rfl, by simp, by simp [Kind.CoversFacts]⟩
  | workspace => exact ⟨⟨⟨none, []⟩, ⟨none⟩⟩, rfl, by simp, by simp [Kind.CoversFacts]⟩
  | storageOffer => exact nomatch s.facts
  | networkOffer => exact nomatch s.facts

theorem readStatus_merged {kept : Option Json} {s : Status k String String}
    {before after : Option (Status k String String)} (tidy : ∀ j, kept = some j → j.Tidy)
    (shown : ∀ c ∈ s.lifecycle.conditions, c.since.Shown)
    (old : readStatus k kept = some before)
    (new : readStatus k (some (merged (kept.elim [] Json.fields) s)) = some after) :
    after = overStatus (some s) before := by
  rw [readStatus_some] at new
  obtain ⟨s₂, stated, rfl⟩ := Option.map_eq_some_iff.mp new
  have unsaid : merged [] s = merged (kept.elim [] Json.fields) s → before = none →
      some s₂ = overStatus (some s) before := by
    rintro same rfl
    rw [← same] at stated
    obtain ⟨s₀, blank, covers⟩ := exists_blank s
    rw [status_of_merged (t := []) List.nodup_nil shown blank stated, Status.laidOver_eq_self_iff.mpr covers]
    rfl
  cases kept with
  | none => exact unsaid rfl (Option.some.inj old).symm
  | some j =>
    rw [readStatus_some] at old
    cases j with
    | null => exact unsaid rfl (Option.some.inj old).symm
    | record t =>
      obtain ⟨s₀, told, rfl⟩ := Option.map_eq_some_iff.mp old
      exact congrArg some (status_of_merged (tidy _ rfl) shown told stated)
    | list items =>
      simp only [Json.asOption, statusOfJson, Json.asRecord, Json.asStruct, List.length_nil] at old
      rw [if_neg (by omega)] at old
      cases old
    | _ => cases old

end Object

namespace Cluster

theorem patchedStatus_statusPatch (version : Option String) (s : Status k String String)
    (kept : Option Json) :
    (statusPatch version (Object.statusToJson s)).patchedStatus kept =
      some (Object.merged (kept.elim [] Json.fields) s) := by
  cases kept <;> simp [statusPatch, versionGuard, Object.statusToJson, Object.merged,
    Json.patchedStatus, Json.merge, Json.mergeFields, Json.present, Json.fields, Json.setField,
    Json.lookup]

end Cluster

end Reconciler
