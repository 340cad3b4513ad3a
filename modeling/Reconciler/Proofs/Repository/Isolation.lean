import Reconciler.Proofs.Repository.Task
import Reconciler.Proofs.Store.Listing

/-!
Tenants that share a store. The namespace of a workspace is written as one text, and a text can be
cut in more than one place: `Scope.Shadows` says of two tenants that one has a workspace whose
namespace is also one of the other. Tenants are isolated just if none of them shadows another one.
-/

set_option autoImplicit false

namespace Reconciler

open Repository (Job Saving Task)

variable {k : Kind}

namespace Scope

/-- The second tenant, or a workspace of it, has the namespace of a workspace of the first one. -/
def Shadows (t t' : String) : Prop := t' = t ++ "-" ∨ ∃ w, t' = t ++ "--" ++ w

/-- Where a text has a pair of hyphens after `d` and another one at its beginning. -/
theorem cut_hyphens {d w w' : List Char} (same : '-' :: '-' :: w = d ++ '-' :: '-' :: w') :
    d = [] ∧ w = w' ∨ d = ['-'] ∨ ∃ v, d = '-' :: '-' :: v := by
  match d with
  | [] =>
    simp only [List.nil_append, List.cons.injEq, true_and] at same
    exact .inl ⟨rfl, same⟩
  | [c] =>
    obtain ⟨rfl, -⟩ := List.cons.inj same
    exact .inr (.inl rfl)
  | c :: c' :: v =>
    obtain ⟨rfl, rest⟩ := List.cons.inj same
    obtain ⟨rfl, -⟩ := List.cons.inj rest
    exact .inr (.inr ⟨v, rfl⟩)

theorem shadows_of_append {t t' : String} {d : List Char} (longer : t'.toList = t.toList ++ d)
    (hyphens : d = ['-'] ∨ ∃ v, d = '-' :: '-' :: v) : Shadows t t' := by
  rcases hyphens with rfl | ⟨v, rfl⟩
  · refine .inl (String.toList_inj.mp ?_)
    rw [longer, String.toList_append]
    rfl
  · refine .inr ⟨String.ofList v, String.toList_inj.mp ?_⟩
    rw [longer, String.toList_append, String.toList_append, String.toList_ofList]
    simp

theorem eq_or_shadows {a b : Scope} (same : a.namespaceName = b.namespaceName) :
    a = b ∨ Shadows a.tenant b.tenant ∨ Shadows b.tenant a.tenant := by
  obtain ⟨t, w⟩ := a
  obtain ⟨t', w'⟩ := b
  cases w with
  | none =>
    cases w' with
    | none => exact .inl (congrArg (Scope.mk · none) same)
    | some w' => exact .inr (.inr (.inr ⟨w', same⟩))
  | some w =>
    cases w' with
    | none => exact .inr (.inl (.inr ⟨w, same.symm⟩))
    | some w' =>
      have texts : t.toList ++ '-' :: '-' :: w.toList = t'.toList ++ '-' :: '-' :: w'.toList := by
        have texts := congrArg String.toList same
        simp only [namespaceName, String.toList_append] at texts
        simpa using texts
      -- One tenant is the beginning of the other one, and what is left of that begins with hyphens.
      rcases List.append_eq_append_iff.mp texts with ⟨d, longer, rest⟩ | ⟨d, longer, rest⟩
      · rcases cut_hyphens rest with ⟨rfl, here⟩ | hyphens
        · obtain rfl : t' = t := String.toList_inj.mp (by simpa using longer)
          obtain rfl : w = w' := String.toList_inj.mp here
          exact .inl rfl
        · exact .inr (.inl (shadows_of_append longer hyphens))
      · rcases cut_hyphens rest with ⟨rfl, here⟩ | hyphens
        · obtain rfl : t = t' := String.toList_inj.mp (by simpa using longer)
          obtain rfl : w' = w := String.toList_inj.mp here
          exact .inl rfl
        · exact .inr (.inr (shadows_of_append longer hyphens))

/-- A shadowed tenant has a scope whose namespace belongs to the other tenant, too. -/
theorem Shadows.clash {t t' : String} (shadows : Shadows t t') : t ≠ t' ∧ t' ≠ "" ∧ ∃ w w',
    (⟨t, w⟩ : Scope).namespaceName = (⟨t', w'⟩ : Scope).namespaceName := by
  have longer (d : String) (long : d ≠ "") : t ≠ t ++ d := by
    intro same
    have lengths := congrArg String.length same
    rw [String.length_append] at lengths
    exact long (String.length_eq_zero_iff.mp (by omega))
  rcases shadows with rfl | ⟨w, rfl⟩
  · refine ⟨longer "-" (by decide), by simp, some "-", some "", ?_⟩
    simp only [namespaceName, String.append_assoc]
    rfl
  · refine ⟨?_, by simp, some w, none, rfl⟩
    rw [String.append_assoc]
    exact longer _ (by simp [String.append_eq_empty_iff])

end Scope

theorem Object.reference_of_read {r r' : Resource k} {version : Option String}
    {created deleted : Option Instant}
    (read : ((ofResource r).restamp version created deleted).toResource = .ok r') :
    r'.reference = r.reference := by
  obtain ⟨-, _, _, -, -, told⟩ := Mapping.readMetadata_eq_ok.mp (toResource_eq_ok.mp read).1
  have tenant : r'.metadata.tenant = r.metadata.tenant :=
    Option.some.inj ((label?_of_read read).symm.trans (Mapping.get?_writeLabels r.metadata _))
  have workspace : r'.metadata.workspace = r.metadata.workspace := by
    rw [told]
    exact Mapping.get?_writeLabels r.metadata _
  have name : r'.metadata.name = r.metadata.name := by
    rw [told]
    rfl
  simp only [Resource.reference, Metadata.reference, Metadata.scope, tenant, workspace, name]

namespace MemoryStore

variable {T : String → Prop} {s : MemoryStore k}

/-- Every object is that of a resource of these tenants, under the key of its reference. -/
def Housed (T : String → Prop) (s : MemoryStore k) : Prop :=
  ∀ key o, s.objects.get? key = some o → ∃ (r : Resource k) (version : Option String)
    (created deleted : Option Instant), T r.metadata.tenant ∧
      ObjectKey.ofReference r.reference = key ∧
      o = (Object.ofResource r).restamp version created deleted

theorem housed_empty : Housed T (empty : MemoryStore k) := by
  intro key o found
  simp [empty] at found

theorem Housed.fulfil (housed : Housed T s) {j : Job k}
    (own : ∀ {how r}, j.task = .save how r → T r.metadata.tenant) : Housed T (s.fulfil j).2 := by
  have left := s.left_of_fulfil j
  generalize (s.fulfil j).2 = s' at left ⊢
  generalize j.task = task at own left
  intro key o found
  cases left with
  | same => exact housed key o found
  | @kept how r named created deleted =>
    by_cases here : key = .ofReference r.reference
    · rw [here, get?_write_self] at found
      obtain rfl := Option.some.inj found
      exact ⟨r, _, created, deleted, own rfl, here.symm, rfl⟩
    · rw [get?_write_of_ne _ _ here] at found
      exact housed key o found
  | removed r => exact housed key o (get?_erase found).2

theorem Housed.afterJobs (housed : Housed T s) {js : List (Job k)}
    (own : ∀ j ∈ js, ∀ {how r}, j.task = .save how r → T r.metadata.tenant) :
    Housed T (s.afterJobs js) := by
  induction js generalizing s with
  | nil => exact housed
  | cons j js ih =>
    exact ih (housed.fulfil (own j List.mem_cons_self)) fun j' listed =>
      own j' (List.mem_cons_of_mem j listed)

/-- Whoever asks for an address or a scope of one of these tenants gets what is there and nothing
else. -/
structure Isolates (T : String → Prop) (s : MemoryStore k) : Prop where
  loads : ∀ {ctx clock now place r}, T place.scope.tenant →
    (s.fulfil ⟨ctx, clock, now, .load place⟩).1 = .ok r → r.reference = place
  lists : ∀ {ctx clock now query scope page}, query.scope = some scope → T scope.tenant →
    (s.fulfil ⟨ctx, clock, now, .list query⟩).1 = .ok page →
      ∀ r ∈ page.items, r.metadata.scope = scope

theorem Housed.isolates (housed : Housed T s)
    (apart : ∀ {t t'}, T t → T t' → ¬ Scope.Shadows t t') : s.Isolates T := by
  have distinct {a b : Scope} (first : T a.tenant) (second : T b.tenant)
      (same : a.namespaceName = b.namespaceName) : a = b := by
    rcases Scope.eq_or_shadows same with here | shadows | shadows
    · exact here
    · exact absurd shadows (apart first second)
    · exact absurd shadows (apart second first)
  constructor
  · intro ctx clock now place r own loaded
    obtain ⟨-, o, found, read⟩ := load_eq_ok.mp loaded
    obtain ⟨r', version, created, deleted, owned, home, rfl⟩ := housed _ _ found
    obtain ⟨spaces, names⟩ := ObjectKey.mk.inj home
    rw [Object.reference_of_read read]
    have scopes : r'.reference.scope = place.scope := distinct owned own (Option.some.inj spaces)
    calc r'.reference
      _ = ⟨r'.reference.scope, r'.reference.name⟩ := rfl
      _ = ⟨place.scope, place.name⟩ := by rw [scopes, names]
  · intro ctx clock now query scope page asked own listed r shown
    obtain ⟨key, o, found, ⟨wanted, -⟩, read⟩ := of_list_eq_ok listed shown
    obtain ⟨r', version, created, deleted, owned, rfl, rfl⟩ := housed _ _ found
    have space := wanted scope.namespaceName (by simp [ResourceQuery.toListQuery, asked])
    have scopes : r'.metadata.scope = scope := distinct owned own (Option.some.inj space)
    rw [← scopes]
    exact congrArg ResourceRef.scope (Object.reference_of_read read)

theorem load_after_create {r : Resource k} (named : r.metadata.name ≠ "")
    (readable : r.metadata.Readable) {place : ResourceRef}
    (here : ObjectKey.ofReference place = .ofReference r.reference) :
    ∃ r', (((empty : MemoryStore k).afterJobs
        [⟨.unbounded, .zero, default, .save .create r⟩]).fulfil
          ⟨.unbounded, .zero, default, .load place⟩).1 = .ok r' ∧
      r'.reference = r.reference := by
  have fits : (empty : MemoryStore k).Fits r .create := rfl
  obtain ⟨created, deleted, stored⟩ :=
    put_of_fits default (show Context.unbounded.check .zero = .ok () from rfl)
      named fits
  have read := Object.toResource_restamp (Object.toResource_of_readable named readable)
    (some (natText 1)) created deleted
  refine ⟨_, load_eq_ok.mpr ⟨rfl, _, ?_, read⟩, Object.reference_of_read read⟩
  rw [afterJobs_cons, afterJobs_nil, fulfil_save, stored, here]
  exact get?_write_self _ _ _

end MemoryStore

theorem Kind.exists_spec (k : Kind) : Nonempty (k.Spec Reference) := by
  cases k with
  | volume => exact ⟨⟨0, .plain "", none⟩⟩
  | workspace => exact ⟨⟨∅⟩⟩
  | storageOffer => exact ⟨⟨0, 0, ""⟩⟩
  | networkOffer => exact ⟨⟨0, 0⟩⟩

namespace Repository

/-- Tenants that share a store, empty at first, see nothing of one another, whatever is written and
deleted for them, if and only if none of them shadows another one. -/
theorem isolated_iff (k : Kind) (T : String → Prop) :
    (∀ js : List (Job k), (∀ j ∈ js, ∀ how r, j.task = .save how r → T r.metadata.tenant) →
      (MemoryStore.empty.afterJobs js).Isolates T) ↔
    ∀ t t', T t → T t' → ¬ Scope.Shadows t t' := by
  constructor
  · intro isolated t t' first second shadows
    -- The shadowed tenant writes under a key that the other one has an address of, too.
    obtain ⟨apart, owned, w, w', clash⟩ := shadows.clash
    obtain ⟨spec⟩ := k.exists_spec
    let r : Resource k :=
      { metadata := { Metadata.ofName "v" t' with workspace := w' }, spec, status := none }
    have here : ObjectKey.ofReference ⟨⟨t, w⟩, "v"⟩ = .ofReference r.reference :=
      congrArg (ObjectKey.inNamespace · "v") clash
    have named : r.metadata.name ≠ "" := by simp [r, Metadata.ofName]
    obtain ⟨r', loaded, home⟩ :=
      MemoryStore.load_after_create named (.of_unmodified owned rfl) here
    have place := (isolated [⟨.unbounded, .zero, default, .save .create r⟩] ?_).loads first loaded
    · exact apart (congrArg (·.scope.tenant) (place.symm.trans home))
    · intro j listed how r' task
      obtain rfl := List.mem_singleton.mp listed
      obtain ⟨-, rfl⟩ := Task.save.inj task
      exact second
  · intro apart js own
    have housed : (MemoryStore.empty.afterJobs js).Housed T :=
      MemoryStore.housed_empty.afterJobs fun j listed _ _ task => own j listed _ _ task
    exact housed.isolates fun first second => apart _ _ first second

/-- A volume in workspace `prod` of tenant `acme` is loaded and listed as one of a tenant named
`acme--prod`. -/
theorem workspace_taken_for_tenant :
    let v : Volume :=
      { metadata := { Metadata.ofName "v" "acme" with workspace := some "prod" }
        spec := ⟨10, .plain "skus/fast", none⟩
        status := none }
    let s := (MemoryStore.empty : MemoryStore .volume).afterJobs
      [⟨.unbounded, .zero, default, .save .create v⟩]
    let other : Scope := ⟨"acme--prod", none⟩
    (∃ r, (s.fulfil ⟨.unbounded, .zero, default, .load ⟨other, "v"⟩⟩).1 = .ok r ∧
      r.reference = v.reference ∧ r.reference ≠ ⟨other, "v"⟩) ∧
    ∃ page, (s.fulfil ⟨.unbounded, .zero, default,
        .list { ResourceQuery.everything with scope := some other }⟩).1 = .ok page ∧
      page.items.map (·.metadata.scope) = [⟨"acme", some "prod"⟩] := by
  intro v s other
  refine ⟨?_, ?_⟩
  · have here : ObjectKey.ofReference ⟨other, "v"⟩ = .ofReference v.reference := by decide
    obtain ⟨r, loaded, home⟩ :=
      MemoryStore.load_after_create (by decide) (.of_unmodified (by decide) rfl) here
    exact ⟨r, loaded, home, by rw [home]; decide⟩
  · exact ⟨_, rfl, rfl⟩

end Repository

end Reconciler
