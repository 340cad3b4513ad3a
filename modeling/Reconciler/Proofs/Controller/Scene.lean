import Reconciler.Proofs.Controller.Tended
import Reconciler.Proofs.Controller.Visit
import Reconciler.Proofs.Store.Versions

/-!
Users and reconciles at one object. In a `Scene` any number of reconciles are under way, and
between any two answers to their questions a user may change, mark, remove or make the
object. What was read of it once is recognised by its version (`Seen`).
-/

set_option autoImplicit false

namespace Reconciler

open Controller (Stage)

variable {k : Kind} {π : Type}

/-- What users ask of a store about the object under a key. -/
inductive Deed (key : ObjectKey) (s : MemoryStore k) : Request k → Prop
  | make {o : Object k} {r : Resource k} (ctx : Context) (clock : Moment) (now : Instant)
      (formed : o.WellFormed r) (fresh : o.status = none) (home : ObjectKey.ofObject o = key) :
      Deed key s (.call ctx clock now (.create o))
  | respec {o : Object k} (ctx : Context) (clock : Moment) (now : Instant)
      (found : s.objects.get? key = some o) (spec : k.Spec String) :
      Deed key s (.call ctx clock now (.replace { o with spec := spec }))
  | mark (now : Instant) : Deed key s (.mark now key)
  | remove (ctx : Context) (clock : Moment) (now : Instant) (version : Option String) :
      Deed key s (.call ctx clock now (.delete key version))

/-- What goes on at an object: which provider there is, and whether a reconcile may begin
while another one is under way. -/
structure Setting (k : Kind) (π : Type) where
  key : ObjectKey
  service : Service k π
  overlapping : Bool

/-- A world with the reconciles that were begun in it, oldest first. -/
structure Scene (k : Kind) (π : Type) where
  world : World k π
  visits : List (Visit k)

namespace Scene

inductive Step (set : Setting k π) : Scene k π → Scene k π → Prop
  | used {sc : Scene k π} {q : Request k} (deed : Deed set.key sc.world.store q) :
      Step set sc { sc with world := { sc.world with store := sc.world.store.after q } }
  | begun {sc : Scene k π} (ctx : Context) (requeueAfter : Duration) (wall : Instant)
      (free : set.overlapping = true ∨ ∀ v ∈ sc.visits, v.Over) :
      Step set sc
        { sc with visits := sc.visits ++ [.start ctx requeueAfter wall set.key] }
  | advanced {w w' : World k π} {v v' : Visit k} {before after : List (Visit k)}
      (step : Visit.Step set.service (w, v) (w', v')) :
      Step set ⟨w, before ++ v :: after⟩ ⟨w', before ++ v' :: after⟩

abbrev Run (set : Setting k π) : Scene k π → Scene k π → Prop :=
  Relation.ReflTransGen (Step set)

/-- What holds of the world and of every reconcile, by the stage it stands at. -/
structure Holds (set : Setting k π) (W : World k π → Prop)
    (P : World k π → List (Happening k) → Stage k → Prop) (sc : Scene k π) : Prop where
  world : W sc.world
  visits : ∀ v ∈ sc.visits, ∃ requeueAfter wall st,
    v.work = Stage.work requeueAfter wall set.key st ∧ P sc.world v.log st
  alone : set.overlapping = false → sc.visits.Pairwise fun v _ => v.Over

/-- What is to be shown for `Holds` to be kept: users keep it, and so does every answer to
the question of a stage, for the reconcile itself and for those beside it. -/
structure Keeps (set : Setting k π) (W : World k π → Prop)
    (P : World k π → List (Happening k) → Stage k → Prop) : Prop where
  start : ∀ {w}, W w → P w [] .reading
  used : ∀ {w : World k π} {q}, W w → Deed set.key w.store q →
    W { w with store := w.store.after q } ∧
      ∀ {log st}, P w log st → P { w with store := w.store.after q } log st
  step : ∀ {w w' ctx requeueAfter wall log happenings st} {q : Query k}
    {next : q.Answer → Stage k} {answer : q.Answer}, W w → P w log st →
      Stage.Asks requeueAfter wall set.key st q next →
      w.Answers set.service ctx q answer happenings w' →
        W w' ∧ P w' (log ++ happenings) (next answer) ∧
          ∀ {log' st'}, (set.overlapping = true ∨ ∃ result, st' = .finished result) →
            P w log' st' → P w' log' st'

section Keeps

variable {set : Setting k π} {W : World k π → Prop}
  {P : World k π → List (Happening k) → Stage k → Prop} {sc sc' : Scene k π}

theorem Holds.start {w : World k π} (world : W w) : Holds set W P ⟨w, []⟩ where
  world := world
  visits := by
    intro v listed
    cases listed
  alone := by
    intro single
    exact .nil

theorem Holds.step (keeps : Keeps set W P) (holds : Holds set W P sc) (step : Step set sc sc') :
    Holds set W P sc' := by
  obtain ⟨world, visits, alone⟩ := holds
  cases step with
  | used deed =>
    obtain ⟨world', others⟩ := keeps.used world deed
    refine ⟨world', fun v listed => ?_, alone⟩
    obtain ⟨requeueAfter, wall, st, stands, pursuit⟩ := visits v listed
    exact ⟨requeueAfter, wall, st, stands, others pursuit⟩
  | begun ctx requeueAfter wall free =>
    refine ⟨world, fun v listed => ?_, fun single => ?_⟩
    · rcases List.mem_append.mp listed with listed | last
      · exact visits v listed
      · rw [List.mem_singleton.mp last]
        exact ⟨requeueAfter, wall, .reading, rfl, keeps.start world⟩
    · have finished : ∀ v ∈ sc.visits, v.Over := free.resolve_left (by simp [single])
      exact List.pairwise_append.mpr
        ⟨alone single, List.pairwise_singleton _ _, fun v listed _ _ => finished v listed⟩
  | @advanced w w' v v' before after step =>
    have here : v ∈ before ++ v :: after := by simp
    obtain ⟨requeueAfter, wall, st, stands, pursuit⟩ := visits v here
    obtain ⟨q, next, answer, happenings, asks, answers, rfl⟩ := step.of_stage stands
    obtain ⟨world', pursuit', others⟩ := keeps.step world pursuit asks answers
    -- A single reconcile at work is the last one, and those before it are over.
    have apart : set.overlapping = false →
        before.Pairwise (fun v _ => v.Over) ∧ (∀ u ∈ before, u.Over) ∧ after = [] := by
      intro single
      obtain ⟨earlier, rest, across⟩ := List.pairwise_append.mp (alone single)
      refine ⟨earlier, fun u listed => across u listed v (by simp), ?_⟩
      refine List.eq_nil_iff_forall_not_mem.mpr fun u listed => ?_
      exact ((List.pairwise_cons.mp rest).1 u listed).no_step step
    have beside : ∀ u ∈ before ++ after, ∃ requeueAfter wall st,
        u.work = Stage.work requeueAfter wall set.key st ∧ P w' u.log st := by
      intro u listed
      have there : u ∈ before ++ v :: after :=
        (List.sublist_append_right [v] after).append_left before |>.subset listed
      obtain ⟨requeueAfter', wall', st', stands', pursuit''⟩ := visits u there
      refine ⟨requeueAfter', wall', st', stands', others ?_ pursuit''⟩
      cases single : set.overlapping with
      | true => exact .inl rfl
      | false =>
        obtain ⟨-, ended, none⟩ := apart single
        rw [none, List.append_nil] at listed
        obtain ⟨result, finished⟩ := ended u listed
        exact .inr ⟨result, Stage.finished_of_work (stands'.symm.trans finished)⟩
    refine ⟨world', fun u listed => ?_, fun single => ?_⟩
    · rcases List.mem_append.mp listed with listed | listed
      · exact beside u (List.mem_append_left _ listed)
      rcases List.mem_cons.mp listed with rfl | listed
      · exact ⟨requeueAfter, wall, _, rfl, pursuit'⟩
      · exact beside u (List.mem_append_right _ listed)
    · obtain ⟨earlier, ended, rfl⟩ := apart single
      exact List.pairwise_append.mpr
        ⟨earlier, List.pairwise_singleton _ _, fun u listed _ _ => ended u listed⟩

theorem Run.holds (keeps : Keeps set W P) (run : Run set sc sc') (holds : Holds set W P sc) :
    Holds set W P sc' := by
  induction run with
  | refl => exact holds
  | tail _ step ih => exact ih.step keeps step

end Keeps

/-- A reconcile may run to its end while nothing happens beside it, where scenes go on in any way
that lets reconciles take their steps. -/
theorem reflTransGen_of_visit {service : Service k π} {R : Scene k π → Scene k π → Prop}
    {before after : List (Visit k)} {w w' : World k π} {v v' : Visit k}
    (advances : ∀ {w w' v v'}, Visit.Step service (w, v) (w', v') →
      R ⟨w, before ++ v :: after⟩ ⟨w', before ++ v' :: after⟩)
    (run : Visit.Run service (w, v) (w', v')) :
    Relation.ReflTransGen R ⟨w, before ++ v :: after⟩ ⟨w', before ++ v' :: after⟩ :=
  Relation.ReflTransGen.lift (fun x : World k π × Visit k =>
    (⟨x.1, before ++ x.2 :: after⟩ : Scene k π)) (fun _ _ step => advances step) _ _ run

end Scene

namespace MemoryStore

variable {key : ObjectKey} {s s' : MemoryStore k} {o : Object k}

/-- An object that was stored under the key at this moment or before. -/
def Seen (key : ObjectKey) (s : MemoryStore k) (o : Object k) : Prop :=
  ∃ s₀ : MemoryStore k, s₀.Sound ∧ s₀.objects.get? key = some o ∧ Evolves s₀ s

theorem Seen.of_get? (sound : s.Sound) (found : s.objects.get? key = some o) : Seen key s o :=
  ⟨s, sound, found, .refl s⟩

theorem Seen.later (seen : Seen key s o) (later : Evolves s s') : Seen key s' o := by
  obtain ⟨s₀, sound, found, evolves⟩ := seen
  exact ⟨s₀, sound, found, evolves.trans later⟩

theorem Seen.version_ne (seen : Seen key s o) : ∃ v, o.version = some v ∧ v ≠ "" := by
  obtain ⟨s₀, sound, found, -⟩ := seen
  obtain ⟨n, version, -, -⟩ := sound.versioned found
  exact ⟨natText n, version, natText_ne_empty n⟩

/-- What is stored at the version of an object seen before is that object, in its place. -/
theorem Seen.same_of_version (seen : Seen key s o) {key' : ObjectKey} {o' : Object k}
    (found : s.objects.get? key' = some o') (same : o.version = o'.version) :
    key = key' ∧ o = o' := by
  obtain ⟨s₀, sound, found₀, evolves⟩ := seen
  exact evolves.same_of_version sound found₀ found same

variable {r r' : Resource k}

def rewritten (s : MemoryStore k) (o : Object k) (r : Resource k) : Object k :=
  (Object.ofResource r).restamp (some (natText (s.lastVersion + 1)))
    o.metadata.creationTimestamp o.metadata.deletionTimestamp

theorem get?_rewritten (s : MemoryStore k) (key : ObjectKey) (o : Object k) (r : Resource k) :
    (s.write key (replaced o (.ofResource r))).2.objects.get? key = some (s.rewritten o r) :=
  get?_write_self _ _ _

def reread (s : MemoryStore k) (o : Object k) (r : Resource k) : Resource k :=
  r.stored.restamp (natText (s.lastVersion + 1))
    o.metadata.creationTimestamp o.metadata.deletionTimestamp

theorem version_of_read (seen : Seen key s o) (read : o.toResource = .ok r) :
    o.version = some r.metadata.version ∧ r.metadata.version ≠ "" := by
  obtain ⟨v, version, some⟩ := seen.version_ne
  have told : r.metadata.version = o.version.getD "" :=
    (Mapping.of_readMetadata (Object.toResource_eq_ok.mp read).1).2.2.2.1
  rw [told, version]
  exact ⟨rfl, some⟩

theorem version_ofResource (seen : Seen key s o) (read : o.toResource = .ok r)
    (placed : r'.metadata = r.metadata) : (Object.ofResource r').version = o.version := by
  obtain ⟨version, some⟩ := version_of_read seen read
  have written : (Object.ofResource r').version =
      if r'.metadata.version = "" then none else Option.some r'.metadata.version := rfl
  rw [written, placed, if_neg some, version]

theorem replace_ofResource (seen : Seen key s o) (read : o.toResource = .ok r)
    (placed : r'.metadata = r.metadata) {written : Object k × MemoryStore k}
    (replaced : s.replace (.ofResource r') = .ok written) :
    s.objects.get? key = some o ∧
      written.2 = (s.write key (MemoryStore.replaced o (.ofResource r'))).2 := by
  obtain ⟨-, current, found, -, fresh, rfl⟩ := replace_eq_ok.mp replaced
  obtain ⟨here, rfl⟩ :=
    seen.same_of_version found ((version_ofResource seen read placed).symm.trans fresh)
  rw [← here] at found ⊢
  exact ⟨found, rfl⟩

theorem delete_ofReference (seen : Seen key s o) (read : o.toResource = .ok r)
    (removed : s.delete (.ofReference r.reference) (some r.metadata.version) = .ok s') :
    s.objects.get? key = some o ∧ s' = { s with objects := s.objects.erase key } := by
  obtain ⟨current, found, fresh, rfl⟩ := delete_eq_ok.mp removed
  have version := (version_of_read seen read).1
  obtain ⟨here, rfl⟩ := seen.same_of_version found (version.trans (fresh _ rfl).symm)
  rw [← here] at found ⊢
  exact ⟨found, rfl⟩

end MemoryStore

inductive Deed.Left (key : ObjectKey) (s s' : MemoryStore k) : Prop
  | same (same : s' = s)
  | gone (gone : s'.objects.get? key = none)
  | made {o : Object k} {r : Resource k} (absent : s.objects.get? key = none)
      (formed : o.WellFormed r) (fresh : o.status = none)
      (version : Option String) (created : Option Instant)
      (found : s'.objects.get? key = some (o.restamp version created none))
  | changed {o : Object k} (was : s.objects.get? key = some o) (spec : k.Spec String)
      (version : Option String) (created deleted : Option Instant)
      (marked : o.metadata.deletionTimestamp.isSome → deleted.isSome)
      (found : s'.objects.get? key =
        some (({ o with spec := spec } : Object k).restamp version created deleted))

theorem Deed.left {key : ObjectKey} {s : MemoryStore k} (sound : s.Sound) {q : Request k}
    (deed : Deed key s q) : Deed.Left key s (s.after q) := by
  cases deed with
  | @make o r ctx clock now formed fresh home =>
    rcases s.after_create ctx clock now o with same | ⟨absent, written⟩
    · exact .same same
    · refine .made (home ▸ absent) formed fresh (some (natText (s.lastVersion + 1))) (some now) ?_
      rw [written, home]
      exact MemoryStore.get?_write_self _ _ _
  | @respec o ctx clock now found spec =>
    rcases s.after_replace ctx clock now { o with spec := spec } with
      same | ⟨written, replaced, after⟩
    · exact .same same
    · obtain ⟨-, current, found', -, -, rfl⟩ := MemoryStore.replace_eq_ok.mp replaced
      have home : ObjectKey.ofObject ({ o with spec := spec } : Object k) = key :=
        sound.keyed (o := o) found
      rw [home, found] at found'
      obtain rfl := Option.some.inj found'
      refine .changed found spec (some (natText (s.lastVersion + 1)))
        o.metadata.creationTimestamp o.metadata.deletionTimestamp (fun mark => mark) ?_
      rw [after, home]
      exact MemoryStore.get?_write_self _ _ _
  | mark now =>
    rcases s.after_mark now key with same | ⟨o, found, -, after⟩
    · exact .same same
    · refine .changed found o.spec (some (natText (s.lastVersion + 1)))
        o.metadata.creationTimestamp (some now) (fun _ => rfl) ?_
      rw [after]
      exact MemoryStore.get?_write_self _ _ _
  | remove ctx clock now version =>
    rcases s.after_delete ctx clock now key version with same | ⟨t, removed, after⟩
    · exact .same same
    · obtain ⟨current, -, -, rfl⟩ := MemoryStore.delete_eq_ok.mp removed
      refine .gone ?_
      rw [after]
      exact SortedMap.get?_erase_self _ _

end Reconciler
