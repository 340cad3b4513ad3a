import Reconciler.Proofs.Cluster.Guarded
import Reconciler.Proofs.Cluster.Upkeep

/-!
The cleanup finalizer as single calls treat it. Whoever else is at work, a creation or a
replacement leaves it among the finalizers of others, which stay as they are, and a deletion
takes it away and no other.
-/

set_option autoImplicit false

namespace Reconciler

open ApiServer (Carries Amid Foreign Sound OwnWrites)
open Cluster (cleanupFinalizer)

variable {k : Kind} {me who : Client} {s s' s₁ : ApiServer} {path : String} {x y b : ApiObject}
  {edit : ApiEdit} {o o' : Object k} {key : ObjectKey}

/-- The cleanup finalizer is there, once if it was there at most once before, and the finalizers
of others are as they were. -/
structure Guards (before after : List String) : Prop where
  held : cleanupFinalizer ∈ after
  once : before.count cleanupFinalizer ≤ 1 → after.count cleanupFinalizer = 1
  others : after.filter (· ≠ cleanupFinalizer) = before.filter (· ≠ cleanupFinalizer)

theorem guards_ensureFinalizer (m : ObjectMeta) :
    Guards (m.finalizers.getD []) ((Cluster.ensureFinalizer m).finalizers.getD []) := by
  unfold Cluster.ensureFinalizer
  generalize m.finalizers.getD [] = before
  by_cases there : before.contains cleanupFinalizer = true
  · have listed : cleanupFinalizer ∈ before := List.contains_iff_mem.mp there
    simp only [there, if_true, Option.getD_some]
    refine ⟨listed, fun atMost => ?_, rfl⟩
    have := List.count_pos_iff.mpr listed
    omega
  · have unlisted : cleanupFinalizer ∉ before := mt List.contains_iff_mem.mpr there
    simp only [there, Option.getD_some]
    refine ⟨by simp, fun _ => ?_, by simp⟩
    simp [List.count_eq_zero_of_not_mem unlisted]

namespace ApiChange

def Keeps (c : ApiChange) : Prop :=
  ∀ b, c.before = some b → cleanupFinalizer ∈ b.finalizers →
    cleanupFinalizer ∈ c.written.finalizers

/-- The change takes the cleanup finalizer away, or no finalizer at all. -/
def Unhands (c : ApiChange) : Prop :=
  ∃ b, c.before = some b ∧ (c.written.finalizers = b.finalizers ∨
    c.written.finalizers = b.finalizers.filter (· ≠ cleanupFinalizer))

end ApiChange

theorem ApiServer.Carries.keeps {version : Option String} {change : Option Json → Option Json}
    (carries : Carries k who path (.restate version change) y s s') :
    (⟨who, path, s.kept path, y⟩ : ApiChange).Keeps := by
  intro b kept held
  obtain ⟨b', kept', -, -, -, said, -⟩ := carries.writes.of_restate
  cases kept.symm.trans kept'
  exact (ApiObject.finalizers_of_agrees said).symm ▸ held

namespace StoreCall

def Conducts : StoreCall k → ApiChange → Prop
  | .delete key _, c => key.path? k = some c.path ∧ c.Unhands
  | _, c => c.Keeps

/-- What the success of a call means, which was begun when the server was `since`. -/
def Succeeds (me : Client) (since s : ApiServer) : (c : StoreCall k) → c.Answer → Prop
  | .create o, .ok o' => ∃ c ∈ s.history, c.author = me ∧ c.written.metadata = o'.metadata ∧
      Guards (o.metadata.finalizers.getD []) c.written.finalizers
  | .replace o, .ok o' => ∃ c ∈ s.history, c.author = me ∧ c.written.metadata = o'.metadata ∧
      ∃ d ∈ s.history, d.path = c.path ∧ d.version = o.version ∧
        Guards d.written.finalizers c.written.finalizers ∧
          c.written.metadata.uid = d.written.metadata.uid ∧
            c.written.metadata.ownerReferences.getD [] =
              d.written.metadata.ownerReferences.getD []
  | .delete key _, .ok () => ∃ path older, key.path? k = some path ∧ since.history <:+ older ∧
      older <:+ s.history ∧
        ∀ x, (⟨older⟩ : ApiServer).kept path = some x → cleanupFinalizer ∉ x.finalizers
  | _, _ => True

/-- A call that the engine may begin: it replaces only what it has a copy of. Listings write
nothing and are left out. -/
def Known (s : ApiServer) : StoreCall k → Prop
  | .list _ => False
  | .replace o => ∀ v, o.version = some v → some v ∈ s.given
  | _ => True

end StoreCall

namespace ApiServer

theorem kept_of_changes (same : s'.changes path = s.changes path) : s'.kept path = s.kept path := by
  unfold kept
  rw [same]

/-- Under a version that is known already, a server keeps what it has kept ever since. -/
theorem Sound.kept_of_known (sound : s'.Sound k) (later : s.history <:+ s'.history)
    (kept : s'.kept path = some b) (known : b.version ∈ s.given) : s.kept path = some b := by
  obtain ⟨c, older, first, rfl, after⟩ := exists_change_of_kept kept
  obtain ⟨seen, here⟩ := mem_history_of_first first
  obtain ⟨d, listed, same⟩ := List.mem_map.mp known
  obtain rfl := sound.eq_of_version (later.subset listed) seen same
  have mine : d ∈ s.changes path := List.mem_filter.mpr ⟨listed, decide_eq_true here⟩
  exact (kept_of_changes (sound.changes_eq_of_mem later first mine).symm).trans kept

end ApiServer

namespace Cluster

open StoreCall (Conducts Succeeds)

/-- A status that names the version of a write is stated on top of that very write. -/
theorem stated_upon {others : ApiServer → ApiServer → Prop} {path' : String} {s₂ : ApiServer}
    {z : ApiObject} {change : Option Json → Option Json}
    (foreign : ∀ {s s'}, others s s' → Foreign k me s s') (sound : s.Sound k)
    (put : Carries k who path edit y s₁ s) (held : cleanupFinalizer ∈ y.finalizers)
    (meanwhile : Meanwhile others s s₂)
    (carries : Carries k me path' (.restate y.version change) z s₂ s') :
    path' = path ∧ z.Continues y ∧ z.metadata.Agrees y.metadata ∧ z.spec = y.spec ∧
      z.status = change y.status := by
  obtain ⟨sound₂, later⟩ := sound.meanwhile foreign meanwhile
  obtain ⟨b, kept, admitted, continues, -, said, spec, status⟩ := carries.writes.of_restate
  obtain ⟨v, versioned⟩ := Option.ne_none_iff_exists'.mp put.versioned
  have own : s.kept path = some y := put.kept.trans (ApiObject.settled_of_held held)
  obtain ⟨rfl, rfl, -⟩ := sound₂.kept_eq later own kept ((admitted v versioned).trans versioned.symm)
  exact ⟨rfl, continues, said, spec, status⟩

theorem Stating.wrote {status : Option (Status k String String)} (sound : s.Sound k)
    (put : Carries k me path edit y s₁ s) (held : cleanupFinalizer ∈ y.finalizers)
    (stating : Stating k me (Foreign k me) status y s (.ok o') s') :
    ∃ c ∈ s'.history, c.author = me ∧ c.path = path ∧ c.written.metadata = o'.metadata ∧
      c.written.metadata.Agrees y.metadata ∧ c.written.metadata.uid = y.metadata.uid := by
  cases stating with
  | unstated absent reads =>
    refine ⟨⟨me, path, s₁.kept path, y⟩, ?_, rfl, rfl, reads.metadata.symm,
      ⟨rfl, rfl, rfl, rfl⟩, rfl⟩
    rw [put.eq_record]
    exact List.mem_cons_self
  | @stated _ s₂ _ path' z status' present meanwhile carries told =>
    obtain ⟨rfl, continues, said, -⟩ := stated_upon id sound put held meanwhile carries
    refine ⟨⟨me, path', s₂.kept path', z⟩, ?_, rfl, rfl, (told o' rfl).metadata.symm, said,
      continues.uid⟩
    rw [carries.eq_record]
    exact List.mem_cons_self

theorem Stating.later {status : Option (Status k String String)} {result : Except Error (Object k)}
    (sound : s.Sound k) (stating : Stating k me (Foreign k me) status y s result s') :
    s.history <:+ s'.history := by
  cases stating with
  | undone meanwhile => exact (sound.meanwhile id meanwhile).2
  | unstated => exact List.suffix_refl _
  | stated present meanwhile carries =>
    exact (sound.meanwhile id meanwhile).2.trans carries.suffix

theorem Stating.keeps {status : Option (Status k String String)} {result : Except Error (Object k)}
    {s₀ : ApiServer} (so : OwnWrites me (fun c _ => c.Keeps) s₀ s)
    (stating : Stating k me (Foreign k me) status y s result s') :
    OwnWrites me (fun c _ => c.Keeps) s₀ s' := by
  cases stating with
  | undone meanwhile => exact so.meanwhile id meanwhile
  | unstated => exact so
  | stated present meanwhile carries =>
    exact (so.meanwhile id meanwhile).carries carries fun _ => carries.keeps

theorem create_fulfils (sound : s.Sound k) {answer : Except Error (Object k)}
    (ends : Ends (Amid k me (Foreign k me)) (create o) s answer s') :
    OwnWrites me (fun c _ => c.Keeps) s s' ∧ Succeeds me s s' (.create o) answer := by
  have none_yet : OwnWrites me (fun c _ => c.Keeps) s s := .refl s
  cases create_ends ends with
  | idle meanwhile => exact ⟨none_yet.meanwhile id meanwhile, trivial⟩
  | @created _ s₁ s₂ _ path m y meanwhile read carries stating =>
    obtain ⟨sound₁, -⟩ := sound.meanwhile id meanwhile
    have finalizers : y.finalizers = (ensureFinalizer o.metadata).finalizers.getD [] := by
      obtain ⟨-, said, -⟩ := carries.writes.of_create
      rw [ApiObject.finalizers_of_agrees said, read.finalizers]
      rfl
    have guards := guards_ensureFinalizer o.metadata
    rw [← finalizers] at guards
    constructor
    · exact stating.keeps ((none_yet.meanwhile id meanwhile).carries carries
        fun _ _ _ _ => guards.held)
    · cases answer with
      | error e => trivial
      | ok o' =>
        obtain ⟨c, listed, own, -, tells, said, -⟩ :=
          stating.wrote (sound₁.carried carries) carries guards.held
        refine ⟨c, listed, own, tells, ?_⟩
        rw [ApiObject.finalizers_of_agrees said]
        exact guards

theorem replace_fulfils (sound : s.Sound k) (known : (StoreCall.replace o).Known s)
    {answer : Except Error (Object k)}
    (ends : Ends (Amid k me (Foreign k me)) (replace o) s answer s') :
    OwnWrites me (fun c _ => c.Keeps) s s' ∧ Succeeds me s s' (.replace o) answer := by
  have none_yet : OwnWrites me (fun c _ => c.Keeps) s s := .refl s
  cases replace_ends ends with
  | idle meanwhile => exact ⟨none_yet.meanwhile id meanwhile, trivial⟩
  | @replaced _ s₁ s₂ s₃ _ path m x y versioned placed before seen _ reads between read carries stating =>
    obtain ⟨v, version⟩ := Option.isSome_iff_exists.mp versioned
    obtain ⟨sound₁, later₁⟩ := sound.meanwhile id before
    obtain ⟨sound₂, later₂⟩ := sound₁.meanwhile id between
    obtain ⟨b, kept, admitted, continues, -, said, -⟩ := carries.writes.of_replace
    -- the object that was read is the one that is written over
    have head : b.version = some v := admitted v (read.resourceVersion.trans version)
    have given : b.version ∈ s₁.given := by
      rw [head]
      exact (later₁.map ApiChange.version).subset (known v version)
    obtain rfl : b = x :=
      Option.some.inj ((sound₂.kept_of_known later₂ kept given).symm.trans seen)
    have finalizers : y.finalizers = (ensureFinalizer b.metadata).finalizers.getD [] := by
      rw [ApiObject.finalizers_of_agrees said, read.finalizers]
      rfl
    have guards := guards_ensureFinalizer b.metadata
    rw [← finalizers] at guards
    constructor
    · exact stating.keeps (((none_yet.meanwhile id before).meanwhile id between).carries carries
        fun _ _ _ _ => guards.held)
    · cases answer with
      | error e => trivial
      | ok o' =>
        obtain ⟨c, listed, own, rfl, tells, agrees, uid⟩ :=
          stating.wrote (sound₂.carried carries) carries guards.held
        obtain ⟨d, older, first, rfl, -⟩ := ApiServer.exists_change_of_kept seen
        obtain ⟨stored, here⟩ := ApiServer.mem_history_of_first first
        have later : s₁.history <:+ s'.history :=
          (later₂.trans carries.suffix).trans (stating.later (sound₂.carried carries))
        refine ⟨c, listed, own, tells, d, later.subset stored, here, head.trans version.symm, ?_, ?_, ?_⟩
        · rw [ApiObject.finalizers_of_agrees agrees]
          exact guards
        · exact uid.trans continues.uid
        · rw [agrees.owners, said.owners, read.ownerReferences]
          rfl

theorem record_keeps {c : Condition String} {answer : Except Error Bool}
    (ends : Ends (Amid k me (Foreign k me)) (record k key c) s answer s') :
    OwnWrites me (fun c _ => c.Keeps) s s' := by
  have none_yet : OwnWrites me (fun c _ => c.Keeps) s s := .refl s
  cases record_ends ends with
  | idle meanwhile => exact none_yet.meanwhile id meanwhile
  | stated meanwhile carries =>
    exact (none_yet.meanwhile id meanwhile).carries carries fun _ => carries.keeps

def Unhanding (path : String) (c : ApiChange) (_ : ApiServer) : Prop := c.path = path ∧ c.Unhands

theorem Removing.unhands {guard : Option String} {result : Except Error Unit} {s₀ : ApiServer}
    (so : OwnWrites me (Unhanding path) s₀ s)
    (removing : Removing k me (Foreign k me) path guard s result s') :
    OwnWrites me (Unhanding path) s₀ s' := by
  cases removing with
  | undone meanwhile => exact so.meanwhile id meanwhile
  | absent meanwhile => exact so.meanwhile id meanwhile
  | awaited meanwhile => exact so.meanwhile id meanwhile
  | done meanwhile carries =>
    obtain ⟨b, kept, -, -, -, said⟩ := carries.writes.of_delete
    exact (so.meanwhile id meanwhile).carries carries fun _ =>
      ⟨rfl, b, kept, .inl (ApiObject.finalizers_of_agrees said)⟩

theorem Releases.unhands {s₀ : ApiServer} (so : OwnWrites me (Unhanding path) s₀ s)
    (releases : Releases k me path x y s s') : OwnWrites me (Unhanding path) s₀ s' := by
  obtain ⟨edit, carries⟩ := releases.carries
  exact so.carries carries fun _ => ⟨rfl, x, releases.kept, .inr releases.finalizers⟩

theorem Removing.later {guard : Option String} {result : Except Error Unit} (sound : s.Sound k)
    (removing : Removing k me (Foreign k me) path guard s result s') :
    s.history <:+ s'.history := by
  cases removing with
  | undone meanwhile => exact (sound.meanwhile id meanwhile).2
  | absent meanwhile => exact (sound.meanwhile id meanwhile).2
  | awaited meanwhile => exact (sound.meanwhile id meanwhile).2
  | done meanwhile carries => exact (sound.meanwhile id meanwhile).2.trans carries.suffix

theorem Releases.free_after (releases : Releases k me path x y s s') :
    ∀ z, s'.kept path = some z → cleanupFinalizer ∉ z.finalizers := by
  intro z kept
  obtain ⟨edit, carries⟩ := releases.carries
  rw [carries.kept] at kept
  rw [ApiObject.eq_of_settled kept]
  exact releases.free

theorem Deleting.fulfils {version : Option String} {result : Except Error Unit} (sound : s.Sound k)
    (placed : key.path? k = some path)
    (deleting : Deleting k me (Foreign k me) path version s result s') :
    OwnWrites me (Unhanding path) s s' ∧ Succeeds me s s' (.delete (k := k) key version) result := by
  have none_yet : OwnWrites me (Unhanding path) s s := .refl s
  have success : ∀ s₁ : ApiServer, s.history <:+ s₁.history → s₁.history <:+ s'.history →
      (∀ x, s₁.kept path = some x → cleanupFinalizer ∉ x.finalizers) →
        Succeeds me s s' (.delete (k := k) key version) result := by
    intro s₁ later earlier free
    cases result with
    | error e => trivial
    | ok => exact ⟨path, s₁.history, placed, later, earlier, free⟩
  cases deleting with
  | stopped meanwhile => exact ⟨none_yet.meanwhile id meanwhile, trivial⟩
  | spared meanwhile seen terminating free =>
    refine ⟨none_yet.meanwhile id meanwhile, success s' (sound.meanwhile id meanwhile).2
      (List.suffix_refl _) fun x kept => ?_⟩
    cases seen.symm.trans kept
    exact free
  | vanished meanwhile missing =>
    refine ⟨none_yet.meanwhile id meanwhile, success s' (sound.meanwhile id meanwhile).2
      (List.suffix_refl _) fun x kept => ?_⟩
    cases missing.symm.trans kept
  | unheld meanwhile seen admitted free removing =>
    obtain ⟨sound₁, later⟩ := sound.meanwhile id meanwhile
    refine ⟨removing.unhands (none_yet.meanwhile id meanwhile), success _ later
      (removing.later sound₁) fun x kept => ?_⟩
    cases seen.symm.trans kept
    exact free
  | released meanwhile admitted releases =>
    obtain ⟨edit, carries⟩ := releases.carries
    exact ⟨releases.unhands (none_yet.meanwhile id meanwhile), success s'
      ((sound.meanwhile id meanwhile).2.trans carries.suffix) (List.suffix_refl _)
      releases.free_after⟩
  | removed meanwhile admitted releases removing =>
    obtain ⟨edit, carries⟩ := releases.carries
    obtain ⟨sound₁, later⟩ := sound.meanwhile id meanwhile
    exact ⟨removing.unhands (releases.unhands (none_yet.meanwhile id meanwhile)),
      success _ (later.trans carries.suffix) (removing.later (sound₁.carried carries))
        releases.free_after⟩

theorem delete_fulfils {version : Option String} {answer : Except Error Unit} (sound : s.Sound k)
    (ends : Ends (Amid k me (Foreign k me)) (delete k key version) s answer s') :
    OwnWrites me (fun c _ => Conducts (.delete (k := k) key version) c) s s' ∧
      Succeeds me s s' (.delete (k := k) key version) answer := by
  rcases delete_ends id sound ends with ⟨meanwhile, failed⟩ | ⟨path, placed, deleting⟩
  · refine ⟨(OwnWrites.refl s).meanwhile id meanwhile, ?_⟩
    cases answer with
    | error e => trivial
    | ok => exact absurd rfl failed
  · obtain ⟨so, success⟩ := deleting.fulfils sound placed
    refine ⟨fun newer c older split later own => ?_, success⟩
    obtain ⟨rfl, unhands⟩ := so newer c older split later own
    exact ⟨placed, unhands⟩

/-- Whatever others do meanwhile, a call that the engine may begin treats the cleanup finalizer
as it should. -/
theorem call_fulfils {only : Option String} {c : StoreCall k} (sound : s.Sound k)
    (known : c.Known s) {log : List (Dialogue.Exchange ClusterQuery.Answer)} {answer : c.Answer}
    (held : Dialogue.Held (Amid k me (Foreign k me)) (call only c) s log answer s') :
    OwnWrites me (fun d _ => c.Conducts d) s s' ∧ Succeeds me s s' c answer := by
  cases c with
  | get key =>
    have meanwhile := (get_ends ⟨log, held⟩).1
    refine ⟨(OwnWrites.refl s).meanwhile id meanwhile, ?_⟩
    cases answer <;> trivial
  | list query => exact known.elim
  | create o => exact create_fulfils sound ⟨log, held⟩
  | replace o => exact replace_fulfils sound known ⟨log, held⟩
  | delete key version => exact delete_fulfils sound ⟨log, held⟩
  | record key condition =>
    refine ⟨record_keeps ⟨log, held⟩, ?_⟩
    cases answer <;> trivial

end Cluster

end Reconciler
