import Reconciler.Proofs.Cluster.Calls

/-!
Guarded deletions beside other clients. A deletion that names a version removes or marks the
object only where nobody else has written since that version, although its own release of the
cleanup finalizer writes in between.
-/

set_option autoImplicit false

namespace Reconciler

open ApiServer (Carries Amid Foreign Sound OwnWrites)

variable {k : Kind} {me : Client} {s s' s₁ s₂ : ApiServer} {path v : String} {x y b : ApiObject}
  {edit : ApiEdit} {who : Client}

namespace ApiServer

theorem Sound.kept_written (sound : s'.Sound k) (carries : Carries k who path edit y s s₁)
    (later : s₁.history <:+ s'.history) (kept : s'.kept path = some b)
    (same : b.version = y.version) : b = y ∧ s'.changes path = s₁.changes path := by
  obtain ⟨d, older, last, rfl, -⟩ := exists_change_of_kept kept
  have first : s₁.changes path = ⟨who, path, s.kept path, y⟩ :: s.changes path := by
    rw [carries.eq_record, changes_record, if_pos rfl]
  obtain ⟨-, unchanged⟩ := sound.changes_eq later first last same
  rw [first, last] at unchanged
  exact ⟨congrArg ApiChange.written (List.cons.inj unchanged).1, by rw [first, last, unchanged]⟩

theorem onlySince_of_head (kept : s.kept path = some x) (head : x.version = some v) :
    s.OnlySince me path v := by
  obtain ⟨c, older, first, rfl, -⟩ := exists_change_of_kept kept
  exact ⟨[], c, older, first, head, by simp⟩

theorem onlySince_of_own (kept : s.kept path = some x) (head : x.version = some v)
    (carries : Carries k me path edit y s s₁) (unchanged : s'.changes path = s₁.changes path) :
    s'.OnlySince me path v := by
  obtain ⟨c, older, first, rfl, -⟩ := exists_change_of_kept kept
  refine ⟨[⟨me, path, s.kept path, y⟩], c, older, ?_, head, ?_⟩
  · rw [unchanged, carries.eq_record, changes_record, if_pos rfl, first]
    rfl
  · intro d listed
    rw [List.mem_singleton.mp listed]

end ApiServer

namespace Cluster

/-- An object is removed or marked only where nobody else has written since a version. -/
def Cautious (me : Client) (path v : String) (c : ApiChange) (s : ApiServer) : Prop :=
  c.Ends → c.path = path ∧ s.OnlySince me path v

/-- What is left terminates, and the engine does not hold it. -/
def LeftToOthers (path : String) (s : ApiServer) : Prop :=
  ∀ x, s.kept path = some x → x.Terminating ∧ cleanupFinalizer ∉ x.finalizers

theorem leftToOthers_of_none (missing : s.kept path = none) : LeftToOthers path s := by
  intro x kept
  cases missing.symm.trans kept

theorem leftToOthers_of_written (carries : Carries k who path edit y s s')
    (terminating : y.Terminating) (free : cleanupFinalizer ∉ y.finalizers) :
    LeftToOthers path s' := by
  intro x kept
  rw [carries.kept] at kept
  rw [ApiObject.eq_of_settled kept]
  exact ⟨terminating, free⟩

section Removal

variable {guard : Option String} {result : Except Error Unit}

theorem Removing.cautious {s₀ : ApiServer} (sound : s.Sound k)
    (removing : Removing k me (Foreign k me) path guard s result s')
    (so : OwnWrites me (Cautious me path v) s₀ s)
    (only : ∀ (s₁ : ApiServer) (b : ApiObject), s₁.Sound k → s.history <:+ s₁.history →
      s₁.kept path = some b → b.Admits guard → s₁.OnlySince me path v) :
    OwnWrites me (Cautious me path v) s₀ s' := by
  cases removing with
  | undone meanwhile => exact so.meanwhile id meanwhile
  | absent meanwhile => exact so.meanwhile id meanwhile
  | awaited meanwhile => exact so.meanwhile id meanwhile
  | done meanwhile carries =>
    obtain ⟨sound₁, later⟩ := sound.meanwhile id meanwhile
    obtain ⟨b, kept, admitted, -⟩ := carries.writes.of_delete
    refine (so.meanwhile id meanwhile).carries carries fun _ _ => ⟨rfl, ?_⟩
    exact only _ b sound₁ later kept admitted

theorem Removing.leftToOthers (sound : s.Sound k)
    (removing : Removing k me (Foreign k me) path guard s (.ok ()) s')
    (free : ∀ (s₁ : ApiServer) (b : ApiObject), s₁.Sound k → s.history <:+ s₁.history →
      s₁.kept path = some b → b.Admits guard → cleanupFinalizer ∉ b.finalizers) :
    LeftToOthers path s' := by
  cases removing with
  | absent meanwhile missing => exact leftToOthers_of_none missing
  | awaited meanwhile kept terminating admitted =>
    obtain ⟨sound₁, later⟩ := sound.meanwhile id meanwhile
    intro x kept'
    cases kept.symm.trans kept'
    exact ⟨terminating, free _ _ sound₁ later kept admitted⟩
  | done meanwhile carries =>
    obtain ⟨sound₁, later⟩ := sound.meanwhile id meanwhile
    obtain ⟨b, kept, admitted, -, terminating, said⟩ := carries.writes.of_delete
    refine leftToOthers_of_written carries terminating ?_
    rw [ApiObject.finalizers_of_agrees said]
    exact free _ b sound₁ later kept admitted

end Removal

theorem admits_some (admitted : x.Admits (some v)) : x.version = some v := admitted v rfl

/-- The guard of a removal after the own release: the version that the release gave. -/
theorem kept_released (sound : s'.Sound k) (releases : Releases k me path x y s s₁)
    (later : s₁.history <:+ s'.history) (kept : s'.kept path = some b)
    (admitted : b.Admits y.version) : b = y ∧ s'.changes path = s₁.changes path := by
  obtain ⟨edit, carries⟩ := releases.carries
  obtain ⟨w, versioned⟩ := Option.ne_none_iff_exists'.mp carries.versioned
  refine sound.kept_written carries later kept ?_
  rw [versioned]
  exact admitted w versioned

theorem Releases.free (releases : Releases k me path x y s s') :
    cleanupFinalizer ∉ y.finalizers := by
  rw [releases.finalizers]
  simp

theorem Releases.cautious {s₀ : ApiServer} (releases : Releases k me path x y s s')
    (head : x.version = some v) (so : OwnWrites me (Cautious me path v) s₀ s) :
    OwnWrites me (Cautious me path v) s₀ s' := by
  obtain ⟨edit, carries⟩ := releases.carries
  exact so.carries carries fun _ _ => ⟨rfl, ApiServer.onlySince_of_head releases.kept head⟩

theorem Deleting.cautious {result : Except Error Unit} (sound : s.Sound k)
    (deleting : Deleting k me (Foreign k me) path (some v) s result s') :
    OwnWrites me (Cautious me path v) s s' := by
  have none_yet : OwnWrites me (Cautious me path v) s s := .refl s
  cases deleting with
  | stopped meanwhile => exact none_yet.meanwhile id meanwhile
  | spared meanwhile => exact none_yet.meanwhile id meanwhile
  | vanished meanwhile => exact none_yet.meanwhile id meanwhile
  | unheld meanwhile seen admitted free removing =>
    obtain ⟨sound₁, -⟩ := sound.meanwhile id meanwhile
    refine removing.cautious sound₁ (none_yet.meanwhile id meanwhile) ?_
    intro s₂ b _ _ kept admitted
    exact ApiServer.onlySince_of_head kept (admits_some admitted)
  | released meanwhile admitted releases =>
    exact releases.cautious (admits_some admitted) (none_yet.meanwhile id meanwhile)
  | removed meanwhile admitted releases removing =>
    obtain ⟨edit, carries⟩ := releases.carries
    obtain ⟨sound₁, -⟩ := sound.meanwhile id meanwhile
    refine removing.cautious (sound₁.carried carries)
      (releases.cautious (admits_some admitted) (none_yet.meanwhile id meanwhile)) ?_
    intro s₃ b sound₃ later kept admitted'
    obtain ⟨-, unchanged⟩ := kept_released sound₃ releases later kept admitted'
    exact ApiServer.onlySince_of_own releases.kept (admits_some admitted) carries unchanged

theorem Deleting.leftToOthers (sound : s.Sound k)
    (deleting : Deleting k me (Foreign k me) path (some v) s (.ok ()) s') :
    LeftToOthers path s' := by
  cases deleting with
  | spared meanwhile seen terminating free =>
    intro x kept
    cases seen.symm.trans kept
    exact ⟨terminating, free⟩
  | vanished meanwhile missing => exact leftToOthers_of_none missing
  | unheld meanwhile seen admitted free removing =>
    obtain ⟨sound₁, -⟩ := sound.meanwhile id meanwhile
    refine removing.leftToOthers sound₁ ?_
    intro s₂ b sound₂ later kept admitted'
    have same : b.version = _ := (admits_some admitted').trans (admits_some admitted).symm
    obtain ⟨-, rfl, -⟩ := sound₂.kept_eq later seen kept same
    exact free
  | released meanwhile admitted releases terminating =>
    obtain ⟨edit, carries⟩ := releases.carries
    exact leftToOthers_of_written carries (releases.termination.mpr (terminating rfl)) releases.free
  | removed meanwhile admitted releases removing =>
    obtain ⟨edit, carries⟩ := releases.carries
    obtain ⟨sound₁, -⟩ := sound.meanwhile id meanwhile
    refine removing.leftToOthers (sound₁.carried carries) ?_
    intro s₃ b sound₃ later kept admitted'
    obtain ⟨rfl, -⟩ := kept_released sound₃ releases later kept admitted'
    exact releases.free

/-- Whatever other clients do between its requests, a deletion that names a version removes the
object or marks it terminating only where nobody else has written since that version. If it
succeeds, then at its last request nothing was kept under the key, or what was kept was
terminating and held by the finalizers of others alone. -/
theorem delete_guarded {only : Option String} {key : ObjectKey} (sound : s.Sound k)
    {log : List (Dialogue.Exchange ClusterQuery.Answer)} {answer : Except Error Unit}
    (held : Dialogue.Held (Amid k me (Foreign k me)) (call (k := k) only (.delete key (some v)))
      s log answer s') :
    (∀ newer c older, s'.history = newer ++ c :: older → s.history <:+ older → c.author = me →
      c.Ends → key.path? k = some c.path ∧ (⟨older⟩ : ApiServer).OnlySince me c.path v) ∧
    (answer = .ok () → ∃ path, key.path? k = some path ∧ ∀ x, s'.kept path = some x →
      x.Terminating ∧ x.finalizers ≠ [] ∧ cleanupFinalizer ∉ x.finalizers) := by
  rcases delete_ends id sound ⟨log, held⟩ with ⟨meanwhile, failed⟩ | ⟨path, placed, deleting⟩
  · constructor
    · have quiet : OwnWrites me (fun _ _ => False) s s' := (OwnWrites.refl s).meanwhile id meanwhile
      exact fun newer c older split later own _ => (quiet newer c older split later own).elim
    · exact fun succeeded => absurd succeeded failed
  · constructor
    · intro newer c older split later own ends
      obtain ⟨rfl, only⟩ := deleting.cautious sound newer c older split later own ends
      exact ⟨placed, only⟩
    · rintro rfl
      refine ⟨path, placed, fun x kept => ?_⟩
      obtain ⟨terminating, free⟩ := deleting.leftToOthers sound x kept
      exact ⟨terminating, ApiServer.finalizers_of_kept kept terminating, free⟩

def workspaceKey : ObjectKey := ⟨some "acme", "ws-1"⟩

def workspacePath : String := "/apis/workspace.v1.secapi.cloud/v1/namespaces/acme/workspaces/ws-1"

def workspaceMeta (version : Option String) (finalizers : Option (List String)) : ObjectMeta :=
  { ObjectMeta.blank with
    name := some "ws-1", namespaceName := some "acme", resourceVersion := version
    finalizers := finalizers }

def holdFinalizer : String := "acme.io/hold"

def keptWorkspace (version : String) (finalizers : List String) : ApiObject :=
  ⟨workspaceMeta (some version) (some finalizers), .record [], none⟩

def markedWorkspace (version : String) (finalizers : List String) : ApiObject :=
  { keptWorkspace version finalizers with
    metadata := { workspaceMeta (some version) (some finalizers) with
      deletionTimestamp := some default } }

def workspaceText (version finalizers stamps : String) : String :=
  "\x7b\"metadata\":\x7b\"name\":\"ws-1\",\"namespace\":\"acme\",\"resourceVersion\":\"" ++
    version ++ "\",\"finalizers\":[" ++ finalizers ++ "]" ++ stamps ++ "\x7d,\"spec\":\x7b\x7d\x7d"

def heldText : String :=
  workspaceText "1" "\"secapi.cloud.foundation/cleanup\",\"acme.io/hold\"" ""

def releasedText : String := workspaceText "2" "\"acme.io/hold\"" ""

theorem heldText_shows :
    ApiObject.ofText? heldText = some (keptWorkspace "1" [cleanupFinalizer, holdFinalizer]) := by
  decide +kernel

theorem releasedText_shows :
    ApiObject.ofText? releasedText = some (keptWorkspace "2" [holdFinalizer]) := by
  decide +kernel

def heldServer : ApiServer :=
  ApiServer.record ⟨[]⟩
    ⟨.other 0, workspacePath, none, keptWorkspace "1" [cleanupFinalizer, holdFinalizer]⟩

def releasedServer : ApiServer :=
  heldServer.record ⟨.engine 0, workspacePath,
    some (keptWorkspace "1" [cleanupFinalizer, holdFinalizer]), keptWorkspace "2" [holdFinalizer]⟩

def markedServer : ApiServer :=
  releasedServer.record ⟨.engine 0, workspacePath, some (keptWorkspace "2" [holdFinalizer]),
    markedWorkspace "3" [holdFinalizer]⟩

/-- The other client has let go of the workspace. -/
def freedServer : ApiServer :=
  releasedServer.record ⟨.other 0, workspacePath, some (keptWorkspace "2" [holdFinalizer]),
    keptWorkspace "3" []⟩

def clearedServer : ApiServer :=
  freedServer.record ⟨.other 0, workspacePath, some (keptWorkspace "3" []), markedWorkspace "4" []⟩

theorem workspaceKey_placed : workspaceKey.path? .workspace = some workspacePath := by
  decide +kernel

theorem workspace_address : Address.ofText? (itemTarget .workspace "acme" workspaceKey) =
    some ⟨workspacePath, none⟩ := by
  decide +kernel

theorem workspace_address_query :
    Address.ofText? (itemTarget .workspace "acme" workspaceKey ++ "?") =
      some ⟨workspacePath, some ""⟩ := by
  decide +kernel

theorem kept_heldServer :
    heldServer.kept workspacePath = some (keptWorkspace "1" [cleanupFinalizer, holdFinalizer]) :=
  (ApiServer.kept_record_self _ _).trans (ApiObject.settled_of_alive (by decide))

theorem kept_releasedServer :
    releasedServer.kept workspacePath = some (keptWorkspace "2" [holdFinalizer]) :=
  (ApiServer.kept_record_self _ _).trans (ApiObject.settled_of_alive (by decide))

theorem kept_markedServer :
    markedServer.kept workspacePath = some (markedWorkspace "3" [holdFinalizer]) :=
  (ApiServer.kept_record_self _ _).trans (ApiObject.settled_of_held List.mem_cons_self)

theorem kept_freedServer : freedServer.kept workspacePath = some (keptWorkspace "3" []) :=
  (ApiServer.kept_record_self _ _).trans (ApiObject.settled_of_alive (by decide))

theorem kept_clearedServer : clearedServer.kept workspacePath = none :=
  (ApiServer.kept_record_self _ _).trans (if_pos ⟨rfl, rfl⟩)

theorem sound_heldServer : heldServer.Sound .workspace := by
  have writes : (ApiEdit.create (workspaceMeta none (some [cleanupFinalizer, holdFinalizer]))
      (keptWorkspace "1" [cleanupFinalizer, holdFinalizer]).spec).Writes .workspace workspacePath
        none (keptWorkspace "1" [cleanupFinalizer, holdFinalizer]) :=
    .created workspaceKey_placed (fun _ => id) (fun _ => id) ⟨rfl, rfl, rfl, rfl⟩ (by decide) rfl
  exact .carried .empty (.of_kept rfl (by decide) (by decide) writes)

theorem workspace_released : Carries .workspace (.engine 0) workspacePath
    (.replace (workspaceMeta (some "1") (some [holdFinalizer]))
      (keptWorkspace "2" [holdFinalizer]).spec)
    (keptWorkspace "2" [holdFinalizer]) heldServer releasedServer :=
  .of_kept kept_heldServer (by decide) (by decide)
    (.replaced (by rintro v ⟨⟩; rfl) ⟨rfl, rfl, id⟩ id ⟨rfl, rfl, rfl, rfl⟩ rfl)

theorem workspace_marked : Carries .workspace (.engine 0) workspacePath (.delete (some "2"))
    (markedWorkspace "3" [holdFinalizer]) releasedServer markedServer :=
  .of_kept kept_releasedServer (by decide) (by decide)
    (.marked (by rintro v ⟨⟩; rfl) ⟨rfl, rfl, fun _ => rfl⟩ (by decide) rfl ⟨rfl, rfl, rfl, rfl⟩
      rfl rfl)

theorem workspace_cleared :
    Meanwhile (Foreign .workspace (.engine 0)) releasedServer clearedServer := by
  have freed : Carries .workspace (.other 0) workspacePath
      (.replace (workspaceMeta none (some [])) (keptWorkspace "3" []).spec) (keptWorkspace "3" [])
      releasedServer freedServer :=
    .of_kept kept_releasedServer (by decide) (by decide)
      (.replaced nofun ⟨rfl, rfl, id⟩ id ⟨rfl, rfl, rfl, rfl⟩ rfl)
  have cleared : Carries .workspace (.other 0) workspacePath (.delete none)
      (markedWorkspace "4" []) freedServer clearedServer :=
    .of_kept kept_freedServer (by decide) (by decide)
      (.marked nofun ⟨rfl, rfl, fun _ => rfl⟩ (by decide) rfl ⟨rfl, rfl, rfl, rfl⟩ rfl rfl)
  exact .tail (.single (.wrote (by decide) freed)) (.wrote (by decide) cleared)

/-- A deletion of the workspace releases the cleanup finalizer, whatever comes of asking for the
removal then. -/
theorem workspace_disposed {s' : ApiServer} {result : Except Error Unit}
    (removed : Ends (Amid .workspace (.engine 0) (Foreign .workspace (.engine 0)))
      (remove .workspace "acme" workspaceKey (some "2")) releasedServer result s') :
    Ends (Amid .workspace (.engine 0) (Foreign .workspace (.engine 0)))
      (delete .workspace workspaceKey (some "1")) heldServer result s' := by
  have metadata : ObjectMeta.ofJson (releaseFinalizer
      (workspaceMeta (some "1") (some [cleanupFinalizer, holdFinalizer]))).toJson =
        some (workspaceMeta (some "1") (some [holdFinalizer])) := by decide +kernel
  obtain ⟨read, reads⟩ := ApiReply.read_of_ofText? (k := .workspace) heldText_shows
    (by rfl) (by rfl)
  obtain ⟨read', -⟩ := ApiReply.read_of_ofText? (k := .workspace) releasedText_shows
    (by rfl) (by rfl)
  have told := ApiReply.tells_of_ofText? heldText_shows
  have told' := ApiReply.tells_of_ofText? releasedText_shows
  exact delete_served rfl (fetch_served workspace_address kept_heldServer told read) rfl
    (dispose_held reads (by decide)
      (release_served
        (put_served workspace_address_query metadata workspace_released told' read')) removed)

/-- A workspace that another client holds as well is released and marked by the deletion that names
its version. Where that client lets go of it and has it removed in between, nothing is left to be
removed, and the deletion succeeds too. -/
theorem held_workspace_deleted :
    (∃ log, Dialogue.Held (Amid .workspace (.engine 0) (Foreign .workspace (.engine 0)))
      (call (k := .workspace) none (.delete workspaceKey (some "1"))) heldServer log (.ok ())
      markedServer ∧
      markedServer.kept workspacePath = some (markedWorkspace "3" [holdFinalizer]) ∧
      releasedServer.OnlySince (.engine 0) workspacePath "1" ∧
      holdFinalizer ≠ cleanupFinalizer) ∧
    ∃ log, Dialogue.Held (Amid .workspace (.engine 0) (Foreign .workspace (.engine 0)))
      (call (k := .workspace) none (.delete workspaceKey (some "1"))) heldServer log (.ok ())
      clearedServer ∧ clearedServer.kept workspacePath = none := by
  have agreed : (ApiReply.answered 200 "\x7b\"kind\":\"Status\"\x7d").read
      (deletionOfJson .workspace) = .ok () := ApiReply.read_answered (by decide +kernel)
  have unknown : (ApiReply.answered 404 "\x7b\x7d").read (deletionOfJson .workspace) =
      .error (.refused (Refusal.ofReply 404 "\x7b\x7d")) := rfl
  have missing : (ExchangeFailure.refused (Refusal.ofReply 404 "\x7b\x7d")).isMissing = true := by
    decide +kernel
  obtain ⟨log, held⟩ := workspace_disposed
    (remove_served workspace_address_query workspace_marked agreed)
  obtain ⟨log', held'⟩ := workspace_disposed
    (remove_missed workspace_address_query workspace_cleared kept_clearedServer unknown missing)
  have guarded := delete_guarded (v := "1") sound_heldServer
    (show Dialogue.Held _ (call (k := .workspace) none (.delete workspaceKey (some "1"))) _ _ _ _
      from held)
  have marks : (⟨.engine 0, workspacePath, some (keptWorkspace "2" [holdFinalizer]),
      markedWorkspace "3" [holdFinalizer]⟩ : ApiChange).Ends := by
    refine .inr ⟨rfl, ?_⟩
    rintro b ⟨⟩
    decide
  refine ⟨⟨log, held, kept_markedServer, ?_, by decide⟩, log', held', kept_clearedServer⟩
  exact (guarded.1 [] _ releasedServer.history rfl (List.suffix_cons _ _) rfl marks).2

end Cluster

end Reconciler
