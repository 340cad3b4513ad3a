import Reconciler.Proofs.Cluster.Cleanup
import Reconciler.Proofs.Cluster.Overlay
import Reconciler.Proofs.Store.Served

/-!
What a replacement leaves behind. In memory it is what was handed in; behind an API server the
status is laid over the one before, so that what it leaves out is read again.
-/

set_option autoImplicit false

namespace Reconciler

open ApiServer (Carries Amid Sound)

variable {k : Kind} {me : Client} {s s' s₁ s₂ s₃ : ApiServer} {o o' o₀ o₁ o₂ : Object k}
  {x y z : ApiObject} {path : String}

namespace Cluster

/-- Nobody else is at work on the server. -/
abbrev Alone (k : Kind) (me : Client) : ApiServer → (q : ClusterQuery) → q.Answer → ApiServer → Prop :=
  Amid k me fun _ _ => False

theorem quiet (meanwhile : Meanwhile (fun _ _ => False) s s') : s' = s := by
  cases meanwhile with
  | refl => rfl
  | tail _ step => exact step.elim

/-- What is kept after a replacement, where `x` was kept before. -/
structure Replaced (o : Object k) (x z : ApiObject) : Prop where
  spec : z.spec = Object.specToJson k o.spec
  labels : z.metadata.labelMap = o.metadata.labelMap
  annotations : z.metadata.annotations.getD ∅ = o.metadata.annotations.getD ∅
  unstated : o.status = none → z.status = x.status
  stated : ∀ status, o.status = some status →
    z.status = some (Object.merged (x.status.elim [] Json.fields) status)

theorem replace_kept (sound : s.Sound k) (ends : Ends (Alone k me) (replace o) s (.ok o') s') :
    ∃ path x z, (ObjectKey.ofObject o).path? k = some path ∧ s.kept path = some x ∧
      s'.kept path = some z ∧ Replaced o x z := by
  cases replace_ends ends with
  | @replaced _ s₁ s₂ s₃ _ path m x y versioned placed before seen current reads between read carries
      stating =>
    cases quiet before
    cases quiet between
    obtain ⟨b, kept, -, -, -, said, spec, status⟩ := carries.writes.of_replace
    cases seen.symm.trans kept
    replace said := said.trans read.agrees
    have held : cleanupFinalizer ∈ y.finalizers := by
      rw [ApiObject.finalizers_of_agrees said]
      exact (guards_ensureFinalizer _).held
    have own : s₃.kept path = some y := carries.kept.trans (ApiObject.settled_of_held held)
    cases stating with
    | unstated absent =>
      refine ⟨path, x, y, placed, seen, own, spec, said.labels, said.annotations, fun _ => status, ?_⟩
      intro status present
      cases absent.symm.trans present
    | @stated _ _ _ _ z new present meanwhile carries' told =>
      obtain ⟨rfl, -, said', spec', restated⟩ :=
        stated_upon False.elim (sound.carried carries) carries held meanwhile carries'
      have held' : cleanupFinalizer ∈ z.finalizers := by
        rw [ApiObject.finalizers_of_agrees said']
        exact held
      refine ⟨_, x, z, placed, seen, carries'.kept.trans (ApiObject.settled_of_held held'),
        spec'.trans spec, said'.labels.trans said.labels, said'.annotations.trans said.annotations,
        ?_, ?_⟩
      · intro absent
        cases absent.symm.trans present
      · intro new' here
        cases present.symm.trans here
        rw [restated, patchedStatus_statusPatch, status]

theorem Replaced.read (replaced : Replaced o x z) (reconciled : k.hasStatus = true)
    (tidy : ∀ j, x.status = some j → j.Tidy) (shown : ∀ c ∈ o.conditions, c.since.Shown)
    (before : o₀.Reads x) (after : o₂.Reads z) :
    o₂.status = Object.overStatus o.status o₀.status := by
  have old : Object.readStatus k x.status = some o₀.status := before.cases.2.2 reconciled
  have new : Object.readStatus k z.status = some o₂.status := after.cases.2.2 reconciled
  cases stated : o.status with
  | none =>
    rw [replaced.unstated stated, old] at new
    exact (Option.some.inj new).symm
  | some status =>
    rw [replaced.stated status stated] at new
    refine Object.readStatus_merged tidy (fun c listed => shown c ?_) old new
    rw [Object.conditions, stated]
    exact listed

end Cluster

theorem MemoryStore.get_replaced {m m' : MemoryStore k} (replaced : m.replace o = .ok (o', m')) :
    ∃ o'', m'.get (ObjectKey.ofObject o) = .ok o'' ∧ o''.spec = o.spec ∧
      o''.metadata.labels = o.metadata.labels ∧ o''.metadata.annotations = o.metadata.annotations ∧
        o''.status = o.status := by
  obtain ⟨-, current, -, -, -, same⟩ := replace_eq_ok.mp replaced
  cases same
  exact ⟨_, get_eq_ok.mpr (get?_write_self m _ _), rfl, rfl, rfl, rfl⟩

namespace Cluster

/-- Behind an API server on which nobody else is at work, whatever a replacement that succeeds
handed in is read again, except that its status is read over the one before. It is read exactly
if and only if it leaves out nothing that the one before tells; in memory it always is. -/
theorem replacement_read_back_iff {s₀ : ApiServer} (reconciled : k.hasStatus = true)
    (sound : s₀.Sound k) (shown : ∀ c ∈ o.conditions, c.since.Shown)
    (before : Ends (Alone k me) (get (ObjectKey.ofObject o)) s₀ (.ok o₀) s₁)
    (replaced : Ends (Alone k me) (replace o) s₁ (.ok o₁) s₂)
    (after : Ends (Alone k me) (get (ObjectKey.ofObject o)) s₂ (.ok o₂) s₃) :
    o₂.spec = o.spec ∧ o₂.metadata.labelMap = o.metadata.labelMap ∧
      o₂.metadata.annotations.getD ∅ = o.metadata.annotations.getD ∅ ∧
      o₂.status = Object.overStatus o.status o₀.status ∧
      (o₂.status = o.status ↔ Object.CoversStatus o.status o₀.status) ∧
      ∀ (m m' : MemoryStore k) (o' : Object k), m.replace o = .ok (o', m') →
        ∃ o'', m'.get (ObjectKey.ofObject o) = .ok o'' ∧ o''.spec = o.spec ∧
          o''.metadata.labels = o.metadata.labels ∧
            o''.metadata.annotations = o.metadata.annotations ∧ o''.status = o.status := by
  obtain ⟨same, shown₀⟩ := get_ends before
  cases quiet same
  obtain ⟨path, x, z, placed, kept, kept', leaves⟩ := replace_kept sound replaced
  obtain ⟨same, shown₂⟩ := get_ends after
  cases quiet same
  obtain ⟨path₀, x₀, placed₀, seen₀, reads₀⟩ := shown₀ o₀ rfl
  cases placed.symm.trans placed₀
  cases kept.symm.trans seen₀
  obtain ⟨path₂, z₂, placed₂, seen₂, reads₂⟩ := shown₂ o₂ rfl
  cases placed.symm.trans placed₂
  cases kept'.symm.trans seen₂
  obtain ⟨metadata, spec, -⟩ := reads₂.cases
  have status := leaves.read reconciled (sound.kept_tidy kept) shown reads₀ reads₂
  rw [leaves.spec] at spec
  refine ⟨Object.eq_of_spec reconciled spec, ?_, ?_, status, ?_, fun m m' o' => MemoryStore.get_replaced⟩
  · rw [metadata]
    exact leaves.labels
  · rw [metadata]
    exact leaves.annotations
  · rw [status]
    exact Object.overStatus_eq_self_iff

def volumeKey : ObjectKey := ⟨some "acme", "vol-1"⟩

def volumePath : String := "/apis/storage.v1.secapi.cloud/v1/namespaces/acme/block-storages/vol-1"

def volume (version : String) (finalizers : Option (List String)) (attachedTo : Option String) :
    Object .volume where
  metadata :=
    { ObjectMeta.blank with
      name := some "vol-1", namespaceName := some "acme", resourceVersion := some version
      finalizers := finalizers }
  spec := ⟨10, "skus/rd500", none⟩
  status := some ⟨⟨none, []⟩, ⟨10, none, attachedTo⟩⟩

def keptVolume (version : String) (finalizers : Option (List String))
    (status : List (String × Json)) : ApiObject where
  metadata := (volume version finalizers none).metadata
  spec := Object.specToJson .volume (volume version finalizers none).spec
  status := some (.record status)

def attached : List (String × Json) := [("attachedTo", .text "vm-1"), ("sizeGB", .int 10)]

/-- What is kept before the replacement, between its two requests, and after it. -/
def attachedVolume : ApiObject := keptVolume "2" none attached

def writtenVolume : ApiObject := keptVolume "3" (some [cleanupFinalizer]) attached

def restatedVolume : ApiObject :=
  keptVolume "4" (some [cleanupFinalizer]) (attached ++ [("conditions", .list [])])

def volumeText (metadata status : String) : String :=
  "\x7b\"metadata\":\x7b\"name\":\"vol-1\",\"namespace\":\"acme\"," ++ metadata ++
    "\x7d,\"spec\":\x7b\"sizeGB\":10,\"skuRef\":\"skus/rd500\"\x7d," ++
      "\"status\":\x7b\"attachedTo\":\"vm-1\",\"sizeGB\":10" ++ status ++ "\x7d\x7d"

def attachedText : String := volumeText "\"resourceVersion\":\"2\"" ""

def writtenText : String :=
  volumeText "\"resourceVersion\":\"3\",\"finalizers\":[\"secapi.cloud.foundation/cleanup\"]" ""

def restatedText : String :=
  volumeText "\"resourceVersion\":\"4\",\"finalizers\":[\"secapi.cloud.foundation/cleanup\"]"
    ",\"conditions\":[]"

theorem attachedVolume_shown : ApiObject.ofText? attachedText = some attachedVolume := by
  decide +kernel

theorem writtenVolume_shown : ApiObject.ofText? writtenText = some writtenVolume := by
  decide +kernel

theorem restatedVolume_shown : ApiObject.ofText? restatedText = some restatedVolume := by
  decide +kernel

def createdVolume : ApiObject := { keptVolume "1" none [] with status := none }

def createdServer : ApiServer :=
  ApiServer.record ⟨[]⟩ ⟨.other 0, volumePath, none, createdVolume⟩

def attachedServer : ApiServer :=
  createdServer.record ⟨.other 0, volumePath, some createdVolume, attachedVolume⟩

def writtenServer : ApiServer :=
  attachedServer.record ⟨.engine 0, volumePath, some attachedVolume, writtenVolume⟩

def restatedServer : ApiServer :=
  writtenServer.record ⟨.engine 0, volumePath, some writtenVolume, restatedVolume⟩

theorem kept_createdServer : createdServer.kept volumePath = some createdVolume :=
  (ApiServer.kept_record_self _ _).trans (ApiObject.settled_of_alive (by decide))

theorem kept_attachedServer : attachedServer.kept volumePath = some attachedVolume :=
  (ApiServer.kept_record_self _ _).trans (ApiObject.settled_of_alive (by decide))

theorem kept_writtenServer : writtenServer.kept volumePath = some writtenVolume :=
  (ApiServer.kept_record_self _ _).trans (ApiObject.settled_of_alive (by decide))

theorem kept_restatedServer : restatedServer.kept volumePath = some restatedVolume :=
  (ApiServer.kept_record_self _ _).trans (ApiObject.settled_of_alive (by decide))

theorem sound_attachedServer : attachedServer.Sound .volume := by
  have placed : createdVolume.metadata.key.path? .volume = some volumePath := by decide +kernel
  have creates : (ApiEdit.create createdVolume.metadata createdVolume.spec).Writes .volume volumePath
      none createdVolume :=
    .created placed (fun _ => id) (fun _ => id) ⟨rfl, rfl, rfl, rfl⟩ (by decide) rfl
  have states : (ApiEdit.restate none fun _ => attachedVolume.status).Writes .volume volumePath
      (some createdVolume) attachedVolume :=
    .restated nofun ⟨rfl, rfl, id⟩ id ⟨rfl, rfl, rfl, rfl⟩ rfl rfl
      (by rintro j ⟨⟩; unfold Json.Tidy; decide)
  exact .carried (.carried .empty (.of_kept rfl (by decide) (by decide) creates))
    (.of_kept kept_createdServer (by decide) (by decide) states)

theorem volume_written : Carries .volume (.engine 0) volumePath
    (.replace (volume "2" (some [cleanupFinalizer]) none).metadata writtenVolume.spec)
    writtenVolume attachedServer writtenServer :=
  .of_kept kept_attachedServer (by decide) (by decide)
    (.replaced (by rintro v ⟨⟩; rfl) ⟨rfl, rfl, id⟩ id ⟨rfl, rfl, rfl, rfl⟩ rfl)

theorem volume_restated : Carries .volume (.engine 0) volumePath (.restate (some "3")
    (statusPatch (some "3") (Object.statusToJson (k := .volume) ⟨⟨none, []⟩, ⟨10, none, none⟩⟩)).patchedStatus)
    restatedVolume writtenServer restatedServer := by
  refine .of_kept kept_writtenServer (by decide) (by decide) (.restated ?_ ⟨rfl, rfl, id⟩ id
    ⟨rfl, rfl, rfl, rfl⟩ rfl (by decide +kernel) ?_)
  · rintro v ⟨⟩
    rfl
  · rintro j ⟨⟩
    unfold Json.Tidy
    decide

/-- The volume is read, replaced by one that is attached to no machine, and read again. -/
theorem detachment_run :
    Ends (Alone .volume (.engine 0)) (get volumeKey) attachedServer
      (.ok (volume "2" none (some "vm-1"))) attachedServer ∧
    Ends (Alone .volume (.engine 0)) (replace (volume "2" none none)) attachedServer
      (.ok (volume "4" (some [cleanupFinalizer]) (some "vm-1"))) restatedServer ∧
    Ends (Alone .volume (.engine 0)) (get volumeKey) restatedServer
      (.ok (volume "4" (some [cleanupFinalizer]) (some "vm-1"))) restatedServer := by
  have named : Address.ofText? (itemTarget .volume "acme" volumeKey) =
      some ⟨volumePath, none⟩ := by decide +kernel
  have named' : Address.ofText? (itemTarget .volume "acme" volumeKey ++ "?") =
      some ⟨volumePath, some ""⟩ := by decide +kernel
  have named'' : Address.ofText? (itemTarget .volume "acme" volumeKey ++ "/status?") =
      some ⟨volumePath ++ "/status", some ""⟩ := by decide +kernel
  have spec : Object.specOfJson .volume attachedVolume.spec = some (volume "2" none none).spec := by
    decide +kernel
  have told := ApiReply.tells_of_ofText? attachedVolume_shown
  have told' := ApiReply.tells_of_ofText? writtenVolume_shown
  have told'' := ApiReply.tells_of_ofText? restatedVolume_shown
  obtain ⟨read, -⟩ := ApiReply.read_of_ofText? attachedVolume_shown spec
    (show _ = some (volume "2" none (some "vm-1")).status by decide +kernel)
  obtain ⟨read', reads'⟩ := ApiReply.read_of_ofText? writtenVolume_shown spec
    (show _ = some (volume "2" none (some "vm-1")).status by decide +kernel)
  obtain ⟨read'', -⟩ := ApiReply.read_of_ofText? restatedVolume_shown spec
    (show _ = some (volume "2" none (some "vm-1")).status by decide +kernel)
  have metadata : ObjectMeta.ofJson (keepUnmanaged attachedVolume.metadata
      (volume "2" none none).metadata).toJson =
        some (volume "2" (some [cleanupFinalizer]) none).metadata := by decide +kernel
  have before : Ends (Alone .volume (.engine 0)) (fetch "acme" volumeKey) attachedServer
      (.ok (volume "2" none (some "vm-1"))) attachedServer :=
    fetch_served named kept_attachedServer told read
  have after : Ends (Alone .volume (.engine 0)) (fetch "acme" volumeKey) restatedServer
      (.ok (volume "4" (some [cleanupFinalizer]) (some "vm-1"))) restatedServer :=
    fetch_served named kept_restatedServer told'' read''
  refine ⟨get_served rfl before, replace_served rfl rfl before
    (put_served named' metadata volume_written told' read')
    (writeStatus_served reads' named'' rfl volume_restated told'' read''), get_served rfl after⟩

/-- A volume that is handed in as attached to no machine is read as attached as before, although
the replacement named the stored version and succeeded. -/
theorem detached_volume_stays_attached : ∃ (s' : ApiServer) (o₁ o₂ : Object .volume),
    attachedServer.Sound .volume ∧ attachedServer.kept volumePath = some attachedVolume ∧
    (volume "2" none none).version = attachedVolume.version ∧
    Ends (Alone .volume (.engine 0)) (replace (volume "2" none none)) attachedServer (.ok o₁) s' ∧
    Ends (Alone .volume (.engine 0)) (get volumeKey) s' (.ok o₂) s' ∧
    o₂.status ≠ (volume "2" none none).status := by
  obtain ⟨-, replaced, after⟩ := detachment_run
  exact ⟨_, _, _, sound_attachedServer, kept_attachedServer, rfl, replaced, after, by decide⟩

theorem detached_volume_read_back : ∃ (s' : ApiServer) (o₀ o₁ o₂ : Object .volume),
    attachedServer.Sound .volume ∧
    Ends (Alone .volume (.engine 0)) (get volumeKey) attachedServer (.ok o₀) attachedServer ∧
    Ends (Alone .volume (.engine 0)) (replace (volume "2" none none)) attachedServer (.ok o₁) s' ∧
    Ends (Alone .volume (.engine 0)) (get volumeKey) s' (.ok o₂) s' ∧
    o₂.spec = (volume "2" none none).spec ∧
    o₂.status = Object.overStatus (volume "2" none none).status o₀.status := by
  obtain ⟨before, replaced, after⟩ := detachment_run
  obtain ⟨spec, -, -, status, -⟩ := replacement_read_back_iff rfl sound_attachedServer
    (o := volume "2" none none) (by rintro c ⟨⟩) before replaced after
  exact ⟨_, _, _, _, sound_attachedServer, before, replaced, after, spec, status⟩

end Cluster

end Reconciler
