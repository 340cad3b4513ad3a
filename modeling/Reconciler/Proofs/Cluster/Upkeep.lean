import Reconciler.Proofs.Cluster.Calls

/-!
Creations, replacements and records behind an API server: the object is written first, and its
status on top of exactly what was written.
-/

set_option autoImplicit false

namespace Reconciler

open ApiServer (Carries Amid Foreign Sound)

variable {k : Kind} {me : Client} {others : ApiServer → ApiServer → Prop}
  {s s' : ApiServer} {key : ObjectKey} {ns : String} {o : Object k} {y : ApiObject}

namespace Cluster

def statusPatch (version : Option String) (status : Json) : Json :=
  .record [versionGuard version, ("status", status)]

theorem versionNamed_statusPatch (version : Option String) (status : Json) :
    Json.versionNamed ((statusPatch version status).field? "metadata") = version := by
  cases version <;>
    simp [statusPatch, versionGuard, Json.versionNamed, Json.ofOption, Json.asText]

inductive Stating (k : Kind) (me : Client) (others : ApiServer → ApiServer → Prop)
    (status : Option (Status k String String)) (y : ApiObject) (s : ApiServer) :
    Except Error (Object k) → ApiServer → Prop
  | undone {e : Error} {s' : ApiServer} (meanwhile : Meanwhile others s s') :
      Stating k me others status y s (.error e) s'
  | unstated {o' : Object k} (absent : status = none) (reads : o'.Reads y) :
      Stating k me others status y s (.ok o') s
  | stated {result : Except Error (Object k)} {s₁ s' : ApiServer} {path : String} {z : ApiObject}
      {status' : Status k String String} (present : status = some status')
      (meanwhile : Meanwhile others s s₁)
      (carries : Carries k me path (.restate y.version
        (statusPatch y.version (Object.statusToJson status')).patchedStatus) z s₁ s')
      (told : ∀ o', result = .ok o' → o'.Reads z) : Stating k me others status y s result s'

theorem writeStatus_ends {status : Option (Status k String String)} {written : Object k}
    {result : Except Error (Object k)} (reads : written.Reads y)
    (ends : Ends (Amid k me others) (writeStatus ns key written status) s result s') :
    Stating k me others status y s result s' := by
  have version : written.version = y.version :=
    congrArg ObjectMeta.resourceVersion reads.metadata
  unfold writeStatus at ends
  cases status with
  | none =>
    obtain ⟨rfl, rfl⟩ := ends.of_pure
    exact .unstated rfl reads
  | some status =>
    dsimp only at ends
    rw [version] at ends
    cases patchStatus_ends ends with
    | undone meanwhile => exact .undone meanwhile
    | done meanwhile asks carries told =>
      have named := versionNamed_statusPatch y.version (Object.statusToJson status)
      unfold statusPatch at named
      rw [asks, named] at carries
      exact .stated rfl meanwhile carries told

theorem writeStatus_served {a : Address} {path : String} {z : ApiObject} {reply : ApiReply}
    {status : Status k String String} {written o' : Object k} (reads : written.Reads y)
    (named : Address.ofText? (itemTarget k ns key ++ "/status?") = some a)
    (sub : a.path = path ++ "/status")
    (carries : Carries k me path (.restate y.version
      (statusPatch y.version (Object.statusToJson status)).patchedStatus) z s s')
    (told : reply.Tells z) (read : reply.read (Object.ofJson k) = .ok o') :
    Ends (Amid k me others) (writeStatus ns key written (some status)) s (.ok o') s' := by
  have version : written.version = y.version :=
    congrArg ObjectMeta.resourceVersion reads.metadata
  have asks := ApiRequest.Asks.restate (j := statusPatch y.version (Object.statusToJson status)) sub
  rw [versionNamed_statusPatch] at asks
  unfold writeStatus
  dsimp only
  rw [version]
  unfold patchStatus request
  rw [named]
  exact perform_served (.carried asks carries told) read

def desired (o : Object k) : Object k :=
  { o with metadata := ensureFinalizer { o.metadata with resourceVersion := none } }

inductive Creating (k : Kind) (me : Client) (others : ApiServer → ApiServer → Prop)
    (o : Object k) (s : ApiServer) : Except Error (Object k) → ApiServer → Prop
  | idle {e : Error} {s' : ApiServer} (meanwhile : Meanwhile others s s') :
      Creating k me others o s (.error e) s'
  | created {result : Except Error (Object k)} {s₁ s₂ s' : ApiServer} {path : String}
      {m : ObjectMeta} {y : ApiObject} (meanwhile : Meanwhile others s s₁)
      (read : (desired o).metadata.Reread m)
      (carries : Carries k me path (.create m (Object.specToJson k o.spec)) y s₁ s₂)
      (stating : Stating k me others o.status y s₂ result s') :
      Creating k me others o s result s'

theorem create_ends {result : Except Error (Object k)}
    (ends : Ends (Amid k me others) (create o) s result s') :
    Creating k me others o s result s' := by
  unfold create at ends
  rcases ends.of_bind with ⟨e, housing, rfl⟩ | ⟨ns, s₀, housing, goes⟩
  · obtain ⟨rfl, -⟩ := requireNamespace_ends housing
    exact .idle .refl
  obtain ⟨rfl, -⟩ := requireNamespace_ends housing
  rcases goes.of_bind with ⟨e, posted, rfl⟩ | ⟨created, s₁, posted, rest⟩
  · cases post_ends posted with
    | undone meanwhile => exact .idle meanwhile
    | done meanwhile asks carries told =>
      obtain ⟨m, read, rfl⟩ := asks
      exact .created meanwhile read carries (.undone .refl)
  · cases post_ends posted with
    | done meanwhile asks carries told =>
      obtain ⟨m, read, rfl⟩ := asks
      exact .created meanwhile read carries (writeStatus_ends (told created rfl) rest)

theorem create_served {a : Address} {reply : ApiReply} {o' : Object k}
    (home : o.metadata.namespaceName = some ns) (unstated : o.status = none)
    (named : Address.ofText? (collection k (some ns) ++ "?") = some a)
    (serves : ApiServer.Serves k me s ⟨.post, a, jsonBody (desired o).toJson⟩ reply s')
    (read : reply.read (Object.ofJson k) = .ok o') :
    Ends (Amid k me others) (create o) s (.ok o') s' := by
  unfold create request
  refine (requireNamespace_served home).bind ?_
  rw [named]
  refine (perform_served serves read).bind ?_
  rw [unstated]
  exact .pure o' s'

/-- What comes of replacing an object: `x` is the one that was read first. -/
inductive Replacing (k : Kind) (me : Client) (others : ApiServer → ApiServer → Prop)
    (o : Object k) (s : ApiServer) : Except Error (Object k) → ApiServer → Prop
  | idle {e : Error} {s' : ApiServer} (meanwhile : Meanwhile others s s') :
      Replacing k me others o s (.error e) s'
  | replaced {result : Except Error (Object k)} {s₁ s₂ s₃ s' : ApiServer} {path : String}
      {m : ObjectMeta} {x y : ApiObject} (versioned : o.version.isSome = true)
      (placed : (ObjectKey.ofObject o).path? k = some path)
      (before : Meanwhile others s s₁) (seen : s₁.kept path = some x) {current : Object k}
      (reads : current.Reads x) (between : Meanwhile others s₁ s₂)
      (read : (keepUnmanaged x.metadata o.metadata).Reread m)
      (carries : Carries k me path (.replace m (Object.specToJson k o.spec)) y s₂ s₃)
      (stating : Stating k me others o.status y s₃ result s') :
      Replacing k me others o s result s'

theorem replace_ends {result : Except Error (Object k)}
    (ends : Ends (Amid k me others) (replace o) s result s') :
    Replacing k me others o s result s' := by
  unfold replace at ends
  rcases ends.of_bind with ⟨e, housing, rfl⟩ | ⟨ns, s₀, housing, goes⟩
  · obtain ⟨rfl, -⟩ := requireNamespace_ends housing
    exact .idle .refl
  obtain ⟨rfl, home⟩ := requireNamespace_ends housing
  dsimp only at goes
  by_cases unversioned : o.version.isNone = true
  · rw [if_pos unversioned] at goes
    obtain ⟨rfl, rfl⟩ := goes.of_throw
    exact .idle .refl
  rw [if_neg unversioned] at goes
  have versioned : o.version.isSome = true := by
    cases version : o.version with
    | none => exact absurd (by rw [version]; rfl) unversioned
    | some v => rfl
  rcases goes.of_bind with ⟨e, fetched, rfl⟩ | ⟨current, s₁, fetched, puts⟩
  · exact .idle (fetch_ends (home ns rfl) fetched).1
  obtain ⟨before, shown⟩ := fetch_ends (home ns rfl) fetched
  obtain ⟨path, x, placed, seen, reads⟩ := shown current rfl
  rw [reads.metadata] at puts
  rcases puts.of_bind with ⟨e, put, rfl⟩ | ⟨replaced, s₂, put, rest⟩
  · obtain ⟨outcome, tried, -⟩ := perform_ends put
    cases put_ends (home ns rfl) placed tried with
    | undone between => exact .idle (before.trans between)
    | done between read carries =>
      exact .replaced versioned placed before seen reads between read carries (.undone .refl)
  · obtain ⟨outcome, tried, told⟩ := perform_ends put
    cases told replaced rfl
    cases put_ends (home ns rfl) placed tried with
    | undone between failed => exact absurd rfl (failed replaced)
    | done between read carries told =>
      exact .replaced versioned placed before seen reads between read carries
        (writeStatus_ends (told replaced rfl) rest)

theorem replace_served {answers : ApiServer → (q : ClusterQuery) → q.Answer → ApiServer → Prop}
    {result : Except Error (Object k)} {current written : Object k} {s₁ s₂ : ApiServer}
    (home : (ObjectKey.ofObject o).namespaceName = some ns) (versioned : o.version.isSome = true)
    (fetched : Ends answers (fetch ns (ObjectKey.ofObject o)) s (.ok current) s₁)
    (put : Ends answers (tryExchange (Object.ofJson k) (putRequest ns (ObjectKey.ofObject o)
      { o with metadata := keepUnmanaged current.metadata o.metadata })) s₁ (.ok (.ok written)) s₂)
    (stated : Ends answers (writeStatus ns (ObjectKey.ofObject o) written o.status) s₂ result s') :
    Ends answers (replace o) s result s' := by
  have unversioned : ¬o.version.isNone = true := by simp [Option.isSome_iff_ne_none.mp versioned]
  unfold replace
  refine (requireNamespace_served home).bind ?_
  rw [if_neg unversioned]
  exact fetched.bind ((put.bind (.pure written s₂)).bind stated)

theorem get_served {answers : ApiServer → (q : ClusterQuery) → q.Answer → ApiServer → Prop}
    {result : Except Error (Object k)} (home : key.namespaceName = some ns)
    (fetched : Ends answers (fetch ns key) s result s') : Ends answers (get key) s result s' :=
  (requireNamespace_served home).bind fetched

theorem get_ends {result : Except Error (Object k)}
    (ends : Ends (Amid k me others) (get key) s result s') :
    Meanwhile others s s' ∧ ∀ o, result = .ok o →
      ∃ path x, key.path? k = some path ∧ s'.kept path = some x ∧ o.Reads x := by
  unfold get at ends
  rcases ends.of_bind with ⟨e, housing, rfl⟩ | ⟨ns, s₀, housing, goes⟩
  · obtain ⟨rfl, -⟩ := requireNamespace_ends housing
    exact ⟨.refl, fun _ told => nomatch told⟩
  · obtain ⟨rfl, home⟩ := requireNamespace_ends housing
    exact fetch_ends (home ns rfl) goes

inductive Recording (k : Kind) (me : Client) (others : ApiServer → ApiServer → Prop)
    (s s' : ApiServer) : Prop
  | idle (meanwhile : Meanwhile others s s')
  | stated {s₁ : ApiServer} {path : String} {version : Option String}
      {change : Option Json → Option Json} {z : ApiObject} (meanwhile : Meanwhile others s s₁)
      (carries : Carries k me path (.restate version change) z s₁ s')

theorem record_ends {c : Condition String} {result : Except Error Bool}
    (ends : Ends (Amid k me others) (record k key c) s result s') : Recording k me others s s' := by
  unfold record at ends
  rcases ends.of_bind with ⟨e, housing, rfl⟩ | ⟨ns, s₀, housing, goes⟩
  · obtain ⟨rfl, -⟩ := requireNamespace_ends housing
    exact .idle .refl
  obtain ⟨rfl, home⟩ := requireNamespace_ends housing
  rcases goes.of_bind with ⟨e, fetched, rfl⟩ | ⟨current, s₁, fetched, rest⟩
  · exact .idle (fetch_ends (home ns rfl) fetched).1
  obtain ⟨before, -⟩ := fetch_ends (home ns rfl) fetched
  have patched : ∀ {outcome s₂ patch}, Ends (Amid k me others)
      (patchStatus (k := k) ns key patch) s₁ outcome s₂ → Recording k me others s₀ s₂ := by
    intro outcome s₂ patch patches
    cases patchStatus_ends patches with
    | undone meanwhile => exact .idle (before.trans meanwhile)
    | done meanwhile asks carries =>
      rw [asks] at carries
      exact .stated (before.trans meanwhile) carries
  dsimp only at rest
  split at rest
  · obtain ⟨rfl, rfl⟩ := rest.of_pure
    exact .idle before
  · rcases rest.of_bind with ⟨e, patches, rfl⟩ | ⟨o', s₂, patches, answers⟩
    · exact patched patches
    · obtain ⟨rfl, rfl⟩ := answers.of_pure
      exact patched patches

end Cluster

end Reconciler
