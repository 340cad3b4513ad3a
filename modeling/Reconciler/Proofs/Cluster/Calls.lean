import Reconciler.Proofs.Cluster.Exchange

/-!
What the calls of a store behind an API server come to, request by request: what was seen, what
others did meanwhile, and which edits the server carried out for the call.
-/

set_option autoImplicit false

namespace Reconciler

open ApiServer (Carries Amid Foreign Sound)

variable {k : Kind} {α : Type} {me : Client} {others : ApiServer → ApiServer → Prop}
  {s s' : ApiServer}

theorem ObjectMeta.Reread.agrees {m m' : ObjectMeta} (read : m.Reread m') : m'.Agrees m :=
  ⟨by simp [labelMap, read.labels], by simp [read.annotations], by simp [read.finalizers],
    by simp [read.ownerReferences]⟩

theorem ObjectMeta.Agrees.trans {m m' m'' : ObjectMeta} (first : m.Agrees m')
    (second : m'.Agrees m'') : m.Agrees m'' :=
  ⟨first.labels.trans second.labels, first.annotations.trans second.annotations,
    first.finalizers.trans second.finalizers, first.owners.trans second.owners⟩

theorem ObjectKey.path?_eq_some {key : ObjectKey} {ns : String} {a : Address}
    (home : key.namespaceName = some ns)
    (named : Address.ofText? (Cluster.itemTarget k ns key) = some a) :
    key.path? k = some a.path := by
  simp [path?, home, named]

theorem ApiServer.Sound.meanwhile (foreign : ∀ {s s'}, others s s' → Foreign k me s s')
    (sound : s.Sound k) (meanwhile : Cluster.Meanwhile others s s') :
    s'.Sound k ∧ s.history <:+ s'.history := by
  induction meanwhile with
  | refl => exact ⟨sound, List.suffix_refl _⟩
  | tail _ step ih =>
    cases foreign step with
    | wrote _ carries => exact ⟨ih.1.carried carries, ih.2.trans carries.suffix⟩

namespace ApiServer

/-- Whatever a client has written since is so, in view of what was there before. -/
def OwnWrites (me : Client) (P : ApiChange → ApiServer → Prop) (s s' : ApiServer) : Prop :=
  ∀ newer c older, s'.history = newer ++ c :: older → s.history <:+ older → c.author = me →
    P c ⟨older⟩

namespace OwnWrites

variable {P : ApiChange → ApiServer → Prop} {s₁ s₂ : ApiServer} {path : String} {edit : ApiEdit}
  {who : Client} {y : ApiObject}

theorem refl (s : ApiServer) : OwnWrites me P s s := by
  intro newer c older split later
  have longer := congrArg List.length split
  have shorter := later.length_le
  simp only [List.length_append, List.length_cons] at longer
  omega

theorem carries (so : OwnWrites me P s s₁) (carries : Carries k who path edit y s₁ s₂)
    (fits : who = me → P ⟨who, path, s₁.kept path, y⟩ s₁) : OwnWrites me P s s₂ := by
  intro newer c older split later own
  rw [carries.eq_record] at split
  cases newer with
  | nil =>
    obtain ⟨rfl, rfl⟩ := List.cons.inj split
    exact fits own
  | cons d newer => exact so newer c older (List.cons.inj split).2 later own

theorem meanwhile (foreign : ∀ {s s'}, others s s' → Foreign k me s s')
    (so : OwnWrites me P s s₁) (meanwhile : Cluster.Meanwhile others s₁ s₂) :
    OwnWrites me P s s₂ := by
  induction meanwhile with
  | refl => exact so
  | tail _ step ih =>
    cases foreign step with
    | wrote foreign carries => exact ih.carries carries fun own => absurd own foreign

end OwnWrites

end ApiServer

namespace Cluster

variable {reader : Json.Reader α} {method : HttpMethod} {target ns path : String}
  {body : Option RequestBody} {key : ObjectKey} {o : Object k}

theorem request_ends {result : Except Error (Except ExchangeFailure α)}
    (ends : Ends (Amid k me others) (tryExchange reader (request method target body)) s result s') :
    (Meanwhile others s s' ∧ (∀ a, result ≠ .ok (.ok a)) ∧
      ∀ failure, result = .ok (.error failure) → failure.isMissing = false) ∨
      ∃ a s₁, Address.ofText? target = some a ∧ Meanwhile others s s₁ ∧
        Outcome k me reader ⟨method, a, body⟩ s₁ result s' := by
  unfold request at ends
  cases named : Address.ofText? target with
  | none =>
    rw [named] at ends
    exact .inl (tryExchange_none_ends ends)
  | some a =>
    rw [named] at ends
    obtain ⟨s₁, meanwhile, outcome⟩ := tryExchange_ends ends
    exact .inr ⟨a, s₁, rfl, meanwhile, outcome⟩

theorem fetch_ends {result : Except Error (Object k)} (home : key.namespaceName = some ns)
    (ends : Ends (Amid k me others) (fetch ns key) s result s') :
    Meanwhile others s s' ∧ ∀ o, result = .ok o →
      ∃ path x, key.path? k = some path ∧ s'.kept path = some x ∧ o.Reads x := by
  obtain ⟨outcome, tried, told⟩ := perform_ends ends
  rcases request_ends tried with ⟨meanwhile, failed, -⟩ | ⟨a, s₁, named, meanwhile, came⟩
  · exact ⟨meanwhile, fun o this => absurd (told o this) (failed o)⟩
  cases came with
  | shown get kept shows read =>
    refine ⟨meanwhile, fun o this => ?_⟩
    cases told o this
    exact ⟨a.path, _, ObjectKey.path?_eq_some home named, kept, _, shows, read⟩
  | carried asks => cases asks
  | awaited asks => cases asks
  | failed failed => exact ⟨meanwhile, fun o this => absurd (told o this) (failed o)⟩

theorem fetch_served {a : Address} {x : ApiObject} {reply : ApiReply}
    (named : Address.ofText? (itemTarget k ns key) = some a) (kept : s.kept a.path = some x)
    (told : reply.Tells x) (read : reply.read (Object.ofJson k) = .ok o) :
    Ends (Amid k me others) (fetch ns key) s (.ok o) s := by
  unfold fetch request
  rw [named]
  exact perform_served (.shown rfl kept told) read

/-- What comes of writing an object over the one that is kept. -/
inductive Putting (k : Kind) (me : Client) (others : ApiServer → ApiServer → Prop)
    (path : String) (o : Object k) (s : ApiServer) :
    Except Error (Except ExchangeFailure (Object k)) → ApiServer → Prop
  | undone {result : Except Error (Except ExchangeFailure (Object k))} {s' : ApiServer}
      (meanwhile : Meanwhile others s s') (failed : ∀ o', result ≠ .ok (.ok o'))
      (missing : ∀ failure, result = .ok (.error failure) → failure.isMissing = true →
        s'.kept path = none) : Putting k me others path o s result s'
  | done {result : Except Error (Except ExchangeFailure (Object k))} {s₁ s' : ApiServer}
      {m : ObjectMeta} {y : ApiObject} (meanwhile : Meanwhile others s s₁)
      (read : o.metadata.Reread m)
      (carries : Carries k me path (.replace m (Object.specToJson k o.spec)) y s₁ s')
      (told : ∀ o', result = .ok (.ok o') → o'.Reads y)
      (silent : ∀ failure, result = .ok (.error failure) → failure.isMissing = false) :
      Putting k me others path o s result s'

theorem path_of_query (home : key.namespaceName = some ns) (placed : key.path? k = some path)
    {a : Address} (named : Address.ofText? (itemTarget k ns key ++ "?") = some a) :
    a.path = path := by
  cases named' : Address.ofText? (itemTarget k ns key) with
  | none => simp [ObjectKey.path?, home, named'] at placed
  | some b =>
    rw [Address.path_query named' named]
    exact Option.some.inj ((ObjectKey.path?_eq_some home named').symm.trans placed)

theorem put_ends {result : Except Error (Except ExchangeFailure (Object k))}
    (home : key.namespaceName = some ns) (placed : key.path? k = some path)
    (ends : Ends (Amid k me others) (tryExchange (Object.ofJson k) (putRequest ns key o)) s
      result s') : Putting k me others path o s result s' := by
  rcases request_ends ends with ⟨meanwhile, failed, silent⟩ | ⟨a, s₁, named, meanwhile, came⟩
  · refine .undone meanwhile failed fun failure this missing => ?_
    rw [silent failure this] at missing
    cases missing
  have here : a.path = path := path_of_query home placed named
  cases came with
  | shown get => cases get
  | awaited asks => cases asks
  | failed failed missing => exact .undone meanwhile failed (here ▸ missing)
  | carried asks carries told silent =>
    cases asks with
    | replace metadata desired =>
      rw [o.toJson_metadata] at metadata
      cases o.toJson_spec.symm.trans desired
      refine .done meanwhile (ObjectMeta.reread_of_toJson metadata) (here ▸ carries) ?_ silent
      intro o' this
      rcases told o' this with impossible | ⟨j, shows, read⟩
      · cases impossible
      · exact ⟨j, shows, read⟩

theorem put_served {a : Address} {m : ObjectMeta} {y : ApiObject} {reply : ApiReply} {o' : Object k}
    (named : Address.ofText? (itemTarget k ns key ++ "?") = some a)
    (metadata : ObjectMeta.ofJson o.metadata.toJson = some m)
    (carries : Carries k me a.path (.replace m (Object.specToJson k o.spec)) y s s')
    (told : reply.Tells y) (read : reply.read (Object.ofJson k) = .ok o') :
    Ends (Amid k me others) (tryExchange (Object.ofJson k) (putRequest ns key o)) s
      (.ok (.ok o')) s' := by
  have asks : ApiRequest.Asks ⟨.put, a, jsonBody o.toJson⟩ a.path
      (.replace m (Object.specToJson k o.spec)) :=
    .replace (o.toJson_metadata.trans metadata) o.toJson_spec
  unfold putRequest request
  rw [named, ← read]
  exact tryExchange_served .refl (.carried asks carries told)

inductive Writing (k : Kind) (me : Client) (others : ApiServer → ApiServer → Prop)
    (asked : String → ApiEdit → Prop) (s : ApiServer) :
    Except Error (Object k) → ApiServer → Prop
  | undone {e : Error} {s' : ApiServer} (meanwhile : Meanwhile others s s') :
      Writing k me others asked s (.error e) s'
  | done {result : Except Error (Object k)} {s₁ s' : ApiServer} {path : String} {edit : ApiEdit}
      {y : ApiObject} (meanwhile : Meanwhile others s s₁) (asks : asked path edit)
      (carries : Carries k me path edit y s₁ s') (told : ∀ o', result = .ok o' → o'.Reads y) :
      Writing k me others asked s result s'

theorem write_ends {result : Except Error (Object k)} (writes : method ≠ .get ∧ method ≠ .delete)
    (ends : Ends (Amid k me others) (perform (k := k) key (Object.ofJson k)
      (request method target body)) s result s') :
    Writing k me others (fun path edit => ∃ a, Address.ofText? target = some a ∧
      ApiRequest.Asks ⟨method, a, body⟩ path edit) s result s' := by
  obtain ⟨outcome, tried, told⟩ := perform_ends ends
  have undone : Meanwhile others s s' → (∀ o', outcome ≠ .ok (.ok o')) →
      Writing k me others (fun path edit => ∃ a, Address.ofText? target = some a ∧
        ApiRequest.Asks ⟨method, a, body⟩ path edit) s result s' := by
    intro meanwhile failed
    cases result with
    | ok o' => exact absurd (told o' rfl) (failed o')
    | error e => exact .undone meanwhile
  rcases request_ends tried with ⟨meanwhile, failed, -⟩ | ⟨a, s₁, named, meanwhile, came⟩
  · exact undone meanwhile failed
  cases came with
  | shown get => exact absurd get writes.1
  | awaited asks =>
    cases asks
    exact absurd rfl writes.2
  | failed failed => exact undone meanwhile failed
  | carried asks carries reads =>
    refine .done meanwhile ⟨a, named, asks⟩ carries fun o' this => ?_
    rcases reads o' (told o' this) with impossible | ⟨j, shows, read⟩
    · exact absurd impossible writes.2
    · exact ⟨j, shows, read⟩

theorem post_ends {result : Except Error (Object k)}
    (ends : Ends (Amid k me others) (perform (k := k) key (Object.ofJson k)
      (request .post target (jsonBody o.toJson))) s result s') :
    Writing k me others (fun _ edit => ∃ m, o.metadata.Reread m ∧
      edit = .create m (Object.specToJson k o.spec)) s result s' := by
  cases write_ends ⟨HttpMethod.noConfusion, HttpMethod.noConfusion⟩ ends with
  | undone meanwhile => exact .undone meanwhile
  | done meanwhile asks carries told =>
    obtain ⟨a, named, asks⟩ := asks
    refine .done meanwhile ?_ carries told
    cases asks with
    | create metadata desired =>
      rw [o.toJson_metadata] at metadata
      cases o.toJson_spec.symm.trans desired
      exact ⟨_, ObjectMeta.reread_of_toJson metadata, rfl⟩

theorem patchStatus_ends {patch : Json} {result : Except Error (Object k)}
    (ends : Ends (Amid k me others) (patchStatus ns key patch) s result s') :
    Writing k me others (fun _ edit => edit =
      .restate (Json.versionNamed (patch.field? "metadata")) patch.patchedStatus) s result s' := by
  cases write_ends ⟨HttpMethod.noConfusion, HttpMethod.noConfusion⟩ ends with
  | undone meanwhile => exact .undone meanwhile
  | done meanwhile asks carries told =>
    obtain ⟨a, named, asks⟩ := asks
    refine .done meanwhile ?_ carries told
    cases asks with
    | restate sub => rfl

inductive Striking (k : Kind) (me : Client) (others : ApiServer → ApiServer → Prop)
    (path : String) (guard : Option String) (s : ApiServer) :
    Except Error (Except ExchangeFailure Unit) → ApiServer → Prop
  | undone {result : Except Error (Except ExchangeFailure Unit)} {s' : ApiServer}
      (meanwhile : Meanwhile others s s') (failed : ∀ a, result ≠ .ok (.ok a))
      (missing : ∀ failure, result = .ok (.error failure) → failure.isMissing = true →
        s'.kept path = none) : Striking k me others path guard s result s'
  | awaited {s' : ApiServer} {b : ApiObject} (meanwhile : Meanwhile others s s')
      (kept : s'.kept path = some b) (terminating : b.Terminating) (admitted : b.Admits guard) :
      Striking k me others path guard s (.ok (.ok ())) s'
  | done {result : Except Error (Except ExchangeFailure Unit)} {s₁ s' : ApiServer} {y : ApiObject}
      (meanwhile : Meanwhile others s s₁) (carries : Carries k me path (.delete guard) y s₁ s') :
      Striking k me others path guard s result s'

inductive Removing (k : Kind) (me : Client) (others : ApiServer → ApiServer → Prop)
    (path : String) (guard : Option String) (s : ApiServer) : Except Error Unit → ApiServer → Prop
  | undone {e : Error} {s' : ApiServer} (meanwhile : Meanwhile others s s') :
      Removing k me others path guard s (.error e) s'
  | absent {s' : ApiServer} (meanwhile : Meanwhile others s s') (missing : s'.kept path = none) :
      Removing k me others path guard s (.ok ()) s'
  | awaited {s' : ApiServer} {b : ApiObject} (meanwhile : Meanwhile others s s')
      (kept : s'.kept path = some b) (terminating : b.Terminating) (admitted : b.Admits guard) :
      Removing k me others path guard s (.ok ()) s'
  | done {result : Except Error Unit} {s₁ s' : ApiServer} {y : ApiObject}
      (meanwhile : Meanwhile others s s₁) (carries : Carries k me path (.delete guard) y s₁ s') :
      Removing k me others path guard s result s'

theorem versionNamed_deletionOptions (guard : Option String) :
    Json.versionNamed ((deletionOptions guard).field? "preconditions") = guard := by
  cases guard <;> simp [deletionOptions, Json.versionNamed, Json.asText]

theorem strike_ends {guard : Option String} {result : Except Error (Except ExchangeFailure Unit)}
    (home : key.namespaceName = some ns) (placed : key.path? k = some path)
    (ends : Ends (Amid k me others) (tryExchange (deletionOfJson k)
      (request .delete (itemTarget k ns key ++ "?") (jsonBody (deletionOptions guard)))) s result s') :
    Striking k me others path guard s result s' := by
  rcases request_ends ends with ⟨meanwhile, failed, silent⟩ | ⟨a, s₁, named, meanwhile, came⟩
  · refine .undone meanwhile failed fun failure this missing => ?_
    rw [silent failure this] at missing
    cases missing
  have here : a.path = path := path_of_query home placed named
  cases came with
  | shown get => cases get
  | failed failed missing => exact .undone meanwhile failed (here ▸ missing)
  | carried asks carries =>
    cases asks with
    | delete =>
      rw [versionNamed_deletionOptions] at carries
      exact .done meanwhile (here ▸ carries)
  | awaited asks kept terminating admitted =>
    cases asks with
    | delete =>
      rw [versionNamed_deletionOptions] at admitted
      exact .awaited meanwhile (here ▸ kept) terminating admitted

theorem remove_ends {guard : Option String} {result : Except Error Unit}
    (home : key.namespaceName = some ns) (placed : key.path? k = some path)
    (ends : Ends (Amid k me others) (remove k ns key guard) s result s') :
    Removing k me others path guard s result s' := by
  rcases ends.of_bind with ⟨e, tried, rfl⟩ | ⟨outcome, s₁, tried, rest⟩
  · cases strike_ends home placed tried with
    | undone meanwhile => exact .undone meanwhile
    | done meanwhile carries => exact .done meanwhile carries
  cases outcome with
  | ok answer =>
    obtain ⟨rfl, rfl⟩ := rest.of_pure
    cases strike_ends home placed tried with
    | undone meanwhile failed => exact absurd rfl (failed answer)
    | awaited meanwhile kept terminating admitted =>
      exact .awaited meanwhile kept terminating admitted
    | done meanwhile carries => exact .done meanwhile carries
  | error failure =>
    dsimp only at rest
    by_cases missing : failure.isMissing = true
    · rw [if_pos missing] at rest
      obtain ⟨rfl, rfl⟩ := rest.of_pure
      cases strike_ends home placed tried with
      | undone meanwhile failed absent => exact .absent meanwhile (absent failure rfl missing)
      | done meanwhile carries => exact .done meanwhile carries
    · rw [if_neg missing] at rest
      obtain ⟨rfl, rfl⟩ := rest.of_throw
      cases strike_ends home placed tried with
      | undone meanwhile => exact .undone meanwhile
      | done meanwhile carries => exact .done meanwhile carries

theorem remove_served {guard : Option String} {a : Address} {y : ApiObject} {reply : ApiReply}
    (named : Address.ofText? (itemTarget k ns key ++ "?") = some a)
    (carries : Carries k me a.path (.delete guard) y s s')
    (read : reply.read (deletionOfJson k) = .ok ()) :
    Ends (Amid k me others) (remove k ns key guard) s (.ok ()) s' := by
  have asks : ApiRequest.Asks ⟨.delete, a, jsonBody (deletionOptions guard)⟩ a.path
      (.delete (Json.versionNamed ((deletionOptions guard).field? "preconditions"))) := .delete
  rw [versionNamed_deletionOptions] at asks
  obtain ⟨j, agreed, -⟩ := ApiReply.content_of_read read
  unfold remove request
  rw [named]
  refine (tryExchange_served .refl (.deleted asks carries agreed)).bind ?_
  rw [read]
  exact .pure () s'

theorem remove_missed {guard : Option String} {a : Address} {reply : ApiReply}
    {failure : ExchangeFailure} (named : Address.ofText? (itemTarget k ns key ++ "?") = some a)
    (meanwhile : Meanwhile others s s') (gone : s'.kept a.path = none)
    (read : reply.read (deletionOfJson k) = .error failure) (missing : failure.isMissing = true) :
    Ends (Amid k me others) (remove k ns key guard) s (.ok ()) s' := by
  obtain ⟨failure', failed, -⟩ := ApiReply.misses_of_read read missing
  unfold remove request
  rw [named]
  refine (tryExchange_served meanwhile (.refused ⟨failure', failed⟩ fun _ => gone)).bind ?_
  rw [read]
  dsimp only
  rw [if_pos missing]
  exact .pure () s'

theorem requireNamespace_ends {answers : ApiServer → (q : ClusterQuery) → q.Answer → ApiServer → Prop}
    {result : Except Error String} (ends : Ends answers (requireNamespace k key) s result s') :
    s' = s ∧ ∀ ns, result = .ok ns → key.namespaceName = some ns := by
  unfold requireNamespace at ends
  cases home : key.namespaceName with
  | none =>
    rw [home] at ends
    obtain ⟨rfl, rfl⟩ := ends.of_throw
    exact ⟨rfl, fun _ told => nomatch told⟩
  | some ns =>
    rw [home] at ends
    obtain ⟨rfl, rfl⟩ := ends.of_pure
    exact ⟨rfl, fun _ told => congrArg some (Except.ok.inj told)⟩

theorem requireNamespace_served {answers : ApiServer → (q : ClusterQuery) → q.Answer → ApiServer → Prop}
    (home : key.namespaceName = some ns) :
    Ends answers (requireNamespace k key) s (.ok ns) s := by
  unfold requireNamespace
  rw [home]
  exact .pure ns s

/-- The cleanup finalizer of the object that is kept is released, and no other. -/
structure Releases (k : Kind) (me : Client) (path : String) (x y : ApiObject)
    (s s' : ApiServer) : Prop where
  kept : s.kept path = some x
  carries : ∃ edit, Carries k me path edit y s s'
  finalizers : y.finalizers = x.finalizers.filter (· ≠ cleanupFinalizer)
  termination : y.Terminating ↔ x.Terminating

inductive Freeing (k : Kind) (me : Client) (others : ApiServer → ApiServer → Prop)
    (path : String) (x : ApiObject) (version : Option String) (s : ApiServer) :
    Except Error (Option (Option String)) → ApiServer → Prop
  | undone {e : Error} {s' : ApiServer} (meanwhile : Meanwhile others s s') :
      Freeing k me others path x version s (.error e) s'
  | vanished {s' : ApiServer} (meanwhile : Meanwhile others s s')
      (missing : s'.kept path = none) : Freeing k me others path x version s (.ok none) s'
  | done {result : Except Error (Option (Option String))} {s₁ s' : ApiServer} {y : ApiObject}
      (meanwhile : Meanwhile others s s₁) (releases : Releases k me path x y s₁ s')
      (told : ∀ guard, result = .ok guard → guard = some (version.bind fun _ => y.version)) :
      Freeing k me others path x version s result s'

section Deletion

variable {version : Option String} {x y : ApiObject} {current : Object k}

theorem releases_of_put (foreign : ∀ {s s'}, others s s' → Foreign k me s s')
    {s₁ : ApiServer} {m : ObjectMeta} {spec : Json} (sound : s.Sound k)
    (seen : s.kept path = some x) (meanwhile : Meanwhile others s s₁)
    (read : (releaseFinalizer x.metadata).Reread m)
    (carries : Carries k me path (.replace m spec) y s₁ s') : Releases k me path x y s₁ s' := by
  obtain ⟨sound₁, later⟩ := sound.meanwhile foreign meanwhile
  obtain ⟨b, kept, admitted, continues, spared, said, -⟩ := carries.writes.of_replace
  obtain ⟨v, versioned⟩ := sound.kept_versioned seen
  have same : b.version = x.version := by
    rw [versioned]
    exact admitted v (read.resourceVersion.trans versioned)
  obtain ⟨-, rfl, -⟩ := sound₁.kept_eq later seen kept same
  refine ⟨kept, ⟨_, carries⟩, ?_, spared, continues.termination⟩
  rw [ApiObject.finalizers_of_agrees said, read.finalizers]
  rfl

theorem release_ends (foreign : ∀ {s s'}, others s s' → Foreign k me s s')
    {result : Except Error (Option (Option String))} (home : key.namespaceName = some ns)
    (placed : key.path? k = some path) (sound : s.Sound k) (seen : s.kept path = some x)
    (reads : current.Reads x)
    (ends : Ends (Amid k me others)
      (release ns key { current with metadata := releaseFinalizer current.metadata } version)
      s result s') : Freeing k me others path x version s result s' := by
  have put : ∀ {outcome s₁}, Ends (Amid k me others) (tryExchange (Object.ofJson k)
      (putRequest ns key { current with metadata := releaseFinalizer current.metadata }))
      s outcome s₁ → Putting k me others path
        { current with metadata := releaseFinalizer current.metadata } s outcome s₁ :=
    put_ends home placed
  have releases : ∀ {s₁ s₂ m spec y}, Meanwhile others s s₁ →
      (releaseFinalizer current.metadata).Reread m →
        Carries k me path (.replace m spec) y s₁ s₂ → Releases k me path x y s₁ s₂ := by
    intro s₁ s₂ m spec y meanwhile read carries
    rw [reads.metadata] at read
    exact releases_of_put foreign sound seen meanwhile read carries
  rcases ends.of_bind with ⟨e, tried, rfl⟩ | ⟨outcome, s₁, tried, rest⟩
  -- The request failed, yet the server may have carried it out and its answer been lost.
  · cases put tried with
    | undone meanwhile => exact .undone meanwhile
    | done meanwhile read carries =>
      exact .done meanwhile (releases meanwhile read carries) fun _ told => nomatch told
  cases outcome with
  | ok released =>
    obtain ⟨rfl, rfl⟩ := rest.of_pure
    cases put tried with
    | undone meanwhile failed => exact absurd rfl (failed released)
    | done meanwhile read carries told =>
      refine .done meanwhile (releases meanwhile read carries) ?_
      rintro guard ⟨⟩
      have same : released.version = _ := congrArg ObjectMeta.resourceVersion
        (told released rfl).metadata
      cases version <;> simp [same, ApiObject.version]
  | error failure =>
    by_cases missing : failure.isMissing = true
    · dsimp only at rest
      rw [if_pos missing] at rest
      obtain ⟨rfl, rfl⟩ := rest.of_pure
      cases put tried with
      | undone meanwhile failed absent => exact .vanished meanwhile (absent failure rfl missing)
      | done meanwhile read carries told silent =>
        rw [silent failure rfl] at missing
        cases missing
    · dsimp only at rest
      rw [if_neg missing] at rest
      obtain ⟨rfl, rfl⟩ := rest.of_throw
      cases put tried with
      | undone meanwhile => exact .undone meanwhile
      | done meanwhile read carries =>
        exact .done meanwhile (releases meanwhile read carries) fun _ told => nomatch told

theorem release_served {answers : ApiServer → (q : ClusterQuery) → q.Answer → ApiServer → Prop}
    {v : String} {released : Object k}
    (put : Ends answers (tryExchange (Object.ofJson k) (putRequest ns key o)) s
      (.ok (.ok released)) s') :
    Ends answers (release ns key o (some v)) s (.ok (some released.version)) s' :=
  put.bind (.pure _ s')

def dispose (ns : String) (key : ObjectKey) (current : Object k) (version : Option String) :
    Work Unit := do
  let guard ←
    if (current.metadata.finalizers.getD []).contains cleanupFinalizer then
      release ns key { current with metadata := releaseFinalizer current.metadata } version
    else pure (some version)
  match guard with
  | none => return ()
  | some guard =>
    if current.metadata.deletionTimestamp.isSome then return ()
    else remove k ns key guard

theorem dispose_held {answers : ApiServer → (q : ClusterQuery) → q.Answer → ApiServer → Prop}
    {result : Except Error Unit} {guard : Option String} {s₁ : ApiServer} (reads : current.Reads x)
    (held : cleanupFinalizer ∈ x.finalizers)
    (released : Ends answers
      (release ns key { current with metadata := releaseFinalizer current.metadata } version) s
      (.ok (some guard)) s₁)
    (rest : Ends answers (if x.Terminating then pure () else remove k ns key guard) s₁ result s') :
    Ends answers (dispose ns key current version) s result s' := by
  have holding : (current.metadata.finalizers.getD []).contains cleanupFinalizer = true := by
    rw [reads.metadata, List.contains_iff_mem]
    exact held
  unfold dispose
  rw [if_pos holding]
  refine released.bind ?_
  rw [reads.metadata]
  exact rest

theorem delete_served {answers : ApiServer → (q : ClusterQuery) → q.Answer → ApiServer → Prop}
    {result : Except Error Unit} {v : String} {s₁ : ApiServer}
    (home : key.namespaceName = some ns)
    (fetched : Ends answers (fetch ns key) s (.ok current) s₁) (head : current.version = some v)
    (disposed : Ends answers (dispose ns key current (some v)) s₁ result s') :
    Ends answers (delete k key (some v)) s result s' := by
  unfold delete
  refine (requireNamespace_served home).bind (fetched.bind ?_)
  dsimp only
  rw [if_neg (not_not.mpr head)]
  exact disposed

/-- What comes of a deletion: it is given up, or the object was seen in the version that is
asked for and is left to others, gone, released or marked. -/
inductive Deleting (k : Kind) (me : Client) (others : ApiServer → ApiServer → Prop)
    (path : String) (version : Option String) (s : ApiServer) :
    Except Error Unit → ApiServer → Prop
  | stopped {e : Error} {s' : ApiServer} (meanwhile : Meanwhile others s s') :
      Deleting k me others path version s (.error e) s'
  | spared {x : ApiObject} {s' : ApiServer} (meanwhile : Meanwhile others s s')
      (seen : s'.kept path = some x) (terminating : x.Terminating)
      (free : cleanupFinalizer ∉ x.finalizers) : Deleting k me others path version s (.ok ()) s'
  | vanished {s' : ApiServer} (meanwhile : Meanwhile others s s')
      (missing : s'.kept path = none) : Deleting k me others path version s (.ok ()) s'
  | unheld {result : Except Error Unit} {s₁ s' : ApiServer} {x : ApiObject}
      (meanwhile : Meanwhile others s s₁) (seen : s₁.kept path = some x)
      (admitted : x.Admits version) (free : cleanupFinalizer ∉ x.finalizers)
      (removing : Removing k me others path version s₁ result s') :
      Deleting k me others path version s result s'
  | released {result : Except Error Unit} {s₁ s' : ApiServer} {x y : ApiObject}
      (meanwhile : Meanwhile others s s₁) (admitted : x.Admits version)
      (releases : Releases k me path x y s₁ s')
      (terminating : result = .ok () → x.Terminating) :
      Deleting k me others path version s result s'
  | removed {result : Except Error Unit} {s₁ s₂ s' : ApiServer} {x y : ApiObject}
      (meanwhile : Meanwhile others s s₁) (admitted : x.Admits version)
      (releases : Releases k me path x y s₁ s₂)
      (removing : Removing k me others path (version.bind fun _ => y.version) s₂ result s') :
      Deleting k me others path version s result s'

theorem dispose_ends (foreign : ∀ {s s'}, others s s' → Foreign k me s s')
    {result : Except Error Unit} (home : key.namespaceName = some ns)
    (placed : key.path? k = some path) (sound : s.Sound k) (seen : s.kept path = some x)
    (reads : current.Reads x) (admitted : x.Admits version)
    (ends : Ends (Amid k me others) (dispose ns key current version) s result s') :
    Deleting k me others path version s result s' := by
  have holding : (current.metadata.finalizers.getD []).contains cleanupFinalizer = true ↔
      cleanupFinalizer ∈ x.finalizers := by
    rw [reads.metadata, List.contains_iff_mem]
    rfl
  have termination : current.metadata.deletionTimestamp.isSome = true ↔ x.Terminating := by
    rw [reads.metadata]
    rfl
  unfold dispose at ends
  by_cases held : cleanupFinalizer ∈ x.finalizers
  · rw [if_pos (holding.mpr held)] at ends
    rcases ends.of_bind with ⟨e, freed, rfl⟩ | ⟨guard, s₁, freed, rest⟩
    · cases release_ends foreign home placed sound seen reads freed with
      | undone meanwhile => exact .stopped meanwhile
      | done meanwhile releases =>
        exact .released meanwhile admitted releases fun told => nomatch told
    cases release_ends foreign home placed sound seen reads freed with
    | vanished meanwhile missing =>
      obtain ⟨rfl, rfl⟩ := rest.of_pure
      exact .vanished meanwhile missing
    | done meanwhile releases told =>
      cases told guard rfl
      dsimp only at rest
      by_cases terminating : x.Terminating
      · rw [if_pos (termination.mpr terminating)] at rest
        obtain ⟨rfl, rfl⟩ := rest.of_pure
        exact .released meanwhile admitted releases fun _ => terminating
      · rw [if_neg (mt termination.mp terminating)] at rest
        exact .removed meanwhile admitted releases (remove_ends home placed rest)
  · rw [if_neg (mt holding.mp held)] at ends
    rcases ends.of_bind with ⟨e, untried, -⟩ | ⟨guard, s₁, untried, rest⟩
    · cases untried.of_pure.1
    obtain ⟨told, rfl⟩ := untried.of_pure
    cases told
    dsimp only at rest
    by_cases terminating : x.Terminating
    · rw [if_pos (termination.mpr terminating)] at rest
      obtain ⟨rfl, rfl⟩ := rest.of_pure
      exact .spared .refl seen terminating held
    · rw [if_neg (mt termination.mp terminating)] at rest
      exact .unheld .refl seen admitted held (remove_ends home placed rest)

theorem Deleting.after {s₁ : ApiServer} {result : Except Error Unit}
    (meanwhile : Meanwhile others s s₁) (deleting : Deleting k me others path version s₁ result s') :
    Deleting k me others path version s result s' := by
  cases deleting with
  | stopped later => exact .stopped (meanwhile.trans later)
  | spared later seen terminating free => exact .spared (meanwhile.trans later) seen terminating free
  | vanished later missing => exact .vanished (meanwhile.trans later) missing
  | unheld later seen admitted free removing =>
    exact .unheld (meanwhile.trans later) seen admitted free removing
  | released later admitted releases terminating =>
    exact .released (meanwhile.trans later) admitted releases terminating
  | removed later admitted releases removing =>
    exact .removed (meanwhile.trans later) admitted releases removing

theorem delete_ends (foreign : ∀ {s s'}, others s s' → Foreign k me s s')
    {result : Except Error Unit} (sound : s.Sound k)
    (ends : Ends (Amid k me others) (delete k key version) s result s') :
    (Meanwhile others s s' ∧ result ≠ .ok ()) ∨
      ∃ path, key.path? k = some path ∧ Deleting k me others path version s result s' := by
  unfold delete at ends
  rcases ends.of_bind with ⟨e, housing, rfl⟩ | ⟨ns, s₀, housing, goes⟩
  · obtain ⟨rfl, -⟩ := requireNamespace_ends housing
    exact .inl ⟨.refl, nofun⟩
  obtain ⟨rfl, home⟩ := requireNamespace_ends housing
  rcases goes.of_bind with ⟨e, fetched, rfl⟩ | ⟨current, s₁, fetched, rest⟩
  · exact .inl ⟨(fetch_ends (home ns rfl) fetched).1, nofun⟩
  obtain ⟨meanwhile, shown⟩ := fetch_ends (home ns rfl) fetched
  obtain ⟨path, x, placed, seen, reads⟩ := shown current rfl
  obtain ⟨sound₁, -⟩ := sound.meanwhile foreign meanwhile
  cases version with
  | none =>
    have disposed : Ends (Amid k me others) (dispose ns key current none) s₁ result s' := rest
    exact .inr ⟨path, placed, (dispose_ends foreign (home ns rfl) placed sound₁ seen reads
      (by rintro v ⟨⟩) disposed).after meanwhile⟩
  | some expected =>
    dsimp only at rest
    by_cases stale : current.version ≠ some expected
    · rw [if_pos stale] at rest
      rcases rest.of_bind with ⟨e, thrown, rfl⟩ | ⟨_, s₂, thrown, -⟩
      · obtain ⟨-, rfl⟩ := thrown.of_throw
        exact .inl ⟨meanwhile, nofun⟩
      · cases thrown.of_throw.1
    · rw [if_neg stale] at rest
      have disposed : Ends (Amid k me others) (dispose ns key current (some expected)) s₁ result s' :=
        rest
      refine .inr ⟨path, placed, (dispose_ends foreign (home ns rfl) placed sound₁ seen reads
        ?_ disposed).after meanwhile⟩
      rintro v ⟨⟩
      rw [ApiObject.version, ← reads.metadata]
      exact not_not.mp stale

end Deletion

end Cluster

end Reconciler
