import Reconciler.Proofs.Cluster.Cleanup

/-!
Calls of the engine and writes of other clients in any order. What is shown of one call amid
everything else holds of every call of the traffic, since whatever the others do is foreign to
it. Other clients may do as they like but for the cleanup finalizer. The engine begins what
`StoreCall.Known` allows: a replacement names a version that the server has given before, as does
the copy it was decided on. Since every write gives a new version, it is that of one object only.
-/

set_option autoImplicit false

namespace Reconciler

open ApiServer (Carries Amid Foreign Sound OwnWrites Responds)
open Cluster (cleanupFinalizer)
open Dialogue (Held)

variable {k : Kind} {only : Option String}

/-- A call that the engine has begun: what is left of it, and the server as it was then. -/
structure Undertaking (k : Kind) where
  call : StoreCall k
  since : ApiServer
  rest : Cluster.Asking call.Answer

structure Traffic (k : Kind) where
  server : ApiServer
  calls : List (Undertaking k)

namespace Traffic

inductive Step (only : Option String) : Traffic k → Traffic k → Prop
  /-- Another client writes, and neither adds the cleanup finalizer nor takes it away. -/
  | foreign {s s' : ApiServer} {calls : List (Undertaking k)} {n : Nat} {path : String}
      {edit : ApiEdit} {x : ApiObject} (carries : Carries k (.other n) path edit x s s')
      (modest : x.finalizers.count cleanupFinalizer =
        ((s.kept path).elim [] ApiObject.finalizers).count cleanupFinalizer) :
      Step only ⟨s, calls⟩ ⟨s', calls⟩
  | begun {s : ApiServer} {calls : List (Undertaking k)} {c : StoreCall k} (known : c.Known s) :
      Step only ⟨s, calls⟩ ⟨s, calls ++ [⟨c, s, Cluster.call only c⟩]⟩
  /-- A call goes on by one question. -/
  | advanced {s s' : ApiServer} {calls : List (Undertaking k)} {n : Nat} {c : StoreCall k}
      {since : ApiServer} {q : ClusterQuery} {next : q.Answer → Cluster.Asking c.Answer}
      {answer : q.Answer} (there : calls[n]? = some ⟨c, since, .ask q next⟩)
      (responds : Responds k (.engine n) s q answer s') :
      Step only ⟨s, calls⟩ ⟨s', calls.set n ⟨c, since, next answer⟩⟩

/-- What may come about on a server on which the engine has not been before. -/
inductive Runs (only : Option String) : Traffic k → Prop
  | start {s : ApiServer} (sound : s.Sound k)
      (outside : ∀ c ∈ s.history, ∃ n, c.author = .other n) : Runs only ⟨s, []⟩
  | step {t t' : Traffic k} (runs : Runs only t) (step : Step only t t') : Runs only t'

end Traffic

theorem StoreCall.Succeeds.mono {c : StoreCall k} {me : Client} {since s s' : ApiServer}
    {answer : c.Answer} (succeeds : c.Succeeds me since s answer)
    (later : s.history <:+ s'.history) : c.Succeeds me since s' answer := by
  cases c with
  | get | list | record => cases answer <;> trivial
  | create o =>
    cases answer with
    | error => trivial
    | ok o' =>
      obtain ⟨c, listed, rest⟩ := succeeds
      exact ⟨c, later.subset listed, rest⟩
  | replace o =>
    cases answer with
    | error => trivial
    | ok o' =>
      obtain ⟨c, listed, own, tells, d, stored, rest⟩ := succeeds
      exact ⟨c, later.subset listed, own, tells, d, later.subset stored, rest⟩
  | delete =>
    cases answer with
    | error => trivial
    | ok =>
      obtain ⟨path, older, placed, begun, earlier, free⟩ := succeeds
      exact ⟨path, older, placed, begun, earlier.trans later, free⟩

namespace Undertaking

variable {n : Nat} {u : Undertaking k} {s s' : ApiServer}

/-- However the call goes on, its writes and its success are as they should be. -/
def Promises (u : Undertaking k) (n : Nat) (s : ApiServer) : Prop :=
  ∀ log answer s', Held (Amid k (.engine n) (Foreign k (.engine n))) u.rest s log answer s' →
    OwnWrites (.engine n) (fun d _ => u.call.Conducts d) u.since s' ∧
      u.call.Succeeds (.engine n) u.since s' answer

theorem Promises.foreign (promises : u.Promises n s) (foreign : Foreign k (.engine n) s s') :
    u.Promises n s' := by
  intro log answer s'' held
  obtain ⟨c, since, rest⟩ := u
  cases rest with
  | done a =>
    cases held
    obtain ⟨so, succeeds⟩ := promises [] a s .done
    cases foreign with
    | wrote other carries =>
      exact ⟨so.carries carries fun own => absurd own other, succeeds.mono carries.suffix⟩
  | ask q next =>
    obtain ⟨a, s₂, log', -, ⟨s₁, meanwhile, responds⟩, held'⟩ := held.of_ask
    exact promises _ answer s'' (.ask ⟨s₁, .head foreign meanwhile, responds⟩ held')

theorem Promises.advanced {c : StoreCall k} {since : ApiServer} {q : ClusterQuery}
    {next : q.Answer → Cluster.Asking c.Answer} {answer : q.Answer}
    (promises : (⟨c, since, .ask q next⟩ : Undertaking k).Promises n s)
    (responds : Responds k (.engine n) s q answer s') :
    (⟨c, since, next answer⟩ : Undertaking k).Promises n s' :=
  fun _ a s'' rest => promises _ a s'' (.ask ⟨s, .refl, responds⟩ rest)

theorem Promises.begun {c : StoreCall k} (sound : s.Sound k) (known : c.Known s) :
    (⟨c, s, Cluster.call only c⟩ : Undertaking k).Promises n s :=
  fun _ _ _ held => Cluster.call_fulfils sound known held

/-- A call may always be given up. -/
theorem exists_abandoned {α : Type} {me : Client} {others : ApiServer → ApiServer → Prop}
    (d : Cluster.Asking α) (s : ApiServer) : ∃ log a, Held (Amid k me others) d s log a s := by
  induction d with
  | done a => exact ⟨[], a, .done⟩
  | ask q next ih =>
    cases q with
    | check =>
      obtain ⟨log, a, rest⟩ := ih (.ok ())
      exact ⟨_, a, .ask ⟨s, .refl, .checked⟩ rest⟩
    | exchange r =>
      obtain ⟨log, a, rest⟩ := ih (.error .cancelled)
      exact ⟨_, a, .ask ⟨s, .refl, .abandoned⟩ rest⟩

theorem Promises.conducts (promises : u.Promises n s) :
    OwnWrites (.engine n) (fun d _ => u.call.Conducts d) u.since s := by
  obtain ⟨log, answer, held⟩ := exists_abandoned (k := k) u.rest s
  exact (promises log answer s held).1

structure OnCourse (u : Undertaking k) (n : Nat) (s : ApiServer) : Prop where
  unwritten : ∀ c ∈ u.since.history, c.author ≠ .engine n
  earlier : u.since.history <:+ s.history
  promises : u.Promises n s

theorem OnCourse.foreign (course : u.OnCourse n s) (foreign : Foreign k (.engine n) s s') :
    u.OnCourse n s' where
  unwritten := course.unwritten
  earlier := by
    cases foreign with
    | wrote other carries => exact course.earlier.trans carries.suffix
  promises := course.promises.foreign foreign

theorem OnCourse.conducts (course : u.OnCourse n s) {newer older : List ApiChange} {d : ApiChange}
    (split : s.history = newer ++ d :: older) (own : d.author = .engine n) : u.call.Conducts d := by
  refine course.promises.conducts newer d older split ?_ own
  -- the call had written nothing when it was begun
  have later : d :: older <:+ s.history := ⟨newer, split.symm⟩
  rcases List.suffix_or_suffix_of_suffix course.earlier later with before | after
  · rcases List.suffix_cons_iff.mp before with same | before
    · exact absurd own (course.unwritten d (by rw [same]; exact List.mem_cons_self))
    · exact before
  · exact absurd own (course.unwritten d (after.subset List.mem_cons_self))

end Undertaking

namespace ApiServer

variable {s s' : ApiServer} {who : Client} {path : String} {c d e : ApiChange}
  {newer older : List ApiChange}

theorem Responds.cases {q : ClusterQuery} {answer : q.Answer}
    (responds : Responds k who s q answer s') :
    s' = s ∨ ∃ path edit x, Carries k who path edit x s s' := by
  cases responds with
  | checked => exact .inl rfl
  | abandoned => exact .inl rfl
  | overtaken asks carries => exact .inr ⟨_, _, _, carries⟩
  | served serves =>
    cases serves with
    | shown => exact .inl rfl
    | awaited => exact .inl rfl
    | refused => exact .inl rfl
    | carried asks carries => exact .inr ⟨_, _, _, carries⟩
    | deleted asks carries => exact .inr ⟨_, _, _, carries⟩
    | lost asks carries => exact .inr ⟨_, _, _, carries⟩

theorem Sound.before_eq (sound : s.Sound k) (split : s.changes path = newer ++ d :: e :: older) :
    d.before = e.after := by
  induction sound generalizing newer with
  | empty => simp [changes] at split
  | @carried s₀ s₁ author place edit x sound carries ih =>
    rw [carries.eq_record, changes_record] at split
    split at split
    · rename_i here
      obtain rfl : place = path := here
      cases newer with
      | nil =>
        obtain ⟨rfl, rest⟩ := List.cons.inj split
        simp [kept, rest]
      | cons f newer => exact ih (List.cons.inj split).2
    · exact ih split

/-- Where an object was guarded once and no change takes the guard away, it is there still. -/
theorem Sound.held_of_keeps (sound : s.Sound k) (split : s.changes path = newer ++ c :: older)
    (held : cleanupFinalizer ∈ c.written.finalizers) (keeps : ∀ d ∈ newer, d.Keeps) :
    ∀ d ∈ newer ++ [c], cleanupFinalizer ∈ d.written.finalizers := by
  suffices ∀ earlier newer, s.changes path = earlier ++ (newer ++ c :: older) →
      (∀ d ∈ newer, d.Keeps) → ∀ d ∈ newer ++ [c], cleanupFinalizer ∈ d.written.finalizers from
    this [] newer split keeps
  intro earlier newer
  induction newer generalizing earlier with
  | nil =>
    intro _ _ d listed
    rw [List.mem_singleton.mp listed]
    exact held
  | cons f newer ih =>
    intro split keeps
    have later := ih (earlier ++ [f]) (by simpa using split)
      fun d listed => keeps d (List.mem_cons_of_mem _ listed)
    intro d listed
    rcases List.mem_cons.mp listed with rfl | listed
    · obtain ⟨e, rest, next, guarded⟩ : ∃ e rest, newer ++ c :: older = e :: rest ∧
          cleanupFinalizer ∈ e.written.finalizers := by
        cases newer with
        | nil => exact ⟨c, older, rfl, held⟩
        | cons e newer => exact ⟨e, newer ++ c :: older, rfl, later e List.mem_cons_self⟩
      rw [List.cons_append, next] at split
      refine keeps d List.mem_cons_self e.written ?_ guarded
      exact (sound.before_eq split).trans (ApiObject.settled_of_held guarded)
    · exact later d listed

end ApiServer

namespace Traffic

variable {t t' : Traffic k}

structure Coherent (t : Traffic k) : Prop where
  sound : t.server.Sound k
  counted : ∀ c ∈ t.server.history, ∀ n, c.author = .engine n → n < t.calls.length
  /-- Once the engine has written, others leave the cleanup finalizer alone. -/
  modest : ∀ newer d older, t.server.history = newer ++ d :: older → ∀ n, d.author = .other n →
    (∃ c ∈ older, ∃ m, c.author = .engine m) → d.Keeps
  course : ∀ (n : Nat) (u : Undertaking k), t.calls[n]? = some u → u.OnCourse n t.server

theorem Coherent.start {s : ApiServer} (sound : s.Sound k)
    (outside : ∀ c ∈ s.history, ∃ n, c.author = .other n) :
    Coherent (⟨s, []⟩ : Traffic k) where
  sound := sound
  counted c listed n own := by
    obtain ⟨m, other⟩ := outside c listed
    cases own.symm.trans other
  modest newer d older split n _ between := by
    obtain ⟨c, listed, m, own⟩ := between
    dsimp only at split
    have there : c ∈ s.history := by
      rw [split]
      exact List.mem_append_right _ (List.mem_cons_of_mem _ listed)
    obtain ⟨m', other⟩ := outside c there
    cases own.symm.trans other
  course n u there := by cases there

theorem Coherent.carries {who : Client} {path : String} {edit : ApiEdit} {x : ApiObject}
    {calls : List (Undertaking k)} {s' : ApiServer} (coherent : t.Coherent)
    (carries : Carries k who path edit x t.server s') (length : calls.length = t.calls.length)
    (author : ∀ n, who = .engine n → n < t.calls.length)
    (modest : ∀ n, who = .other n → (⟨who, path, t.server.kept path, x⟩ : ApiChange).Keeps)
    (course : ∀ (n : Nat) (u : Undertaking k), calls[n]? = some u → u.OnCourse n s') :
    Coherent ⟨s', calls⟩ where
  sound := coherent.sound.carried carries
  counted c listed n own := by
    rw [length]
    rw [carries.eq_record] at listed
    rcases List.mem_cons.mp listed with rfl | listed
    · exact author n own
    · exact coherent.counted c listed n own
  modest newer d older split n other between := by
    rw [carries.eq_record] at split
    cases newer with
    | nil =>
      obtain ⟨rfl, rfl⟩ := List.cons.inj split
      exact modest n other
    | cons f newer => exact coherent.modest newer d older (List.cons.inj split).2 n other between
  course := course

theorem getElem?_begun {calls : List (Undertaking k)} {u₀ u : Undertaking k} {n : Nat}
    (there : (calls ++ [u₀])[n]? = some u) : calls[n]? = some u ∨ n = calls.length ∧ u = u₀ := by
  rw [List.getElem?_append] at there
  split at there
  · exact .inl there
  · right
    rw [List.getElem?_singleton] at there
    split at there
    · exact ⟨by omega, (Option.some.inj there).symm⟩
    · cases there

theorem getElem?_advanced {calls : List (Undertaking k)} {u₀ u : Undertaking k} {n m : Nat}
    (there : (calls.set n u₀)[m]? = some u) : m = n ∧ u = u₀ ∨ m ≠ n ∧ calls[m]? = some u := by
  rw [List.getElem?_set] at there
  split at there
  · rename_i here
    split at there
    · exact .inl ⟨here.symm, (Option.some.inj there).symm⟩
    · cases there
  · rename_i other
    exact .inr ⟨Ne.symm other, there⟩

theorem Coherent.begun {s : ApiServer} {calls : List (Undertaking k)} {c : StoreCall k}
    (coherent : Coherent ⟨s, calls⟩) (known : c.Known s) :
    Coherent ⟨s, calls ++ [⟨c, s, Cluster.call only c⟩]⟩ where
  sound := coherent.sound
  counted d listed n own := by
    rw [List.length_append]
    exact Nat.lt_add_right 1 (coherent.counted d listed n own)
  modest := coherent.modest
  course n u there := by
    rcases getElem?_begun there with there | ⟨rfl, rfl⟩
    · exact coherent.course n u there
    · refine ⟨fun d listed own => ?_, List.suffix_refl _, .begun coherent.sound known⟩
      exact Nat.lt_irrefl _ (coherent.counted d listed _ own)

theorem Coherent.advanced {s s' : ApiServer} {calls : List (Undertaking k)} {n : Nat}
    {c : StoreCall k} {since : ApiServer} {q : ClusterQuery}
    {next : q.Answer → Cluster.Asking c.Answer} {answer : q.Answer}
    (coherent : Coherent ⟨s, calls⟩) (there : calls[n]? = some ⟨c, since, .ask q next⟩)
    (responds : Responds k (.engine n) s q answer s') :
    Coherent ⟨s', calls.set n ⟨c, since, next answer⟩⟩ := by
  have course := coherent.course n _ there
  rcases responds.cases with rfl | ⟨path, edit, x, carries⟩
  · refine ⟨coherent.sound, ?_, coherent.modest, ?_⟩
    · intro d listed m own
      rw [List.length_set]
      exact coherent.counted d listed m own
    · intro m u listed
      rcases getElem?_advanced listed with ⟨rfl, rfl⟩ | ⟨-, listed⟩
      · exact ⟨course.unwritten, course.earlier, course.promises.advanced responds⟩
      · exact coherent.course m u listed
  · refine coherent.carries carries List.length_set ?_ (fun _ own => nomatch own) ?_
    · rintro m ⟨⟩
      exact (List.getElem?_eq_some_iff.mp there).1
    · intro m u listed
      rcases getElem?_advanced listed with ⟨rfl, rfl⟩ | ⟨other, listed⟩
      · exact ⟨course.unwritten, course.earlier.trans carries.suffix,
          course.promises.advanced responds⟩
      · have foreign : Client.engine n ≠ .engine m := by simpa using Ne.symm other
        exact (coherent.course m u listed).foreign (.wrote foreign carries)

theorem Coherent.step (coherent : t.Coherent) (step : Step only t t') : t'.Coherent := by
  cases step with
  | @foreign s s' calls n path edit x carries modest =>
    refine coherent.carries carries rfl (fun _ own => nomatch own) ?_ ?_
    · intro _ _ b kept held
      have kept : s.kept path = some b := kept
      rw [kept] at modest
      apply List.count_pos_iff.mp
      rw [modest]
      exact List.count_pos_iff.mpr held
    · intro m u there
      have foreign : Client.other n ≠ .engine m := by simp
      exact (coherent.course m u there).foreign (.wrote foreign carries)
  | begun known => exact coherent.begun known
  | advanced there responds => exact coherent.advanced there responds

theorem Runs.coherent (runs : Runs only t) : t.Coherent := by
  induction runs with
  | start sound outside => exact .start sound outside
  | step runs step ih => exact ih.step step

/-- What a call comes to while nobody else writes may come about in the traffic. -/
theorem Runs.of_held {n : Nat} {c : StoreCall k} {since s s' : ApiServer}
    {rest : Cluster.Asking c.Answer} {calls : List (Undertaking k)}
    {log : List (Dialogue.Exchange ClusterQuery.Answer)} {answer : c.Answer}
    (runs : Runs only ⟨s, calls⟩) (there : calls[n]? = some ⟨c, since, rest⟩)
    (held : Held (Amid k (.engine n) fun _ _ => False) rest s log answer s') :
    Runs only ⟨s', calls.set n ⟨c, since, .done answer⟩⟩ := by
  induction held generalizing calls with
  | done =>
    obtain ⟨bound, same⟩ := List.getElem?_eq_some_iff.mp there
    rw [← same, List.set_getElem_self]
    exact runs
  | @ask q next s s₂ s' a log answer answered held ih =>
    obtain ⟨s₁, alone, responds⟩ := answered
    obtain rfl : s₁ = s := by
      cases alone with
      | refl => rfl
      | tail _ impossible => exact impossible.elim
    have bound : n < calls.length := (List.getElem?_eq_some_iff.mp there).1
    have done := ih (runs.step (.advanced there responds)) (List.getElem?_set_self bound)
    rwa [List.set_set] at done

/-- A change that a deletion of the engine has made. -/
def ByDeletion (t : Traffic k) (d : ApiChange) : Prop :=
  ∃ n key version since rest, d.author = .engine n ∧
    t.calls[n]? = some ⟨.delete key version, since, rest⟩

/-- Ever since a change, unless a deletion of the engine has written there, an object is kept at
its path, and guarded. -/
def Protects (t : Traffic k) (c : ApiChange) : Prop :=
  ∃ newer older, t.server.changes c.path = newer ++ c :: older ∧
    ((∀ d ∈ newer, ¬t.ByDeletion d) → ∀ d ∈ newer ++ [c],
      d.after = some d.written ∧ cleanupFinalizer ∈ d.written.finalizers)

/-- The change by which a call has written an object, as it was answered, and guards it. -/
structure Wrote (t : Traffic k) (n : Nat) (o : Object k) (c : ApiChange) : Prop where
  listed : c ∈ t.server.history
  author : c.author = .engine n
  answered : c.written.metadata = o.metadata
  placed : o.metadata.key.path? k = some c.path
  protects : t.Protects c

theorem Coherent.keeps (coherent : t.Coherent) {newer older : List ApiChange} {d : ApiChange}
    (split : t.server.history = newer ++ d :: older) (undeleted : ¬t.ByDeletion d)
    (since : ∃ c ∈ older, ∃ m, c.author = .engine m) : d.Keeps := by
  cases author : d.author with
  | other n => exact coherent.modest newer d older split n author since
  | engine n =>
    have listed : d ∈ t.server.history := by
      rw [split]
      exact List.mem_append_right _ List.mem_cons_self
    have bound := coherent.counted d listed n author
    have there : t.calls[n]? = some t.calls[n] := List.getElem?_eq_getElem bound
    have conducts := (coherent.course n _ there).conducts split author
    generalize t.calls[n] = u at there conducts
    obtain ⟨c, begun, rest⟩ := u
    cases c with
    | delete key version => exact absurd ⟨n, key, version, begun, rest, author, there⟩ undeleted
    | _ => exact conducts

theorem Coherent.protects (coherent : t.Coherent) {c : ApiChange} {n : Nat}
    (listed : c ∈ t.server.history) (author : c.author = .engine n)
    (held : cleanupFinalizer ∈ c.written.finalizers) : t.Protects c := by
  have there : c ∈ t.server.changes c.path := List.mem_filter.mpr ⟨listed, decide_eq_true rfl⟩
  obtain ⟨newer, older, split⟩ := List.append_of_mem there
  refine ⟨newer, older, split, fun undeleted d since => ?_⟩
  obtain ⟨later, earlier, history, only_newer, from_c⟩ := List.filter_eq_append_iff.mp split
  have c_earlier : c ∈ earlier := by
    have : c ∈ earlier.filter fun d => d.path = c.path := by
      rw [from_c]
      exact List.mem_cons_self
    exact List.mem_of_mem_filter this
  have keeps : ∀ d ∈ newer, d.Keeps := by
    intro d listed
    have d_later : d ∈ later := by
      rw [← only_newer] at listed
      exact List.mem_of_mem_filter listed
    obtain ⟨first, between, rfl⟩ := List.append_of_mem d_later
    rw [List.append_assoc, List.cons_append] at history
    exact coherent.keeps history (undeleted d listed)
      ⟨c, List.mem_append_right _ c_earlier, n, author⟩
  have guarded := coherent.sound.held_of_keeps split held keeps d since
  exact ⟨ApiObject.settled_of_held guarded, guarded⟩

theorem Coherent.wrote (coherent : t.Coherent) {c : ApiChange} {n : Nat} {o : Object k}
    (listed : c ∈ t.server.history) (author : c.author = .engine n)
    (answered : c.written.metadata = o.metadata)
    (held : cleanupFinalizer ∈ c.written.finalizers) : t.Wrote n o c where
  listed := listed
  author := author
  answered := answered
  placed := by
    rw [← answered]
    exact coherent.sound.placed listed
  protects := coherent.protects listed author held

/-- Whatever the order of the engine's calls and of the writes and deletions of others: a creation
or a replacement that has succeeded left an object with the cleanup finalizer and the finalizers
of others, a replacement the identity and the owners of the stored object as well; it stays, and
guarded, until a deletion of the engine writes there; and a deletion takes at most the cleanup
finalizer away, and has done so if it succeeds. -/
theorem cleanup_finalizer_protects (runs : Runs only t) :
    (∀ n o since o', t.calls[n]? = some ⟨.create o, since, .done (.ok o')⟩ →
      ∃ c, t.Wrote n o' c ∧ Guards (o.metadata.finalizers.getD []) c.written.finalizers) ∧
    (∀ n o since o', t.calls[n]? = some ⟨.replace o, since, .done (.ok o')⟩ →
      ∃ c stored, t.Wrote n o' c ∧ stored ∈ t.server.history ∧ stored.path = c.path ∧
        stored.version = o.version ∧ Guards stored.written.finalizers c.written.finalizers ∧
          c.written.metadata.uid = stored.written.metadata.uid ∧
            c.written.metadata.ownerReferences.getD [] =
              stored.written.metadata.ownerReferences.getD []) ∧
    (∀ n key version since rest, t.calls[n]? = some ⟨.delete key version, since, rest⟩ →
      (∀ c ∈ t.server.history, c.author = .engine n →
        key.path? k = some c.path ∧ c.Unhands) ∧
      (rest = .done (.ok ()) → ∃ path older, key.path? k = some path ∧
        since.history <:+ older ∧ older <:+ t.server.history ∧
          ∀ x, (⟨older⟩ : ApiServer).kept path = some x → cleanupFinalizer ∉ x.finalizers)) := by
  have coherent := runs.coherent
  refine ⟨?_, ?_, ?_⟩
  · intro n o since o' there
    obtain ⟨-, c, listed, author, answered, guards⟩ :=
      (coherent.course n _ there).promises [] (.ok o') t.server .done
    exact ⟨c, coherent.wrote listed author answered guards.held, guards⟩
  · intro n o since o' there
    obtain ⟨-, c, listed, author, answered, d, stored, here, version, guards, uid, owners⟩ :=
      (coherent.course n _ there).promises [] (.ok o') t.server .done
    exact ⟨c, d, coherent.wrote listed author answered guards.held, stored, here, version, guards,
      uid, owners⟩
  · intro n key version since rest there
    constructor
    · intro c listed author
      obtain ⟨newer, older, split⟩ := List.append_of_mem listed
      exact (coherent.course n _ there).conducts split author
    · rintro rfl
      exact ((coherent.course n _ there).promises [] (.ok ()) t.server .done).2

open Cluster (workspaceKey workspacePath workspaceMeta keptWorkspace markedWorkspace workspaceText
  holdFinalizer)

def plainWorkspace : Object .workspace := ⟨workspaceMeta none none, ⟨∅⟩, none⟩

def knownWorkspace : Object .workspace := ⟨workspaceMeta (some "2") none, ⟨∅⟩, none⟩

def createdServer : ApiServer :=
  ApiServer.record ⟨[]⟩
    ⟨.engine 0, workspacePath, none, keptWorkspace "1" [cleanupFinalizer]⟩

/-- Another client has added a finalizer of its own. -/
def sharedServer : ApiServer :=
  createdServer.record ⟨.other 0, workspacePath, some (keptWorkspace "1" [cleanupFinalizer]),
    keptWorkspace "2" [cleanupFinalizer, holdFinalizer]⟩

def replacedServer : ApiServer :=
  sharedServer.record ⟨.engine 1, workspacePath,
    some (keptWorkspace "2" [cleanupFinalizer, holdFinalizer]),
    keptWorkspace "3" [cleanupFinalizer, holdFinalizer]⟩

/-- Another client has asked for the deletion of the workspace. -/
def doomedServer : ApiServer :=
  replacedServer.record ⟨.other 0, workspacePath,
    some (keptWorkspace "3" [cleanupFinalizer, holdFinalizer]),
    markedWorkspace "4" [cleanupFinalizer, holdFinalizer]⟩

def unhandedServer : ApiServer :=
  doomedServer.record ⟨.engine 2, workspacePath,
    some (markedWorkspace "4" [cleanupFinalizer, holdFinalizer]),
    markedWorkspace "5" [holdFinalizer]⟩

theorem kept_createdServer :
    createdServer.kept workspacePath = some (keptWorkspace "1" [cleanupFinalizer]) :=
  (ApiServer.kept_record_self _ _).trans (ApiObject.settled_of_held List.mem_cons_self)

theorem kept_sharedServer :
    sharedServer.kept workspacePath =
      some (keptWorkspace "2" [cleanupFinalizer, holdFinalizer]) :=
  (ApiServer.kept_record_self _ _).trans (ApiObject.settled_of_held List.mem_cons_self)

theorem kept_replacedServer :
    replacedServer.kept workspacePath =
      some (keptWorkspace "3" [cleanupFinalizer, holdFinalizer]) :=
  (ApiServer.kept_record_self _ _).trans (ApiObject.settled_of_held List.mem_cons_self)

theorem kept_doomedServer :
    doomedServer.kept workspacePath =
      some (markedWorkspace "4" [cleanupFinalizer, holdFinalizer]) :=
  (ApiServer.kept_record_self _ _).trans (ApiObject.settled_of_held List.mem_cons_self)

def bothFinalizers : String := "\"secapi.cloud.foundation/cleanup\",\"acme.io/hold\""

def markStamp : String := ",\"deletionTimestamp\":\"1970-01-01T00:00:00Z\""

theorem createdText_shows :
    ApiObject.ofText? (workspaceText "1" "\"secapi.cloud.foundation/cleanup\"" "") =
      some (keptWorkspace "1" [cleanupFinalizer]) := by
  decide +kernel

theorem sharedText_shows :
    ApiObject.ofText? (workspaceText "2" bothFinalizers "") =
      some (keptWorkspace "2" [cleanupFinalizer, holdFinalizer]) := by
  decide +kernel

theorem replacedText_shows :
    ApiObject.ofText? (workspaceText "3" bothFinalizers "") =
      some (keptWorkspace "3" [cleanupFinalizer, holdFinalizer]) := by
  decide +kernel

theorem doomedText_shows :
    ApiObject.ofText? (workspaceText "4" bothFinalizers markStamp) =
      some (markedWorkspace "4" [cleanupFinalizer, holdFinalizer]) := by
  decide +kernel

theorem unhandedText_shows :
    ApiObject.ofText? (workspaceText "5" "\"acme.io/hold\"" markStamp) =
      some (markedWorkspace "5" [holdFinalizer]) := by
  decide +kernel

theorem workspace_created : ∃ log, Held (Amid .workspace (.engine 0) fun _ _ => False)
    (Cluster.call none (.create plainWorkspace)) ⟨[]⟩ log
    (.ok ⟨(keptWorkspace "1" [cleanupFinalizer]).metadata, ⟨∅⟩, none⟩) createdServer := by
  have asked : ObjectMeta.ofJson (Cluster.desired plainWorkspace).metadata.toJson =
      some (workspaceMeta none (some [cleanupFinalizer])) := by decide +kernel
  have writes : (ApiEdit.create (workspaceMeta none (some [cleanupFinalizer]))
      (keptWorkspace "1" [cleanupFinalizer]).spec).Writes .workspace workspacePath none
        (keptWorkspace "1" [cleanupFinalizer]) :=
    .created Cluster.workspaceKey_placed (fun _ => id) (fun _ => id) ⟨rfl, rfl, rfl, rfl⟩
      (by decide) rfl
  have carries : Carries .workspace (.engine 0) workspacePath _
      (keptWorkspace "1" [cleanupFinalizer]) ⟨[]⟩ createdServer :=
    .of_kept rfl (by decide) (by decide) writes
  have named : Address.ofText? (Cluster.collection .workspace (some "acme") ++ "?") =
      some ⟨"/apis/workspace.v1.secapi.cloud/v1/namespaces/acme/workspaces", some ""⟩ := by
    decide +kernel
  obtain ⟨read, -⟩ := ApiReply.read_of_ofText? (k := .workspace) createdText_shows
    (by rfl) (by rfl)
  have asks : ∀ a, ApiRequest.Asks
      ⟨.post, a, Cluster.jsonBody (Cluster.desired plainWorkspace).toJson⟩ workspacePath
      (.create (workspaceMeta none (some [cleanupFinalizer]))
        (keptWorkspace "1" [cleanupFinalizer]).spec) :=
    fun _ => .create ((Cluster.desired plainWorkspace).toJson_metadata.trans asked) rfl
  exact Cluster.create_served rfl rfl named
    (.carried (asks _) carries (ApiReply.tells_of_ofText? createdText_shows)) read

theorem workspace_replaced : ∃ log, Held (Amid .workspace (.engine 1) fun _ _ => False)
    (Cluster.call none (.replace knownWorkspace)) sharedServer log
    (.ok ⟨(keptWorkspace "3" [cleanupFinalizer, holdFinalizer]).metadata, ⟨∅⟩, none⟩)
    replacedServer := by
  have metadata : ObjectMeta.ofJson (Cluster.keepUnmanaged
      (keptWorkspace "2" [cleanupFinalizer, holdFinalizer]).metadata
        knownWorkspace.metadata).toJson =
          some (workspaceMeta (some "2") (some [cleanupFinalizer, holdFinalizer])) := by
    decide +kernel
  have carries : Carries .workspace (.engine 1) workspacePath
      (.replace (workspaceMeta (some "2") (some [cleanupFinalizer, holdFinalizer]))
        (keptWorkspace "3" [cleanupFinalizer, holdFinalizer]).spec)
      (keptWorkspace "3" [cleanupFinalizer, holdFinalizer]) sharedServer replacedServer :=
    .of_kept kept_sharedServer (by decide) (by decide)
      (.replaced (by rintro v ⟨⟩; rfl) ⟨rfl, rfl, id⟩ id ⟨rfl, rfl, rfl, rfl⟩ rfl)
  obtain ⟨read, -⟩ := ApiReply.read_of_ofText? (k := .workspace) sharedText_shows
    (by rfl) (by rfl)
  obtain ⟨read', -⟩ := ApiReply.read_of_ofText? (k := .workspace) replacedText_shows
    (by rfl) (by rfl)
  have told := ApiReply.tells_of_ofText? sharedText_shows
  have told' := ApiReply.tells_of_ofText? replacedText_shows
  exact Cluster.replace_served rfl rfl
    (Cluster.fetch_served Cluster.workspace_address kept_sharedServer told read)
    (Cluster.put_served Cluster.workspace_address_query metadata carries told' read') (.pure _ _)

theorem workspace_unhanded : ∃ log, Held (Amid .workspace (.engine 2) fun _ _ => False)
    (Cluster.call (k := .workspace) none (.delete workspaceKey (some "4"))) doomedServer log
    (.ok ()) unhandedServer := by
  have metadata : ObjectMeta.ofJson (Cluster.releaseFinalizer
      (markedWorkspace "4" [cleanupFinalizer, holdFinalizer]).metadata).toJson =
        some (markedWorkspace "4" [holdFinalizer]).metadata := by
    decide +kernel
  have carries : Carries .workspace (.engine 2) workspacePath
      (.replace (markedWorkspace "4" [holdFinalizer]).metadata
        (markedWorkspace "5" [holdFinalizer]).spec)
      (markedWorkspace "5" [holdFinalizer]) doomedServer unhandedServer :=
    .of_kept kept_doomedServer (by decide) (by decide)
      (.replaced (by rintro v ⟨⟩; rfl) ⟨rfl, rfl, id⟩ id ⟨rfl, rfl, rfl, rfl⟩ rfl)
  obtain ⟨read, reads⟩ := ApiReply.read_of_ofText? (k := .workspace) doomedText_shows
    (by rfl) (by rfl)
  obtain ⟨read', -⟩ := ApiReply.read_of_ofText? (k := .workspace) unhandedText_shows
    (by rfl) (by rfl)
  have told := ApiReply.tells_of_ofText? doomedText_shows
  have told' := ApiReply.tells_of_ofText? unhandedText_shows
  exact Cluster.delete_served rfl
    (Cluster.fetch_served Cluster.workspace_address kept_doomedServer told read) rfl
    (Cluster.dispose_held reads (by decide) (Cluster.release_served
      (Cluster.put_served Cluster.workspace_address_query metadata carries told' read'))
      (.pure () unhandedServer))

/-- Another client adds a finalizer between the creation of a workspace and its replacement, and
asks for its deletion after that: the workspace stays until the engine lets go of it, and then the
finalizer of the other client is left. -/
theorem workspace_protected : ∃ (t t' : Traffic .workspace) (o o' : Object .workspace),
    Runs none t ∧ t.server = doomedServer ∧
    t.calls[0]? = some ⟨.create plainWorkspace, ⟨[]⟩, .done (.ok o)⟩ ∧
    t.calls[1]? = some ⟨.replace knownWorkspace, sharedServer, .done (.ok o')⟩ ∧
    (∃ c, t.Wrote 0 o c ∧ Guards [] c.written.finalizers) ∧
    (∃ c, ∃ stored ∈ t.server.history, t.Wrote 1 o' c ∧ stored.version = some "2" ∧
      Guards stored.written.finalizers c.written.finalizers) ∧
    Runs none t' ∧ t'.server = unhandedServer ∧
    t'.calls[2]? = some ⟨.delete workspaceKey (some "4"), doomedServer, .done (.ok ())⟩ ∧
    ∀ c ∈ t'.server.history, c.author = .engine 2 → c.Unhands := by
  obtain ⟨_, creates⟩ := workspace_created
  obtain ⟨_, replaces⟩ := workspace_replaced
  obtain ⟨_, unhands⟩ := workspace_unhanded
  have shares : Carries .workspace (.other 0) workspacePath
      (.replace (workspaceMeta none (some [cleanupFinalizer, holdFinalizer]))
        (keptWorkspace "2" [cleanupFinalizer, holdFinalizer]).spec)
      (keptWorkspace "2" [cleanupFinalizer, holdFinalizer]) createdServer sharedServer :=
    .of_kept kept_createdServer (by decide) (by decide)
      (.replaced nofun ⟨rfl, rfl, id⟩ id ⟨rfl, rfl, rfl, rfl⟩ rfl)
  have dooms : Carries .workspace (.other 0) workspacePath (.delete none)
      (markedWorkspace "4" [cleanupFinalizer, holdFinalizer]) replacedServer doomedServer :=
    .of_kept kept_replacedServer (by decide) (by decide)
      (.marked nofun ⟨rfl, rfl, fun _ => rfl⟩ (by decide) rfl ⟨rfl, rfl, rfl, rfl⟩ rfl rfl)
  have start : Runs none (⟨⟨[]⟩, []⟩ : Traffic .workspace) := .start .empty (by simp)
  have created := (start.step (.begun (c := .create plainWorkspace) trivial)).of_held (n := 0) rfl
    creates
  have shared := created.step (.foreign shares (by rw [kept_createdServer]; decide))
  have replaced := (shared.step (.begun (c := .replace knownWorkspace)
    (by rintro v ⟨⟩; decide))).of_held (n := 1) rfl replaces
  have doomed := replaced.step (.foreign dooms (by rw [kept_replacedServer]; decide))
  have unhanded := (doomed.step (.begun (c := .delete workspaceKey (some "4")) trivial)).of_held
    (n := 2) rfl unhands
  obtain ⟨creation, replacement, -⟩ := cleanup_finalizer_protects doomed
  obtain ⟨-, -, deletion⟩ := cleanup_finalizer_protects unhanded
  refine ⟨_, _, _, _, doomed, rfl, rfl, rfl, creation 0 _ _ _ rfl, ?_, unhanded, rfl, rfl, ?_⟩
  · obtain ⟨c, stored, wrote, listed, -, version, guards, -⟩ := replacement 1 _ _ _ rfl
    exact ⟨c, stored, listed, wrote, version, guards⟩
  · intro c listed own
    exact ((deletion 2 _ _ _ _ rfl).1 c listed own).2

end Traffic

end Reconciler
