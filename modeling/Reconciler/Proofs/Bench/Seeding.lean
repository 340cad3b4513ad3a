import Reconciler.Bench
import Reconciler.Proofs.Bench.Faultless
import Reconciler.Proofs.Controller.Entering
import Reconciler.Proofs.Controller.Undisturbed

/-!
What becomes of the objects of a manifest. Each one that is stored stands for a resource, and
stays as it is until a reconcile of its own key. A pending one is driven by that reconcile just
if it was stored in the namespace that its labels tell: the engine reads under the one key and
writes under the other, and neither admission nor the store compares them.
-/

set_option autoImplicit false

namespace Reconciler

variable {k : Kind}

namespace Bench

variable {α : Type} {b : Bench}

theorem keeps_work {P : (k : Kind) → Shelf k → Prop} {f : Station k → α × Station k}
    (holds : ∀ k, P k (b.lane k).shelf) (kept : P k (f (b.station k)).2.surroundings.shelf)
    (k' : Kind) : P k' ((b.work k f).2.lane k').shelf := by
  cases k <;> cases k' <;> first | exact kept | exact holds _

theorem lane_work_of_ne {k' : Kind} (apart : k' ≠ k) (f : Station k → α × Station k) :
    (b.work k f).2.lane k' = b.lane k' := by
  cases k <;> cases k' <;> first | rfl | exact absurd rfl apart

theorem shelf_work (observable : (k.noFacts? : Option (k.Facts Reference)).isSome)
    (f : Station k → α × Station k) :
    ((b.work k f).2.lane k).shelf = (f (b.station k)).2.surroundings.shelf := by
  cases k with
  | volume => rfl
  | workspace => rfl
  | storageOffer => cases observable
  | networkOffer => cases observable

theorem observable_of_stored {key : ObjectKey} {o : Object k}
    (found : (b.lane k).shelf.store.objects.get? key = some o) :
    (k.noFacts? : Option (k.Facts Reference)).isSome := by
  cases k with
  | volume => rfl
  | workspace => rfl
  | storageOffer => cases found
  | networkOffer => cases found

end Bench

/-- The shelf holds what was admitted, and no fault is planned. -/
structure Shelf.Sown (s : Shelf k) : Prop where
  faultless : s.faults = []
  sound : s.store.Sound
  readable : ∀ {key o}, s.store.objects.get? key = some o → ∃ r, o.toResource = .ok r

theorem Controller.toResource_of_admission {o : Object k} (admitted : admission o = .ok ()) :
    ∃ r, o.toResource = .ok r := by
  unfold admission at admitted
  cases read : o.toResource with
  | ok r => exact ⟨r, rfl⟩
  | error e =>
    rw [read] at admitted
    cases admitted

theorem MemoryStore.readable_created {s : MemoryStore k} {o : Object k} {r : Resource k}
    (read : o.toResource = .ok r) (ctx : Context) (clock : Moment) (now : Instant)
    (readable : ∀ {key o}, s.objects.get? key = some o → ∃ r, o.toResource = .ok r)
    {key : ObjectKey} {o' : Object k}
    (found : (s.after (.call ctx clock now (.create o))).objects.get? key = some o') :
    ∃ r', o'.toResource = .ok r' := by
  rcases s.after_create ctx clock now o with same | ⟨-, stored⟩
  · exact readable (same ▸ found)
  · rw [stored] at found
    by_cases here : key = .ofObject o
    · subst here
      rw [get?_write_self] at found
      obtain rfl := Option.some.inj found
      exact ⟨_, Object.toResource_restamp read (some (natText (s.lastVersion + 1))) (some now) none⟩
    · exact readable (get?_write_of_ne s _ here ▸ found)

namespace Bench

variable {b : Bench} (ctx : Context) (wall : Instant)

def Sown (b : Bench) : Prop := ∀ k, (b.lane k).shelf.Sown

theorem sown_assemble (backend : Backend) (backoff : Backoff) (metrics : Option Metrics) :
    (assemble backend backoff metrics).Sown := by
  have empty : ∀ k, (Shelf.empty : Shelf k).Sown :=
    fun k => ⟨rfl, MemoryStore.sound_empty, fun found => nomatch found⟩
  intro k
  cases k <;> exact empty _

theorem Sown.plant (sown : b.Sown) {o : Object k} (admitted : Controller.admission o = .ok ()) :
    (Bench.plant ctx wall ⟨k, o⟩ b).2.Sown := by
  obtain ⟨r, read⟩ := Controller.toResource_of_admission admitted
  obtain ⟨faultless, sound, readable⟩ := sown k
  have served : Station.Served ctx wall (.create o) (b.station k) _ _ :=
    Station.Faultless.read wall _ faultless
  have stored : ((b.station k).answer ctx wall (.read (.create o))).2.surroundings.shelf.store =
      (b.lane k).shelf.store.after (.call ctx b.now wall (.create o)) := served.stored
  have kept : ((b.station k).answer ctx wall (.read (.create o))).2.surroundings.shelf.Sown := by
    refine ⟨served.faultless, ?_, ?_⟩
    · rw [stored]
      exact sound.after _
    · rw [stored]
      exact MemoryStore.readable_created read ctx b.now wall readable
  exact keeps_work (P := fun k s => s.Sown) sown kept

theorem Sown.seedAll (sown : b.Sown) (objects : List (Object k)) (count : Nat) :
    ((Manifest.seedAll count objects).run (Bench.plant ctx wall) b).2.Sown := by
  induction objects generalizing b count with
  | nil => exact sown
  | cons o rest ih =>
    unfold Manifest.seedAll
    cases admitted : Controller.admission o with
    | error e => exact ih sown count
    | ok _ =>
      have planted := sown.plant ctx wall admitted
      simp only [Dialogue.put, Dialogue.ask_bind, Dialogue.run]
      generalize Bench.plant ctx wall ⟨k, o⟩ b = left at planted ⊢
      obtain ⟨answer, b'⟩ := left
      cases answer with
      | ok o' => exact ih planted (count + 1)
      -- The first object that the store does not take ends the seeding.
      | error e => exact planted

theorem Sown.seed (sown : b.Sown) (m : Manifest) : (b.seed ctx wall m).2.Sown := by
  unfold Bench.seed Manifest.seed
  rw [Dialogue.run_bind]
  have first := sown.seedAll ctx wall m.workspaces 0
  generalize (Manifest.seedAll 0 m.workspaces).run (Bench.plant ctx wall) b = left at first ⊢
  obtain ⟨answer, b'⟩ := left
  cases answer with
  | ok count => exact first.seedAll ctx wall m.volumes count
  | error e => exact first

end Bench

/-- The providers of the bench leave the metadata of resources alone. -/
theorem Backend.service_placing (k : Kind) : (Backend.service k).Placing := by
  rintro op r b r' outcome b' ⟨rfl, -, -⟩
  cases b with
  | dummy d => rfl
  | scripted answers calls =>
    change ((answers.headD .success).change r).metadata = r.metadata
    have told : ∀ a : ScriptedAnswer, (ScriptedAnswer.countResources a.count k
        (ScriptedAnswer.attachTo a.attach k r)).metadata = r.metadata := by
      intro a
      cases k with
      | volume => cases target : a.attach <;> rfl
      | workspace => cases counted : a.count <;> rfl
      | storageOffer => rfl
      | networkOffer => rfl
    unfold ScriptedAnswer.change
    cases (answers.headD .success).state with
    | none => exact told _
    | some s => exact told _

namespace Bench

structure Drive where
  kind : Kind
  key : ObjectKey
  pace : Pace
  wall : Instant
  ctx : Context

def reconcile (b : Bench) (d : Drive) : Except Stop Decision × Bench :=
  b.work d.kind (Station.reconcile d.pace d.wall d.ctx d.key)

def afterDrives (b : Bench) (drives : List Drive) : Bench :=
  drives.foldl (fun b d => (b.reconcile d).2) b

structure Houses (b : Bench) (key : ObjectKey) (o : Object k) : Prop where
  faultless : (b.lane k).shelf.faults = []
  sound : (b.lane k).shelf.store.Sound
  found : (b.lane k).shelf.store.objects.get? key = some o

variable {b : Bench} {key : ObjectKey} {o : Object k} {r : Resource k}

/-- A reconcile of another key, or of the other kind, leaves the object alone. -/
theorem Houses.reconcile (houses : b.Houses key o) {d : Drive}
    (other : ¬(d.kind = k ∧ d.key = key)) : (b.reconcile d).2.Houses key o := by
  obtain ⟨kind, key', pace, wall, ctx⟩ := d
  obtain ⟨faultless, sound, found⟩ := houses
  by_cases same : kind = k
  · subst same
    obtain ⟨result, log, -, run⟩ := Station.run_of_reconcile ctx wall (b.station kind) pace key'
    have shelf := shelf_work (b := b) (observable_of_stored found)
      (Station.reconcile pace wall ctx key')
    have treated := run.treated (Backend.service_placing kind) sound
    constructor
    case faultless =>
      rw [Bench.reconcile, shelf]
      have free : (b.station kind).Faultless := faultless
      exact free.reconcile wall pace key'
    case sound =>
      rw [Bench.reconcile, shelf]
      exact run.sound sound
    case found =>
      rw [Bench.reconcile, shelf]
      exact (treated.get?_of_ne fun here => other ⟨rfl, here.symm⟩).trans found
  · have lane : (b.reconcile ⟨kind, key', pace, wall, ctx⟩).2.lane k = b.lane k :=
      lane_work_of_ne (Ne.symm same) _
    exact ⟨lane ▸ faultless, lane ▸ sound, lane ▸ found⟩

theorem Houses.afterDrives (houses : b.Houses key o) {drives : List Drive}
    (others : ∀ d ∈ drives, ¬(d.kind = k ∧ d.key = key)) :
    (b.afterDrives drives).Houses key o := by
  induction drives generalizing b with
  | nil => exact houses
  | cons d drives ih =>
    exact ih (houses.reconcile (others d List.mem_cons_self))
      fun d' listed => others d' (List.mem_cons_of_mem d listed)

/-- The reconcile asks for another one, and leaves an object of a resource that is being
created. -/
structure Begins (b : Bench) (d : Drive) : Prop where
  again : (b.reconcile d).1 = .ok (.again d.pace.requeueAfter)
  creating : ∃ (o : Object d.kind) (r : Resource d.kind),
    ((b.reconcile d).2.lane d.kind).shelf.store.objects.get? d.key = some o ∧
      o.toResource = .ok r ∧ r.rawState = some .creating

/-- The reconcile fails on the key that the labels of the object name, and changes nothing. -/
structure Refuses (b : Bench) (d : Drive) (r : Resource d.kind) : Prop where
  failed : (b.reconcile d).1 = .error (.failed
    ((b.lane d.kind).shelf.store.refusal (.ofReference r.reference) r.metadata.version))
  kept : ((b.reconcile d).2.lane d.kind).shelf.store = (b.lane d.kind).shelf.store

section Pending

variable {d : Drive} {o : Object d.kind} {r : Resource d.kind} (houses : b.Houses d.key o)
  (live : d.ctx.check b.now = .ok ()) (read : o.toResource = .ok r)

include houses live

theorem Houses.round (silent : Round.calls ⟨d.pace.requeueAfter, d.wall, .ok ()⟩ d.key
      (b.lane d.kind).shelf.store = []) :
    (b.reconcile d).1 = (Round.result ⟨d.pace.requeueAfter, d.wall, .ok ()⟩ d.key
        (b.lane d.kind).shelf.store).map (·.1) ∧
      ((b.reconcile d).2.lane d.kind).shelf.store =
        Round.after ⟨d.pace.requeueAfter, d.wall, .ok ()⟩ d.key (b.lane d.kind).shelf.store := by
  have ready : (b.station d.kind).Ready d.ctx := ⟨live, houses.faultless⟩
  obtain ⟨answered, stored⟩ := ready.reconcile d.pace d.wall d.key silent
  refine ⟨answered, ?_⟩
  rw [Bench.reconcile, shelf_work (observable_of_stored houses.found)]
  exact stored

include read

theorem Houses.begins (pending : r.state = .pending)
    (home : o.metadata.namespaceName = some r.metadata.scope.namespaceName)
    (dated : ∀ t, r.metadata.modifiedAt = some t → 0 ≤ t.year ∧ t.year ≤ 9999) : b.Begins d := by
  have stands : (b.lane d.kind).shelf.store.Stands d.key o r :=
    ⟨houses.sound, houses.found, read, home, fun {t} => dated t⟩
  obtain ⟨result, silent, o', r', left, creating⟩ :=
    Round.run_of_entering (observable_of_stored houses.found)
      ⟨d.pace.requeueAfter, d.wall, .ok ()⟩ stands (.begin pending)
  obtain ⟨answered, stored⟩ := houses.round live silent
  constructor
  case again =>
    rw [answered, result]
    rfl
  case creating =>
    rw [stored]
    exact ⟨o', r', left.found, left.formed.read, creating⟩

theorem Houses.refuses (pending : r.state = .pending)
    (astray : o.metadata.namespaceName ≠ some r.metadata.scope.namespaceName) :
    b.Refuses d r := by
  have run := Round.run_of_astray (observable_of_stored houses.found)
    ⟨d.pace.requeueAfter, d.wall, .ok ()⟩ houses.sound houses.found read (.begin pending) astray
  obtain ⟨answered, stored⟩ := houses.round live (congrArg (·.2.2) run)
  constructor
  case failed =>
    rw [answered, Round.result, run]
    rfl
  case kept =>
    rw [stored, Round.after, run]

end Pending

/-- Every object that seeding a bench with empty stores has stored stands for a resource. If that
is pending, whatever was reconciled before but the object itself, a reconcile of its key under a
context that has not ended begins to create it, where it was stored in the namespace of its scope
and was last changed, if it tells, in a year of four digits; stored in any other namespace it is
refused and left as it is. -/
theorem seeded_object_driven {backend : Backend} {backoff : Backoff} {metrics : Option Metrics}
    {ctx : Context} {wall : Instant} {m : Manifest} (earlier : List Drive) (d : Drive)
    {o : Object d.kind}
    (stored : (((assemble backend backoff metrics).seed ctx wall m).2.lane
      d.kind).shelf.store.objects.get? d.key = some o)
    (first : ∀ d' ∈ earlier, ¬(d'.kind = d.kind ∧ d'.key = d.key))
    (live : d.ctx.check
      (((assemble backend backoff metrics).seed ctx wall m).2.afterDrives earlier).now = .ok ()) :
    let b := ((assemble backend backoff metrics).seed ctx wall m).2.afterDrives earlier
    ∃ r, o.toResource = .ok r ∧ (r.state = .pending →
      (o.metadata.namespaceName = some r.metadata.scope.namespaceName →
        (∀ t, r.metadata.modifiedAt = some t → 0 ≤ t.year ∧ t.year ≤ 9999) → b.Begins d) ∧
      (o.metadata.namespaceName ≠ some r.metadata.scope.namespaceName → b.Refuses d r)) := by
  intro b
  obtain ⟨faultless, sound, readable⟩ := (sown_assemble backend backoff metrics).seed ctx wall m d.kind
  obtain ⟨r, read⟩ := readable stored
  have houses : b.Houses d.key o := Houses.afterDrives ⟨faultless, sound, stored⟩ first
  exact ⟨r, read, fun pending => ⟨houses.begins live read pending, houses.refuses live read pending⟩⟩

/-- A workspace of the tenant `acme` that a manifest places in a namespace. -/
def placedWorkspace (namespaceName : String) : Object .workspace where
  metadata :=
    { ObjectMeta.blank with
      name := some "ws-1", namespaceName := some namespaceName
      labels := some (SortedMap.empty.insert Mapping.tenantLabel "acme") }
  spec := ⟨∅⟩
  status := none

def storedWorkspace (namespaceName : String) : Object .workspace :=
  (placedWorkspace namespaceName).restamp (some "1") (some default) none

def workspaceBench (namespaceName : String) : Except Error Nat × Bench :=
  (assemble default .standard none).seed .unbounded default ⟨[], [placedWorkspace namespaceName]⟩

def workspaceDrive (namespaceName name : String) : Drive where
  kind := .workspace
  key := ⟨some namespaceName, name⟩
  pace := ⟨.ofSeconds 5, .ofSeconds 30, .ofSeconds 1, 100⟩
  wall := default
  ctx := .unbounded

/-- The workspace is driven in the namespace of its tenant, after a reconcile of another key. -/
theorem workspace_at_home_driven :
    (workspaceBench "acme").1 = .ok 1 ∧
    ((workspaceBench "acme").2.lane .workspace).shelf.store.objects.get? ⟨some "acme", "ws-1"⟩ =
      some (storedWorkspace "acme") ∧
    ((workspaceBench "acme").2.afterDrives [workspaceDrive "acme" "ws-2"]).Begins
      (workspaceDrive "acme" "ws-1") := by
  have stored : ((workspaceBench "acme").2.lane .workspace).shelf.store.objects.get?
      ⟨some "acme", "ws-1"⟩ = some (storedWorkspace "acme") := by rfl
  obtain ⟨(r : Resource .workspace), read, driven⟩ :=
    seeded_object_driven [workspaceDrive "acme" "ws-2"] (workspaceDrive "acme" "ws-1") stored
      (by decide) rfl
  replace read : (storedWorkspace "acme").toResource = .ok r := read
  have reads : (storedWorkspace "acme").toResource.map (fun r =>
      (r.state, r.metadata.scope.namespaceName, r.metadata.modifiedAt)) =
        .ok (.pending, "acme", none) := by rfl
  rw [read] at reads
  obtain ⟨pending, rest⟩ := Prod.mk.inj (Except.ok.inj reads)
  obtain ⟨home, unmodified⟩ := Prod.mk.inj rest
  refine ⟨rfl, stored, (driven pending).1 (by rw [home]; rfl) ?_⟩
  intro t told
  cases unmodified.symm.trans told

/-- In another namespace it is stored all the same, and its first reconcile fails and leaves it
pending. -/
theorem workspace_elsewhere_not_driven :
    (workspaceBench "other").1 = .ok 1 ∧
    ((workspaceBench "other").2.lane .workspace).shelf.store.objects.get? ⟨some "other", "ws-1"⟩ =
      some (storedWorkspace "other") ∧
    (∃ r, (storedWorkspace "other").toResource = .ok r ∧ r.state = .pending ∧
      r.metadata.modifiedAt = none) ∧
    ((workspaceBench "other").2.reconcile (workspaceDrive "other" "ws-1")).1 =
      .error (.failed (.notFound "Workspace" "acme/ws-1")) ∧
    (((workspaceBench "other").2.reconcile (workspaceDrive "other" "ws-1")).2.lane
      .workspace).shelf.store.objects.get? ⟨some "other", "ws-1"⟩ =
        some (storedWorkspace "other") :=
  ⟨rfl, rfl, ⟨_, rfl, rfl, rfl⟩, rfl, rfl⟩

end Bench

end Reconciler
