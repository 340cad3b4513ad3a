import Reconciler.Proofs.Controller.History
import Reconciler.Proofs.Volume.Gauge

/-!
The engine and the dummy provider agree on volumes. A provider is only asked about a volume
that is not active, or is to be deleted, and by the time a volume is written to be active the
provider has just been told its size. Users cannot make a volume active, so that what they do
in between does no harm.
-/

set_option autoImplicit false

namespace Reconciler

open Controller (Stage)

namespace Volume

def Serving (v : Volume) : Prop := v.rawState = some .active ∧ v.isDeleted = false

end Volume

namespace Dummy

/-- The provider holds the volume with the size that is on record for it. -/
def Backs (d : Dummy) (v : Volume) : Prop :=
  d.volumeSize? (identity v) = some (Volume.observedSize v)

theorem Backs.of_same {d : Dummy} {v v' : Volume} (backs : d.Backs v)
    (place : v'.reference = v.reference)
    (size : Volume.observedSize v' = Volume.observedSize v) : d.Backs v' := by
  unfold Backs identity at *
  rw [place, size]
  exact backs

theorem Backs.entered {d : Dummy} {v : Volume} (backs : d.Backs v) (s : State) (now : Instant) :
    d.Backs (v.enter s now) :=
  backs.of_same rfl (Volume.observedSize_enter v s now)

end Dummy

/-- The rules of volumes by what they ask of the provider. -/
inductive Provision : Rule .volume Operation Write → Prop
  | entering {name : String} {applies : Volume → Bool} {s : State} (passive : s ≠ .active) :
      Provision (.entering name applies s)
  | creating {name : String} {applies : Volume → Bool} :
      Provision (.activating name applies .create Volume.adoptSpec)
  | growing {name : String} {applies : Volume → Bool} :
      Provision (.activating name applies .increaseSize Volume.copySize)
  | deleting : Provision .deleting

theorem Provision.of_rule? {v : Volume} {rule : Rule .volume Operation Write}
    (chosen : Volume.handler.rule? v = some rule) : Provision rule := by
  have listed := List.mem_of_find?_eq_some chosen
  simp only [Volume.handler, List.mem_cons, List.not_mem_nil, or_false] at listed
  rcases listed with rfl | rfl | rfl | rfl | rfl | rfl | rfl
  · exact .entering (by decide)
  · exact .creating
  · exact .entering (by decide)
  · exact .growing
  · exact .deleting
  · exact .entering (by decide)
  · exact .entering (by decide)

theorem Row.call_of_serving {v : Volume} {rule : Rule .volume Operation Write} (row : Row v rule)
    (serving : v.Serving) : rule.call = none := by
  obtain ⟨active, unmarked⟩ := serving
  cases row with
  | entering step passive => rfl
  | activating step failure placed kept =>
    rw [active] at step
    cases step
  | deleting mark failure =>
    rw [unmarked] at mark
    cases mark

namespace MemoryStore

variable {key : ObjectKey} {s : MemoryStore .volume}

def Idle (key : ObjectKey) (s : MemoryStore .volume) : Prop :=
  ∀ o v, s.objects.get? key = some o → o.toResource = .ok v → ¬ Volume.Serving v

end MemoryStore

theorem Deed.serving {key : ObjectKey} {s : MemoryStore .volume} (kept : s.Kept key)
    {q : Request .volume} (deed : Deed key s q) {o' : Object .volume} {v' : Volume}
    (found : (s.after q).objects.get? key = some o') (read : o'.toResource = .ok v')
    (serving : v'.Serving) :
    ∃ o v, s.objects.get? key = some o ∧ o.toResource = .ok v ∧ Volume.Serving v ∧
      v'.reference = v.reference ∧ Volume.observedSize v' = Volume.observedSize v := by
  cases deed.left kept.sound with
  | same same =>
    rw [same] at found
    exact ⟨o', v', found, read, serving, rfl, rfl⟩
  | gone gone =>
    rw [gone] at found
    cases found
  | @made o r absent formed fresh version created found' =>
    obtain rfl := Option.some.inj (found'.symm.trans found)
    have restamped := Object.toResource_restamp formed.read version created none
    obtain rfl := Except.ok.inj (restamped.symm.trans read)
    have raw := Resource.rawState_of_unobserved (formed.unobserved fresh)
    cases raw.symm.trans serving.1
  | @changed o was spec version created deleted marked found' =>
    obtain rfl := Option.some.inj (found'.symm.trans found)
    obtain ⟨r, tended⟩ := kept.tended was
    have restamped := Object.toResource_restamp (tended.respec spec).read version created deleted
    obtain rfl := Except.ok.inj (restamped.symm.trans read)
    refine ⟨o, r, was, tended.read, ⟨serving.1, ?_⟩, rfl, rfl⟩
    have unmarked : deleted.isSome = false := serving.2
    rw [tended.isDeleted]
    cases mark : o.metadata.deletionTimestamp.isSome with
    | false => rfl
    | true =>
      rw [marked mark] at unmarked
      cases unmarked

section Worlds

variable {key : ObjectKey} {w : World .volume Dummy}

/-- The provider backs the volume that is stored under the key, if it is in service. -/
def World.Agrees (key : ObjectKey) (w : World .volume Dummy) : Prop :=
  ∀ o v, w.store.objects.get? key = some o → o.toResource = .ok v → Volume.Serving v →
    w.provider.Backs v

theorem World.Agrees.of_idle (idle : w.store.Idle key) : w.Agrees key := by
  intro o v found read serving
  exact absurd serving (idle o v found read)

theorem World.Agrees.used (agrees : w.Agrees key) (kept : w.store.Kept key)
    {q : Request .volume} (deed : Deed key w.store q) :
    World.Agrees key { w with store := w.store.after q } := by
  intro o' v' found' read' serving'
  obtain ⟨o, v, found, read, serving, place, size⟩ := deed.serving kept found' read' serving'
  exact (agrees o v found read serving).of_same place size

theorem MemoryStore.Idle.used {s : MemoryStore .volume} (idle : s.Idle key) (kept : s.Kept key)
    {q : Request .volume} (deed : Deed key s q) : (s.after q).Idle key := by
  intro o' v' found' read' serving'
  obtain ⟨o, v, found, read, serving, -⟩ := deed.serving kept found' read' serving'
  exact idle o v found read serving

/-- What a reconcile knows at a stage, of the store and the provider together. -/
def Accord (key : ObjectKey) (w : World .volume Dummy) : Stage .volume → Prop
  | .choosing v => Volume.Serving v ∨ w.store.Idle key
  | .asking rule _ => Provision rule ∧ (rule.call.isSome → w.store.Idle key)
  | .writing (some .update) _ v => v.rawState = some .active → w.provider.Backs v
  | .writing (some .delete) _ v => w.provider.volumeSize? (Dummy.identity v) = none
  | .reading | .recording _ | .writing none _ _ | .finished _ => True

theorem Accord.used {st : Stage .volume} (accord : Accord key w st) (kept : w.store.Kept key)
    {q : Request .volume} (deed : Deed key w.store q) :
    Accord key { w with store := w.store.after q } st := by
  cases st with
  | choosing v =>
    rcases accord with serving | idle
    · exact .inl serving
    · exact .inr (idle.used kept deed)
  | asking rule v =>
    obtain ⟨provision, idle⟩ := accord
    exact ⟨provision, fun asks => (idle asks).used kept deed⟩
  | writing write again v =>
    cases write with
    | none => trivial
    | some write => cases write <;> exact accord
  | _ => trivial

end Worlds

section Answers

variable {ctx : Context} {requeueAfter : Duration} {wall : Instant} {key : ObjectKey}
  {w w' : World .volume Dummy} {log happenings : List (Happening .volume)}

theorem Accord.of_read {found : (Query.read (.get key) : Query .volume).Answer}
    (kept : w.store.Kept key) (agrees : w.Agrees key)
    (answers : w.Answers (Dummy.service .volume) ctx (.read (.get key)) found happenings w') :
    w'.Agrees key ∧ Accord key w' (Stage.afterRead found) := by
  cases answers with
  | read access =>
    obtain ⟨same, there⟩ := access.read
    have agrees' : w'.Agrees key := by
      unfold World.Agrees
      rw [same, access.provider_eq]
      exact agrees
    refine ⟨agrees', ?_⟩
    cases found with
    | error e =>
      obtain ⟨result, finished⟩ := Stage.afterRead_error (k := .volume) e
      rw [finished]
      trivial
    | ok o =>
      have stored := there o rfl
      obtain ⟨v, tended⟩ := kept.tended stored
      rw [Stage.afterRead_ok tended.read]
      by_cases serving : Volume.Serving v
      · exact .inl serving
      · right
        intro o' v' found' read'
        rw [same, stored] at found'
        obtain rfl := Option.some.inj found'
        obtain rfl := Except.ok.inj (tended.read.symm.trans read')
        exact serving

theorem Accord.of_check {v : Volume} {alive : (Query.check : Query .volume).Answer}
    (agrees : w.Agrees key) (pursuit : Pursuit key w.store log (.choosing v))
    (accord : Accord key w (.choosing v))
    (answers : w.Answers (Dummy.service .volume) ctx .check alive happenings w') :
    w'.Agrees key ∧ Accord key w' (Stage.afterCheck v alive) := by
  obtain ⟨-, o, -, tended⟩ := pursuit
  cases answers with
  | checked t later =>
    refine ⟨agrees, ?_⟩
    cases ctx.check t with
    | error i => trivial
    | ok _ =>
      cases chosen : Kind.handler .volume |>.rule? v with
      | none =>
        rw [Stage.afterCheck_none chosen]
        trivial
      | some rule =>
        rw [Stage.afterCheck_some chosen]
        refine ⟨.of_rule? chosen, ?_⟩
        intro asks
        refine accord.resolve_left ?_
        intro serving
        rw [(Row.of_rule? tended.driven chosen).1.call_of_serving serving] at asks
        cases asks

theorem Accord.of_failure {rule : Rule .volume Operation Write} (provision : Provision rule)
    (asks : rule.call.isSome) (e : ProviderError) (v : Volume) :
    Accord key w (.writing rule.writeFailure true (rule.onFailure e wall v)) := by
  have inactive : (v.fail e wall).rawState = some .active → w.provider.Backs (v.fail e wall) := by
    intro active
    rw [v.rawState_fail rfl] at active
    cases active
  cases provision with
  | entering passive => cases asks
  | creating => exact inactive
  | growing => exact inactive
  | deleting => exact inactive

theorem Accord.of_success {rule : Rule .volume Operation Write} {op : Operation} {d : Dummy}
    {v : Volume} (provision : Provision rule) (call : rule.call = some op)
    (performed : d.perform op v = (.ok (), w.provider)) :
    Accord key w (.writing rule.writeSuccess rule.requeues (rule.onSuccess wall v)) := by
  cases provision with
  | entering passive => cases call
  | creating =>
    obtain rfl := Option.some.inj call
    have held : w.provider.Backs (Volume.adoptSpec v) := by
      unfold Dummy.Backs
      rw [Volume.observedSize_adoptSpec]
      exact Dummy.volumeSize?_of_createVolume performed
    intro _
    exact .entered held .active wall
  | growing =>
    obtain rfl := Option.some.inj call
    have held : w.provider.Backs (Volume.copySize v) := by
      unfold Dummy.Backs
      rw [Volume.observedSize_copySize]
      exact Dummy.volumeSize?_of_growVolume performed
    intro _
    exact .entered held .active wall
  | deleting =>
    obtain rfl := Option.some.inj call
    exact Dummy.volumeSize?_of_deleteVolume performed

theorem Accord.of_silence {rule : Rule .volume Operation Write} (provision : Provision rule)
    (call : rule.call = none) (v : Volume) :
    Accord key w (.writing rule.writeSuccess rule.requeues (rule.onSuccess wall v)) := by
  cases provision with
  | @entering name applies s passive =>
    intro active
    have entered : (v.enter s wall).rawState = some .active := active
    rw [v.rawState_enter rfl] at entered
    exact absurd (Option.some.inj entered) passive
  | creating => cases call
  | growing => cases call
  | deleting => cases call

theorem Accord.of_call {rule : Rule .volume Operation Write} {op : Operation} {v : Volume}
    {answer : (Query.call op v).Answer} (agrees : w.Agrees key)
    (accord : Accord key w (.asking rule v)) (call : rule.call = some op)
    (answers : w.Answers (Dummy.service .volume) ctx (.call op v) answer happenings w') :
    w'.Agrees key ∧ Accord key w' (Stage.afterCall requeueAfter wall rule v answer) := by
  obtain ⟨provision, idle⟩ := accord
  have asks : rule.call.isSome := by rw [call]; rfl
  cases answers with
  | refused t i v' later ended => exact ⟨agrees, trivial⟩
  | abandoned t t' i v' d later waited live leaves => exact ⟨.of_idle (idle asks), trivial⟩
  | completed t t' v' outcome d later waited live serves =>
    obtain ⟨rfl, performed⟩ := serves
    refine ⟨.of_idle (idle asks), ?_⟩
    rw [Stage.afterCall_of_same outcome rfl]
    cases outcome with
    | ok _ => exact .of_success provision call performed
    | error e =>
      cases e with
      | stillProcessing => trivial
      | failed provider operation reason => exact .of_failure provision asks _ _
      | unknownResource provider name => exact .of_failure provision asks _ _

theorem Accord.of_pass {rule : Rule .volume Operation Write} {v : Volume}
    {alive : (Query.check : Query .volume).Answer} (agrees : w.Agrees key)
    (accord : Accord key w (.asking rule v)) (call : rule.call = none)
    (answers : w.Answers (Dummy.service .volume) ctx .check alive happenings w') :
    w'.Agrees key ∧ Accord key w'
      (Stage.afterCall requeueAfter wall rule v (v, alive.map fun _ => .ok ())) := by
  obtain ⟨provision, -⟩ := accord
  cases answers with
  | checked t later =>
    refine ⟨agrees, ?_⟩
    cases ctx.check t with
    | error i => trivial
    | ok _ =>
      change Accord _ _ (Stage.afterCall requeueAfter wall rule v (v, .ok (.ok ())))
      rw [Stage.afterCall_of_same (.ok ()) rfl]
      exact .of_silence provision call v

theorem World.Agrees.of_update {again : Bool} {v' : Volume}
    {stored : (Query.commit (.replace (.ofResource v')) : Query .volume).Answer}
    (agrees : w.Agrees key) (pursuit : Pursuit key w.store log (.writing (some .update) again v'))
    (accord : Accord key w (.writing (some .update) again v'))
    (answers : w.Answers (Dummy.service .volume) ctx (.commit (.replace (.ofResource v'))) stored
      happenings w') : w'.Agrees key := by
  obtain ⟨-, o, v, seen, tended, plan⟩ := pursuit
  cases answers with
  | commit access =>
    unfold World.Agrees
    rw [access.provider_eq]
    rcases access.rewrites seen tended.read plan.1 with same | ⟨found, left⟩
    · rw [same]
      exact agrees
    · intro o' u found' read serving
      rw [left, MemoryStore.get?_rewritten] at found'
      obtain rfl := Option.some.inj found'
      have reread := (MemoryStore.tended_rewritten (s := w.store) tended plan).read
      obtain rfl := Except.ok.inj (reread.symm.trans read)
      have active : v'.rawState = some .active :=
        (Resource.rawState_of_lifecycle (Resource.lifecycle_stored v')).symm.trans serving.1
      exact (accord active).of_same rfl (Volume.observedSize_stored v')

theorem World.Agrees.of_delete {again : Bool} {v' : Volume}
    {gone : (Query.commit (.delete (.ofReference v'.reference) (some v'.metadata.version)) :
      Query .volume).Answer}
    (agrees : w.Agrees key) (pursuit : Pursuit key w.store log (.writing (some .delete) again v'))
    (answers : w.Answers (Dummy.service .volume) ctx
      (.commit (.delete (.ofReference v'.reference) (some v'.metadata.version))) gone happenings
      w') : w'.Agrees key := by
  obtain ⟨-, o, v, seen, tended, placed, -⟩ := pursuit
  cases answers with
  | commit access =>
    unfold World.Agrees
    rw [access.provider_eq]
    rcases access.removes seen tended.read placed with same | ⟨found, left⟩
    · rw [same]
      exact agrees
    · intro o' u found'
      rw [left, SortedMap.get?_erase_self] at found'
      cases found'

theorem Accord.step {st : Stage .volume} {q : Query .volume} {next : q.Answer → Stage .volume}
    {answer : q.Answer} (kept : w.store.Kept key) (agrees : w.Agrees key)
    (pursuit : Pursuit key w.store log st) (accord : Accord key w st)
    (asks : Stage.Asks requeueAfter wall key st q next)
    (answers : w.Answers (Dummy.service .volume) ctx q answer happenings w') :
    w'.Agrees key ∧ Accord key w' (next answer) := by
  cases asks with
  | reading => exact Accord.of_read kept agrees answers
  | recording e => exact pursuit.elim
  | choosing v => exact Accord.of_check agrees pursuit accord answers
  | calling v call => exact Accord.of_call agrees accord call answers
  | passing v call => exact Accord.of_pass agrees accord call answers
  | updating again v => exact ⟨agrees.of_update pursuit accord answers, trivial⟩
  | deleting again v => exact ⟨agrees.of_delete pursuit answers, trivial⟩
  | keeping again v => exact pursuit.not_keeping.elim

theorem Accord.gone {st : Stage .volume} {q : Query .volume} {next : q.Answer → Stage .volume}
    {answer : q.Answer} (pursuit : Pursuit key w.store log st) (accord : Accord key w st)
    (asks : Stage.Asks requeueAfter wall key st q next)
    (answers : w.Answers (Dummy.service .volume) ctx q answer happenings w')
    {o : Object .volume} (found : w.store.objects.get? key = some o)
    (removed : w'.store.objects.get? key = none) :
    ∃ v, o.toResource = .ok v ∧ w'.provider.volumeSize? (Dummy.identity v) = none := by
  have changed : w'.store ≠ w.store := by
    intro same
    rw [same, found] at removed
    cases removed
  cases asks with
  | reading =>
    cases answers with
    | read access => exact absurd access.read.1 changed
  | recording e => exact pursuit.elim
  | choosing v =>
    cases answers with
    | checked t later => exact absurd rfl changed
  | calling v call => cases answers <;> exact absurd rfl changed
  | passing v call =>
    cases answers with
    | checked t later => exact absurd rfl changed
  | updating again v' =>
    obtain ⟨-, o', v, seen, tended, plan⟩ := pursuit
    cases answers with
    | commit access =>
      rcases access.rewrites seen tended.read plan.1 with same | ⟨-, left⟩
      · exact absurd same changed
      · rw [left, MemoryStore.get?_rewritten] at removed
        cases removed
  | deleting again v' =>
    obtain ⟨-, o', v, seen, tended, placed, -⟩ := pursuit
    cases answers with
    | commit access =>
      rcases access.removes seen tended.read placed with same | ⟨found', -⟩
      · exact absurd same changed
      · obtain rfl := Option.some.inj (found'.symm.trans found)
        refine ⟨v, tended.read, ?_⟩
        have absent : w.provider.volumeSize? (Dummy.identity v') = none := accord
        rw [access.provider_eq]
        rw [Dummy.identity, Resource.reference, placed] at absent
        exact absent
  | keeping again v => exact pursuit.not_keeping.elim

end Answers

namespace Object.Tended

variable {o : Object .volume} {v : Volume} {s : Status .volume String String}

theorem serving (tended : o.Tended v) (status : o.status = some s)
    (active : s.lifecycle.state = some State.active.name)
    (unmarked : o.metadata.deletionTimestamp = none) : v.Serving := by
  constructor
  · refine tended.rawState ?_
    unfold Object.lifecycle
    rw [status]
    exact active
  · rw [tended.isDeleted, unmarked]
    rfl

theorem observedSize (tended : o.Tended v) (status : o.status = some s) :
    Volume.observedSize v = s.facts.sizeGb := by
  have size := congrArg Gauge.size tended.gauge
  unfold Object.gauge at size
  rw [status] at size
  exact size

end Object.Tended

namespace Scene

variable (key : ObjectKey)

theorem keeps_accord :
    Keeps ⟨key, Dummy.service .volume, false⟩ (fun w => w.store.Kept key ∧ w.Agrees key)
      (fun w log st => Pursuit key w.store log st ∧ Accord key w st) where
  start := by
    intro w world
    exact ⟨Unwritten.nil, trivial⟩
  used := by
    intro w q world deed
    obtain ⟨kept, agrees⟩ := world
    refine ⟨⟨kept.used deed, agrees.used kept deed⟩, ?_⟩
    intro log st holds
    exact ⟨holds.1.later (.after kept.sound q), holds.2.used kept deed⟩
  step := by
    intro w w' ctx requeueAfter wall log happenings st q next answer world holds asks answers
    obtain ⟨kept, agrees⟩ := world
    obtain ⟨pursuit, accord⟩ := holds
    obtain ⟨kept', later, pursuit'⟩ :=
      pursuit.step (Dummy.service_faithful .volume) kept asks answers
    obtain ⟨agrees', accord'⟩ := accord.step kept agrees pursuit asks answers
    refine ⟨⟨kept', agrees'⟩, ⟨pursuit', accord'⟩, ?_⟩
    intro log' st' beside holds'
    obtain ⟨result, rfl⟩ := beside.resolve_left Bool.false_ne_true
    exact ⟨holds'.1.later later, trivial⟩

/-- At every moment a stored volume that is active and not marked for deletion is held by the
provider with the size of its status, and when a reconcile removes a volume, the provider
holds none under its identity. -/
theorem engine_and_provider_agree (config : Dummy.Config) (clock : Moment)
    {sc : Scene .volume Dummy}
    (run : Run ⟨key, Dummy.service .volume, false⟩ ⟨⟨.empty, .ofConfig config, clock⟩, []⟩ sc) :
    (∀ o s, sc.world.store.objects.get? key = some o → o.status = some s →
      s.lifecycle.state = some State.active.name → o.metadata.deletionTimestamp = none →
      ∃ v, o.toResource = .ok v ∧
        sc.world.provider.volumeSize? (Dummy.identity v) = some s.facts.sizeGb) ∧
    ∀ v w' v' o, v ∈ sc.visits → Visit.Step (Dummy.service .volume) (sc.world, v) (w', v') →
      sc.world.store.objects.get? key = some o → w'.store.objects.get? key = none →
      ∃ u, o.toResource = .ok u ∧ w'.provider.volumeSize? (Dummy.identity u) = none := by
  have start : MemoryStore.Kept key (.empty : MemoryStore .volume) ∧
      World.Agrees key ⟨.empty, .ofConfig config, clock⟩ := by
    refine ⟨⟨MemoryStore.sound_empty, ?_⟩, ?_⟩
    · intro o found
      cases found
    · intro o v found
      cases found
  obtain ⟨⟨kept, agrees⟩, visits, -⟩ := run.holds (keeps_accord key) (.start start)
  constructor
  · intro o s found status active unmarked
    obtain ⟨v, tended⟩ := kept.tended found
    have backs := agrees o v found tended.read (tended.serving status active unmarked)
    rw [Dummy.Backs, tended.observedSize status] at backs
    exact ⟨v, tended.read, backs⟩
  · intro v w' v' o listed step found removed
    obtain ⟨requeueAfter, wall, st, stands, pursuit, accord⟩ := visits v listed
    obtain ⟨q, next, answer, happenings, asks, answers, -⟩ := step.of_stage stands
    exact accord.gone pursuit asks answers found removed

def plainProvisioned : World .volume Dummy :=
  (World.plain.reconciled .unbounded default .zero ⟨some "a", "v"⟩).reconciled
    .unbounded default .zero ⟨some "a", "v"⟩

/-- A volume of 10 GB is made and reconciled twice; then the provider holds 10 GB for it. -/
theorem plain_volume_provisioned :
    ∃ sc, Run ⟨⟨some "a", "v"⟩, Dummy.service .volume, false⟩
        ⟨⟨.empty, .ofConfig default, .zero⟩, []⟩ sc ∧
      ∃ o v, sc.world.store.objects.get? ⟨some "a", "v"⟩ = some o ∧
        o.lifecycle.state = some State.active.name ∧ o.toResource = .ok v ∧
        sc.world.provider.volumeSize? (Dummy.identity v) = some 10 := by
  have made : Deed ⟨some "a", "v"⟩ (.empty : MemoryStore .volume)
      (.call .unbounded .zero default (.create .plainVolume)) :=
    .make .unbounded .zero default ⟨rfl, rfl, fun told => nomatch told⟩ rfl rfl
  have start : Run ⟨⟨some "a", "v"⟩, Dummy.service .volume, false⟩
      ⟨⟨.empty, .ofConfig default, .zero⟩, []⟩ ⟨.plain, []⟩ := .single (.used made)
  obtain ⟨v, idle, first⟩ := run_of_reconciled (w := World.plain) (List.forall_mem_nil _)
    ⟨some "a", "v"⟩ false .unbounded default .zero
  obtain ⟨v', -, second⟩ :=
    run_of_reconciled idle ⟨some "a", "v"⟩ false .unbounded default .zero
  have run : Run ⟨⟨some "a", "v"⟩, Dummy.service .volume, false⟩
      ⟨⟨.empty, .ofConfig default, .zero⟩, []⟩ ⟨plainProvisioned, [v, v']⟩ :=
    start.trans (first.trans second)
  have told : ((plainProvisioned.store.objects.get? ⟨some "a", "v"⟩).bind fun o =>
      o.status.map fun s => (s.lifecycle.state, o.metadata.deletionTimestamp, s.facts.sizeGb)) =
        some (some State.active.name, none, 10) := by rfl
  obtain ⟨o, found, known⟩ := Option.bind_eq_some_iff.mp told
  obtain ⟨s, status, facts⟩ := Option.map_eq_some_iff.mp known
  obtain ⟨active, unmarked, size⟩ : s.lifecycle.state = some State.active.name ∧
      o.metadata.deletionTimestamp = none ∧ s.facts.sizeGb = 10 := by
    simpa only [Prod.mk.injEq] using facts
  obtain ⟨u, read, held⟩ :=
    (engine_and_provider_agree _ default .zero run).1 o s found status active unmarked
  refine ⟨_, run, o, u, found, ?_, read, size ▸ held⟩
  unfold Object.lifecycle
  rw [status]
  exact active

end Scene

end Reconciler
