import Reconciler.Proofs.Provider.Dummy

/-!
The history of a tended object. `Pursuit` tells what a reconcile holds at each stage: the
object it has read stands for the resource it works on, and what it is about to write is one
step further. Versions keep it from writing over anything else, whoever is at work beside it.
-/

set_option autoImplicit false

namespace Reconciler

open Controller (Stage)
open MemoryStore (Seen Evolves)

variable {k : Kind} {π : Type}

/-- What became of an object: it was removed, or one condition was appended to its history,
which tells of its new state, one step from the old one. -/
inductive Advance (o : Object k) : Option (Object k) → Prop
  | removed : Advance o none
  | recorded {o' : Object k} {c : Condition String} {old : Option State} {new : State}
      (was : o.lifecycle.state = old.map State.name)
      (now : o'.lifecycle.state = some new.name) (told : c.state = new.name)
      (appended : o'.lifecycle.conditions = o.lifecycle.conditions ++ [c])
      (step : Transition o.metadata.deletionTimestamp.isSome old new) : Advance o (some o')

def Unwritten (log : List (Happening k)) : Prop :=
  ∀ c s s', .accessed c s s' ∈ log → s = s'

/-- The store was not changed, or only at last, and then the object advanced. -/
inductive Story (key : ObjectKey) : List (Happening k) → Prop
  | quiet {log : List (Happening k)} (unwritten : Unwritten log) : Story key log
  | advanced {earlier : List (Happening k)} {c : StoreCall k} {s s' : MemoryStore k}
      {o : Object k} (unwritten : Unwritten earlier) (found : s.objects.get? key = some o)
      (advance : Advance o (s'.objects.get? key)) : Story key (earlier ++ [.accessed c s s'])

theorem Unwritten.nil : Unwritten ([] : List (Happening k)) := by
  intro c s s' listed
  cases listed

theorem Unwritten.append {log : List (Happening k)} (unwritten : Unwritten log)
    {h : Happening k} (quiet : ∀ c s s', h = .accessed c s s' → s = s') :
    Unwritten (log ++ [h]) := by
  intro c s s' listed
  rcases List.mem_append.mp listed with listed | last
  · exact unwritten c s s' listed
  · exact quiet c s s' (List.mem_singleton.mp last).symm

theorem Unwritten.access {log : List (Happening k)} (unwritten : Unwritten log)
    {c : StoreCall k} {s s' : MemoryStore k} (same : s' = s) :
    Unwritten (log ++ [.accessed c s s']) := by
  refine unwritten.append fun c' t t' this => ?_
  cases this
  exact same.symm

theorem Unwritten.call {log : List (Happening k)} (unwritten : Unwritten log) (op : Operation)
    (r : Resource k) (ended : Option (Resource k × CallOutcome)) :
    Unwritten (log ++ [.called op r ended]) := by
  refine unwritten.append fun c s s' this => ?_
  cases this

/-- A write that takes a resource one step further: a removal, or a new condition. -/
def Plan (r r' : Resource k) (w : Option Write) : Prop :=
  r'.metadata = r.metadata ∧ (w = some .delete ∨ w = some .update ∧ ∃ c,
    r'.lifecycle = r.lifecycle.record c ∧ Transition r.isDeleted r.rawState c.state)

namespace Row

variable {r called : Resource k} {rule : Rule k Operation Write}

theorem plan_success (row : Row r rule)
    (observable : (k.noFacts? : Option (k.Facts Reference)).isSome)
    (placed : called.metadata = r.metadata) (kept : called.lifecycle = r.lifecycle)
    (now : Instant) : Plan r (rule.onSuccess now called) rule.writeSuccess := by
  cases row with
  | @entering name applies s step passive =>
    refine ⟨placed, .inr ⟨rfl, .entering s now, ?_, step⟩⟩
    exact (called.lifecycle_enter observable s now).trans (by rw [kept]; rfl)
  | @activating name applies op onDone step failure placed' kept' =>
    refine ⟨(placed' called).trans placed, .inr ⟨rfl, .entering .active now, ?_, step⟩⟩
    exact ((onDone called).lifecycle_enter observable .active now).trans (by rw [kept', kept]; rfl)
  | deleting mark failure => exact ⟨placed, .inl rfl⟩

theorem plan_failure (row : Row r rule)
    (observable : (k.noFacts? : Option (k.Facts Reference)).isSome)
    (placed : called.metadata = r.metadata) (kept : called.lifecycle = r.lifecycle)
    (asks : rule.call.isSome) (e : ProviderError) (now : Instant) :
    Plan r (rule.onFailure e now called) rule.writeFailure := by
  have failed : (called.fail e now).lifecycle = r.lifecycle.record (.failing e now) :=
    (called.lifecycle_fail observable e now).trans (by rw [kept]; rfl)
  cases row with
  | entering step passive => cases asks
  | activating step failure placed' kept' =>
    exact ⟨placed, .inr ⟨rfl, .failing e now, failed, failure⟩⟩
  | deleting mark failure => exact ⟨placed, .inr ⟨rfl, .failing e now, failed, failure⟩⟩

end Row

namespace MemoryStore

variable {key : ObjectKey} {s s' : MemoryStore k} {o : Object k} {r r' : Resource k}

structure Kept (key : ObjectKey) (s : MemoryStore k) : Prop where
  sound : s.Sound
  tended : ∀ {o}, s.objects.get? key = some o → ∃ r, o.Tended r

theorem Kept.used (kept : Kept key s) {q : Request k} (deed : Deed key s q) :
    Kept key (s.after q) := by
  refine ⟨kept.sound.after q, fun {o} found => ?_⟩
  cases deed.left kept.sound with
  | same same =>
    rw [same] at found
    exact kept.tended found
  | gone gone =>
    rw [gone] at found
    cases found
  | made absent formed fresh version created found' =>
    obtain rfl := Option.some.inj (found'.symm.trans found)
    exact ⟨_, (formed.fresh fresh).restamp version created none⟩
  | changed was spec version created deleted marked found' =>
    obtain rfl := Option.some.inj (found'.symm.trans found)
    obtain ⟨r, tended⟩ := kept.tended was
    exact ⟨_, (tended.respec spec).restamp version created deleted⟩

theorem renameStates_record (l : Lifecycle State) (c : Condition State) :
    (l.record c).renameStates State.name =
      (l.renameStates State.name).record ⟨c.state.name, c.reason, c.message, c.since⟩ := by
  simp [Lifecycle.record, Lifecycle.renameStates]

theorem tended_rewritten (tended : o.Tended r) (plan : Plan r r' (some .update)) :
    (s.rewritten o r').Tended (s.reread o r') := by
  obtain ⟨placed, impossible | ⟨-, c, recorded, step⟩⟩ := plan
  · cases impossible
  have raw : r'.rawState = some c.state := congrArg Lifecycle.state recorded
  have driven : Driven r'.rawState := raw ▸ step.driven
  exact (tended.written placed driven).restamp _ _ _

theorem advance_rewritten (tended : o.Tended r) (plan : Plan r r' (some .update)) :
    Advance o (some (s.rewritten o r')) := by
  have tended' := tended_rewritten (s := s) tended plan
  obtain ⟨-, impossible | ⟨-, c, recorded, step⟩⟩ := plan
  · cases impossible
  have same : (s.reread o r').lifecycle = r'.lifecycle := Resource.lifecycle_stored r'
  have now : (s.rewritten o r').lifecycle =
      o.lifecycle.record ⟨c.state.name, c.reason, c.message, c.since⟩ := by
    rw [tended'.lifecycle, same, recorded, renameStates_record, tended.lifecycle]
  exact .recorded (congrArg Lifecycle.state tended.lifecycle) (congrArg Lifecycle.state now) rfl
    (congrArg Lifecycle.conditions now) (tended.isDeleted ▸ step)

end MemoryStore

namespace World

variable {service : Service k π} {ctx : Context} {w w' : World k π}

theorem Access.store_cases {c : StoreCall k} {answer : c.Answer}
    (access : w.Access ctx c answer w') :
    w'.store = w.store ∨ ∃ t wall, w'.store = w.store.after (.call ctx t wall c) := by
  cases access with
  | failed t e later => exact .inl rfl
  | performed t wall later => exact .inr ⟨t, wall, rfl⟩

theorem Access.moves {c : StoreCall k} {answer : c.Answer} (access : w.Access ctx c answer w')
    (sound : w.store.Sound) : w'.store.Sound ∧ Evolves w.store w'.store := by
  rcases access.store_cases with same | ⟨t, wall, after⟩
  · rw [same]
    exact ⟨sound, .refl _⟩
  · rw [after]
    exact ⟨sound.after _, .after sound _⟩

section Writes

open MemoryStore (Seen)

variable {key : ObjectKey} {o : Object k} {r r' : Resource k}

/-- A resource that is written replaces the object it was read from, or nothing. -/
theorem Access.rewrites (seen : Seen key w.store o) (read : o.toResource = .ok r)
    (placed : r'.metadata = r.metadata)
    {stored : (StoreCall.replace (.ofResource r') : StoreCall k).Answer}
    (access : w.Access ctx (.replace (.ofResource r')) stored w') :
    w'.store = w.store ∨ w.store.objects.get? key = some o ∧
      w'.store = (w.store.write key (MemoryStore.replaced o (.ofResource r'))).2 := by
  rcases access.store_cases with same | ⟨t, wall, performed⟩
  · exact .inl same
  rw [performed]
  rcases w.store.after_replace ctx t wall (.ofResource r') with
    same | ⟨written, accepted, after⟩
  · exact .inl same
  · obtain ⟨found, replaced⟩ := MemoryStore.replace_ofResource seen read placed accepted
    exact .inr ⟨found, after.trans replaced⟩

theorem Access.removes (seen : Seen key w.store o) (read : o.toResource = .ok r)
    (placed : r'.metadata = r.metadata)
    {gone : (StoreCall.delete (.ofReference r'.reference) (some r'.metadata.version) :
      StoreCall k).Answer}
    (access : w.Access ctx (.delete (.ofReference r'.reference) (some r'.metadata.version)) gone
      w') :
    w'.store = w.store ∨ w.store.objects.get? key = some o ∧
      w'.store = { w.store with objects := w.store.objects.erase key } := by
  rw [Resource.reference, placed] at access
  rcases access.store_cases with same | ⟨t, wall, performed⟩
  · exact .inl same
  rw [performed]
  rcases w.store.after_delete ctx t wall (.ofReference r.metadata.reference)
    (some r.metadata.version) with same | ⟨s', accepted, after⟩
  · exact .inl same
  · obtain ⟨found, left⟩ := MemoryStore.delete_ofReference seen read accepted
    exact .inr ⟨found, after.trans left⟩

end Writes

end World

/-- What a reconcile holds at a stage, of the store and of what it has done. -/
def Pursuit (key : ObjectKey) (s : MemoryStore k) (log : List (Happening k)) : Stage k → Prop
  | .reading => Unwritten log
  | .recording _ => False
  | .choosing r => Unwritten log ∧ ∃ o, Seen key s o ∧ o.Tended r
  | .asking rule r =>
    Unwritten log ∧ (∃ o, Seen key s o ∧ o.Tended r) ∧ Row r rule ∧
      (k.noFacts? : Option (k.Facts Reference)).isSome
  | .writing w _ r' => Unwritten log ∧ ∃ o r, Seen key s o ∧ o.Tended r ∧ Plan r r' w
  | .finished _ => Story key log

namespace Pursuit

variable {key : ObjectKey} {s s' : MemoryStore k} {log happenings : List (Happening k)}

theorem later {st : Stage k} (pursuit : Pursuit key s log st) (later : Evolves s s') :
    Pursuit key s' log st := by
  cases st with
  | reading => exact pursuit
  | recording e => exact pursuit
  | choosing r =>
    obtain ⟨unwritten, o, seen, tended⟩ := pursuit
    exact ⟨unwritten, o, seen.later later, tended⟩
  | asking rule r =>
    obtain ⟨unwritten, ⟨o, seen, tended⟩, row⟩ := pursuit
    exact ⟨unwritten, ⟨o, seen.later later, tended⟩, row⟩
  | writing w again r' =>
    obtain ⟨unwritten, o, r, seen, tended, plan⟩ := pursuit
    exact ⟨unwritten, o, r, seen.later later, tended, plan⟩
  | finished result => exact pursuit

theorem not_keeping {again : Bool} {r' : Resource k}
    (pursuit : Pursuit key s log (.writing none again r')) : False := by
  obtain ⟨-, o, r, -, -, -, impossible | ⟨impossible, -⟩⟩ := pursuit
  · cases impossible
  · cases impossible

theorem story {st : Stage k} (pursuit : Pursuit key s log st) : Story key log := by
  cases st with
  | reading => exact .quiet pursuit
  | recording e => exact pursuit.elim
  | choosing r => exact .quiet pursuit.1
  | asking rule r => exact .quiet pursuit.1
  | writing write again r => exact .quiet pursuit.1
  | finished result => exact pursuit

end Pursuit

structure Pursued (key : ObjectKey) (s s' : MemoryStore k) (log : List (Happening k))
    (st : Stage k) : Prop where
  kept : MemoryStore.Kept key s'
  later : Evolves s s'
  holds : Pursuit key s' log st

section Answers

variable {service : Service k π} {ctx : Context} {requeueAfter : Duration} {wall : Instant}
  {key : ObjectKey} {w w' : World k π} {log happenings : List (Happening k)}

theorem Pursuit.of_read {found : (Query.read (.get key) : Query k).Answer}
    (kept : w.store.Kept key) (pursuit : Pursuit key w.store log .reading)
    (answers : w.Answers service ctx (.read (.get key)) found happenings w') :
    Pursued key w.store w'.store (log ++ happenings) (Stage.afterRead found) := by
  cases answers with
  | read access =>
    obtain ⟨same, there⟩ := access.read
    have unwritten := Unwritten.access pursuit (c := .get key) same
    rw [same] at unwritten ⊢
    refine ⟨kept, .refl _, ?_⟩
    cases found with
    | error e =>
      obtain ⟨result, finished⟩ := Stage.afterRead_error (k := k) e
      rw [finished]
      exact .quiet unwritten
    | ok o =>
      have stored := there o rfl
      obtain ⟨r, tended⟩ := kept.tended stored
      rw [Stage.afterRead_ok tended.read]
      exact ⟨unwritten, o, .of_get? kept.sound stored, tended⟩

theorem Pursuit.of_check {r : Resource k} {alive : (Query.check : Query k).Answer}
    (kept : w.store.Kept key) (pursuit : Pursuit key w.store log (.choosing r))
    (answers : w.Answers service ctx .check alive happenings w') :
    Pursued key w.store w'.store (log ++ happenings) (Stage.afterCheck r alive) := by
  obtain ⟨unwritten, o, seen, tended⟩ := pursuit
  cases answers with
  | checked t later =>
    rw [List.append_nil]
    refine ⟨kept, .refl _, ?_⟩
    cases ctx.check t with
    | error i => exact .quiet unwritten
    | ok _ =>
      cases chosen : k.handler.rule? r with
      | none =>
        rw [Stage.afterCheck_none chosen]
        exact .quiet unwritten
      | some rule =>
        rw [Stage.afterCheck_some chosen]
        exact ⟨unwritten, ⟨o, seen, tended⟩, Row.of_rule? tended.driven chosen⟩

/-- An outcome of a call that left the resource in its place leads to a write that is
planned, or to the end. -/
theorem Pursuit.of_settled {s : MemoryStore k} {o : Object k} {r called : Resource k}
    {rule : Rule k Operation Write} (unwritten : Unwritten log) (seen : Seen key s o)
    (tended : o.Tended r) (row : Row r rule)
    (observable : (k.noFacts? : Option (k.Facts Reference)).isSome)
    (placed : called.metadata = r.metadata) (same : called.lifecycle = r.lifecycle)
    {outcome : CallOutcome} (asked : rule.call = none → outcome = .ok ()) :
    Pursuit key s log (Stage.settled requeueAfter wall rule called outcome) := by
  have failure : ∀ e, outcome = .error e → Pursuit key s log
      (.writing rule.writeFailure true (rule.onFailure e wall called)) := by
    intro e failed
    have asks : rule.call.isSome := by
      cases call : rule.call with
      | some _ => rfl
      | none => rw [asked call] at failed; cases failed
    exact ⟨unwritten, o, r, seen, tended,
      row.plan_failure observable placed same asks e wall⟩
  cases outcome with
  | ok _ =>
    exact ⟨unwritten, o, r, seen, tended, row.plan_success observable placed same wall⟩
  | error e =>
    cases e with
    | stillProcessing => exact .quiet unwritten
    | failed provider operation reason => exact failure _ rfl
    | unknownResource provider name => exact failure _ rfl

theorem Pursuit.of_call (faithful : service.Faithful) {rule : Rule k Operation Write}
    {op : Operation} {r : Resource k} {answer : (Query.call op r).Answer}
    (kept : w.store.Kept key) (pursuit : Pursuit key w.store log (.asking rule r))
    (call : rule.call = some op)
    (answers : w.Answers service ctx (.call op r) answer happenings w') :
    Pursued key w.store w'.store (log ++ happenings)
      (Stage.afterCall requeueAfter wall rule r answer) := by
  obtain ⟨unwritten, ⟨o, seen, tended⟩, row, observable⟩ := pursuit
  cases answers with
  | refused t i r' later ended =>
    rw [List.append_nil]
    exact ⟨kept, .refl _, .quiet unwritten⟩
  | abandoned t t' i r' p later waited live leaves =>
    exact ⟨kept, .refl _, .quiet (unwritten.call op r none)⟩
  | completed t t' r' outcome p later waited live serves =>
    obtain ⟨placed, same⟩ := faithful serves
    rw [Stage.afterCall_of_same outcome (Resource.rawState_of_lifecycle same)]
    exact ⟨kept, .refl _, .of_settled (unwritten.call op r _) seen tended row observable placed
      same fun none => by rw [call] at none; cases none⟩

theorem Pursuit.of_pass {rule : Rule k Operation Write} {r : Resource k}
    {alive : (Query.check : Query k).Answer} (kept : w.store.Kept key)
    (pursuit : Pursuit key w.store log (.asking rule r))
    (answers : w.Answers service ctx .check alive happenings w') :
    Pursued key w.store w'.store (log ++ happenings)
      (Stage.afterCall requeueAfter wall rule r (r, alive.map fun _ => .ok ())) := by
  obtain ⟨unwritten, ⟨o, seen, tended⟩, row, observable⟩ := pursuit
  cases answers with
  | checked t later =>
    rw [List.append_nil]
    refine ⟨kept, .refl _, ?_⟩
    cases ctx.check t with
    | error i => exact .quiet unwritten
    | ok _ =>
      change Pursuit _ _ _ (Stage.afterCall requeueAfter wall rule r (r, .ok (.ok ())))
      rw [Stage.afterCall_of_same (.ok ()) rfl]
      exact .of_settled unwritten seen tended row observable rfl rfl fun _ => rfl

theorem Pursuit.of_update {again : Bool} {r' : Resource k}
    {result : Except Stop (Decision × Outcome)}
    {stored : (Query.commit (.replace (.ofResource r')) : Query k).Answer}
    (kept : w.store.Kept key)
    (pursuit : Pursuit key w.store log (.writing (some .update) again r'))
    (answers : w.Answers service ctx (.commit (.replace (.ofResource r'))) stored happenings w') :
    Pursued key w.store w'.store (log ++ happenings) (.finished result) := by
  obtain ⟨unwritten, o, r, seen, tended, plan⟩ := pursuit
  cases answers with
  | commit access =>
    obtain ⟨sound, later⟩ := access.moves kept.sound
    rcases access.rewrites seen tended.read plan.1 with same | ⟨found, left⟩
    · rw [same]
      exact ⟨kept, .refl _, .quiet (unwritten.access rfl)⟩
    · have stored : w'.store.objects.get? key = some (w.store.rewritten o r') := by
        rw [left, MemoryStore.get?_rewritten]
      refine ⟨⟨sound, ?_⟩, later, .advanced unwritten found ?_⟩
      · intro o' found'
        obtain rfl := Option.some.inj (stored.symm.trans found')
        exact ⟨_, MemoryStore.tended_rewritten tended plan⟩
      · rw [stored]
        exact MemoryStore.advance_rewritten tended plan

theorem Pursuit.of_delete {again : Bool} {r' : Resource k}
    {result : Except Stop (Decision × Outcome)}
    {gone : (Query.commit (.delete (.ofReference r'.reference) (some r'.metadata.version)) :
      Query k).Answer}
    (kept : w.store.Kept key)
    (pursuit : Pursuit key w.store log (.writing (some .delete) again r'))
    (answers : w.Answers service ctx
      (.commit (.delete (.ofReference r'.reference) (some r'.metadata.version))) gone happenings
      w') :
    Pursued key w.store w'.store (log ++ happenings) (.finished result) := by
  obtain ⟨unwritten, o, r, seen, tended, placed, -⟩ := pursuit
  cases answers with
  | commit access =>
    obtain ⟨sound, later⟩ := access.moves kept.sound
    rcases access.removes seen tended.read placed with same | ⟨found, left⟩
    · rw [same]
      exact ⟨kept, .refl _, .quiet (unwritten.access rfl)⟩
    · have removed : w'.store.objects.get? key = none := by
        rw [left, SortedMap.get?_erase_self]
      refine ⟨⟨sound, ?_⟩, later, .advanced unwritten found ?_⟩
      · intro o' found'
        rw [removed] at found'
        cases found'
      · rw [removed]
        exact .removed

theorem Pursuit.step (faithful : service.Faithful) {st : Stage k} {q : Query k}
    {next : q.Answer → Stage k} {answer : q.Answer} (kept : w.store.Kept key)
    (pursuit : Pursuit key w.store log st) (asks : Stage.Asks requeueAfter wall key st q next)
    (answers : w.Answers service ctx q answer happenings w') :
    Pursued key w.store w'.store (log ++ happenings) (next answer) := by
  cases asks with
  | reading => exact pursuit.of_read kept answers
  | recording e => exact pursuit.elim
  | choosing r => exact pursuit.of_check kept answers
  | calling r call => exact pursuit.of_call faithful kept call answers
  | passing r call => exact pursuit.of_pass kept answers
  | updating again r => exact pursuit.of_update kept answers
  | deleting again r => exact pursuit.of_delete kept answers
  | keeping again r => exact pursuit.not_keeping.elim

end Answers

namespace Scene

variable {set : Setting k π}

/-- Whoever is at work, the object stays tended and every reconcile holds what it holds. -/
theorem keeps_pursuit (faithful : set.service.Faithful) :
    Keeps set (fun w => w.store.Kept set.key) (fun w => Pursuit set.key w.store) where
  start := by
    intro w kept
    exact Unwritten.nil
  used := by
    intro w q kept deed
    refine ⟨kept.used deed, ?_⟩
    intro log st pursuit
    exact pursuit.later (.after kept.sound q)
  step := by
    intro w w' ctx requeueAfter wall log happenings st q next answer kept pursuit asks answers
    obtain ⟨kept', later, holds⟩ := pursuit.step faithful kept asks answers
    refine ⟨kept', holds, ?_⟩
    intro log' st' _ pursuit'
    exact pursuit'.later later

/-- From an object without a status on, each reconcile leaves the store as it was, or removes
the object, or takes it one step further and appends the condition of that step to its
history; and this is the last it does. -/
theorem history_grows_by_steps (faithful : set.service.Faithful) (past : List (Request k))
    {w : World k π} (stored : w.store = MemoryStore.empty.afterAll past) {o : Object k}
    {r : Resource k} (found : w.store.objects.get? set.key = some o) (formed : o.WellFormed r)
    (fresh : o.status = none) {sc : Scene k π} (run : Run set ⟨w, []⟩ sc) {v : Visit k}
    (begun : v ∈ sc.visits) : Story set.key v.log := by
  have kept : w.store.Kept set.key := by
    refine ⟨?_, ?_⟩
    · rw [stored]
      exact MemoryStore.sound_empty.afterAll past
    · intro o' found'
      obtain rfl := Option.some.inj (found.symm.trans found')
      exact ⟨r, formed.fresh fresh⟩
  obtain ⟨requeueAfter, wall, st, -, pursuit⟩ :=
    (run.holds (keeps_pursuit faithful) (.start kept)).visits v begun
  exact pursuit.story

/-- A volume that was just made is being created after one reconcile. -/
theorem first_condition_recorded :
    ∃ sc v, Run ⟨⟨some "a", "v"⟩, Dummy.service .volume, true⟩ ⟨.plain, []⟩ sc ∧ v ∈ sc.visits ∧
      v.Over ∧ Story ⟨some "a", "v"⟩ v.log ∧
      (sc.world.store.objects.get? ⟨some "a", "v"⟩).map (·.lifecycle.state) =
        some (some "creating") := by
  have made : World.plain.store.objects.get? ⟨some "a", "v"⟩ =
      some (Object.plainVolume.restamp (some "1") (some default) none) := by rfl
  have begun : ((World.plain.reconciled .unbounded default .zero ⟨some "a", "v"⟩).store.objects.get?
      ⟨some "a", "v"⟩).map (·.lifecycle.state) = some (some "creating") := by rfl
  obtain ⟨v, ended, run⟩ := run_of_reconciled (w := World.plain) (List.forall_mem_nil _)
    ⟨some "a", "v"⟩ true .unbounded default .zero
  have here : v ∈ [v] := List.mem_singleton.mpr rfl
  refine ⟨⟨_, [v]⟩, v, run, here, ended v here, ?_, ?_⟩
  · refine history_grows_by_steps (Dummy.service_faithful .volume) _ rfl made ⟨rfl, rfl, ?_⟩ rfl
      run here
    intro t told
    cases told
  · exact begun

end Scene

end Reconciler
