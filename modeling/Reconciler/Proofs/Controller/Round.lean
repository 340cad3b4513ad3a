import Reconciler.Proofs.Controller.Scene
import Reconciler.Proofs.Handler.Glance

/-!
Rounds: reconciles that run by themselves to their end under a store that does what it is asked,
with a provider that leaves the resource as it is. Of a well-formed object a round makes what the
turn of its resource says, and what is stored then is well-formed again.
-/

set_option autoImplicit false

namespace Reconciler

open Controller (Stage)

variable {k : Kind}

/-- When a reconcile takes place and how a call of the provider ends, if one is made. -/
structure Round where
  requeueAfter : Duration
  wall : Instant
  outcome : CallOutcome

/-- The calls of the provider and how they ended, oldest first. -/
abbrev Calls : Type := List (Operation × CallOutcome)

namespace Round

def answer (round : Round) :
    (q : Query k) → MemoryStore k × Calls → q.Answer × (MemoryStore k × Calls)
  | .check, s => (.ok (), s)
  | .call op r, (s, calls) => ((r, .ok round.outcome), (s, calls ++ [(op, round.outcome)]))
  | .read c, (s, calls) | .commit c, (s, calls) =>
    ((s.perform round.wall c).1, ((s.perform round.wall c).2, calls))

def run (round : Round) (key : ObjectKey) (s : MemoryStore k) :
    Except Stop (Decision × Outcome) × (MemoryStore k × Calls) :=
  (Controller.reconcile round.requeueAfter round.wall key).run round.answer (s, [])

def calm : Round := ⟨.zero, default, .ok ()⟩

def result (round : Round) (key : ObjectKey) (s : MemoryStore k) :
    Except Stop (Decision × Outcome) := (round.run key s).1

def after (round : Round) (key : ObjectKey) (s : MemoryStore k) : MemoryStore k :=
  (round.run key s).2.1

def calls (round : Round) (key : ObjectKey) (s : MemoryStore k) : Calls := (round.run key s).2.2

def afterAll (key : ObjectKey) (rounds : List Round) (s : MemoryStore k) : MemoryStore k :=
  rounds.foldl (fun s round => round.after key s) s

def callsOfAll (key : ObjectKey) : List Round → MemoryStore k → Calls
  | [], _ => []
  | round :: rounds, s => round.calls key s ++ callsOfAll key rounds (round.after key s)

end Round

/-- A provider that answers anything and leaves resources as they are. -/
def Service.any (k : Kind) : Service k Unit where
  serves _ r _ r' _ _ := r' = r
  leaves _ _ _ _ := True

theorem Round.answers (round : Round) (q : Query k) (s : MemoryStore k) (calls : Calls) :
    ∃ happenings, World.Answers (.any k) .unbounded ⟨s, (), .zero⟩ q
      (round.answer q (s, calls)).1 happenings ⟨(round.answer q (s, calls)).2.1, (), .zero⟩ := by
  have now (t : Moment) : t.nanos ≤ t.nanos := Nat.le_refl _
  have live : Context.unbounded.check .zero = .ok () := rfl
  have performed (c : StoreCall k) : World.Access .unbounded (⟨s, (), .zero⟩ : World k Unit) c
      (s.perform round.wall c).1 ⟨(s.perform round.wall c).2, (), .zero⟩ := by
    rw [← MemoryStore.performUnder_of_live round.wall s c live]
    exact .performed .zero round.wall (now _)
  cases q with
  | check => exact ⟨[], .checked .zero (now _)⟩
  | call op r => exact ⟨_, .completed .zero .zero r round.outcome () (now _) (now _) live rfl⟩
  | read c => exact ⟨_, .read (performed c)⟩
  | commit c => exact ⟨_, .commit (performed c)⟩

/-- A round is a visit that nothing happens beside. -/
theorem Round.exists_visit (round : Round) (key : ObjectKey) (s : MemoryStore k) :
    ∃ v : Visit k, v.work = .done (round.result key s) ∧
      Visit.Run (.any k) (⟨s, (), .zero⟩, .start .unbounded round.requeueAfter round.wall key)
        (⟨round.after key s, (), .zero⟩, v) := by
  obtain ⟨log, run⟩ := Visit.run_of_dialogue (fun x => ⟨x.1, (), .zero⟩) round.answer
    (fun x q => round.answers q x.1 x.2)
    (Controller.reconcile round.requeueAfter round.wall key) (s, []) []
  exact ⟨_, rfl, run⟩

namespace MemoryStore

variable {key : ObjectKey} {s : MemoryStore k} {o : Object k} {r r' : Resource k}

/-- What is stored under the key is a well-formed object of the resource. -/
structure Stands (key : ObjectKey) (s : MemoryStore k) (o : Object k) (r : Resource k) :
    Prop where
  sound : s.Sound
  found : s.objects.get? key = some o
  formed : o.WellFormed r

/-- The store after a resource was written, if it was, that the object stands for. -/
def saved (s : MemoryStore k) (key : ObjectKey) (o : Object k) (w : Option Write)
    (r : Resource k) : MemoryStore k :=
  match w with
  | none => s
  | some .update => (s.write key (replaced o (.ofResource r))).2
  | some .delete => { s with objects := s.objects.erase key }

namespace Stands

theorem key_eq (stands : s.Stands key o r) : ObjectKey.ofReference r.reference = key :=
  stands.formed.key.symm.trans (stands.sound.keyed stands.found)

theorem replace_eq (stands : s.Stands key o r) (placed : r'.metadata = r.metadata) :
    s.replace (.ofResource r') = .ok (s.write key (replaced o (.ofResource r'))) := by
  have seen := Seen.of_get? stands.sound stands.found
  have version := version_ofResource seen stands.formed.read placed
  have here : ObjectKey.ofObject (Object.ofResource r') = key := by
    have home : ObjectKey.ofObject (Object.ofResource r') = .ofReference r'.reference := rfl
    rw [home, Resource.reference, placed]
    exact stands.key_eq
  have named : (Object.ofResource r').Named := by
    have name : (Object.ofResource r').metadata.name.getD "" = r'.metadata.name := rfl
    rw [Object.Named, name, placed]
    exact stands.formed.storable.named
  refine replace_eq_ok.mpr ⟨named, o, here ▸ stands.found, ?_, version, by rw [here]⟩
  obtain ⟨v, told, -⟩ := seen.version_ne
  rw [version, told]
  rfl

theorem delete_eq (stands : s.Stands key o r) (placed : r'.metadata = r.metadata) :
    s.delete (.ofReference r'.reference) (some r'.metadata.version) =
      .ok { s with objects := s.objects.erase key } := by
  have version := (version_of_read (.of_get? stands.sound stands.found) stands.formed.read).1
  have here : ObjectKey.ofReference r'.reference = key := by
    rw [Resource.reference, placed]
    exact stands.key_eq
  rw [here, placed]
  refine delete_eq_ok.mpr ⟨o, stands.found, ?_, rfl⟩
  intro v told
  rw [version, told]

theorem get?_respec (stands : s.Stands key o r) {ctx : Context} {clock : Moment} (now : Instant)
    (live : ctx.check clock = .ok ()) (spec : k.Spec String) :
    (s.after (.call ctx clock now (.replace { o with spec := spec }))).objects.get? key =
      some (({ o with spec := spec } : Object k).restamp (some (natText (s.lastVersion + 1)))
        o.metadata.creationTimestamp o.metadata.deletionTimestamp) := by
  rw [stands.sound.after_replace now live stands.found { o with spec := spec } rfl rfl rfl]
  exact get?_write_self _ _ _

theorem rewritten (stands : s.Stands key o r) (placed : r'.metadata = r.metadata) :
    Stands key (s.write key (replaced o (.ofResource r'))).2 (s.rewritten o r')
      (s.reread o r') where
  sound := by
    obtain ⟨named, current, found, -, -, same⟩ := replace_eq_ok.mp (stands.replace_eq placed)
    have here : ObjectKey.ofObject (Object.ofResource r') = key := by
      have home : ObjectKey.ofObject (Object.ofResource r') = .ofReference r'.reference := rfl
      rw [home, Resource.reference, placed]
      exact stands.key_eq
    exact stands.sound.write here named
  found := get?_rewritten s key o r'
  formed := (stands.formed.written placed).restamp _ _ _

theorem of_saved (stands : s.Stands key o r) (placed : r'.metadata = r.metadata)
    {w : Option Write} {o' : Object k}
    (found : (s.saved key o w r').objects.get? key = some o') :
    w = none ∧ o' = o ∨ w = some .update ∧ o' = s.rewritten o r' ∧
      Stands key (s.saved key o w r') (s.rewritten o r') (s.reread o r') := by
  cases w with
  | none => exact .inl ⟨rfl, Option.some.inj (found.symm.trans stands.found)⟩
  | some w =>
    cases w with
    | update =>
      have rewritten := stands.rewritten placed
      exact .inr ⟨rfl, Option.some.inj (found.symm.trans rewritten.found), rewritten⟩
    | delete => cases (SortedMap.get?_erase_self _ _).symm.trans found

end Stands

end MemoryStore

namespace Round

variable {round : Round} {key : ObjectKey} {s : MemoryStore k} {o : Object k} {r : Resource k}

theorem run_asks {st : Stage k} {q : Query k} {next : q.Answer → Stage k}
    (asks : Stage.Asks round.requeueAfter round.wall key st q next) (x : MemoryStore k × Calls) :
    (st.work round.requeueAfter round.wall key).run round.answer x =
      ((next (round.answer q x).1).work round.requeueAfter round.wall key).run round.answer
        (round.answer q x).2 := by
  rw [Stage.work_eq asks]
  rfl

theorem run_writing (stands : s.Stands key o r) {r' : Resource k}
    (placed : r'.metadata = r.metadata) (w : Option Write) (again : Bool) (calls : Calls) :
    ((Stage.writing w again r').work round.requeueAfter round.wall key).run round.answer
        (s, calls) =
      (Stage.decided round.requeueAfter (.ok again), (s.saved key o w r', calls)) := by
  cases w with
  | none => exact run_asks (.keeping again r') (s, calls)
  | some w =>
    cases w with
    | update =>
      have performed : s.perform round.wall (.replace (.ofResource r')) =
          (.ok (s.write key (MemoryStore.replaced o (.ofResource r'))).1,
            (s.write key (MemoryStore.replaced o (.ofResource r'))).2) := by
        simp only [MemoryStore.perform, stands.replace_eq placed]
      have reread := (stands.rewritten placed).formed.read
      have answered : Stage.readBack
          (.ok (s.write key (MemoryStore.replaced o (.ofResource r'))).1) = .ok () := by
        change Except.bind _ _ = _
        rw [Except.bind, show (s.write key (MemoryStore.replaced o (.ofResource r'))).1.toResource =
          .ok (s.reread o r') from reread]
        rfl
      rw [run_asks (.updating again r') (s, calls)]
      simp only [answer, performed, answered]
      rfl
    | delete =>
      have performed : s.perform round.wall
          (.delete (.ofReference r'.reference) (some r'.metadata.version)) =
            (.ok (), { s with objects := s.objects.erase key }) := by
        simp only [MemoryStore.perform, stands.delete_eq placed]
      rw [run_asks (.deleting again r') (s, calls)]
      simp only [answer, performed]
      rfl

theorem run_asking (stands : s.Stands key o r) {rule : Rule k Operation Write}
    (chosen : k.handler.rule? r = some rule) :
    ((Stage.asking rule r).work round.requeueAfter round.wall key).run round.answer (s, []) =
      (Stage.decided round.requeueAfter (.ok (rule.turn round.outcome round.wall r).again),
        (s.saved key o (rule.turn round.outcome round.wall r).written
            (rule.turn round.outcome round.wall r).left,
          (rule.turn round.outcome round.wall r).asked.toList.map fun op =>
            (op, round.outcome))) := by
  obtain ⟨success, failure⟩ := Rule.placing_of_rule? chosen
  cases call : rule.call with
  | none =>
    have turn : rule.turn round.outcome round.wall r =
        ⟨none, rule.writeSuccess, rule.onSuccess round.wall r, rule.requeues⟩ := by
      simp only [Rule.turn, call]
    rw [run_asks (.passing r call), turn]
    change ((Stage.afterCall _ _ rule r (r, .ok (.ok ()))).work _ _ _).run _ (s, []) = _
    rw [Stage.afterCall_of_same (.ok ()) rfl]
    exact run_writing stands (success _ r) _ _ []
  | some op =>
    rw [run_asks (.calling r call)]
    change ((Stage.afterCall _ _ rule r (r, .ok round.outcome)).work _ _ _).run _
      (s, [(op, round.outcome)]) = _
    rw [Stage.afterCall_of_same round.outcome rfl]
    cases ended : round.outcome with
    | ok _ =>
      simp only [Rule.turn, call]
      exact run_writing stands (success _ r) _ _ _
    | error e =>
      cases e with
      | stillProcessing =>
        simp only [Rule.turn, call]
        rfl
      | failed provider operation reason =>
        simp only [Rule.turn, call]
        exact run_writing stands (failure _ _ r) _ _ _
      | unknownResource provider name =>
        simp only [Rule.turn, call]
        exact run_writing stands (failure _ _ r) _ _ _

/-- A round gives a resource its turn. -/
theorem run_of_stands (round : Round) (stands : s.Stands key o r) : round.run key s =
    (Stage.decided round.requeueAfter (.ok (r.turn round.outcome round.wall).again),
      (s.saved key o (r.turn round.outcome round.wall).written
          (r.turn round.outcome round.wall).left,
        (r.turn round.outcome round.wall).asked.toList.map fun op => (op, round.outcome))) := by
  have got : s.perform round.wall (.get key) = (.ok o, s) := by
    rw [MemoryStore.perform, MemoryStore.get_eq_ok.mpr stands.found]
  change ((Stage.reading : Stage k).work round.requeueAfter round.wall key).run _ (s, []) = _
  rw [run_asks .reading]
  simp only [answer, got, Stage.afterRead_ok stands.formed.read]
  rw [run_asks (.choosing r)]
  change ((Stage.afterCheck r (.ok ())).work _ _ _).run _ (s, []) = _
  cases chosen : k.handler.rule? r with
  | none =>
    rw [Stage.afterCheck_none chosen]
    simp only [Resource.turn, chosen]
    rfl
  | some rule =>
    rw [Stage.afterCheck_some chosen]
    simp only [Resource.turn, chosen]
    exact run_asking stands chosen

theorem run_of_absent (round : Round) (gone : s.objects.get? key = none) :
    round.run key s = (.ok (.done, .skipped), (s, [])) := by
  have missing : s.perform round.wall (.get key) = (.error (.missing k key), s) := by
    rw [MemoryStore.perform, MemoryStore.get_of_none gone]
  change ((Stage.reading : Stage k).work round.requeueAfter round.wall key).run _ (s, []) = _
  rw [run_asks .reading]
  simp only [answer, missing]
  rfl

end Round

section Rest

variable {π : Type} {service : Service k π} {ctx : Context} {requeueAfter : Duration}
  {wall : Instant} {key : ObjectKey} {s : MemoryStore k} {w w' : World k π} {v : Visit k}

/-- However a reconcile of the object goes, all it does is to read it, and it asks for no other. -/
def MemoryStore.Quiet (service : Service k π) (key : ObjectKey) (s : MemoryStore k) : Prop :=
  ∀ {w w' ctx requeueAfter wall v}, w.store = s →
    Visit.Run service (w, .start ctx requeueAfter wall key) (w', v) →
      w'.store = s ∧ (∀ h ∈ v.log, h = .accessed (.get key) s s) ∧
        ∀ d, v.work = .done (.ok d) → d.1 = .done

def AtRest (key : ObjectKey) (s : MemoryStore k) : Stage k → Prop
  | .reading => ∃ o r, s.Stands key o r ∧ r.Rests
  | .choosing r => r.Rests
  | .finished result => ∀ d, result = .ok d → d.1 = .done
  | .recording _ | .asking _ _ | .writing _ _ _ => False

theorem AtRest.step {happenings : List (Happening k)} {st : Stage k} {q : Query k}
    {next : q.Answer → Stage k} {answer : q.Answer} (rest : AtRest key w.store st)
    (asks : Stage.Asks requeueAfter wall key st q next)
    (answers : w.Answers service ctx q answer happenings w') :
    w'.store = w.store ∧ (∀ h ∈ happenings, h = .accessed (.get key) w.store w.store) ∧
      AtRest key w.store (next answer) := by
  cases asks with
  | reading =>
    obtain ⟨o, r, stands, rests⟩ := rest
    cases answers with
    | read access =>
      obtain ⟨same, there⟩ := access.read
      refine ⟨same, ?_, ?_⟩
      · intro h listed
        rw [List.mem_singleton.mp listed, same]
      · cases answer with
        | ok o' =>
          obtain rfl := Option.some.inj (stands.found.symm.trans (there o' rfl))
          rw [Stage.afterRead_ok stands.formed.read]
          exact rests
        | error e =>
          cases e with
          | notFound =>
            intro d told
            cases told
            rfl
          | _ => exact fun d impossible => nomatch impossible
  | choosing r =>
    cases answers with
    | checked t later =>
      refine ⟨rfl, List.forall_mem_nil _, ?_⟩
      cases ctx.check t with
      | error i => exact fun d impossible => nomatch impossible
      | ok _ =>
        rw [Stage.afterCheck_none (Resource.Rests.rule?_eq_none rest)]
        intro d told
        cases told
        rfl
  | _ => exact rest.elim

theorem MemoryStore.Stands.quiet {o : Object k} {r : Resource k} (stands : s.Stands key o r)
    (rests : r.Rests) : s.Quiet service key := by
  intro w w' ctx requeueAfter wall v start run
  have held : w'.store = s ∧ (∀ h ∈ v.log, h = .accessed (.get key) s s) ∧
      ∃ st, v.work = Stage.work requeueAfter wall key st ∧ AtRest key s st := by
    -- By induction on the run; the stage that the reconcile stands at carries what it has read.
    generalize ended : (w', v) = x at run
    induction run generalizing w' v with
    | refl =>
      cases ended
      exact ⟨start, List.forall_mem_nil _, .reading, rfl, o, r, stands, rests⟩
    | @tail y z _ step ih =>
      subst ended
      obtain ⟨w₁, v₁⟩ := y
      obtain ⟨same, reads, st, work, rest⟩ := ih rfl
      obtain ⟨q, next, answer, happenings, asks, answers, rfl⟩ := step.of_stage work
      subst same
      obtain ⟨same', reads', rest'⟩ := rest.step asks answers
      exact ⟨same', List.forall_mem_append.mpr ⟨reads, reads'⟩, _, rfl, rest'⟩
  obtain ⟨same, reads, st, work, rest⟩ := held
  refine ⟨same, reads, ?_⟩
  intro d ended
  obtain rfl := Stage.finished_of_work (work.symm.trans ended)
  exact rest d rfl

end Rest

namespace MemoryStore

variable {key : ObjectKey} {s : MemoryStore k} {o : Object k} {r r' : Resource k}

@[simp] theorem lifecycle_reread : (s.reread o r').lifecycle = r'.lifecycle :=
  Resource.lifecycle_stored r'

@[simp] theorem rawState_reread : (s.reread o r').rawState = r'.rawState :=
  Resource.rawState_of_lifecycle lifecycle_reread

@[simp] theorem outgrown_reread : (s.reread o r').outgrown = r'.outgrown := by
  rw [← r'.outgrown_stored]
  cases k <;> rfl

theorem Stands.isDeleted_reread (stands : s.Stands key o r) :
    (s.reread o r').isDeleted = r.isDeleted := stands.formed.isDeleted.symm

end MemoryStore

namespace Round

variable {round : Round} {key : ObjectKey} {s : MemoryStore k} {o : Object k} {r : Resource k}

theorem calls_of_stands (round : Round) (stands : s.Stands key o r) : round.calls key s =
    (r.turn round.outcome round.wall).asked.toList.map fun op => (op, round.outcome) := by
  rw [calls, round.run_of_stands stands]

theorem after_of_stands (round : Round) (stands : s.Stands key o r) : round.after key s =
    s.saved key o (r.turn round.outcome round.wall).written
      (r.turn round.outcome round.wall).left := by
  rw [after, round.run_of_stands stands]

theorem calls_of_absent (round : Round) (gone : s.objects.get? key = none) :
    round.calls key s = [] := by
  rw [calls, round.run_of_absent gone]

theorem after_of_absent (round : Round) (gone : s.objects.get? key = none) :
    round.after key s = s := by
  rw [after, round.run_of_absent gone]

theorem run_of_rests (round : Round) (stands : s.Stands key o r) (rests : r.Rests) :
    round.run key s = (.ok (.done, .done), (s, [])) := by
  have turn : r.turn round.outcome round.wall = ⟨none, none, r, false⟩ := by
    simp only [Resource.turn, rests.rule?_eq_none]
  rw [round.run_of_stands stands, turn]
  rfl

theorem spec_after (stands : s.Stands key o r) {o' : Object k}
    (found : (round.after key s).objects.get? key = some o') :
    o'.spec = o.spec ∧ o'.metadata.deletionTimestamp = o.metadata.deletionTimestamp := by
  rw [round.after_of_stands stands] at found
  have turned := r.turned round.outcome round.wall
  rcases stands.of_saved turned.metadata found with ⟨-, rfl⟩ | ⟨-, rfl, -⟩
  · exact ⟨rfl, rfl⟩
  · refine ⟨?_, rfl⟩
    have wanted : k.mapSpec Reference.plain o.spec = r.spec :=
      (Object.toResource_eq_ok.mp stands.formed.read).2.2
    change k.mapSpec Reference.resource _ = o.spec
    rw [turned.spec, ← wanted, Kind.mapSpec_mapSpec]
    exact k.mapSpec_id o.spec

variable (observable : (k.noFacts? : Option (k.Facts Reference)).isSome)

include observable

theorem entered (stands : s.Stands key o r) {state : State} (enters : r.Enters state)
    (round : Round) : round.calls key s = [] ∧ ∃ o' r' op,
      (round.after key s).Stands key o' r' ∧ r'.isDeleted = r.isDeleted ∧ r'.Asks op ∧
        op ≠ .delete := by
  rw [round.calls_of_stands stands, round.after_of_stands stands, enters.turn observable]
  have raw : (s.reread o (r.enter state round.wall)).rawState = some state := by
    rw [MemoryStore.rawState_reread, r.rawState_enter observable]
  have same : (s.reread o (r.enter state round.wall)).outgrown = r.outgrown := by
    rw [MemoryStore.outgrown_reread, r.outgrown_enter]
  obtain ⟨op, asks, lasting⟩ := enters.asks raw same
  exact ⟨rfl, _, _, op, stands.rewritten rfl, stands.isDeleted_reread, asks, lasting⟩

theorem made (stands : s.Stands key o r) {op : Operation} (asks : r.Asks op)
    (lasting : op ≠ .delete) (done : round.outcome = .ok ()) :
    ∃ op' o' r', round.calls key s = [(op', .ok ())] ∧ op' ≠ .delete ∧
      (round.after key s).Stands key o' r' ∧ r'.isDeleted = r.isDeleted ∧
        r'.rawState = some .active ∧ r'.outgrown = false := by
  rw [round.calls_of_stands stands, round.after_of_stands stands, done,
    asks.turn_done observable lasting]
  refine ⟨op, _, _, rfl, lasting, stands.rewritten (r.metadata_noting op),
    stands.isDeleted_reread, ?_, ?_⟩
  · rw [MemoryStore.rawState_reread]
    exact (r.noting op).rawState_enter observable .active round.wall
  · rw [MemoryStore.outgrown_reread, (r.noting op).outgrown_enter, r.outgrown_noting lasting]

theorem settled (stands : s.Stands key o r) {op : Operation} (asks : r.Asks op)
    (lasting : op ≠ .delete) (unmarked : r.isDeleted = false) (done : round.outcome = .ok ()) :
    ∃ o' r', (round.after key s).Stands key o' r' ∧ r'.Rests := by
  obtain ⟨-, o', r', -, -, stands', same, active, large⟩ :=
    made observable stands asks lasting done
  refine ⟨o', r', stands', .of_active active large ?_⟩
  unfold Resource.wantsDeletion
  rw [same, unmarked, Resource.state_of_rawState active]
  rfl

/-- After two rounds in which every call succeeds nothing is left to do, unless it is to
delete. -/
theorem settles (stands : s.Stands key o r) (unwanted : r.wantsDeletion = false)
    {first second : Round} (done : first.outcome = .ok ()) (done' : second.outcome = .ok ()) :
    ∃ o' r', (second.after key (first.after key s)).Stands key o' r' ∧ r'.Rests := by
  have unmarked : r.isDeleted = false := (Bool.or_eq_false_iff.mp unwanted).1
  have rested {s' : MemoryStore k} {o' : Object k} {r' : Resource k}
      (stands' : s'.Stands key o' r') (rests : r'.Rests) (round : Round) :
      (round.after key s').Stands key o' r' := by
    rw [after, round.run_of_rests stands' rests]
    exact stands'
  rcases r.next_or_rests observable with ⟨rule, -, next⟩ | ⟨-, rests⟩
  · cases next with
    | entering enters =>
      obtain ⟨-, o₁, r₁, op, stands₁, same, asks, lasting⟩ :=
        entered observable stands enters first
      exact settled observable stands₁ asks lasting (same.trans unmarked) done'
    | activating asks lasting =>
      obtain ⟨o₁, r₁, stands₁, rests⟩ := settled observable stands asks lasting unmarked done
      exact ⟨o₁, r₁, rested stands₁ rests second, rests⟩
    | deleting asks =>
      cases asks with
      | delete wanted => cases unwanted.symm.trans wanted
  · exact ⟨o, r, rested (rested stands rests first) rests second, rests⟩

end Round

section Glance

variable {key : ObjectKey} {s : MemoryStore k} {o : Object k} {r r' : Resource k}

theorem MemoryStore.Stands.keptAs_reread (stands : s.Stands key o r)
    (mark : r'.isDeleted = r.isDeleted) : r'.KeptAs (s.reread o r') := by
  refine ⟨natText (s.lastVersion + 1), o.metadata.creationTimestamp,
    o.metadata.deletionTimestamp, ?_, ?_⟩
  · rw [mark]
    exact stands.formed.isDeleted.symm
  · have reread : (s.reread o r').stored = r'.stored.stored.restamp (natText (s.lastVersion + 1))
        o.metadata.creationTimestamp o.metadata.deletionTimestamp := rfl
    rw [reread, Resource.stored_stored]

/-- A round of a stored object is a glance at its resource, with the store for the repository. -/
theorem Round.exists_glance (round : Round) (stands : s.Stands key o r) : ∃ glance : Glance k,
    round.result key s = Stage.decided round.requeueAfter (glance.result r) ∧
    round.calls key s = (glance.calls r).map (fun op => (op, round.outcome)) ∧
    (.delete ∈ glance.writes r → (round.after key s).objects.get? key = none) ∧
    (.delete ∉ glance.writes r → ∃ o', (round.after key s).Stands key o' (glance.left r)) := by
  have turned := r.turned round.outcome round.wall
  have mark : (r.turn round.outcome round.wall).left.isDeleted = r.isDeleted :=
    congrArg Metadata.isDeleted turned.metadata
  -- Of a resource marked otherwise, which is never written, the store says nothing.
  let kept (r' : Resource k) := if r'.isDeleted = r.isDeleted then s.reread o r' else r'
  have faithful (r' : Resource k) : r'.KeptAs (kept r') := by
    by_cases same : r'.isDeleted = r.isDeleted
    · rw [show kept r' = s.reread o r' from if_pos same]
      exact stands.keptAs_reread same
    · rw [show kept r' = r' from if_neg same]
      exact .refl r'
  refine ⟨⟨round.wall, round.outcome, kept, faithful⟩, ?_, ?_, ?_, ?_⟩
  · rw [Round.result, round.run_of_stands stands, Glance.result_eq]
  · rw [round.calls_of_stands stands, Glance.calls_eq]
  · intro removed
    rw [Glance.writes_eq, Option.mem_toList] at removed
    rw [round.after_of_stands stands, removed]
    exact SortedMap.get?_erase_self _ _
  · intro remains
    rw [Glance.writes_eq, Option.mem_toList] at remains
    rw [round.after_of_stands stands, Glance.left_eq]
    cases written : (r.turn round.outcome round.wall).written with
    | none =>
      have left := turned.left_of_unwritten written
      refine ⟨o, ?_⟩
      change MemoryStore.Stands key s o (r.turn round.outcome round.wall).left
      rw [left]
      exact stands
    | some w =>
      cases w with
      | update =>
        have left : kept (r.turn round.outcome round.wall).left =
            s.reread o (r.turn round.outcome round.wall).left := if_pos mark
        refine ⟨s.rewritten o (r.turn round.outcome round.wall).left, ?_⟩
        change MemoryStore.Stands key _ _ (kept (r.turn round.outcome round.wall).left)
        rw [left]
        exact stands.rewritten turned.metadata
      | delete => exact absurd written remains

end Glance

end Reconciler
