import Reconciler.Proofs.Controller.Round

/-!
Objects that stand for no resource. A round notes in the history of such an object why it stands
for none. The condition is added behind all that made the object unreadable, so the object stays
unreadable for the same reason and no round notes it again.
-/

set_option autoImplicit false

namespace Reconciler

open Controller (Stage conversionFailure conversionFailureReason)
open MemoryStore (withConditions)

variable {k : Kind}

namespace Condition

/-- The condition as it stands in an object. -/
def written (c : Condition State) : Condition String := ⟨c.state.name, c.reason, c.message, c.since⟩

/-- The condition of an object that stood for no resource, as it is read once it stands for one. -/
def unread (e : Error) (now : Instant) : Condition State :=
  { state := .error, reason := conversionFailureReason, message := e.message, since := now }

end Condition

/-- The history with a condition more, as it is read where it was written, and the state as it
was. -/
def Lifecycle.note {τ : Type} (c : Condition τ) (l : Lifecycle τ) : Lifecycle τ :=
  { l with conditions := (l.conditions ++ [c]).map Condition.settled }

def Resource.noted (c : Condition State) (r : Resource k) : Resource k :=
  r.mapLifecycle (·.note c)

def Object.noted (c : Condition State) (o : Object k) : Object k :=
  withConditions o (o.conditions ++ [c.written])

/-- The last condition says already that the object stands for no resource, and why. -/
def Object.tells (o : Object k) (e : Error) : Bool :=
  o.conditions.getLast?.any (·.repeats (conversionFailure e default))

namespace Mapping

theorem mapM_settled (conditions : List (Condition String)) :
    (conditions.map Condition.settled).mapM (fun c => (readState c.state).map fun s =>
      (⟨s, c.reason, c.message, c.since⟩ : Condition State)) =
    (conditions.mapM (fun c => (readState c.state).map fun s =>
      (⟨s, c.reason, c.message, c.since⟩ : Condition State))).map (·.map Condition.settled) := by
  induction conditions with
  | nil => rfl
  | cons c conditions ih =>
    rw [List.map_cons, List.mapM_cons, List.mapM_cons, ih, Condition.state_settled]
    generalize conditions.mapM (fun c => (readState c.state).map fun s =>
      (⟨s, c.reason, c.message, c.since⟩ : Condition State)) = history
    cases readState c.state with
    | error fault => rfl
    | ok s => cases history <;> rfl

theorem mapStates_note (c : Condition State) (l : Lifecycle String) :
    (l.note c.written).mapStates readState = (l.mapStates readState).map (·.note c) := by
  obtain ⟨state, conditions⟩ := l
  have last : [c.written].mapM (fun c => (readState c.state).map fun s =>
      (⟨s, c.reason, c.message, c.since⟩ : Condition State)) = .ok [c] := by
    rw [List.mapM_cons, Condition.written, readState_name]
    rfl
  unfold Lifecycle.mapStates Lifecycle.note
  simp only [mapM_settled, List.mapM_append, last]
  generalize conditions.mapM (fun c => (readState c.state).map fun s =>
      (⟨s, c.reason, c.message, c.since⟩ : Condition State)) = history
  cases state with
  | none => cases history <;> rfl
  | some s =>
    cases read : readState s with
    | error fault =>
      simp only [read]
      rfl
    | ok s =>
      simp only [read]
      cases history <;> rfl

theorem readStatus_note (c : Condition State) (s : Status k String String) :
    readStatus { s with lifecycle := s.lifecycle.note c.written } =
      (readStatus s).map fun s => { s with lifecycle := s.lifecycle.note c } := by
  unfold readStatus
  simp only [mapStates_note]
  cases s.lifecycle.mapStates readState <;> rfl

end Mapping

namespace Object

/-- An object stands for the same with one condition more, or for nothing for the same reason. -/
theorem toResource_noted (c : Condition State) (o : Object k) : (o.noted c).toResource =
    o.toResource.map fun r => (r.noted c).restamp (o.version.getD "")
      (o.metadata.creationTimestamp.map Instant.truncate)
      (o.metadata.deletionTimestamp.map Instant.truncate) := by
  have metadata := Mapping.readMetadata_of_same o.metadata
    (withConditions o (o.conditions ++ [c.written])).metadata rfl rfl rfl
  unfold toResource Mapping.read noted
  rw [metadata]
  cases Mapping.readMetadata o.metadata with
  | error fault => rfl
  | ok n =>
    cases status : o.status with
    | none =>
      have fresh : o.conditions = [] := by
        rw [conditions, status]
      have read (facts : k.Facts String) : Mapping.readStatus
          ⟨⟨none, ([] ++ [c.written]).map Condition.settled⟩, facts⟩ = _ :=
        Mapping.readStatus_note c ⟨.fresh, facts⟩
      simp only [withConditions, status, fresh]
      cases k with
      | volume =>
        simp only [Kind.noFacts?, Option.map_some, Mapping.readOptionalStatus, read]
        rfl
      | workspace =>
        simp only [Kind.noFacts?, Option.map_some, Mapping.readOptionalStatus, read]
        rfl
      | storageOffer => rfl
      | networkOffer => rfl
    | some s =>
      have history : o.conditions = s.lifecycle.conditions := by
        rw [conditions, status]
      have read : Mapping.readStatus { s with lifecycle := { s.lifecycle with
          conditions := (s.lifecycle.conditions ++ [c.written]).map Condition.settled } } = _ :=
        Mapping.readStatus_note c s
      simp only [withConditions, status, history, Mapping.readOptionalStatus, read]
      cases told : Mapping.readStatus s with
      | error fault => rfl
      | ok st => rfl

theorem tells_iff {o : Object k} {e : Error} : o.tells e = true ↔
    ∃ c, o.conditions.getLast? = some c ∧ c.state = State.error.name ∧
      c.reason = conversionFailureReason ∧ c.message = e.message := by
  unfold tells
  rw [Option.any_eq_true]
  refine exists_congr fun c => and_congr_right fun _ => ?_
  rw [Condition.repeats, Bool.and_eq_true, Bool.and_eq_true, decide_eq_true_eq, decide_eq_true_eq,
    decide_eq_true_eq, and_assoc]
  rfl

theorem conditions_noted (observable : (k.noFacts? : Option (k.Facts Reference)).isSome)
    (c : Condition State) (o : Object k) :
    (o.noted c).conditions = (o.conditions ++ [c.written]).map Condition.settled := by
  unfold noted withConditions conditions
  cases o.status with
  | some s => rfl
  | none =>
    cases k with
    | volume => rfl
    | workspace => rfl
    | storageOffer => cases observable
    | networkOffer => cases observable

theorem tells_noted (observable : (k.noFacts? : Option (k.Facts Reference)).isSome)
    (o : Object k) (e : Error) (now : Instant) : (o.noted (.unread e now)).tells e = true := by
  refine tells_iff.mpr ⟨(Condition.unread e now).written.settled, ?_, rfl, rfl, rfl⟩
  rw [conditions_noted observable, List.getLast?_map, List.getLast?_concat]
  rfl

theorem conditionsWith?_unread (o : Object k) (e : Error) (now : Instant) :
    o.conditionsWith? (conversionFailure e now) =
      if o.tells e then none else some (o.conditions ++ [conversionFailure e now]) := by
  unfold conditionsWith? tells
  cases o.conditions.getLast? with
  | none => rfl
  | some c => rfl

end Object

namespace MemoryStore

/-- The store with the reason on record why the object stands for no resource. -/
def complained (s : MemoryStore k) (key : ObjectKey) (o : Object k) (e : Error) (now : Instant) :
    MemoryStore k :=
  if o.tells e then s else (s.write key (o.noted (.unread e now))).2

end MemoryStore

namespace Round

variable {round : Round} {key : ObjectKey} {s : MemoryStore k} {o : Object k} {e : Error}

theorem run_of_unreadable (round : Round) (found : s.objects.get? key = some o)
    (unread : o.toResource = .error e) : round.run key s =
      (.ok (.done, .invalid), (s.complained key o e round.wall, [])) := by
  have got : s.perform round.wall (.get key) = (.ok o, s) := by
    rw [MemoryStore.perform, MemoryStore.get_eq_ok.mpr found]
  have recorded : (s.perform round.wall (.record key (conversionFailure e round.wall))).2 =
      s.complained key o e round.wall := by
    have noted := o.conditionsWith?_unread e round.wall
    unfold MemoryStore.complained
    cases told : o.tells e with
    | true =>
      have repeated : s.record key (conversionFailure e round.wall) = .ok (false, s) :=
        MemoryStore.record_eq_ok.mpr ⟨o, found, .inl ⟨by rw [noted, told]; rfl, rfl, rfl⟩⟩
      rw [MemoryStore.perform, repeated]
      rfl
    | false =>
      have appended : s.record key (conversionFailure e round.wall) =
          .ok (true, (s.write key (o.noted (.unread e round.wall))).2) :=
        MemoryStore.record_eq_ok.mpr
          ⟨o, found, .inr ⟨_, by rw [noted, told]; rfl, rfl, rfl⟩⟩
      rw [MemoryStore.perform, appended]
      rfl
  change ((Stage.reading : Stage k).work round.requeueAfter round.wall key).run _ (s, []) = _
  rw [run_asks .reading]
  simp only [answer, got, Stage.afterRead_unreadable unread]
  rw [run_asks (.recording e)]
  simp only [answer, recorded]
  rfl

end Round

namespace MemoryStore

variable {key : ObjectKey} {s : MemoryStore k} {o : Object k} {e : Error}

def Told (key : ObjectKey) (e : Error) (s : MemoryStore k) : Prop :=
  ∃ o, s.objects.get? key = some o ∧ o.toResource = .error e ∧ o.tells e = true

theorem complained_of_tells (tells : o.tells e = true) {now : Instant} :
    s.complained key o e now = s := if_pos tells

theorem get?_complained (s : MemoryStore k) (key : ObjectKey) (now : Instant)
    (untold : o.tells e = false) : (s.complained key o e now).objects.get? key =
      some ((o.noted (.unread e now)).setVersion (some (natText (s.lastVersion + 1)))) := by
  rw [complained, if_neg (ne_true_of_eq_false untold)]
  exact get?_write_self _ _ _

theorem sound_complained (sound : s.Sound) (found : s.objects.get? key = some o) (e : Error)
    (now : Instant) : (s.complained key o e now).Sound := by
  have home : ObjectKey.ofObject o = key := sound.keyed found
  have named : o.Named := sound.named found
  unfold complained
  split
  · exact sound
  · exact sound.write home named

theorem told_complained (observable : (k.noFacts? : Option (k.Facts Reference)).isSome)
    (found : s.objects.get? key = some o) (unread : o.toResource = .error e) (now : Instant) :
    Told key e (s.complained key o e now) := by
  cases tells : o.tells e with
  | true =>
    rw [complained_of_tells tells]
    exact ⟨o, found, unread, tells⟩
  | false =>
    refine ⟨_, get?_complained s key now tells, ?_, o.tells_noted observable e now⟩
    have unread' : (o.noted (.unread e now)).toResource = .error e := by
      rw [Object.toResource_noted, unread]
      rfl
    have restamped := (o.noted (.unread e now)).toResource_restamp_eq
      (some (natText (s.lastVersion + 1))) (o.noted (.unread e now)).metadata.creationTimestamp
      (o.noted (.unread e now)).metadata.deletionTimestamp
    rw [unread'] at restamped
    exact restamped

theorem Told.run (told : Told key e s) (round : Round) :
    round.run key s = (.ok (.done, .invalid), (s, [])) := by
  obtain ⟨o, found, unread, tells⟩ := told
  rw [round.run_of_unreadable found unread, complained_of_tells tells]

theorem Told.afterAll (told : Told key e s) (rounds : List Round) :
    Round.afterAll key rounds s = s ∧ Round.callsOfAll key rounds s = [] := by
  induction rounds with
  | nil => exact ⟨rfl, rfl⟩
  | cons round rounds ih =>
    have quiet : round.after key s = s ∧ round.calls key s = [] := by
      rw [Round.after, Round.calls, told.run round]
      exact ⟨rfl, rfl⟩
    rw [Round.afterAll, List.foldl_cons, Round.callsOfAll, quiet.1, quiet.2]
    exact ih

end MemoryStore

namespace Round

variable {key : ObjectKey} {s : MemoryStore k} {o : Object k} {e : Error}

theorem afterAll_of_unreadable (observable : (k.noFacts? : Option (k.Facts Reference)).isSome)
    (found : s.objects.get? key = some o) (unread : o.toResource = .error e) (first : Round)
    (later : List Round) :
    afterAll key (first :: later) s = s.complained key o e first.wall := by
  have told := MemoryStore.told_complained observable found unread first.wall
  rw [afterAll, List.foldl_cons, after, first.run_of_unreadable found unread]
  exact (told.afterAll later).1

/-- What is stored after some rounds is the object, told why it stands for no resource unless it
had been told before or no round took place. -/
theorem exists_after_unreadable (observable : (k.noFacts? : Option (k.Facts Reference)).isSome)
    (sound : s.Sound) (found : s.objects.get? key = some o) (unread : o.toResource = .error e)
    (rounds : List Round) : ∃ x version created deleted,
      (afterAll key rounds s).Sound ∧
      (afterAll key rounds s).objects.get? key = some (Object.restamp x version created deleted) ∧
      deleted.isSome = o.metadata.deletionTimestamp.isSome ∧
      ((rounds = [] ∨ o.tells e = true) ∧ x = o ∨
        ¬ (rounds = [] ∨ o.tells e = true) ∧ ∃ now, x = o.noted (.unread e now)) := by
  cases rounds with
  | nil => exact ⟨o, _, _, _, sound, found, rfl, .inl ⟨.inl rfl, rfl⟩⟩
  | cons first later =>
    have sound' := MemoryStore.sound_complained sound found e first.wall
    rw [afterAll_of_unreadable observable found unread]
    cases tells : o.tells e with
    | true =>
      rw [MemoryStore.complained_of_tells tells]
      exact ⟨o, _, _, _, sound, found, rfl, .inl ⟨.inr rfl, rfl⟩⟩
    | false =>
      have stored := MemoryStore.get?_complained s key first.wall tells
      exact ⟨o.noted (.unread e first.wall), _, _, _, sound', stored, Option.isSome_map,
        .inr ⟨by simp, first.wall, rfl⟩⟩

/-- An object of a volume or a workspace that stands for no resource is told so by the first round
at most, with one condition, and by no later one. No round asks for another one or calls the
provider, and from the second on the store stays as it is. -/
theorem rejection_recorded_once (reconciled : k = .volume ∨ k = .workspace)
    (found : s.objects.get? key = some o) (unread : o.toResource = .error e) (first : Round)
    (later : List Round) :
    (first.after key s = if o.tells e then s else
      (s.write key (withConditions o (o.conditions ++ [conversionFailure e first.wall]))).2) ∧
    afterAll key (first :: later) s = first.after key s ∧
    callsOfAll key (first :: later) s = [] ∧
    ∀ before round after, first :: later = before ++ round :: after →
      round.result key (afterAll key before s) = .ok (.done, .invalid) := by
  have observable : (k.noFacts? : Option (k.Facts Reference)).isSome := by
    rcases reconciled with rfl | rfl
    · rfl
    · rfl
  have run := first.run_of_unreadable found unread
  have left : first.after key s = s.complained key o e first.wall := by
    rw [after, run]
  have told : MemoryStore.Told key e (first.after key s) := by
    rw [left]
    exact MemoryStore.told_complained observable found unread first.wall
  have all (later : List Round) : afterAll key (first :: later) s = first.after key s := by
    rw [afterAll_of_unreadable observable found unread, left]
  refine ⟨left, all later, ?_, ?_⟩
  · have quiet : first.calls key s = [] := by
      rw [calls, run]
    rw [callsOfAll, quiet, (told.afterAll later).2]
    rfl
  · intro before round after parts
    cases before with
    | nil =>
      obtain ⟨rfl, -⟩ := List.cons.inj parts
      exact congrArg Prod.fst run
    | cons round' before =>
      obtain ⟨rfl, -⟩ := List.cons.inj parts
      rw [all before]
      exact congrArg Prod.fst (told.run round)

def orphanStore : MemoryStore .volume :=
  .afterAll .empty
    [.call .unbounded .zero default (.create
      { Object.plainVolume with
        metadata := { Object.plainVolume.metadata with labels := none } })]

theorem orphan_told_once :
    ∃ o, (afterAll ⟨some "a", "v"⟩ [calm, calm, calm] orphanStore).objects.get? ⟨some "a", "v"⟩ =
        some o ∧ o.version = some "2" ∧
      o.conditions.map (·.message) =
        ["Failed to convert BlockStorage/v to its domain model: missing label internal/tenant"] := by
  have found : orphanStore.objects.get? ⟨some "a", "v"⟩ = some
      (({ Object.plainVolume with
        metadata := { Object.plainVolume.metadata with labels := none } } : Object .volume).restamp
          (some "1") (some default) none) := by rfl
  have once := rejection_recorded_once (.inl rfl) found rfl calm [calm, calm]
  rw [once.2.1, once.1]
  exact ⟨_, rfl, rfl, rfl⟩

end Round

end Reconciler
