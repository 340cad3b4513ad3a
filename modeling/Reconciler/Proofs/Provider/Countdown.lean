import Reconciler.Proofs.SortedMap
import Reconciler.Provider.Dummy

/-!
The dummy provider over any history of calls. A deletion goes unfinished for as many calls as
are configured, whatever else is called between them, and the next call removes what it is
about. Volumes keep to the limit and never shrink, and what is refused changes nothing.
-/

set_option autoImplicit false

namespace Reconciler.Dummy

variable {k k' : Kind}

/-- No name of a kind begins another one, so that resources of two kinds are never mixed up. -/
theorem identity_eq_iff {r : Resource k} {r' : Resource k'} :
    identity r = identity r' ↔ k = k' ∧ r.reference.text = r'.reference.text := by
  constructor
  · intro same
    have letters := congrArg String.toList same
    cases k <;> cases k' <;>
      simp [identity, Kind.name, String.toList_append, String.toList_inj] at letters ⊢ <;>
      exact letters
  · rintro ⟨rfl, same⟩
    rw [identity, identity, same]

def holds (d : Dummy) (r : Resource k) : Bool :=
  match k with
  | .volume => d.hasVolume (identity r)
  | .workspace => d.hasWorkspace (identity r)
  | .storageOffer | .networkOffer => false

def remove (d : Dummy) (r : Resource k) : Dummy :=
  match k with
  | .volume => { d with volumes := d.volumes.erase (identity r) }
  | .workspace => { d with workspaces := d.workspaces.erase (identity r) }
  | .storageOffer | .networkOffer => d

/-- A resource is removed, and its deletion is no longer under way. -/
def without (d : Dummy) (r : Resource k) : Dummy :=
  { d.remove r with deletions := d.deletions.erase (identity r) }

def awaiting (d : Dummy) (r : Resource k) (left : Nat) : Dummy :=
  { d with deletions := d.deletions.insert (identity r) left }

variable {d d' : Dummy} {id : String} {r : Resource k}

@[simp] theorem config_remove (d : Dummy) (r : Resource k) : (d.remove r).config = d.config := by
  cases k <;> rfl

@[simp] theorem deletions_remove (d : Dummy) (r : Resource k) :
    (d.remove r).deletions = d.deletions := by
  cases k <;> rfl

@[simp] theorem holds_remove_self (d : Dummy) (r : Resource k) :
    (d.remove r).holds r = false := by
  cases k <;> simp [remove, holds, hasVolume, hasWorkspace, SortedMap.contains]

@[simp] theorem holds_without_self (d : Dummy) (r : Resource k) :
    (d.without r).holds r = false := by
  have removed := holds_remove_self d r
  cases k <;> exact removed

theorem volumes_remove_of_ne (d : Dummy) (apart : id ≠ identity r) :
    (d.remove r).volumes.get? id = d.volumes.get? id := by
  cases k <;> simp [remove, SortedMap.get?_erase_of_ne _ apart]

theorem workspaces_remove_of_ne (d : Dummy) (apart : id ≠ identity r) :
    (d.remove r).workspaces.get? id = d.workspaces.get? id := by
  cases k <;> simp [remove, SortedMap.get?_erase_of_ne _ apart]

theorem volumes_remove_of_eq_some {size : Nat} (d : Dummy) (r : Resource k)
    (found : (d.remove r).volumes.get? id = some size) : d.volumes.get? id = some size := by
  by_cases here : id = identity r
  · cases k with
    | volume =>
      rw [here, remove, SortedMap.get?_erase_self] at found
      cases found
    | _ => exact found
  · rwa [volumes_remove_of_ne d here] at found

def Fits (config : Config) (sizeGb : Nat) : Prop := ∀ max, config.maxSizeGb = some max → sizeGb ≤ max

inductive Effect (d : Dummy) (r : Resource k) : Operation → CallOutcome → Dummy → Prop
  | nothing {op : Operation} {outcome : CallOutcome} (finished : outcome ≠ .error .stillProcessing)
      (absent : op = .delete → outcome = .ok () ∧ d.holds r = false) : Effect d r op outcome d
  | sized {op : Operation} {sizeGb : Nat} (volume : k = .volume) (provisions : op ≠ .delete)
      (fits : Fits d.config sizeGb)
      (grows : op = .increaseSize → ∃ size, d.volumeSize? (identity r) = some size ∧ size ≤ sizeGb) :
      Effect d r op (.ok ()) { d with volumes := d.volumes.insert (identity r) sizeGb }
  | made (workspace : k = .workspace) :
      Effect d r .create (.ok ()) { d with workspaces := d.workspaces.insert (identity r) () }
  | awaited {left : Nat} (held : d.holds r = true) (slow : d.config.deletePolls ≠ 0)
      (more : (d.deletions.get? (identity r)).getD d.config.deletePolls = left + 1) :
      Effect d r .delete (.error .stillProcessing) (d.awaiting r left)
  | prompt (held : d.holds r = true) (quick : d.config.deletePolls = 0) :
      Effect d r .delete (.ok ()) (d.remove r)
  | removed (held : d.holds r = true) (slow : d.config.deletePolls ≠ 0)
      (last : (d.deletions.get? (identity r)).getD d.config.deletePolls = 0) :
      Effect d r .delete (.ok ()) (d.without r)

theorem fits_of_checkSize {op : Operation} {sizeGb : Nat} (passed : d.checkSize op sizeGb = .ok ()) :
    Fits d.config sizeGb := by
  intro max limit
  rw [checkSize, limit] at passed
  dsimp only at passed
  split at passed
  · cases passed
  · omega

theorem failure_ne_stillProcessing (op : Operation) (reason : String) :
    failure op reason ≠ .stillProcessing := by
  unfold failure
  exact nofun

theorem ne_stillProcessing_of_checkSize {op : Operation} {sizeGb : Nat} {e : ProviderError}
    (refused : d.checkSize op sizeGb = .error e) : e ≠ .stillProcessing := by
  unfold checkSize at refused
  split at refused
  · split at refused
    · cases refused
      exact failure_ne_stillProcessing _ _
    · cases refused
  · cases refused

theorem Effect.refused {op : Operation} {e : ProviderError} (failed : e ≠ .stillProcessing)
    (provisions : op ≠ .delete) : Effect d r op (.error e) d :=
  .nothing (fun same => failed (Except.error.inj same)) fun deletes => absurd deletes provisions

theorem perform_delete (d : Dummy) (r : Resource k) :
    d.perform .delete r =
      if d.holds r then
        match d.countDown (identity r) with
        | (true, d') => (.ok (), d'.remove r)
        | (false, d') => (.error .stillProcessing, d')
      else (.ok (), d) := by
  cases k <;> rfl

theorem perform_delete_of_absent (absent : d.holds r = false) :
    d.perform .delete r = (.ok (), d) := by
  rw [perform_delete, absent]
  rfl

theorem effect_delete (d : Dummy) (r : Resource k) :
    Effect d r .delete (d.perform .delete r).1 (d.perform .delete r).2 := by
  rw [perform_delete]
  cases held : d.holds r with
  | false => exact .nothing nofun fun _ => ⟨rfl, held⟩
  | true =>
    simp only [if_true, countDown]
    by_cases quick : d.config.deletePolls = 0
    · simp only [quick, if_true]
      exact .prompt held quick
    · simp only [quick, if_false]
      cases counted : (d.deletions.get? (identity r)).getD d.config.deletePolls with
      | zero =>
        convert Effect.removed held quick counted using 1
        cases k <;> rfl
      | succ left => exact .awaited held quick counted

theorem effect_growVolume (d : Dummy) (v : Resource .volume) :
    Effect d v .increaseSize (d.growVolume (identity v) v.spec.sizeGb).1
      (d.growVolume (identity v) v.spec.sizeGb).2 := by
  unfold growVolume
  split
  · rename_i e refused
    exact .refused (ne_stillProcessing_of_checkSize refused) (by decide)
  · rename_i passed
    split
    · exact .refused nofun (by decide)
    · rename_i size found
      split
      · exact .refused (failure_ne_stillProcessing _ _) (by decide)
      · exact .sized rfl (by decide) (fits_of_checkSize passed) fun _ => ⟨size, found, by omega⟩

theorem effect_createVolume (d : Dummy) (v : Resource .volume) :
    Effect d v .create (d.createVolume (identity v) v.spec.sizeGb).1
      (d.createVolume (identity v) v.spec.sizeGb).2 := by
  unfold createVolume
  split
  · rename_i passed
    exact .sized rfl (by decide) (fits_of_checkSize passed) nofun
  · rename_i e refused
    exact .refused (ne_stillProcessing_of_checkSize refused) (by decide)

theorem effect_perform (d : Dummy) (op : Operation) (r : Resource k) :
    Effect d r op (d.perform op r).1 (d.perform op r).2 := by
  cases op with
  | delete => exact effect_delete d r
  | create =>
    cases k with
    | volume => exact effect_createVolume d r
    | workspace => exact .made rfl
    | storageOffer | networkOffer => exact .nothing nofun nofun
  | increaseSize =>
    cases k with
    | volume => exact effect_growVolume d r
    | workspace | storageOffer | networkOffer => exact .nothing nofun nofun

namespace Effect

variable {op : Operation} {outcome : CallOutcome}

theorem config_eq (effect : Effect d r op outcome d') : d'.config = d.config := by
  cases effect <;> simp [awaiting, without]

theorem eq_of_error {e : ProviderError} (effect : Effect d r op (.error e) d')
    (refused : e ≠ .stillProcessing) : d' = d := by
  cases effect with
  | nothing => rfl
  | awaited => exact absurd rfl refused

theorem fits (effect : Effect d r op outcome d')
    (before : ∀ id size, d.volumeSize? id = some size → Fits d.config size) {size : Nat}
    (found : d'.volumeSize? id = some size) : Fits d'.config size := by
  rw [effect.config_eq]
  cases effect with
  | nothing | made | awaited => exact before id size found
  | prompt | removed => exact before id size (volumes_remove_of_eq_some d r found)
  | @sized op sizeGb _ _ fits =>
    by_cases here : id = identity r
    · rw [here, volumeSize?, SortedMap.get?_insert_self] at found
      cases found
      exact fits
    · rw [volumeSize?, SortedMap.get?_insert_of_ne _ _ here] at found
      exact before id size found

theorem grown (effect : Effect d r .increaseSize outcome d') (id : String) :
    Option.Rel (· ≤ ·) (d.volumeSize? id) (d'.volumeSize? id) := by
  have same (size : Option Nat) : Option.Rel (· ≤ ·) size size := by
    cases size with
    | none => exact .none
    | some size => exact .some (Nat.le_refl size)
  cases effect with
  | nothing => exact same _
  | @sized _ sizeGb _ _ _ grows =>
    obtain ⟨size, found, le⟩ := grows rfl
    by_cases here : id = identity r
    · rw [here, found, volumeSize?, SortedMap.get?_insert_self]
      exact .some le
    · rw [volumeSize?, volumeSize?, SortedMap.get?_insert_of_ne _ _ here]
      exact same _

end Effect

/-- Providers of one configuration that know the same of an identity. -/
structure Agree (id : String) (d d' : Dummy) : Prop where
  config : d.config = d'.config
  volume : d.volumes.get? id = d'.volumes.get? id
  workspace : d.workspaces.get? id = d'.workspaces.get? id
  deletion : d.deletions.get? id = d'.deletions.get? id

theorem Agree.holds_eq (agree : Agree (identity r) d d') : d.holds r = d'.holds r := by
  cases k <;>
    simp [holds, hasVolume, hasWorkspace, SortedMap.contains, agree.volume, agree.workspace]

theorem Effect.agree {op : Operation} {outcome : CallOutcome} (effect : Effect d r op outcome d')
    (apart : id ≠ identity r) : Agree id d' d where
  config := effect.config_eq
  volume := by
    cases effect <;>
      simp [awaiting, without, volumes_remove_of_ne, SortedMap.get?_insert_of_ne _ _ apart, apart]
  workspace := by
    cases effect <;>
      simp [awaiting, without, workspaces_remove_of_ne, SortedMap.get?_insert_of_ne _ _ apart, apart]
  deletion := by
    cases effect <;>
      simp [awaiting, without, SortedMap.get?_insert_of_ne _ _ apart,
        SortedMap.get?_erase_of_ne _ apart]

theorem checkSize_eq (same : d.config = d'.config) (op : Operation) (sizeGb : Nat) :
    d.checkSize op sizeGb = d'.checkSize op sizeGb := by
  rw [checkSize, checkSize, same]

namespace Agree

theorem symm (agree : Agree id d d') : Agree id d' d :=
  ⟨agree.config.symm, agree.volume.symm, agree.workspace.symm, agree.deletion.symm⟩

theorem trans {d₁ d₂ d₃ : Dummy} (first : Agree id d₁ d₂) (second : Agree id d₂ d₃) :
    Agree id d₁ d₃ :=
  ⟨first.config.trans second.config, first.volume.trans second.volume,
    first.workspace.trans second.workspace, first.deletion.trans second.deletion⟩

theorem createVolume (agree : Agree id d d') (sizeGb : Nat) :
    (d.createVolume id sizeGb).1 = (d'.createVolume id sizeGb).1 ∧
      Agree id (d.createVolume id sizeGb).2 (d'.createVolume id sizeGb).2 := by
  rw [Dummy.createVolume, Dummy.createVolume, checkSize_eq agree.config]
  split
  · exact ⟨rfl, agree.config, by simp, agree.workspace, agree.deletion⟩
  · exact ⟨rfl, agree⟩

theorem growVolume (agree : Agree id d d') (sizeGb : Nat) :
    (d.growVolume id sizeGb).1 = (d'.growVolume id sizeGb).1 ∧
      Agree id (d.growVolume id sizeGb).2 (d'.growVolume id sizeGb).2 := by
  have size : d.volumeSize? id = d'.volumeSize? id := agree.volume
  rw [Dummy.growVolume, Dummy.growVolume, checkSize_eq agree.config, size]
  split
  · exact ⟨rfl, agree⟩
  split
  · exact ⟨rfl, agree⟩
  split
  · exact ⟨rfl, agree⟩
  · exact ⟨rfl, agree.config, by simp, agree.workspace, agree.deletion⟩

theorem remove (agree : Agree (identity r) d d') :
    Agree (identity r) (d.remove r) (d'.remove r) where
  config := by simpa using agree.config
  volume := by cases k <;> simp [Dummy.remove, agree.volume]
  workspace := by cases k <;> simp [Dummy.remove, agree.workspace]
  deletion := by simpa using agree.deletion

theorem countDown (agree : Agree id d d') :
    (d.countDown id).1 = (d'.countDown id).1 ∧
      Agree id (d.countDown id).2 (d'.countDown id).2 := by
  rw [Dummy.countDown, Dummy.countDown, agree.config, agree.deletion]
  split
  · exact ⟨rfl, agree⟩
  split
  · exact ⟨rfl, rfl, agree.volume, agree.workspace, by simp⟩
  · exact ⟨rfl, rfl, agree.volume, agree.workspace, by simp⟩

theorem delete (agree : Agree (identity r) d d') :
    (d.perform .delete r).1 = (d'.perform .delete r).1 ∧
      Agree (identity r) (d.perform .delete r).2 (d'.perform .delete r).2 := by
  rw [perform_delete, perform_delete, agree.holds_eq]
  cases d'.holds r with
  | false => exact ⟨rfl, agree⟩
  | true =>
    obtain ⟨same, left⟩ := agree.countDown
    cases counted : d.countDown (identity r) with | mk finished c => ?_
    cases counted' : d'.countDown (identity r) with | mk finished' c' => ?_
    rw [counted, counted'] at same left
    obtain rfl : finished = finished' := same
    cases finished with
    | true => exact ⟨rfl, left.remove⟩
    | false => exact ⟨rfl, left⟩

theorem perform (agree : Agree (identity r) d d') (op : Operation) :
    (d.perform op r).1 = (d'.perform op r).1 ∧
      Agree (identity r) (d.perform op r).2 (d'.perform op r).2 := by
  cases op with
  | delete => exact agree.delete
  | create =>
    cases k with
    | volume => exact agree.createVolume _
    | workspace => exact ⟨rfl, agree.config, agree.volume, by simp [Dummy.perform, createWorkspace],
        agree.deletion⟩
    | storageOffer | networkOffer => exact ⟨rfl, agree⟩
  | increaseSize =>
    cases k with
    | volume => exact agree.growVolume _
    | workspace | storageOffer | networkOffer => exact ⟨rfl, agree⟩

end Agree

structure Call where
  kind : Kind
  op : Operation
  resource : Resource kind

def Call.concerns (c : Call) (r : Resource k) : Bool :=
  c.kind = k ∧ c.resource.reference.text = r.reference.text

theorem Call.concerns_iff {c : Call} : c.concerns r = true ↔ identity c.resource = identity r := by
  rw [identity_eq_iff, concerns, decide_eq_true_iff]

def next (d : Dummy) (c : Call) : Dummy := (d.perform c.op c.resource).2

/-- The provider after a history of calls, the latest one first. -/
def after (config : Config) : List Call → Dummy
  | [] => .ofConfig config
  | c :: earlier => (after config earlier).next c

/-- Counts a call that is to delete a resource while it is there, anew when it is removed. -/
def tallied (d : Dummy) (c : Call) (r : Resource k) (n : Nat) : Nat :=
  if d.holds r && !(d.next c).holds r then 0
  else if d.holds r && c.concerns r && c.op = .delete then n + 1
  else n

/-- The calls that were to delete a resource while it was there, since it was removed last. -/
def polls (config : Config) (r : Resource k) : List Call → Nat
  | [] => 0
  | c :: earlier => (after config earlier).tallied c r (polls config r earlier)

theorem config_after (config : Config) (history : List Call) :
    (after config history).config = config := by
  induction history with
  | nil => rfl
  | cons c earlier ih => exact (effect_perform _ c.op c.resource).config_eq.trans ih

/-- The outstanding calls of a deletion are those that have not been made. -/
structure Tally (d : Dummy) (r : Resource k) (polls : Nat) : Prop where
  le : polls ≤ d.config.deletePolls
  absent : d.holds r = false → polls = 0
  left : d.deletions.get? (identity r) =
    if polls = 0 then none else some (d.config.deletePolls - polls)

namespace Tally

variable {n : Nat}

theorem getD_left (tally : Tally d r n) :
    (d.deletions.get? (identity r)).getD d.config.deletePolls = d.config.deletePolls - n := by
  rw [tally.left]
  split
  · simp [*]
  · rfl

theorem of_agree (agree : Agree (identity r) d d') (tally : Tally d' r n) : Tally d r n where
  le := agree.config ▸ tally.le
  absent missing := tally.absent (agree.holds_eq ▸ missing)
  left := by rw [agree.deletion, agree.config, tally.left]

theorem delete_unfinished (tally : Tally d r n) (held : d.holds r = true)
    (more : n < d.config.deletePolls) :
    d.perform .delete r =
      (.error .stillProcessing, d.awaiting r (d.config.deletePolls - (n + 1))) := by
  have slow : d.config.deletePolls ≠ 0 := by omega
  have split : d.config.deletePolls - n = d.config.deletePolls - (n + 1) + 1 := by omega
  rw [perform_delete, held, countDown, tally.getD_left, split]
  simp only [slow, if_true, if_false, awaiting]

theorem delete_finished (tally : Tally d r n) (held : d.holds r = true)
    (last : n = d.config.deletePolls) : d.perform .delete r = (.ok (), d.without r) := by
  subst last
  rw [perform_delete, held, countDown, tally.getD_left]
  by_cases quick : d.config.deletePolls = 0
  · have none : (d.remove r).deletions.get? (identity r) = none := by
      rw [deletions_remove, tally.left, if_pos quick]
    simp only [quick, if_true, without]
    rw [← deletions_remove d r, SortedMap.erase_of_get?_eq_none none]
  · simp only [quick, Nat.sub_self, if_true, if_false]
    cases k <;> rfl

end Tally

theorem holds_congr {r' : Resource k} (same : identity r' = identity r) : d.holds r' = d.holds r := by
  cases k <;> simp [holds, same]

theorem Tally.congr {r' : Resource k} {n : Nat} (same : identity r' = identity r)
    (tally : Tally d r' n) : Tally d r n where
  le := tally.le
  absent := holds_congr (d := d) same ▸ tally.absent
  left := same ▸ tally.left

theorem Effect.of_provisions {op : Operation} {outcome : CallOutcome}
    (effect : Effect d r op outcome d') (provisions : op ≠ .delete) :
    d'.deletions = d.deletions ∧ (d.holds r = true → d'.holds r = true) := by
  cases effect with
  | nothing => exact ⟨rfl, id⟩
  | sized volume =>
    subst volume
    exact ⟨rfl, fun _ => by simp [holds, hasVolume, SortedMap.contains]⟩
  | made workspace =>
    subst workspace
    exact ⟨rfl, fun _ => by simp [holds, hasWorkspace, SortedMap.contains]⟩
  | awaited | prompt | removed => contradiction

theorem tallied_of_apart {c : Call} {n : Nat} (apart : c.concerns r = false)
    (same : (d.next c).holds r = d.holds r) : d.tallied c r n = n := by
  simp [tallied, apart, same]

theorem agree_next_of_apart {c : Call} (apart : c.concerns r = false) :
    Agree (identity r) (d.next c) d := by
  refine (effect_perform d c.op c.resource).agree fun same => ?_
  rw [Call.concerns_iff.mpr same.symm] at apart
  cases apart

namespace Tally

variable {n : Nat}

theorem next_delete (tally : Tally d r n) :
    Tally (d.next ⟨k, .delete, r⟩) r (d.tallied ⟨k, .delete, r⟩ r n) := by
  have own : Call.concerns ⟨k, .delete, r⟩ r = true := Call.concerns_iff.mpr rfl
  unfold tallied Dummy.next
  cases held : d.holds r with
  | false => simpa [perform_delete_of_absent held] using tally
  | true =>
    rcases Nat.lt_or_eq_of_le tally.le with more | last
    · have kept : (d.awaiting r (d.config.deletePolls - (n + 1))).holds r = true := by
        cases k <;> exact held
      simp only [tally.delete_unfinished held more, kept, own, Bool.not_true, Bool.and_false,
        Bool.and_self, decide_true, if_true, Bool.false_eq_true, if_false]
      refine ⟨more, fun gone => ?_, ?_⟩
      · rw [kept] at gone
        cases gone
      · simp [awaiting]
    · simp only [tally.delete_finished held last, holds_without_self, Bool.not_false,
        Bool.and_self, if_true]
      exact ⟨Nat.zero_le _, fun _ => rfl, by simp [without]⟩

theorem next_of_provisions (tally : Tally d r n) {op : Operation} (provisions : op ≠ .delete) :
    Tally (d.next ⟨k, op, r⟩) r (d.tallied ⟨k, op, r⟩ r n) := by
  have effect := effect_perform d op r
  obtain ⟨deletions, stays⟩ := effect.of_provisions provisions
  have uncounted : d.tallied ⟨k, op, r⟩ r n = n := by
    unfold tallied Dummy.next
    cases held : d.holds r with
    | false => simp
    | true => simp [stays held, provisions]
  rw [uncounted]
  refine ⟨?_, fun missing => tally.absent ?_, ?_⟩
  · exact effect.config_eq ▸ tally.le
  · cases held : d.holds r with
    | false => rfl
    | true => exact (stays held).symm.trans missing
  · rw [Dummy.next, deletions, effect.config_eq, tally.left]

theorem next (tally : Tally d r n) (c : Call) : Tally (d.next c) r (d.tallied c r n) := by
  cases about : c.concerns r with
  | false =>
    have agree := agree_next_of_apart (d := d) about
    rw [tallied_of_apart about agree.holds_eq]
    exact tally.of_agree agree
  | true =>
    have same := Call.concerns_iff.mp about
    obtain ⟨kind, op, r'⟩ := c
    obtain rfl : kind = k := (identity_eq_iff.mp same).1
    have counted : d.tallied ⟨kind, op, r'⟩ r n = d.tallied ⟨kind, op, r'⟩ r' n := by
      simp [tallied, holds_congr same, about, Call.concerns_iff.mpr]
    rw [counted]
    refine congr same ?_
    by_cases deletes : op = .delete
    · subst deletes
      exact (tally.congr same.symm).next_delete
    · exact (tally.congr same.symm).next_of_provisions deletes

end Tally

variable {config : Config} {history : List Call}

theorem tally_after (config : Config) (history : List Call) (r : Resource k) :
    Tally (after config history) r (polls config r history) := by
  induction history with
  | nil =>
    refine ⟨Nat.zero_le _, fun _ => rfl, ?_⟩
    rfl
  | cons c earlier ih => exact ih.next c

/-- Calls about anything else leave no trace. -/
theorem agree_after_filter (config : Config) (history : List Call) (r : Resource k) :
    Agree (identity r) (after config (history.filter (·.concerns r))) (after config history) ∧
      polls config r (history.filter (·.concerns r)) = polls config r history := by
  induction history with
  | nil => exact ⟨⟨rfl, rfl, rfl, rfl⟩, rfl⟩
  | cons c earlier ih =>
    obtain ⟨agree, same⟩ := ih
    cases about : c.concerns r with
    | false =>
      have apart := agree_next_of_apart (d := after config earlier) about
      rw [List.filter_cons_of_neg (by simp [about])]
      exact ⟨agree.trans apart.symm, same.trans (tallied_of_apart about apart.holds_eq).symm⟩
    | true =>
      have own := Call.concerns_iff.mp about
      have next : Agree (identity r) ((after config (earlier.filter (·.concerns r))).next c)
          ((after config earlier).next c) := own ▸ ((own.symm ▸ agree).perform c.op).2
      simp only [List.filter_cons, about, if_true]
      refine ⟨next, ?_⟩
      rw [polls, polls, tallied, tallied, agree.holds_eq, next.holds_eq, same]

theorem fits_after (config : Config) (history : List Call) {id : String} {size : Nat}
    (found : (after config history).volumeSize? id = some size) : Fits config size := by
  induction history generalizing id size with
  | nil => cases found
  | cons c earlier ih =>
    have fits := (effect_perform (after config earlier) c.op c.resource).fits
      (fun _ _ found => (config_after config earlier).symm ▸ ih found) found
    exact config_after config (c :: earlier) ▸ fits

/-- How deletions of a resource go after a history of calls. -/
structure Countdown (config : Config) (history : List Call) (r : Resource k) : Prop where
  absent : (after config history).holds r = false →
    (after config history).perform .delete r = (.ok (), after config history)
  polls_le : polls config r history ≤ config.deletePolls
  unfinished : (after config history).holds r = true →
    polls config r history < config.deletePolls →
    (after config history).perform .delete r = (.error .stillProcessing,
      (after config history).awaiting r (config.deletePolls - (polls config r history + 1)))
  finished : (after config history).holds r = true →
    polls config r history = config.deletePolls →
    (after config history).perform .delete r = (.ok (), (after config history).without r)
  removed : ((after config history).without r).holds r = false
  /-- All else that was called makes no difference. -/
  apart : polls config r (history.filter (·.concerns r)) = polls config r history ∧
    (after config (history.filter (·.concerns r))).holds r = (after config history).holds r ∧
    ∀ op, ((after config (history.filter (·.concerns r))).perform op r).1 =
      ((after config history).perform op r).1

theorem countdown (config : Config) (history : List Call) (r : Resource k) :
    Countdown config history r := by
  have tally := tally_after config history r
  have limit : (after config history).config.deletePolls = config.deletePolls :=
    congrArg Config.deletePolls (config_after config history)
  obtain ⟨agree, same⟩ := agree_after_filter config history r
  exact {
    absent := perform_delete_of_absent
    polls_le := limit ▸ tally.le
    unfinished := by
      intro held more
      rw [← limit] at more
      rw [tally.delete_unfinished held more, limit]
    finished := fun held last => tally.delete_finished held (last.trans limit.symm)
    removed := holds_without_self _ r
    apart := ⟨same, agree.holds_eq, fun op => (agree.perform op).1⟩ }

structure Orderly (config : Config) (history : List Call) : Prop where
  countdown : ∀ {k : Kind} (r : Resource k), Countdown config history r
  fits : ∀ {id size}, (after config history).volumeSize? id = some size →
    ∀ max, config.maxSizeGb = some max → size ≤ max
  /-- An increase neither makes nor removes a volume, and shrinks none. -/
  grown : ∀ {k : Kind} (r : Resource k) (id : String),
    Option.Rel (· ≤ ·) ((after config history).volumeSize? id)
      (((after config history).perform .increaseSize r).2.volumeSize? id)
  refused : ∀ {k : Kind} (op : Operation) (r : Resource k) (e : ProviderError),
    ((after config history).perform op r).1 = .error e → e ≠ .stillProcessing →
      ((after config history).perform op r).2 = after config history

/-- Deletions take as many calls as configured, volumes keep to the limit and never shrink, and
what is refused changes nothing. -/
theorem orderly (config : Config) (history : List Call) : Orderly config history where
  countdown r := countdown config history r
  fits found := fits_after config history found
  grown r id := (effect_perform (after config history) .increaseSize r).grown id
  refused op r e refused final := by
    have effect := effect_perform (after config history) op r
    rw [refused] at effect
    exact effect.eq_of_error final

def plainVolume : Volume :=
  { metadata := .ofName "a" "t"
    spec := ⟨10, .plain "skus/fast", none⟩
    status := none }

def plainWorkspace : Workspace :=
  { metadata := .ofName "a" "t"
    spec := ⟨∅⟩
    status := none }

/-- The latest first: the volume is about to go. -/
def plainHistory : List Call :=
  [⟨.workspace, .delete, plainWorkspace⟩, ⟨.volume, .delete, plainVolume⟩,
    ⟨.volume, .increaseSize, plainVolume⟩, ⟨.workspace, .create, plainWorkspace⟩,
    ⟨.volume, .delete, plainVolume⟩, ⟨.volume, .create, plainVolume⟩]

theorem orderly_plain :
    (after ⟨2, some 100⟩ plainHistory).perform .delete plainVolume =
        (.ok (), (after ⟨2, some 100⟩ plainHistory).without plainVolume) ∧
      (after ⟨2, some 100⟩ plainHistory).perform .delete plainWorkspace =
        (.error .stillProcessing, (after ⟨2, some 100⟩ plainHistory).awaiting plainWorkspace 0) :=
  ⟨((orderly ⟨2, some 100⟩ plainHistory).countdown plainVolume).finished (by rfl) (by rfl),
    ((orderly ⟨2, some 100⟩ plainHistory).countdown plainWorkspace).unfinished (by rfl) (by decide)⟩

end Reconciler.Dummy
