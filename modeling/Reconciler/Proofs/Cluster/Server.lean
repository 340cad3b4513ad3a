import Mathlib.Data.List.Nodup
import Reconciler.Proofs.Json.Patch
import Reconciler.Proofs.Object.Json

/-!
An API server as the history of what was written on it. Every write gives an object a new version,
as the store expects of its server: `Carries` has no case for a write that changes nothing and is
answered with the version that was there. So an object of a known version is known to be the one
that was seen, whoever was at work meanwhile. An object that terminates is gone once no finalizer
is left.
-/

set_option autoImplicit false

namespace Reconciler

/-- Who asks a server: the calls of the engine, one by one, and everybody else. -/
inductive Client where
  | engine (call : Nat)
  | other (name : Nat)
  deriving DecidableEq, Repr

namespace ObjectMeta

def key (m : ObjectMeta) : ObjectKey := ⟨m.namespaceName, m.anyName⟩

/-- Two clients could have said the same of an object; what the server manages may differ. -/
structure Agrees (m m' : ObjectMeta) : Prop where
  labels : m.labelMap = m'.labelMap
  annotations : m.annotations.getD ∅ = m'.annotations.getD ∅
  finalizers : m.finalizers.getD [] = m'.finalizers.getD []
  owners : m.ownerReferences.getD [] = m'.ownerReferences.getD []

end ObjectMeta

/-- The path at which the object of a key is kept. -/
def ObjectKey.path? (k : Kind) (key : ObjectKey) : Option String :=
  key.namespaceName.bind fun ns =>
    (Address.ofText? (Cluster.itemTarget k ns key)).map fun address => address.path

structure ApiObject where
  metadata : ObjectMeta
  spec : Json
  status : Option Json
  deriving DecidableEq

namespace ApiObject

def version (x : ApiObject) : Option String := x.metadata.resourceVersion

def finalizers (x : ApiObject) : List String := x.metadata.finalizers.getD []

def Terminating (x : ApiObject) : Prop := x.metadata.deletionTimestamp.isSome = true

instance (x : ApiObject) : Decidable x.Terminating := inferInstanceAs (Decidable (_ = true))

/-- What is left of an object that was written: nothing, if it terminates and no finalizer
holds it. -/
def settled (x : ApiObject) : Option ApiObject :=
  if x.Terminating ∧ x.finalizers = [] then none else some x

/-- A later state of the same object. -/
structure Continues (x b : ApiObject) : Prop where
  key : x.metadata.key = b.metadata.key
  uid : x.metadata.uid = b.metadata.uid
  termination : b.Terminating → x.Terminating

/-- A write that names a version is for the object of that version. -/
def Admits (b : ApiObject) (version : Option String) : Prop :=
  ∀ v, version = some v → b.version = some v

theorem eq_of_settled {x y : ApiObject} (left : x.settled = some y) : y = x := by
  unfold settled at left
  split at left
  · cases left
  · exact (Option.some.inj left).symm

theorem settled_of_alive {x : ApiObject} (alive : ¬x.Terminating) : x.settled = some x :=
  if_neg fun gone => alive gone.1

theorem settled_of_held {x : ApiObject} {f : String} (held : f ∈ x.finalizers) :
    x.settled = some x := by
  unfold settled
  rw [if_neg]
  rintro ⟨-, free⟩
  rw [free] at held
  cases held

theorem finalizers_of_agrees {x : ApiObject} {m : ObjectMeta} (said : x.metadata.Agrees m) :
    x.finalizers = m.finalizers.getD [] := said.finalizers

end ApiObject

inductive ApiEdit where
  | create (m : ObjectMeta) (spec : Json)
  /-- Everything but the status. -/
  | replace (m : ObjectMeta) (spec : Json)
  /-- The status alone. -/
  | restate (version : Option String) (change : Option Json → Option Json)
  | delete (version : Option String)

/-- What an edit makes of what is kept at a path, before the server looks whether it is to be
kept on. -/
inductive ApiEdit.Writes (k : Kind) (path : String) :
    ApiEdit → Option ApiObject → ApiObject → Prop
  | created {m : ObjectMeta} {x : ApiObject} (placed : x.metadata.key.path? k = some path)
      (named : ∀ n, m.name = some n → x.metadata.name = some n)
      (housed : ∀ ns, m.namespaceName = some ns → x.metadata.namespaceName = some ns)
      (said : x.metadata.Agrees m) (alive : ¬x.Terminating) (status : x.status = none) :
      Writes k path (.create m x.spec) none x
  | replaced {m : ObjectMeta} {b x : ApiObject} (admitted : b.Admits m.resourceVersion)
      (continues : x.Continues b) (spared : x.Terminating → b.Terminating)
      (said : x.metadata.Agrees m) (status : x.status = b.status) :
      Writes k path (.replace m x.spec) (some b) x
  | restated {version : Option String} {change : Option Json → Option Json} {b x : ApiObject}
      (admitted : b.Admits version) (continues : x.Continues b)
      (spared : x.Terminating → b.Terminating) (said : x.metadata.Agrees b.metadata)
      (spec : x.spec = b.spec) (status : x.status = change b.status)
      (tidy : ∀ j, x.status = some j → j.Tidy) :
      Writes k path (.restate version change) (some b) x
  | marked {version : Option String} {b x : ApiObject} (admitted : b.Admits version)
      (continues : x.Continues b) (alive : ¬b.Terminating) (marked : x.Terminating)
      (said : x.metadata.Agrees b.metadata) (spec : x.spec = b.spec)
      (status : x.status = b.status) :
      Writes k path (.delete version) (some b) x

namespace ApiEdit.Writes

variable {k : Kind} {path : String} {version : Option String} {m : ObjectMeta} {spec : Json}
  {change : Option Json → Option Json} {before : Option ApiObject} {x : ApiObject}

theorem of_create (writes : (create m spec).Writes k path before x) :
    before = none ∧ x.metadata.Agrees m ∧ x.spec = spec ∧ x.status = none := by
  cases writes with
  | created placed named housed said alive status => exact ⟨rfl, said, rfl, status⟩

theorem of_replace (writes : (replace m spec).Writes k path before x) :
    ∃ b, before = some b ∧ b.Admits m.resourceVersion ∧ x.Continues b ∧
      (x.Terminating → b.Terminating) ∧ x.metadata.Agrees m ∧ x.spec = spec ∧
        x.status = b.status := by
  cases writes with
  | replaced admitted continues spared said status =>
    exact ⟨_, rfl, admitted, continues, spared, said, rfl, status⟩

theorem of_restate (writes : (restate version change).Writes k path before x) :
    ∃ b, before = some b ∧ b.Admits version ∧ x.Continues b ∧ (x.Terminating → b.Terminating) ∧
      x.metadata.Agrees b.metadata ∧ x.spec = b.spec ∧ x.status = change b.status := by
  cases writes with
  | restated admitted continues spared said spec status tidy =>
    exact ⟨_, rfl, admitted, continues, spared, said, spec, status⟩

theorem of_delete (writes : (delete version).Writes k path before x) :
    ∃ b, before = some b ∧ b.Admits version ∧ ¬b.Terminating ∧ x.Terminating ∧
      x.metadata.Agrees b.metadata := by
  cases writes with
  | marked admitted continues alive marked said => exact ⟨_, rfl, admitted, alive, marked, said⟩

end ApiEdit.Writes

/-- One entry of the history: what was kept at a path, and what was written over it. -/
structure ApiChange where
  author : Client
  path : String
  before : Option ApiObject
  written : ApiObject

namespace ApiChange

def version (c : ApiChange) : Option String := c.written.version

def after (c : ApiChange) : Option ApiObject := c.written.settled

/-- The change removes an object or marks it terminating. -/
def Ends (c : ApiChange) : Prop :=
  c.after = none ∨ c.written.Terminating ∧ ∀ b, c.before = some b → ¬b.Terminating

end ApiChange

/-- The changes so far, the last one first. -/
structure ApiServer where
  history : List ApiChange

namespace ApiServer

variable {k : Kind} {s s' s'' : ApiServer} {who : Client} {path path' : String}
  {edit : ApiEdit} {x x' b : ApiObject} {c d : ApiChange}

def record (s : ApiServer) (c : ApiChange) : ApiServer := ⟨c :: s.history⟩

def changes (s : ApiServer) (path : String) : List ApiChange :=
  s.history.filter fun c => c.path = path

def kept (s : ApiServer) (path : String) : Option ApiObject :=
  (s.changes path).head?.bind ApiChange.after

def given (s : ApiServer) : List (Option String) := s.history.map ApiChange.version

/-- Since a version was written at a path, nobody but one client wrote there. -/
def OnlySince (who : Client) (path version : String) (s : ApiServer) : Prop :=
  ∃ newer c older, s.changes path = newer ++ c :: older ∧ c.version = some version ∧
    ∀ d ∈ newer, d.author = who

/-- The server carries out an edit by a client: it writes an object, under a version that it
never gave out before. -/
inductive Carries (k : Kind) (who : Client) (path : String) (edit : ApiEdit) (x : ApiObject) :
    ApiServer → ApiServer → Prop
  | written {s : ApiServer} (versioned : x.version ≠ none) (fresh : x.version ∉ s.given)
      (writes : edit.Writes k path (s.kept path) x) :
      Carries k who path edit x s (s.record ⟨who, path, s.kept path, x⟩)

inductive Sound (k : Kind) : ApiServer → Prop
  | empty : Sound k ⟨[]⟩
  | carried {s s' : ApiServer} {who : Client} {path : String} {edit : ApiEdit} {x : ApiObject}
      (sound : Sound k s) (carries : Carries k who path edit x s s') : Sound k s'

@[simp] theorem changes_record :
    (s.record c).changes path = if c.path = path then c :: s.changes path else s.changes path := by
  by_cases here : c.path = path <;> simp [record, changes, here]

@[simp] theorem kept_record_self (author : Client) (before : Option ApiObject) :
    (s.record ⟨author, path, before, x⟩).kept path = x.settled := by
  simp [kept, ApiChange.after]

namespace Carries

theorem of_kept {before : Option ApiObject} (kept : s.kept path = before) (versioned : x.version ≠ none)
    (fresh : x.version ∉ s.given) (writes : edit.Writes k path before x) :
    Carries k who path edit x s (s.record ⟨who, path, before, x⟩) := by
  subst kept
  exact .written versioned fresh writes

theorem eq_record (carries : Carries k who path edit x s s') :
    s' = s.record ⟨who, path, s.kept path, x⟩ := by
  cases carries
  rfl

theorem suffix (carries : Carries k who path edit x s s') : s.history <:+ s'.history := by
  rw [carries.eq_record]
  exact List.suffix_cons _ _

theorem kept (carries : Carries k who path edit x s s') : s'.kept path = x.settled := by
  rw [carries.eq_record]
  exact kept_record_self _ _

theorem writes (carries : Carries k who path edit x s s') :
    edit.Writes k path (s.kept path) x := by
  cases carries with
  | written versioned fresh writes => exact writes

theorem versioned (carries : Carries k who path edit x s s') : x.version ≠ none := by
  cases carries with
  | written versioned fresh writes => exact versioned

theorem fresh (carries : Carries k who path edit x s s') : x.version ∉ s.given := by
  cases carries with
  | written versioned fresh writes => exact fresh

end Carries

theorem exists_change_of_kept (kept : s.kept path = some x) :
    ∃ c older, s.changes path = c :: older ∧ c.written = x ∧ c.after = some x := by
  unfold ApiServer.kept at kept
  cases changes : s.changes path with
  | nil =>
    rw [changes] at kept
    cases kept
  | cons c older =>
    rw [changes] at kept
    have after : c.after = some x := kept
    exact ⟨c, older, rfl, (ApiObject.eq_of_settled after).symm, after⟩

theorem mem_history_of_first {older : List ApiChange} (first : s.changes path = c :: older) :
    c ∈ s.history ∧ c.path = path := by
  have listed : c ∈ s.changes path := by
    rw [first]
    exact List.mem_cons_self
  have := List.mem_filter.mp listed
  exact ⟨this.1, of_decide_eq_true this.2⟩

theorem changes_suffix (later : s.history <:+ s'.history) :
    s.changes path <:+ s'.changes path :=
  later.filter _

theorem settled_of_kept (kept : s.kept path = some x) : x.settled = some x := by
  obtain ⟨c, older, -, rfl, after⟩ := exists_change_of_kept kept
  exact after

/-- A terminating object is kept for its finalizers alone. -/
theorem finalizers_of_kept (kept : s.kept path = some x) (terminating : x.Terminating) :
    x.finalizers ≠ [] := by
  intro free
  have settled := settled_of_kept kept
  rw [ApiObject.settled, if_pos ⟨terminating, free⟩] at settled
  cases settled

namespace Sound

/-- What every edit preserves holds of everything that was written. -/
theorem written {P : String → ApiObject → Prop} (sound : s.Sound k)
    (preserved : ∀ {path edit before x}, ApiEdit.Writes k path edit before x →
      (∀ b, before = some b → P path b) → P path x)
    (listed : c ∈ s.history) : P c.path c.written := by
  induction sound generalizing c with
  | empty => cases listed
  | carried sound carries ih =>
    rw [carries.eq_record] at listed
    rcases List.mem_cons.mp listed with rfl | listed
    · refine preserved carries.writes fun b kept => ?_
      obtain ⟨c, older, first, rfl, -⟩ := exists_change_of_kept kept
      obtain ⟨seen, rfl⟩ := mem_history_of_first first
      exact ih seen
    · exact ih listed

theorem placed (sound : s.Sound k) (listed : c ∈ s.history) :
    c.written.metadata.key.path? k = some c.path := by
  refine sound.written (P := fun path x => x.metadata.key.path? k = some path) ?_ listed
  intro path edit before x writes known
  cases writes with
  | created placed => exact placed
  | replaced _ continues => rw [continues.key]; exact known _ rfl
  | restated _ continues => rw [continues.key]; exact known _ rfl
  | marked _ continues => rw [continues.key]; exact known _ rfl

theorem tidy (sound : s.Sound k) (listed : c ∈ s.history) :
    ∀ j, c.written.status = some j → j.Tidy := by
  refine sound.written (P := fun _ x => ∀ j, x.status = some j → j.Tidy) ?_ listed
  intro path edit before x writes known
  cases writes with
  | created _ _ _ _ _ status => rw [status]; exact fun j there => nomatch there
  | replaced _ _ _ _ status => rw [status]; exact known _ rfl
  | restated _ _ _ _ _ _ tidy => exact tidy
  | marked _ _ _ _ _ _ status => rw [status]; exact known _ rfl

theorem versioned (sound : s.Sound k) (listed : c ∈ s.history) : c.version ≠ none := by
  induction sound with
  | empty => cases listed
  | carried sound carries ih =>
    rw [carries.eq_record] at listed
    rcases List.mem_cons.mp listed with rfl | listed
    · exact carries.versioned
    · exact ih listed

theorem distinct (sound : s.Sound k) : s.given.Nodup := by
  induction sound with
  | empty => exact List.nodup_nil
  | carried sound carries ih =>
    rw [carries.eq_record]
    exact List.nodup_cons.mpr ⟨carries.fresh, ih⟩

theorem eq_of_version (sound : s.Sound k) (listed : c ∈ s.history) (listed' : d ∈ s.history)
    (same : c.version = d.version) : c = d :=
  List.inj_on_of_nodup_map sound.distinct listed listed' same

theorem kept_tidy (sound : s.Sound k) (kept : s.kept path = some x) :
    ∀ j, x.status = some j → j.Tidy := by
  obtain ⟨c, older, first, rfl, -⟩ := exists_change_of_kept kept
  exact sound.tidy (mem_history_of_first first).1

theorem kept_versioned (sound : s.Sound k) (kept : s.kept path = some x) :
    ∃ v, x.version = some v := by
  obtain ⟨c, older, first, rfl, -⟩ := exists_change_of_kept kept
  exact Option.ne_none_iff_exists'.mp (sound.versioned (mem_history_of_first first).1)

/-- Where the last change was there before, nothing happened in between. -/
theorem changes_eq_of_mem (sound : s'.Sound k) (later : s.history <:+ s'.history)
    {older : List ApiChange} (last : s'.changes path = c :: older)
    (known : c ∈ s.changes path) : s'.changes path = s.changes path := by
  obtain ⟨newer, split⟩ : s.changes path <:+ s'.changes path := changes_suffix later
  cases newer with
  | nil => exact split.symm
  | cons e newer =>
    -- the change would stand in the history twice
    have once : ((s'.changes path).map ApiChange.version).Nodup :=
      sound.distinct.sublist (List.filter_sublist.map _)
    obtain ⟨rfl, rest⟩ := List.cons.inj (split.trans last)
    rw [last, List.map_cons, List.nodup_cons, ← rest] at once
    exact absurd (List.mem_map_of_mem (List.mem_append_right newer known)) once.1

theorem changes_eq (sound : s'.Sound k) (later : s.history <:+ s'.history)
    {older older' : List ApiChange} (first : s.changes path = c :: older)
    (last : s'.changes path' = d :: older') (same : d.version = c.version) :
    path' = path ∧ s'.changes path' = s.changes path := by
  obtain ⟨seen, rfl⟩ := mem_history_of_first first
  obtain ⟨seen', rfl⟩ := mem_history_of_first last
  obtain rfl := sound.eq_of_version seen' (later.subset seen) same
  exact ⟨rfl, sound.changes_eq_of_mem later last (by simp [first])⟩

/-- An object of a version that was seen is the object that was seen. -/
theorem kept_eq (sound : s'.Sound k) (later : s.history <:+ s'.history)
    (kept : s.kept path = some x) (kept' : s'.kept path' = some x')
    (same : x'.version = x.version) :
    path' = path ∧ x' = x ∧ s'.changes path = s.changes path := by
  obtain ⟨c, older, first, rfl, after⟩ := exists_change_of_kept kept
  obtain ⟨d, older', last, rfl, after'⟩ := exists_change_of_kept kept'
  obtain ⟨rfl, unchanged⟩ := sound.changes_eq later first last same
  rw [first, last] at unchanged
  obtain ⟨rfl, -⟩ := List.cons.inj unchanged
  exact ⟨rfl, rfl, last.trans (unchanged.trans first.symm)⟩

end Sound

end ApiServer

end Reconciler
