import Reconciler.Proofs.Decimal
import Reconciler.Proofs.Store.Request

/-!
What a request does to a store that is `Sound`: objects lie under the keys they belong
under, and each has a version of its own that the store has given. `served` sorts every
request by what it did, so that later proofs need not look at the calls again.
-/

set_option autoImplicit false

namespace Reconciler

namespace Object

variable {k : Kind}

def Named (o : Object k) : Prop := o.metadata.name.getD "" ≠ ""

@[simp] theorem version_setVersion (o : Object k) (v : Option String) :
    (o.setVersion v).version = v := rfl

@[simp] theorem named_setVersion (o : Object k) (v : Option String) :
    (o.setVersion v).Named ↔ o.Named := Iff.rfl

end Object

namespace ObjectKey

variable {k : Kind}

@[simp] theorem ofObject_setVersion (o : Object k) (v : Option String) :
    ofObject (o.setVersion v) = ofObject o := rfl

end ObjectKey

namespace MemoryStore

variable {k : Kind}

structure Sound (s : MemoryStore k) : Prop where
  keyed : ∀ {key o}, s.objects.get? key = some o → ObjectKey.ofObject o = key
  named : ∀ {key o}, s.objects.get? key = some o → o.Named
  versioned : ∀ {key o}, s.objects.get? key = some o →
    ∃ n, o.version = some (natText n) ∧ 0 < n ∧ n ≤ s.lastVersion
  distinct : ∀ {key key' o o'}, s.objects.get? key = some o → s.objects.get? key' = some o' →
    o.version = o'.version → key = key'

theorem sound_empty : (empty : MemoryStore k).Sound := by
  constructor <;> intros <;> simp_all [empty]

theorem get_eq_ok {s : MemoryStore k} {key : ObjectKey} {o : Object k} :
    s.get key = .ok o ↔ s.objects.get? key = some o := by
  unfold get
  cases s.objects.get? key <;> simp

theorem get_of_none {s : MemoryStore k} {key : ObjectKey} (gone : s.objects.get? key = none) :
    s.get key = .error (.missing k key) := by
  simp [get, gone]

theorem writeKey_eq_ok {o : Object k} {key : ObjectKey} :
    writeKey o = .ok key ↔ o.Named ∧ key = ObjectKey.ofObject o := by
  unfold writeKey Object.Named
  by_cases unnamed : o.metadata.name.getD "" = ""
  · simp [unnamed]
  · simp only [unnamed, if_false, Except.ok.injEq, ne_eq, not_false_eq_true, true_and]
    exact eq_comm

@[simp] theorem lastVersion_write (s : MemoryStore k) (key : ObjectKey) (o : Object k) :
    (s.write key o).2.lastVersion = s.lastVersion + 1 := rfl

@[simp] theorem get?_write_self (s : MemoryStore k) (key : ObjectKey) (o : Object k) :
    (s.write key o).2.objects.get? key = some (s.write key o).1 :=
  SortedMap.get?_insert_self _ _ _

theorem get?_write_of_ne (s : MemoryStore k) {key key' : ObjectKey} (o : Object k)
    (apart : key' ≠ key) : (s.write key o).2.objects.get? key' = s.objects.get? key' :=
  SortedMap.get?_insert_of_ne _ _ apart

theorem write_fst (s : MemoryStore k) (key : ObjectKey) (o : Object k) :
    (s.write key o).1 = o.setVersion (some (natText (s.lastVersion + 1))) := rfl

def created (now : Instant) (o : Object k) : Object k :=
  { o with metadata :=
    { o.metadata with creationTimestamp := some now, deletionTimestamp := none } }

def replaced (current o : Object k) : Object k :=
  { o with metadata :=
    { o.metadata with
      creationTimestamp := current.metadata.creationTimestamp
      deletionTimestamp := current.metadata.deletionTimestamp } }

def marked (now : Instant) (o : Object k) : Object k :=
  { o with metadata := { o.metadata with deletionTimestamp := some now } }

@[simp] theorem ofObject_created (now : Instant) (o : Object k) :
    ObjectKey.ofObject (created now o) = ObjectKey.ofObject o := rfl

@[simp] theorem named_created {now : Instant} {o : Object k} : (created now o).Named ↔ o.Named :=
  Iff.rfl

@[simp] theorem ofObject_replaced (current o : Object k) :
    ObjectKey.ofObject (replaced current o) = ObjectKey.ofObject o := rfl

@[simp] theorem named_replaced {current o : Object k} : (replaced current o).Named ↔ o.Named :=
  Iff.rfl

@[simp] theorem ofObject_withConditions (o : Object k) (conditions : List (Condition String)) :
    ObjectKey.ofObject (withConditions o conditions) = ObjectKey.ofObject o := rfl

@[simp] theorem named_withConditions {o : Object k} {conditions : List (Condition String)} :
    (withConditions o conditions).Named ↔ o.Named := Iff.rfl

@[simp] theorem ofObject_marked (now : Instant) (o : Object k) :
    ObjectKey.ofObject (marked now o) = ObjectKey.ofObject o := rfl

@[simp] theorem named_marked {now : Instant} {o : Object k} : (marked now o).Named ↔ o.Named :=
  Iff.rfl

theorem create_eq_ok {s : MemoryStore k} {now : Instant} {o : Object k}
    {r : Object k × MemoryStore k} : s.create now o = .ok r ↔
      o.Named ∧ s.objects.get? (.ofObject o) = none ∧ r = s.write (.ofObject o) (created now o) := by
  unfold create created
  by_cases name : o.Named
  · have key : writeKey o = .ok (.ofObject o) := writeKey_eq_ok.mpr ⟨name, rfl⟩
    cases found : s.objects.get? (.ofObject o) <;>
      simp [key, name, found, contains, SortedMap.contains, bind, Except.bind, eq_comm]
  · have unnamed : o.metadata.name.getD "" = "" := Decidable.of_not_not name
    simp [writeKey, unnamed, name, bind, Except.bind]

theorem replace_eq_ok {s : MemoryStore k} {o : Object k} {r : Object k × MemoryStore k} :
    s.replace o = .ok r ↔ o.Named ∧ ∃ current, s.objects.get? (.ofObject o) = some current ∧
      o.version.isSome ∧ o.version = current.version ∧
      r = s.write (.ofObject o) (replaced current o) := by
  unfold replace replaced
  by_cases name : o.Named
  · have key : writeKey o = .ok (.ofObject o) := writeKey_eq_ok.mpr ⟨name, rfl⟩
    cases found : s.objects.get? (.ofObject o) with
    | none => simp [key, get_of_none found, bind, Except.bind]
    | some current =>
      cases base : o.version with
      | none => simp [key, get_eq_ok.mpr found, bind, Except.bind]
      | some v =>
        by_cases fresh : some v = current.version
        · simp only [key, get_eq_ok.mpr found, ← fresh, name, bind, Except.bind, ne_eq,
            not_true_eq_false, if_false, Except.ok.injEq, Option.some.injEq, exists_eq_left',
            Option.isSome_some, true_and]
          exact eq_comm
        · simp [key, get_eq_ok.mpr found, fresh, bind, Except.bind]
  · have unnamed : o.metadata.name.getD "" = "" := Decidable.of_not_not name
    simp [writeKey, unnamed, name, bind, Except.bind]

theorem delete_eq_ok {s t : MemoryStore k} {key : ObjectKey} {version : Option String} :
    s.delete key version = .ok t ↔ ∃ current, s.objects.get? key = some current ∧
      (∀ v, version = some v → current.version = some v) ∧
      t = { s with objects := s.objects.erase key } := by
  unfold delete
  cases found : s.objects.get? key with
  | none => simp [get_of_none found, bind, Except.bind]
  | some current =>
    cases version with
    | none => simp [get_eq_ok.mpr found, bind, Except.bind, eq_comm]
    | some v =>
      by_cases fresh : some v = current.version
      · simp [get_eq_ok.mpr found, ← fresh, bind, Except.bind, eq_comm]
      · have stale : ¬ current.version = some v := fun same => fresh same.symm
        simp [get_eq_ok.mpr found, fresh, stale, bind, Except.bind]

theorem record_eq_ok {s t : MemoryStore k} {key : ObjectKey} {c : Condition String} {b : Bool} :
    s.record key c = .ok (b, t) ↔ ∃ current, s.objects.get? key = some current ∧
      ((current.conditionsWith? c = none ∧ b = false ∧ t = s) ∨
        ∃ conditions, current.conditionsWith? c = some conditions ∧ b = true ∧
          t = (s.write key (withConditions current conditions)).2) := by
  unfold record
  cases found : s.objects.get? key with
  | none => simp [get_of_none found, bind, Except.bind]
  | some current =>
    cases history : current.conditionsWith? c <;>
      simp [get_eq_ok.mpr found, history, bind, Except.bind, eq_comm]

theorem requestDeletion_eq_ok {s t : MemoryStore k} {now : Instant} {key : ObjectKey} :
    s.requestDeletion now key = .ok t ↔ ∃ current, s.objects.get? key = some current ∧
      t = if current.metadata.deletionTimestamp.isSome then s
        else (s.write key (marked now current)).2 := by
  unfold requestDeletion marked
  cases found : s.objects.get? key with
  | none => simp [get_of_none found, bind, Except.bind]
  | some current =>
    cases mark : current.metadata.deletionTimestamp with
    | none =>
      simp only [get_eq_ok.mpr found, mark, bind, Except.bind, Except.ok.injEq,
        Option.some.injEq, exists_eq_left', Option.isSome_none, Bool.false_eq_true, if_false]
      exact eq_comm
    | some _ =>
      simp only [get_eq_ok.mpr found, mark, bind, Except.bind, Except.ok.injEq,
        Option.some.injEq, exists_eq_left', Option.isSome_some, if_true]
      exact eq_comm

theorem performUnder_of_live {ctx : Context} {clock : Moment} (now : Instant)
    (s : MemoryStore k) (c : StoreCall k) (live : ctx.check clock = .ok ()) :
    s.performUnder ctx clock now c = s.perform now c := by
  simp [performUnder, live]

theorem performUnder_of_ended {ctx : Context} {clock : Moment} {i : Interruption} (now : Instant)
    (s : MemoryStore k) (c : StoreCall k) (ended : ctx.check clock = .error i) :
    s.performUnder ctx clock now c = (.error i.toError, s) := by
  simp [performUnder, ended]

theorem performUnder_eq_ok {ctx : Context} {clock : Moment} {now : Instant} {s : MemoryStore k}
    {c : StoreCall k} {a : c.Reply} : (s.performUnder ctx clock now c).1 = .ok a ↔
      ctx.check clock = .ok () ∧ (s.perform now c).1 = .ok a := by
  cases alive : ctx.check clock with
  | error i => simp [performUnder_of_ended now s c alive]
  | ok _ => simp [performUnder_of_live now s c alive]

theorem performUnder_error {ctx : Context} {clock : Moment} {now : Instant} {s : MemoryStore k}
    {c : StoreCall k} {e : Error} (failed : (s.performUnder ctx clock now c).1 = .error e) :
    (s.performUnder ctx clock now c).2 = s := by
  cases alive : ctx.check clock with
  | error i => rw [performUnder_of_ended now s c alive]
  | ok _ =>
    rw [performUnder_of_live now s c alive] at failed ⊢
    cases c with
    | get key => rfl
    | list query => rfl
    | create o => cases result : s.create now o <;> simp [perform, result] at failed ⊢
    | replace o => cases result : s.replace o <;> simp [perform, result] at failed ⊢
    | delete key version =>
      cases result : s.delete key version <;> simp [perform, result] at failed ⊢
    | record key condition =>
      cases result : s.record key condition <;> simp [perform, result] at failed ⊢

/-- What a request did to the store, as its answer tells. -/
inductive Served (s : MemoryStore k) (q : Request k) : Prop where
  | quiet (unwritten : s.wrote? q (s.serve q).1 = none)
      (unremoved : removed? q (s.serve q).1 = none) (same : s.after q = s)
  | wrote {key : ObjectKey} {o : Object k} (wrote : s.wrote? q (s.serve q).1 = some key)
      (unremoved : removed? q (s.serve q).1 = none) (home : ObjectKey.ofObject o = key)
      (named : o.Named) (stored : s.after q = (s.write key o).2)
  | removed {key : ObjectKey} {o : Object k} (unwritten : s.wrote? q (s.serve q).1 = none)
      (removed : removed? q (s.serve q).1 = some key) (found : s.objects.get? key = some o)
      (left : s.after q = { s with objects := s.objects.erase key })

theorem wrote?_error (s : MemoryStore k) (q : Request k) (e : Error) :
    s.wrote? q (.error e) = none := by
  cases q with
  | call _ _ _ c => cases c <;> rfl
  | mark _ _ => rfl

theorem removed?_error (q : Request k) (e : Error) : removed? q (.error e) = none := by
  cases q with
  | call _ _ _ c => cases c <;> rfl
  | mark _ _ => rfl

theorem Served.of_error {s : MemoryStore k} {q : Request k} {e : Error}
    (answered : s.serve q = (.error e, s)) : Served s q :=
  .quiet (by rw [answered, wrote?_error]) (by rw [answered, removed?_error])
    (by rw [after, answered])

theorem served_call {s : MemoryStore k} (sound : s.Sound) {ctx : Context} {clock : Moment}
    (now : Instant) (c : StoreCall k) (live : ctx.check clock = .ok ()) :
    Served s (.call ctx clock now c) := by
  have performed : s.serve (.call ctx clock now c) = s.perform now c :=
    performUnder_of_live now s c live
  cases c with
  | get key => exact .quiet rfl rfl (by rw [after, performed]; rfl)
  | list query => exact .quiet rfl rfl (by rw [after, performed]; rfl)
  | create o =>
    cases result : s.create now o with
    | error e => exact .of_error (e := e) (by simp [performed, perform, result])
    | ok r =>
      obtain ⟨name, -, rfl⟩ := create_eq_ok.mp result
      have answered : s.serve (.call ctx clock now (.create o)) =
          (.ok (s.write (.ofObject o) (created now o)).1,
            (s.write (.ofObject o) (created now o)).2) := by
        simp [performed, perform, result]
      exact .wrote (by rw [answered]; rfl) (by rw [answered]; rfl) (ofObject_created now o)
        (named_created.mpr name) (by rw [after, answered])
  | replace o =>
    cases result : s.replace o with
    | error e => exact .of_error (e := e) (by simp [performed, perform, result])
    | ok r =>
      obtain ⟨name, current, -, -, -, rfl⟩ := replace_eq_ok.mp result
      have answered : s.serve (.call ctx clock now (.replace o)) =
          (.ok (s.write (.ofObject o) (replaced current o)).1,
            (s.write (.ofObject o) (replaced current o)).2) := by
        simp [performed, perform, result]
      exact .wrote (by rw [answered]; rfl) (by rw [answered]; rfl) (ofObject_replaced current o)
        (named_replaced.mpr name) (by rw [after, answered])
  | delete key version =>
    cases result : s.delete key version with
    | error e => exact .of_error (e := e) (by simp [performed, perform, result])
    | ok t =>
      obtain ⟨current, found, -, rfl⟩ := delete_eq_ok.mp result
      have answered : s.serve (.call ctx clock now (.delete key version)) =
          (.ok (), { s with objects := s.objects.erase key }) := by
        simp [performed, perform, result]
      exact .removed (by rw [answered]; rfl) (by rw [answered]; rfl) found
        (by rw [after, answered])
  | record key condition =>
    cases result : s.record key condition with
    | error e => exact .of_error (e := e) (by simp [performed, perform, result])
    | ok r =>
      obtain ⟨current, found, ⟨-, flag, same⟩ | ⟨conditions, -, flag, written⟩⟩ :=
        record_eq_ok.mp result
      · have answered : s.serve (.call ctx clock now (.record key condition)) = (.ok false, s) := by
          simp [performed, perform, result, flag, same]
        exact .quiet (by rw [answered]; rfl) (by rw [answered]; rfl) (by rw [after, answered])
      · have answered : s.serve (.call ctx clock now (.record key condition)) =
            (.ok true, (s.write key (withConditions current conditions)).2) := by
          simp [performed, perform, result, flag, written]
        exact .wrote (by rw [answered]; rfl) (by rw [answered]; rfl)
          ((ofObject_withConditions current conditions).trans (sound.keyed found))
          (named_withConditions.mpr (sound.named found)) (by rw [after, answered])

theorem served_mark {s : MemoryStore k} (sound : s.Sound) (now : Instant) (key : ObjectKey) :
    Served s (.mark now key) := by
  cases result : s.requestDeletion now key with
  | error e => exact .of_error (e := e) (by simp [serve, result])
  | ok t =>
    obtain ⟨current, found, stored⟩ := requestDeletion_eq_ok.mp result
    have answered : s.serve (.mark now key) = (.ok (), t) := by simp [serve, result]
    cases mark : current.metadata.deletionTimestamp with
    | none =>
      obtain rfl : t = (s.write key (marked now current)).2 := by simpa [mark] using stored
      refine .wrote ?_ (by rw [answered]; rfl)
        ((ofObject_marked now current).trans (sound.keyed found))
        (named_marked.mpr (sound.named found)) (by rw [after, answered])
      rw [answered]
      simp [wrote?, lacksMark, found, mark]
    | some _ =>
      obtain rfl : t = s := by simpa [mark] using stored
      refine .quiet ?_ (by rw [answered]; rfl) (by rw [after, answered])
      rw [answered]
      simp [wrote?, lacksMark, found, mark]

theorem served {s : MemoryStore k} (sound : s.Sound) (q : Request k) : Served s q := by
  cases q with
  | call ctx clock now c =>
    cases alive : ctx.check clock with
    | ok _ => exact served_call sound now c alive
    | error i => exact .of_error (performUnder_of_ended now s c alive)
  | mark now key => exact served_mark sound now key

section Calls

variable (s : MemoryStore k) (ctx : Context) (clock : Moment) (now : Instant)

theorem after_call (c : StoreCall k) : s.after (.call ctx clock now c) = s ∨
      s.after (.call ctx clock now c) = (s.perform now c).2 := by
  cases alive : ctx.check clock with
  | error i => exact .inl (congrArg Prod.snd (performUnder_of_ended now s c alive))
  | ok _ => exact .inr (congrArg Prod.snd (performUnder_of_live now s c alive))

theorem after_create (o : Object k) : s.after (.call ctx clock now (.create o)) = s ∨
    s.objects.get? (.ofObject o) = none ∧ s.after (.call ctx clock now (.create o)) =
      (s.write (.ofObject o) (created now o)).2 := by
  rcases after_call s ctx clock now (.create o) with same | performed
  · exact .inl same
  · rw [performed]
    cases result : s.create now o with
    | error e => exact .inl (by simp only [perform, result])
    | ok r =>
      obtain ⟨-, absent, rfl⟩ := create_eq_ok.mp result
      exact .inr ⟨absent, by simp only [perform, result]⟩

theorem after_replace (o : Object k) : s.after (.call ctx clock now (.replace o)) = s ∨
    ∃ written, s.replace o = .ok written ∧
      s.after (.call ctx clock now (.replace o)) = written.2 := by
  rcases after_call s ctx clock now (.replace o) with same | performed
  · exact .inl same
  · rw [performed]
    cases result : s.replace o with
    | error e => exact .inl (by simp only [perform, result])
    | ok r => exact .inr ⟨r, rfl, by simp only [perform, result]⟩

theorem after_delete (key : ObjectKey) (version : Option String) :
    s.after (.call ctx clock now (.delete key version)) = s ∨
      ∃ t, s.delete key version = .ok t ∧
        s.after (.call ctx clock now (.delete key version)) = t := by
  rcases after_call s ctx clock now (.delete key version) with same | performed
  · exact .inl same
  · rw [performed]
    cases result : s.delete key version with
    | error e => exact .inl (by simp only [perform, result])
    | ok t => exact .inr ⟨t, rfl, by simp only [perform, result]⟩

theorem after_record (key : ObjectKey) (condition : Condition String) :
    s.after (.call ctx clock now (.record key condition)) = s ∨
      ∃ o conditions, s.objects.get? key = some o ∧
        s.after (.call ctx clock now (.record key condition)) =
          (s.write key (withConditions o conditions)).2 := by
  rcases after_call s ctx clock now (.record key condition) with same | performed
  · exact .inl same
  · rw [performed]
    cases result : s.record key condition with
    | error e => exact .inl (by simp only [perform, result])
    | ok r =>
      obtain ⟨o, found, ⟨-, -, same⟩ | ⟨conditions, -, -, written⟩⟩ := record_eq_ok.mp result
      · exact .inl (by simp only [perform, result, same])
      · exact .inr ⟨o, conditions, found, by simp only [perform, result, written]⟩

theorem after_mark (key : ObjectKey) : s.after (.mark now key) = s ∨
    ∃ o, s.objects.get? key = some o ∧ o.metadata.deletionTimestamp = none ∧
      s.after (.mark now key) = (s.write key (marked now o)).2 := by
  cases result : s.requestDeletion now key with
  | error e => exact .inl (by simp only [after, serve, result])
  | ok t =>
    obtain ⟨o, found, stored⟩ := requestDeletion_eq_ok.mp result
    cases mark : o.metadata.deletionTimestamp with
    | some _ => exact .inl (by simp [after, serve, result, stored, mark])
    | none => exact .inr ⟨o, found, mark, by simp [after, serve, result, stored, mark]⟩

end Calls

theorem Sound.after_replace {s : MemoryStore k} (sound : s.Sound) {ctx : Context}
    {clock : Moment} (now : Instant) (live : ctx.check clock = .ok ()) {key : ObjectKey}
    {o : Object k} (found : s.objects.get? key = some o) (o' : Object k)
    (home : ObjectKey.ofObject o' = ObjectKey.ofObject o)
    (name : o'.metadata.name = o.metadata.name) (version : o'.version = o.version) :
    s.after (.call ctx clock now (.replace o')) = (s.write key (replaced o o')).2 := by
  have here : ObjectKey.ofObject o' = key := home.trans (sound.keyed found)
  have named : o'.Named := by
    rw [Object.Named, name]
    exact sound.named found
  obtain ⟨n, told, -⟩ := sound.versioned found
  have accepted : s.replace o' = .ok (s.write key (replaced o o')) := by
    refine replace_eq_ok.mpr ⟨named, o, here ▸ found, ?_, version, by rw [here]⟩
    rw [version, told]
    rfl
  rw [after, serve, performUnder_of_live now s _ live, perform, accepted]

end MemoryStore

end Reconciler
