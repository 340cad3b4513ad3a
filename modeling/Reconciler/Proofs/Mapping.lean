import Reconciler.Mapping
import Reconciler.Proofs.SortedMap
import Reconciler.Proofs.Time.Rfc3339

/-!
Objects and the resources they stand for. The object of a resource stands for the resource
again, but for what has no place in an object (`Resource.stored`).
-/

set_option autoImplicit false

namespace Reconciler

variable {k : Kind}

namespace State

@[simp] theorem parse?_name (s : State) : parse? s.name = some s := by
  cases s <;> rfl

end State

def Reference.stored (m : Reference) : Reference := .plain m.resource

def Metadata.stored (m : Metadata) : Metadata :=
  { m with
    labels := Mapping.userEntries m.labels
    annotations := Mapping.userEntries m.annotations }

/-- A resource without what has no place in an object: labels and annotations under the
prefix of the engine, and all of a mention but its resource text. -/
def Resource.stored (r : Resource k) : Resource k :=
  { metadata := r.metadata.stored
    spec := k.mapSpec Reference.stored r.spec
    status := r.status.map fun s => { s with facts := k.mapFacts Reference.stored s.facts } }

/-- Metadata that an object can hold: there are a name and a tenant, and the time of the last
change is in a year of four digits. -/
structure Metadata.Storable (m : Metadata) : Prop where
  named : m.name ≠ ""
  owned : m.tenant ≠ ""
  shown : ∀ {t}, m.modifiedAt = some t → t.Shown
  dated : ∀ {t}, m.modifiedAt = some t → 0 ≤ t.year ∧ t.year ≤ 9999

def ObjectMeta.restamp (m : ObjectMeta) (version : Option String)
    (created deleted : Option Instant) : ObjectMeta :=
  { m with resourceVersion := version, creationTimestamp := created, deletionTimestamp := deleted }

/-- The object with other bookkeeping of the store. -/
def Object.restamp (o : Object k) (version : Option String) (created deleted : Option Instant) :
    Object k :=
  { o with metadata := o.metadata.restamp version created deleted }

def Metadata.restamp (m : Metadata) (version : String) (created deleted : Option Instant) :
    Metadata :=
  { m with version := version, createdAt := created, deletedAt := deleted }

def Resource.restamp (r : Resource k) (version : String) (created deleted : Option Instant) :
    Resource k :=
  { r with metadata := r.metadata.restamp version created deleted }

namespace Mapping

@[simp] theorem readState_name (s : State) : readState s.name = .ok s := by
  simp [readState]

theorem mapStates_renameStates (l : Lifecycle State) :
    (l.renameStates State.name).mapStates readState = .ok l := by
  have history : ∀ conditions : List (Condition State),
      (conditions.map fun c => (⟨c.state.name, c.reason, c.message, c.since⟩ : Condition String)).mapM
        (fun c => (readState c.state).map fun s =>
          (⟨s, c.reason, c.message, c.since⟩ : Condition State)) = .ok conditions := by
    intro conditions
    induction conditions with
    | nil => rfl
    | cons c rest ih =>
      rw [List.map_cons, List.mapM_cons, ih, readState_name]
      rfl
  obtain ⟨state, conditions⟩ := l
  unfold Lifecycle.mapStates Lifecycle.renameStates
  rw [history conditions]
  cases state with
  | none => rfl
  | some s => simp only [Option.map_some, readState_name]; rfl

theorem get?_userEntries_of_internal (m : TextMap) {key : String}
    (internal : isInternal key = true) :
    (userEntries m).get? key = none :=
  SortedMap.get?_filter_of_failing fun _ => by simp [internal]

/-- The labels of a place hide what a user wrote under them. -/
theorem get?_writeLabels (m : Metadata) (label : String) :
    (writeLabels m).get? label =
      if label = tenantLabel then some m.tenant
      else if label = workspaceLabel then m.workspace
      else if label = regionLabel then m.region
      else (userEntries m.labels).get? label := by
  have apart : tenantLabel ≠ workspaceLabel ∧ tenantLabel ≠ regionLabel ∧
      workspaceLabel ≠ regionLabel := by decide
  have unplaced : label = workspaceLabel ∨ label = regionLabel →
      (userEntries m.labels).get? label = none := by
    rintro (rfl | rfl) <;> exact get?_userEntries_of_internal m.labels (by decide)
  unfold writeLabels
  cases m.workspace <;> cases m.region <;> simp only [SortedMap.get?_insert] <;> grind

theorem userEntries_insert_of_internal (m : TextMap) {key : String}
    (internal : isInternal key = true) (x : String) :
    userEntries (m.insert key x) = userEntries m :=
  SortedMap.filter_insert_of_failing (fun _ => by simp [internal]) m x

@[simp] theorem userEntries_userEntries (m : TextMap) :
    userEntries (userEntries m) = userEntries m :=
  SortedMap.ext (by simp [userEntries, SortedMap.filter])

theorem userEntries_writeLabels (m : Metadata) :
    userEntries (writeLabels m) = userEntries m.labels := by
  have tenant : isInternal tenantLabel = true := by decide
  have workspace : isInternal workspaceLabel = true := by decide
  have region : isInternal regionLabel = true := by decide
  unfold writeLabels
  cases m.workspace <;> cases m.region <;>
    simp only [userEntries_insert_of_internal _ tenant, userEntries_insert_of_internal _ workspace,
      userEntries_insert_of_internal _ region, userEntries_userEntries]

theorem userEntries_writeAnnotations (m : Metadata) :
    userEntries (writeAnnotations m) = userEntries m.annotations := by
  unfold writeAnnotations
  cases m.modifiedAt with
  | none => exact userEntries_userEntries m.annotations
  | some t =>
    rw [userEntries_insert_of_internal _ (by decide)]
    exact userEntries_userEntries m.annotations

theorem readTenant_writeMetadata {m : Metadata} (owned : m.tenant ≠ "") :
    readTenant (writeMetadata m) = .ok m.tenant := by
  have label : (writeMetadata m).label? tenantLabel = some m.tenant := get?_writeLabels m _
  simp [readTenant, label, owned]

theorem readModifiedAt_writeMetadata {m : Metadata} (storable : m.Storable) :
    readModifiedAt (writeMetadata m) = .ok m.modifiedAt := by
  have noted : (writeMetadata m).annotation? modifiedAnnotation =
      (writeAnnotations m).get? modifiedAnnotation := rfl
  unfold readModifiedAt
  rw [noted]
  unfold writeAnnotations
  cases modified : m.modifiedAt with
  | none =>
    simp only [get?_userEntries_of_internal m.annotations
      (show isInternal modifiedAnnotation = true by decide)]
  | some t =>
    obtain ⟨early, late⟩ := storable.dated modified
    simp only [SortedMap.get?_insert_self,
      Rfc3339.strict?_toOffsetText (storable.shown modified) early late]

/-- Metadata is read as it was written, but for the entries that are not the user's. -/
theorem readMetadata_writeMetadata {m : Metadata} (storable : m.Storable) :
    readMetadata (writeMetadata m) = .ok m.stored := by
  have name : ¬ (writeMetadata m).name.getD "" = "" := storable.named
  have version : (writeMetadata m).resourceVersion.getD "" = m.version := by
    unfold writeMetadata
    by_cases unversioned : m.version = ""
    · simp [unversioned]
    · simp [unversioned]
  have workspace : (writeMetadata m).label? workspaceLabel = m.workspace :=
    get?_writeLabels m _
  have region : (writeMetadata m).label? regionLabel = m.region := get?_writeLabels m _
  have labels : userEntries (writeMetadata m).labelMap = userEntries m.labels :=
    userEntries_writeLabels m
  have annotations : userEntries ((writeMetadata m).annotations.getD ∅) =
      userEntries m.annotations := userEntries_writeAnnotations m
  simp only [readMetadata, name, if_false, readTenant_writeMetadata storable.owned,
    readModifiedAt_writeMetadata storable, version, workspace, region, labels, annotations, bind,
    Except.bind]
  rfl

end Mapping

namespace Kind

variable {ρ σ τ : Type}

theorem mapSpec_mapSpec (g : σ → τ) (f : ρ → σ) (spec : k.Spec ρ) :
    k.mapSpec g (k.mapSpec f spec) = k.mapSpec (fun m => g (f m)) spec := by
  cases k with
  | volume => simp [mapSpec, VolumeSpec.map, Function.comp_def]
  | workspace => rfl
  | storageOffer => rfl
  | networkOffer => rfl

theorem mapSpec_id (spec : k.Spec ρ) : k.mapSpec (fun m => m) spec = spec := by
  cases k with
  | volume => simp [mapSpec, VolumeSpec.map]
  | workspace => rfl
  | storageOffer => rfl
  | networkOffer => rfl

theorem mapFacts_mapFacts (g : σ → τ) (f : ρ → σ) (facts : k.Facts ρ) :
    k.mapFacts g (k.mapFacts f facts) = k.mapFacts (fun m => g (f m)) facts := by
  cases k with
  | volume => simp [mapFacts, VolumeFacts.map, Function.comp_def]
  | workspace => rfl
  | storageOffer => rfl
  | networkOffer => rfl

end Kind

namespace Mapping

theorem readStatus_writeStatus (s : Status k State Reference) :
    readStatus (writeStatus s) = .ok { s with facts := k.mapFacts Reference.stored s.facts } := by
  unfold readStatus writeStatus
  rw [mapStates_renameStates, Kind.mapFacts_mapFacts]
  rfl

theorem readOptionalStatus_writeStatus (status : Option (Status k State Reference)) :
    readOptionalStatus (status.map writeStatus) =
      .ok (status.map fun s => { s with facts := k.mapFacts Reference.stored s.facts }) := by
  cases status with
  | none => rfl
  | some s =>
    simp only [Option.map_some, readOptionalStatus, readStatus_writeStatus]
    rfl

end Mapping

theorem Resource.stored_stored (r : Resource k) : r.stored.stored = r.stored := by
  have metadata : r.metadata.stored.stored = r.metadata.stored := by
    simp only [Metadata.stored, Mapping.userEntries_userEntries]
  obtain ⟨m, spec, status⟩ := r
  unfold stored
  rw [metadata, Kind.mapSpec_mapSpec]
  cases status with
  | none => rfl
  | some s =>
    simp only [Option.map_some, Kind.mapFacts_mapFacts]
    rfl

namespace Mapping

theorem readMetadata_eq_ok {m : ObjectMeta} {n : Metadata} : readMetadata m = .ok n ↔
    m.name.getD "" ≠ "" ∧ ∃ tenant modifiedAt, readTenant m = .ok tenant ∧
      readModifiedAt m = .ok modifiedAt ∧
      n =
        { name := m.name.getD "", tenant
          workspace := m.label? workspaceLabel, region := m.label? regionLabel
          labels := userEntries m.labelMap
          annotations := userEntries (m.annotations.getD ∅)
          version := m.resourceVersion.getD ""
          createdAt := m.creationTimestamp
          modifiedAt
          deletedAt := m.deletionTimestamp } := by
  unfold readMetadata
  by_cases named : m.name.getD "" = ""
  · simp [named]
  · cases tenant : readTenant m with
    | error fault => simp [named, bind, Except.bind]
    | ok t =>
      cases modified : readModifiedAt m with
      | error fault => simp [named, bind, Except.bind]
      | ok at? => simp [named, bind, Except.bind, eq_comm]

theorem of_readMetadata {m : ObjectMeta} {n : Metadata} (read : readMetadata m = .ok n) :
    m.name = some n.name ∧ n.name ≠ "" ∧ n.tenant ≠ "" ∧
      n.version = m.resourceVersion.getD "" ∧ n.deletedAt = m.deletionTimestamp ∧
      ∀ {t}, n.modifiedAt = some t → t.Shown := by
  obtain ⟨named, tenant, modifiedAt, owner, modified, rfl⟩ := readMetadata_eq_ok.mp read
  refine ⟨?_, named, ?_, rfl, rfl, ?_⟩
  · cases name : m.name with
    | none => simp [name] at named
    | some _ => rfl
  · intro nobody
    obtain rfl : tenant = "" := nobody
    unfold readTenant at owner
    split at owner
    · split at owner
      · cases owner
      · rename_i owned
        exact owned (Except.ok.inj owner)
    · cases owner
  · intro t told
    obtain rfl : modifiedAt = some t := told
    unfold readModifiedAt at modified
    split at modified
    · cases modified
    · split at modified
      · rename_i parsed
        obtain rfl := Option.some.inj (Except.ok.inj modified)
        exact Rfc3339.shown_of_strict? parsed
      · cases modified

theorem readMetadata_of_same (m m' : ObjectMeta) (name : m'.name = m.name)
    (labels : m'.labels = m.labels) (annotations : m'.annotations = m.annotations) :
    readMetadata m' = (readMetadata m).map
      (·.restamp (m'.resourceVersion.getD "") m'.creationTimestamp m'.deletionTimestamp) := by
  have label (key : String) : m'.label? key = m.label? key := by
    rw [ObjectMeta.label?, labels, ObjectMeta.label?]
  have tenant : readTenant m' = readTenant m := by
    rw [readTenant, label, readTenant]
  have modified : readModifiedAt m' = readModifiedAt m := by
    rw [readModifiedAt, ObjectMeta.annotation?, annotations, readModifiedAt, ObjectMeta.annotation?]
  have labelMap : m'.labelMap = m.labelMap := by
    rw [ObjectMeta.labelMap, labels, ObjectMeta.labelMap]
  unfold readMetadata
  rw [name, tenant, modified, label, label, labelMap, annotations]
  by_cases unnamed : m.name.getD "" = ""
  · simp only [unnamed, if_true]
    rfl
  · simp only [unnamed, if_false]
    cases readTenant m with
    | error fault => rfl
    | ok t => cases readModifiedAt m <;> rfl

end Mapping

namespace Object

theorem toResource_eq_ok {o : Object k} {r : Resource k} : o.toResource = .ok r ↔
    Mapping.readMetadata o.metadata = .ok r.metadata ∧
      Mapping.readOptionalStatus o.status = .ok r.status ∧
      k.mapSpec Reference.plain o.spec = r.spec := by
  unfold toResource Mapping.read
  cases metadata : Mapping.readMetadata o.metadata with
  | error fault => simp [bind, Except.bind]
  | ok n =>
    cases status : Mapping.readOptionalStatus o.status with
    | error fault => simp [bind, Except.bind]
    | ok st =>
      obtain ⟨n', spec', st'⟩ := r
      simp only [bind, Except.bind, Except.ok.injEq, Resource.mk.injEq]
      constructor
      · rintro ⟨rfl, rfl, rfl⟩
        exact ⟨rfl, rfl, rfl⟩
      · rintro ⟨rfl, rfl, rfl⟩
        exact ⟨rfl, rfl, rfl⟩

theorem label?_of_read {o : Object k} {r : Resource k} (read : o.toResource = .ok r) :
    o.metadata.label? Mapping.tenantLabel = some r.metadata.tenant := by
  obtain ⟨-, tenant, _, owner, -, told⟩ :=
    Mapping.readMetadata_eq_ok.mp (toResource_eq_ok.mp read).1
  rw [told]
  unfold Mapping.readTenant at owner
  split at owner
  · rename_i t label
    split at owner
    · cases owner
    · rw [label, Except.ok.inj owner]
  · cases owner

/-- The object of a resource stands for what is left of the resource in a store. -/
theorem toResource_ofResource {r : Resource k} (storable : r.metadata.Storable) :
    (ofResource r).toResource = .ok r.stored := by
  have read : Mapping.read (ofResource r) = .ok r.stored := by
    unfold Mapping.read ofResource
    simp only [Mapping.readMetadata_writeMetadata storable,
      Mapping.readOptionalStatus_writeStatus, Kind.mapSpec_mapSpec, bind, Except.bind]
    rfl
  simp only [toResource, read]

theorem toResource_restamp_eq (o : Object k) (version : Option String)
    (created deleted : Option Instant) : (o.restamp version created deleted).toResource =
      o.toResource.map (·.restamp (version.getD "") created deleted) := by
  have metadata := Mapping.readMetadata_of_same o.metadata
    (o.restamp version created deleted).metadata rfl rfl rfl
  unfold toResource Mapping.read
  rw [metadata]
  cases Mapping.readMetadata o.metadata with
  | error fault => rfl
  | ok n =>
    have status : (o.restamp version created deleted).status = o.status := rfl
    rw [status]
    cases Mapping.readOptionalStatus o.status <;> rfl

theorem toResource_restamp {o : Object k} {r : Resource k} (read : o.toResource = .ok r)
    (version : Option String) (created deleted : Option Instant) :
    (o.restamp version created deleted).toResource =
      .ok (r.restamp (version.getD "") created deleted) := by
  rw [toResource_restamp_eq, read]
  rfl

theorem storable_of_toResource {o : Object k} {r : Resource k} (read : o.toResource = .ok r)
    (dated : ∀ t, r.metadata.modifiedAt = some t → 0 ≤ t.year ∧ t.year ≤ 9999) :
    r.metadata.Storable := by
  obtain ⟨-, named, owned, -, -, shown⟩ :=
    Mapping.of_readMetadata (toResource_eq_ok.mp read).1
  exact ⟨named, owned, shown, fun told => dated _ told⟩

theorem toResource_ofResource_of_far {r : Resource k} {t : Instant}
    (told : r.metadata.modifiedAt = some t) (far : ¬ (0 ≤ t.year ∧ t.year ≤ 9999))
    (version : Option String) (created deleted : Option Instant) (r' : Resource k) :
    ((ofResource r).restamp version created deleted).toResource ≠ .ok r' := by
  intro read
  obtain ⟨-, -, modifiedAt, -, modified, -⟩ :=
    Mapping.readMetadata_eq_ok.mp (toResource_eq_ok.mp read).1
  obtain ⟨fault, unread⟩ := Rfc3339.strict?_toOffsetText_of_far far
  have noted : ((ofResource r).restamp version created deleted).metadata.annotation?
      Mapping.modifiedAnnotation = some t.toOffsetText := by
    change (Mapping.writeAnnotations r.metadata).get? _ = _
    simp only [Mapping.writeAnnotations, told, SortedMap.get?_insert_self]
  simp only [Mapping.readModifiedAt, noted, unread] at modified
  cases modified

theorem conversion_of_toResource {o : Object k} {e : Error} (failed : o.toResource = .error e) :
    ∃ kind name reason, e = .conversion kind name reason := by
  unfold toResource at failed
  cases read : Mapping.read o with
  | ok r => simp [read] at failed
  | error fault =>
    simp only [read, Except.error.injEq] at failed
    exact ⟨_, _, _, failed.symm⟩

end Object

def Metadata.settled (m : Metadata) : Metadata :=
  { m with modifiedAt := m.modifiedAt.map Instant.settled }

/-- The resource with the time of its last change as its written form names it: another one for a
leap second that does not end its minute. -/
def Resource.settled (r : Resource k) : Resource k := { r with metadata := r.metadata.settled }

theorem Resource.settled_of_shown {r : Resource k}
    (shown : ∀ t, r.metadata.modifiedAt = some t → t.Shown) : r.settled = r := by
  obtain ⟨metadata, spec, status⟩ := r
  have modified : metadata.modifiedAt.map Instant.settled = metadata.modifiedAt := by
    cases told : metadata.modifiedAt with
    | none => rfl
    | some t => exact congrArg some (Instant.settled_of_shown (shown t told))
  simp only [settled, Metadata.settled, modified]

theorem Metadata.storable_settled {m : Metadata} (named : m.name ≠ "") (owned : m.tenant ≠ "")
    (timed : ∀ t, m.modifiedAt = some t →
      t.nanos < 2 * Instant.nanosPerSecond ∧ 0 ≤ t.year ∧ t.year ≤ 9999) : m.settled.Storable := by
  refine ⟨named, owned, ?_, ?_⟩
  · intro t told
    obtain ⟨t, modified, rfl⟩ := Option.map_eq_some_iff.mp told
    exact Instant.shown_settled (timed t modified).1
  · intro t told
    obtain ⟨t, modified, rfl⟩ := Option.map_eq_some_iff.mp told
    rw [Instant.year_settled]
    exact (timed t modified).2

namespace Mapping

theorem writeMetadata_settled (m : Metadata) : writeMetadata m.settled = writeMetadata m := by
  have annotations : writeAnnotations m.settled = writeAnnotations m := by
    unfold writeAnnotations Metadata.settled
    cases m.modifiedAt with
    | none => rfl
    | some t => simp only [Option.map_some, Instant.toOffsetText_settled]
  simp only [writeMetadata, annotations]
  rfl

theorem readMetadata_of_unnamed {m : ObjectMeta} (unnamed : m.name.getD "" = "") :
    readMetadata m = .error .emptyName := by
  simp only [readMetadata, unnamed, if_true]

theorem readMetadata_of_unowned {m : ObjectMeta} (named : m.name.getD "" ≠ "")
    (unowned : m.label? tenantLabel = some "") : readMetadata m = .error .missingTenant := by
  simp only [readMetadata, named, if_false, readTenant, unowned, if_true, bind, Except.bind]

end Mapping

namespace Object

@[simp] theorem ofResource_settled (r : Resource k) : ofResource r.settled = ofResource r := by
  have metadata := Mapping.writeMetadata_settled r.metadata
  simp only [ofResource, Resource.settled, metadata]

theorem toResource_of_fault {o : Object k} {fault : Mapping.Fault}
    (failed : Mapping.readMetadata o.metadata = .error fault) :
    o.toResource = .error (.conversion k.name (o.metadata.name.getD "") fault.reason) := by
  simp only [toResource, Mapping.read, failed, bind, Except.bind]

/-- Of every kind, a resource with a name and a tenant whose last change, if any, lies in the
years 0 to 9999 comes back from its object as it was but for what has no place there, in its
tenant, workspace and region whatever labels its user chose. A last change in a leap second that
does not end its minute has no written form of its own and comes back in the second after, which
its form names. The object of a resource without a name or without a tenant stands for no
resource. -/
theorem resource_comes_back (r : Resource k) :
    (r.metadata.name ≠ "" → r.metadata.tenant ≠ "" →
      (∀ t, r.metadata.modifiedAt = some t →
        t.nanos < 2 * Instant.nanosPerSecond ∧ 0 ≤ t.year ∧ t.year ≤ 9999) →
      (ofResource r).toResource = .ok r.settled.stored ∧
        ((∀ t, r.metadata.modifiedAt = some t → t.Shown) → r.settled = r) ∧
        r.settled.stored.metadata.tenant = r.metadata.tenant ∧
        r.settled.stored.metadata.workspace = r.metadata.workspace ∧
        r.settled.stored.metadata.region = r.metadata.region) ∧
    (r.metadata.name = "" → (ofResource r).toResource =
      .error (.conversion k.name "" "metadata.name is empty")) ∧
    (r.metadata.name ≠ "" → r.metadata.tenant = "" → (ofResource r).toResource =
      .error (.conversion k.name r.metadata.name "missing label internal/tenant")) := by
  refine ⟨?_, ?_, ?_⟩
  · intro named owned timed
    have storable : r.settled.metadata.Storable := Metadata.storable_settled named owned timed
    refine ⟨?_, Resource.settled_of_shown, rfl, rfl, rfl⟩
    rw [← ofResource_settled]
    exact toResource_ofResource storable
  · intro unnamed
    have blank : (ofResource r).metadata.name.getD "" = "" := unnamed
    rw [toResource_of_fault (Mapping.readMetadata_of_unnamed blank), blank]
    rfl
  · intro named unowned
    have label : (ofResource r).metadata.label? Mapping.tenantLabel = some "" := by
      rw [← unowned]
      exact Mapping.get?_writeLabels r.metadata _
    have name : (ofResource r).metadata.name.getD "" ≠ "" := named
    rw [toResource_of_fault (Mapping.readMetadata_of_unowned name label)]
    rfl

/-- The end of the year 2016, in the last leap second there was. -/
def leapSecond : Instant := ⟨1483228799, 1500000000⟩

/-- A volume changed in a leap second whose user chose a tenant of their own as a label. -/
theorem volume_of_leap_second_comes_back :
    let v : Volume :=
      { metadata :=
          { Metadata.ofName "v" "t" with
            workspace := some "w"
            labels := (∅ : TextMap).insert Mapping.tenantLabel "mine" |>.insert "team" "blue"
            modifiedAt := some leapSecond }
        spec := ⟨10, ⟨some "p", some "r", "skus/fast", none, none⟩, none⟩
        status := some ⟨⟨some .active, []⟩, VolumeFacts.none⟩ }
    (ofResource v).toResource = .ok
      { v with
        metadata := { v.metadata with labels := (∅ : TextMap).insert "team" "blue" }
        spec := ⟨10, .plain "skus/fast", none⟩ } := by
  intro v
  have shown : leapSecond.Shown := ⟨by decide, by decide⟩
  have timed : ∀ t, v.metadata.modifiedAt = some t →
      t.nanos < 2 * Instant.nanosPerSecond ∧ 0 ≤ t.year ∧ t.year ≤ 9999 := by
    intro t told
    obtain rfl := Option.some.inj told
    decide
  obtain ⟨back, same, -⟩ := (resource_comes_back v).1 (by decide) (by decide) timed
  rw [back, same]
  · rfl
  · intro t told
    obtain rfl := Option.some.inj told
    exact shown

/-- A volume that was changed in a leap second within a minute comes back as changed later. -/
theorem leap_within_minute_comes_back_later :
    let v : Volume :=
      { metadata := { Metadata.ofName "v" "t" with modifiedAt := some .lateLeap }
        spec := ⟨10, .plain "skus/fast", none⟩
        status := none }
    Instant.lateLeap.nanos < 2 * Instant.nanosPerSecond ∧ Instant.lateLeap.year = 1970 ∧
      ∃ r, (ofResource v).toResource = .ok r ∧ r ≠ v ∧
        r.metadata.modifiedAt = some ⟨31, 500000000⟩ := by
  intro v
  have timed : ∀ t, v.metadata.modifiedAt = some t →
      t.nanos < 2 * Instant.nanosPerSecond ∧ 0 ≤ t.year ∧ t.year ≤ 9999 := by
    intro t told
    obtain rfl := Option.some.inj told
    decide
  have storable : v.settled.metadata.Storable :=
    Metadata.storable_settled (m := v.metadata) (by decide) (by decide) timed
  have back : (ofResource v).toResource = .ok v.settled.stored := by
    rw [← ofResource_settled]
    exact toResource_ofResource storable
  have later : v.settled.stored.metadata.modifiedAt = some ⟨31, 500000000⟩ := by rfl
  refine ⟨by decide, by decide, _, back, ?_, later⟩
  intro same
  rw [same] at later
  exact absurd later (by decide)

end Object

end Reconciler
