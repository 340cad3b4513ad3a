import Reconciler.Cluster
import Reconciler.Proofs.Cluster.Exchange
import Reconciler.Proofs.Object.Json
import Reconciler.Proofs.Selector.Meaning
import Reconciler.Store.Memory

/-!
Filtering by the server. What is left of a selector that the server can decide is read back as the
requirements it was printed from, unless a value begins with an equals sign; no label that the
server admits has such a value. A listing that the server has filtered is therefore the one that
a store in memory makes.
-/

set_option autoImplicit false

namespace Reconciler

namespace Operator

theorem leads_notEquals (cs : List Char) : Operator.notEquals.Leads (['!', '='] ++ cs) := by
  refine ⟨List.prefix_append _ _, fun other _ => ?_⟩
  cases other <;> decide

theorem leads_equals {cs : List Char} (unfused : cs.head? ≠ some '=') :
    Operator.equals.Leads (['='] ++ cs) := by
  refine ⟨List.prefix_append _ _, fun other begins => ?_⟩
  cases other with
  | doubleEquals =>
    obtain ⟨after, same⟩ := begins
    obtain rfl : '=' :: after = cs := (List.cons.inj same).2
    exact absurd rfl unfused
  | notEquals | atLeast | atMost =>
    obtain ⟨after, same⟩ := begins
    exact absurd (List.cons.inj same).1 (by decide)
  | equals | greater | less => decide

end Operator

namespace Selector

open Requirement (isKeyChar)
open Text (Tight)

variable {key value : List Char} {s : Selector} {text t : String} {labels : TextMap}

theorem IsKey.no_comma (isKey : IsKey key) : ',' ∉ key := by
  intro among
  exact absurd (isKey.2 ',' among) (by decide)

theorem Term.spelled_present (isKey : IsKey key) : (Term.present key).Spelled key := by
  simpa using Spelled.present isKey Text.blank_nil Text.blank_nil

theorem Term.spelled_absent (isKey : IsKey key) : (Term.absent key).Spelled ('!' :: key) := by
  simpa using Spelled.absent isKey Text.blank_nil Text.blank_nil Text.blank_nil

theorem Term.spelled_related {op : Operator} (isKey : IsKey key) (leads : op.Leads (op.symbol ++ value))
    (filled : value ≠ []) (tight : Tight value) :
    (Term.related key op value).Spelled (key ++ op.symbol ++ value) := by
  have leads' : op.Leads (op.symbol ++ [] ++ value) := by rwa [List.append_nil]
  simpa using Spelled.related isKey leads' filled tight Text.blank_nil Text.blank_nil Text.blank_nil
    Text.blank_nil

theorem eq_of_plainText? {cs : List Char} {m : Matcher} {text : String}
    (read : (Matcher.compile (.ofList cs)).toOption = some m) (shown : m.plainText? = some text) :
    m = .exact (.ofList cs) ∧ text = .ofList cs := by
  by_cases star : '*' ∈ cs
  · rw [compile_of_star star] at read
    obtain ⟨tokens, -, rfl⟩ := Option.map_eq_some_iff.mp read
    cases shown
  · rw [compile_of_plain star] at read
    cases read
    cases shown
    exact ⟨rfl, rfl⟩

/-- The value does not run into the equals sign that it is printed behind. -/
def Unfused (r : Requirement) : Prop :=
  ∀ key value, r = .equals key (.exact value) → value.toList.head? ≠ some '='

/-- What is printed for a requirement spells the requirement again. -/
theorem Term.Spelled.reprinted {t : Term} {part : List Char} {r : Requirement} {text : String}
    (spelled : t.Spelled part) (plain : ',' ∉ part) (stands : t.requirement? = some r)
    (unfused : Unfused r) (shown : r.serverText? = some text) :
    ∃ t' : Term, t'.Spelled text.toList ∧ t'.requirement? = some r ∧ ',' ∉ text.toList := by
  cases spelled with
  | @present before key after isKey =>
    obtain ⟨m, read, rfl⟩ := Option.map_eq_some_iff.mp stands
    obtain ⟨-, rfl⟩ := eq_of_plainText? read shown
    rw [String.toList_ofList]
    exact ⟨_, spelled_present isKey, stands, isKey.no_comma⟩
  | @absent before gap key after isKey =>
    obtain ⟨m, read, rfl⟩ := Option.map_eq_some_iff.mp stands
    obtain ⟨name, named, same⟩ := Option.bind_eq_some_iff.mp shown
    obtain ⟨-, rfl⟩ := eq_of_plainText? read named
    obtain rfl := Option.some.inj same
    have letters : ("!" ++ String.ofList key).toList = '!' :: key := by simp
    rw [letters]
    exact ⟨_, spelled_absent isKey, stands,
      List.not_mem_cons_of_ne_of_not_mem (by decide) isKey.no_comma⟩
  | @related before key gap gap' value after op isKey leads filled tight =>
    obtain ⟨m, read, related⟩ := Option.bind_eq_some_iff.mp stands
    have bare : ',' ∉ value := fun among => plain (by simp [among])
    cases compares : op.comparison? with
    | some comparison =>
      rw [relate_of_comparison compares] at related
      obtain ⟨bound, -, rfl⟩ := Option.map_eq_some_iff.mp related
      cases shown
    | none =>
      cases op with
      | equals | doubleEquals =>
        rw [relate_of_equality (by simp)] at related
        obtain ⟨m', read', rfl⟩ := Option.map_eq_some_iff.mp related
        obtain ⟨name, named, shown⟩ := Option.bind_eq_some_iff.mp shown
        obtain ⟨what, valued, same⟩ := Option.bind_eq_some_iff.mp shown
        obtain ⟨-, rfl⟩ := eq_of_plainText? read named
        obtain ⟨rfl, rfl⟩ := eq_of_plainText? read' valued
        obtain rfl := Option.some.inj same
        have first := unfused _ _ rfl
        rw [String.toList_ofList] at first
        have letters : (String.ofList key ++ "=" ++ String.ofList value).toList =
            key ++ Operator.equals.symbol ++ value := by simp [Operator.symbol]
        have stands' : (Term.related key .equals value).requirement? =
            some (.equals m (.exact (.ofList value))) := by
          rw [requirement?, read, Option.bind_some, relate_of_equality (.inl rfl), read']
          rfl
        rw [letters]
        refine ⟨_, spelled_related isKey (Operator.leads_equals first) filled tight, stands', ?_⟩
        simp [isKey.no_comma, bare, Operator.symbol]
      | notEquals =>
        obtain rfl := Option.some.inj related
        obtain ⟨name, named, same⟩ := Option.bind_eq_some_iff.mp shown
        obtain ⟨-, rfl⟩ := eq_of_plainText? read named
        obtain rfl := Option.some.inj same
        have letters : (String.ofList key ++ "!=" ++ String.ofList value).toList =
            key ++ Operator.notEquals.symbol ++ value := by simp [Operator.symbol]
        rw [letters]
        refine ⟨_, spelled_related isKey (Operator.leads_notEquals value) filled tight, stands, ?_⟩
        simp [isKey.no_comma, bare, Operator.symbol]
      | greater | less | atLeast | atMost => cases compares

def decidable (s : Selector) : Selector := s.filter (·.serverText?.isSome)

theorem PartsSpell.reprinted {parts : List (List Char)} {terms : List Term}
    (spell : PartsSpell parts terms) (plain : ∀ part ∈ parts, ',' ∉ part)
    (stand : terms.mapM Term.requirement? = some s) (unfused : ∀ r ∈ s, Unfused r) :
    ∃ terms', PartsSpell ((s.filterMap Requirement.serverText?).map String.toList) terms' ∧
      terms'.mapM Term.requirement? = some s.decidable ∧
      ∀ part ∈ (s.filterMap Requirement.serverText?).map String.toList, ',' ∉ part := by
  induction spell generalizing s with
  | nil =>
    obtain rfl := Option.some.inj stand
    exact ⟨[], .nil, rfl, List.forall_mem_nil _⟩
  | blank _ _ ih => exact ih (List.forall_mem_cons.mp plain).2 stand unfused
  | @term part parts t terms spelled _ ih =>
    obtain ⟨here, later⟩ := List.forall_mem_cons.mp plain
    rw [List.mapM_cons] at stand
    obtain ⟨r, stands, stand⟩ := Option.bind_eq_some_iff.mp stand
    obtain ⟨rs, others, same⟩ := Option.bind_eq_some_iff.mp stand
    obtain rfl := Option.some.inj same
    obtain ⟨first, rest⟩ := List.forall_mem_cons.mp unfused
    obtain ⟨terms', spell', stand', plain'⟩ := ih later others rest
    cases shown : r.serverText? with
    | none =>
      rw [List.filterMap_cons_none shown, decidable, List.filter_cons_of_neg (by simp [shown])]
      exact ⟨terms', spell', stand', plain'⟩
    | some text =>
      obtain ⟨t', spelled', stands', bare⟩ := spelled.reprinted here stands first shown
      rw [List.filterMap_cons_some shown, decidable, List.filter_cons_of_pos (by simp [shown]),
        List.map_cons]
      refine ⟨t' :: terms', .term spelled' spell', ?_, List.forall_mem_cons.mpr ⟨bare, plain'⟩⟩
      rw [List.mapM_cons, stands', stand']
      rfl

theorem parse_serverText (read : parse text = .ok s) (unfused : ∀ r ∈ s, Unfused r)
    (shown : s.serverText? = some t) : parse t = .ok s.decidable := by
  obtain ⟨terms, spell⟩ := exists_partsSpell read
  have stand := toOption_parse (spells_iff.mpr spell)
  rw [read] at stand
  obtain ⟨terms', spell', stand', plain⟩ :=
    spell.reprinted (splitCommas_spec text.toList).1 stand.symm unfused
  unfold serverText? at shown
  split at shown
  · cases shown
  · rename_i parts some
    obtain rfl := Option.some.inj shown
    have joined := String.toList_intercalate (s := ",") (l := s.filterMap Requirement.serverText?)
    rw [← toOption_eq_some_iff, ← stand']
    exact toOption_parse ⟨_, by simpa using some, plain, joined, spell'⟩

def isLabelChar (c : Char) : Bool := c.isAlphanum || c = '-' || c = '_' || c = '.'

/-- The values are such as the server admits. -/
def Admissible (labels : TextMap) : Prop :=
  ∀ key value, labels.get? key = some value → ∀ c ∈ value.toList, isLabelChar c = true

/-- What selects admissible labels asks for no value with an equals sign. -/
theorem unfused_of_selects (admissible : Admissible labels) (selects : s.selects labels = true) :
    ∀ r ∈ s, Unfused r := by
  rintro r listed key value rfl fused
  have holds := List.all_eq_true.mp selects _ listed
  obtain ⟨v, valued, covers⟩ := List.any_eq_true.mp holds
  obtain rfl : value = v := of_decide_eq_true covers
  obtain ⟨⟨k, v⟩, among, rfl⟩ := List.mem_map.mp valued
  have found := SortedMap.get?_eq_some_iff.mpr (List.mem_filter.mp among).1
  exact absurd (admissible k v found '=' (List.mem_of_mem_head? fused)) (by decide)

def letsThrough (filter : Option String) (labels : TextMap) : Bool :=
  match filter with
  | some text => (parse text).toOption.any (·.selects labels)
  | none => true

theorem selects_decidable (selects : s.selects labels = true) : s.decidable.selects labels = true :=
  List.all_eq_true.mpr fun _ listed => List.all_eq_true.mp selects _ (List.mem_filter.mp listed).1

theorem letsThrough_of_selects {text : Option String} (read : parseOptional text = .ok s)
    (admissible : Admissible labels) (selects : s.selects labels = true) :
    letsThrough s.serverText? labels = true := by
  cases text with
  | none =>
    obtain rfl := Except.ok.inj read
    rfl
  | some text =>
    cases shown : s.serverText? with
    | none => rfl
    | some t =>
      rw [letsThrough, parse_serverText read (unfused_of_selects admissible selects) shown]
      exact selects_decidable selects

theorem filter_letsThrough {k : Kind} {text : Option String}
    (read : parseOptional text = .ok s) {objects : List (Object k)}
    (admissible : ∀ o ∈ objects, Admissible o.metadata.labelMap) :
    (objects.filter fun o => letsThrough s.serverText? o.metadata.labelMap).filter
        (fun o => s.selects o.metadata.labelMap) =
      objects.filter fun o => s.selects o.metadata.labelMap := by
  rw [List.filter_filter]
  refine List.filter_congr fun o listed => ?_
  cases selects : s.selects o.metadata.labelMap with
  | false => rfl
  | true => exact letsThrough_of_selects read (admissible o listed) selects

end Selector

namespace Cluster

variable {k : Kind} {reply : ApiRequest → ApiReply}

def objectsIn (store : MemoryStore k) (namespaceName : Option String) : List (Object k) :=
  (store.objects.entries.filter fun e =>
    namespaceName.isNone || e.1.namespaceName = namespaceName).map (·.2)

/-- A server that holds what a store does answers the request of a listing in full, with what the
label selector in the request lets through. -/
def ServesListing (store : MemoryStore k) (only : Option String) (query : ListQuery)
    (reply : ApiRequest → ApiReply) : Prop :=
  ∀ selector, Selector.parseOptional query.selector = .ok selector →
    ∃ r token,
      request .get (collection k (query.namespaceName.or only) ++ "?" ++
        Address.queryText (listParameters query selector)) none = some r ∧
      token.filter (· ≠ "") = none ∧
      (reply r).read (listOfJson k) = .ok
        { items := (objectsIn store (query.namespaceName.or only)).filter fun o =>
            Selector.letsThrough ((listParameters query selector).lookup "labelSelector")
              o.metadata.labelMap
          next := token }

theorem lookup_labelSelector (query : ListQuery) (selector : Selector) :
    (listParameters query selector).lookup "labelSelector" = selector.serverText? := by
  unfold listParameters
  cases selector.serverText? <;> cases query.limit <;> cases query.continueAfter <;> rfl

theorem selected_eq {store : MemoryStore k} {query : ListQuery} {selector : Selector}
    (first : query.continueAfter = none) :
    (store.selected query selector).map (·.2) =
      (objectsIn store query.namespaceName).filter fun o => selector.selects o.metadata.labelMap := by
  simp only [MemoryStore.selected, first, objectsIn, List.filter_map, List.filter_filter]
  congr 1
  refine List.filter_congr fun e _ => ?_
  exact Bool.and_comm _ _

theorem outcome_list {store : MemoryStore k} {only : Option String} {query : ListQuery}
    (unlimited : query.limit = none) (first : query.continueAfter = none)
    (admissible : ∀ o ∈ objectsIn store (query.namespaceName.or only),
      Selector.Admissible o.metadata.labelMap)
    (serves : ServesListing store only query reply) :
    Work.outcome (list only query) reply =
      store.list { query with namespaceName := query.namespaceName.or only } := by
  unfold list MemoryStore.list
  cases parsed : Selector.parseOptional query.selector with
  | error fault => rfl
  | ok selector =>
    obtain ⟨r, token, sent, last, read⟩ := serves selector parsed
    simp only [lookup_labelSelector] at read
    simp only [sent, unlimited]
    unfold Work.outcome
    rw [run_perform_of_read read]
    change Except.ok _ = Except.ok _
    rw [last, MemoryStore.pageOf, selected_eq, Selector.filter_letsThrough parsed admissible]
    exact first

/-- What the server lets through by the part of a selector that it can decide is all that the
selector selects, where labels are such as the server admits. So objects that are filtered by that
part first come to the same, and a listing in full that the server has filtered is the one that a
store in memory makes. -/
theorem prefiltering_loses_nothing :
    (∀ {text t : String} {s : Selector} {labels : TextMap}, Selector.parse text = .ok s →
      Selector.Admissible labels → s.selects labels = true → s.serverText? = some t →
        ∃ s', Selector.parse t = .ok s' ∧ s'.selects labels = true) ∧
    (∀ {k : Kind} {text : Option String} {s : Selector} {objects : List (Object k)},
      Selector.parseOptional text = .ok s →
      (∀ o ∈ objects, Selector.Admissible o.metadata.labelMap) →
        (objects.filter fun o => Selector.letsThrough s.serverText? o.metadata.labelMap).filter
            (fun o => s.selects o.metadata.labelMap) =
          objects.filter fun o => s.selects o.metadata.labelMap) ∧
    ∀ {k : Kind} {store : MemoryStore k} {only : Option String} {query : ListQuery}
      {reply : ApiRequest → ApiReply}, query.limit = none → query.continueAfter = none →
      (∀ o ∈ objectsIn store (query.namespaceName.or only),
        Selector.Admissible o.metadata.labelMap) →
      ServesListing store only query reply →
        Work.outcome (list only query) reply =
          store.list { query with namespaceName := query.namespaceName.or only } := by
  refine ⟨fun read admissible selects shown => ?_, fun read admissible =>
    Selector.filter_letsThrough read admissible, fun unlimited first admissible serves =>
      outcome_list unlimited first admissible serves⟩
  exact ⟨_, Selector.parse_serverText read (Selector.unfused_of_selects admissible selects) shown,
    Selector.selects_decidable selects⟩

def tieredVolume (name tier size : String) : Object .volume :=
  { metadata :=
      { ObjectMeta.blank with
        name := some name
        namespaceName := some "a"
        labels := some ((SortedMap.empty.insert "tier" tier).insert "size" size) }
    spec := ⟨10, "skus/fast", none⟩
    status := none }

def tieredStore : MemoryStore .volume :=
  { objects := ((SortedMap.empty.insert (.inNamespace "a" "u") (tieredVolume "u" "gold" "12")).insert
      (.inNamespace "a" "v") (tieredVolume "v" "gold" "5")).insert
      (.inNamespace "a" "w") (tieredVolume "w" "silver" "12")
    lastVersion := 3 }

def largeGold : ListQuery := { ListQuery.everything with selector := some "tier=gold,size>10" }

def goldenParts (name size : String) : List String :=
  ["\x7b\"metadata\":\x7b\"name\":\"", name, "\",\"namespace\":\"a\",",
    "\"labels\":\x7b\"tier\":\"gold\",", "\"size\":\"", size, "\"\x7d\x7d,",
    "\"spec\":\x7b\"sizeGB\":10,", "\"skuRef\":\"skus/fast\"\x7d\x7d"]

/-- All golden volumes. The text is made of parts, since long ones are slow to evaluate. -/
def goldenLetters : List Char :=
  (["\x7b\"metadata\":\x7b\x7d,\"items\":["] ++ goldenParts "u" "12" ++ [","] ++
    goldenParts "v" "5" ++ ["]\x7d"]).flatMap String.toList

def goldenReply : ApiReply := .answered 200 (.ofList goldenLetters)

theorem serves_goldenReply : ServesListing tieredStore none largeGold fun _ => goldenReply := by
  intro selector parsed
  have told : selector.serverText? = some "tier=gold" := by
    have printed : (Selector.parseOptional largeGold.selector).toOption.bind Selector.serverText? =
        some "tier=gold" := by decide +kernel
    rwa [parsed] at printed
  have parameters : listParameters largeGold selector = [("labelSelector", "tier=gold")] := by
    unfold listParameters
    rw [told]
    rfl
  rw [parameters]
  have placed : (Address.ofText? (collection .volume (largeGold.namespaceName.or none) ++ "?" ++
      Address.queryText [("labelSelector", "tier=gold")])).isSome = true := by decide +kernel
  obtain ⟨r, sent⟩ := exists_request placed
  refine ⟨r, none, sent, rfl, ApiReply.read_answered ?_⟩
  rw [Json.parse?, String.toList_ofList]
  decide +kernel

theorem large_gold_listed :
    (∃ s', Selector.parse "tier=gold" = .ok s' ∧
      s'.selects (tieredVolume "u" "gold" "12").metadata.labelMap = true) ∧
    Work.outcome (list none largeGold) (fun _ => goldenReply) =
      .ok ⟨[tieredVolume "u" "gold" "12"], none⟩ := by
  have admissible : ∀ o ∈ objectsIn tieredStore none, Selector.Admissible o.metadata.labelMap := by
    intro o listed k v found
    have each : (objectsIn tieredStore none).all (fun o => o.metadata.labelMap.entries.all
        fun e => e.2.toList.all Selector.isLabelChar) = true := by decide +kernel
    have values := List.all_eq_true.mp (List.all_eq_true.mp each o listed) (k, v)
      (SortedMap.get?_eq_some_iff.mp found)
    exact List.all_eq_true.mp values
  have read : ∃ s, Selector.parse "tier=gold,size>10" = .ok s ∧ s.serverText? = some "tier=gold" ∧
      s.selects (tieredVolume "u" "gold" "12").metadata.labelMap = true := by
    have printed : (Selector.parse "tier=gold,size>10").toOption.map (fun s => (s.serverText?,
        s.selects (tieredVolume "u" "gold" "12").metadata.labelMap)) =
          some (some "tier=gold", true) := by decide +kernel
    obtain ⟨s, read, same⟩ := Option.map_eq_some_iff.mp printed
    obtain ⟨told, selects⟩ := Prod.mk.inj same
    exact ⟨s, Selector.toOption_eq_some_iff.mp read, told, selects⟩
  obtain ⟨s, read, told, selects⟩ := read
  refine ⟨prefiltering_loses_nothing.1 read (admissible _ (by decide +kernel)) selects told, ?_⟩
  rw [prefiltering_loses_nothing.2.2 rfl rfl admissible serves_goldenReply]
  decide +kernel

end Cluster

end Reconciler
