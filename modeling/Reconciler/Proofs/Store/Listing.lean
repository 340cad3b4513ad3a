import Reconciler.Proofs.SortedMap
import Reconciler.Proofs.Store.Versions

/-!
Single pages of listings. A page shows the first of the entries it ranges over, and its token
names the last one shown (`Shows`), so that whatever happens to the store meanwhile the next
page ranges over what comes after it.
-/

set_option autoImplicit false

namespace Reconciler

variable {k : Kind}

namespace ObjectKey

/-- The key can be told from its text, as a token names it. -/
def Told (key : ObjectKey) : Prop := parse key.text = key

def Beyond (token : Option String) (key : ObjectKey) : Prop :=
  ∀ t, token = some t → compare (parse t) key = .lt

theorem beyond_text {key key' : ObjectKey} (told : key.Told) :
    key'.Beyond (some key.text) ↔ compare key key' = .lt := by
  constructor
  · intro beyond
    rw [← told]
    exact beyond _ rfl
  · intro later t named
    obtain rfl := Option.some.inj named
    rw [told]
    exact later

theorem Beyond.trans {token : Option String} {key key' : ObjectKey} (beyond : key.Beyond token)
    (later : compare key key' = .lt) : key'.Beyond token := by
  intro t named
  exact Std.TransCmp.lt_trans (beyond t named) later

end ObjectKey

namespace ListQuery

/-- The object under the key is one of those asked for. -/
def Wants (query : ListQuery) (key : ObjectKey) (o : Object k) : Prop :=
  (∀ ns, query.namespaceName = some ns → key.namespaceName = some ns) ∧
    ∃ selector, Selector.parseOptional query.selector = .ok selector ∧
      selector.selects o.metadata.labelMap = true

/-- The same listing from the place that a token names. -/
def goingOn (query : ListQuery) (token : Option String) : ListQuery :=
  { query with continueAfter := token }

def unlimited (query : ListQuery) : ListQuery :=
  { query with limit := none, continueAfter := none }

end ListQuery

namespace Page

def keys (page : Page (Object k)) : List ObjectKey := page.items.map ObjectKey.ofObject

end Page

namespace Request

def subject? : Request k → Option ObjectKey
  | .call _ _ _ (.create o) | .call _ _ _ (.replace o) => some (.ofObject o)
  | .call _ _ _ (.delete key _) | .call _ _ _ (.record key _) | .mark _ key => some key
  | _ => none

end Request

namespace MemoryStore

section Selected

variable {s : MemoryStore k} {query : ListQuery} {token : Option String} {selector : Selector}

theorem list_eq_ok {page : Page (Object k)} : s.list query = .ok page ↔
    ∃ selector, Selector.parseOptional query.selector = .ok selector ∧
      page = pageOf query.limit (s.selected query selector) := by
  unfold list
  cases Selector.parseOptional query.selector with
  | ok selector => simp [eq_comm]
  | error fault => simp

theorem sorted_selected (s : MemoryStore k) (query : ListQuery) (selector : Selector) :
    (s.selected query selector).Pairwise fun a b => compare a.1 b.1 = .lt := by
  unfold selected
  cases query.continueAfter with
  | none => exact s.objects.sorted.filter _
  | some token => exact (s.objects.after _).sorted.filter _

theorem mem_selected (parsed : Selector.parseOptional query.selector = .ok selector)
    {key : ObjectKey} {o : Object k} : (key, o) ∈ s.selected (query.goingOn token) selector ↔
      s.objects.get? key = some o ∧ key.Beyond token ∧ query.Wants key o := by
  have wants : query.Wants key o ↔
      (query.namespaceName = none ∨ key.namespaceName = query.namespaceName) ∧
        selector.selects o.metadata.labelMap = true := by
    unfold ListQuery.Wants
    cases query.namespaceName with
    | none => simp [parsed]
    | some ns => simp [parsed]
  have kept (range : SortedMap ObjectKey (Object k)) : (key, o) ∈ (range.entries.filter fun e =>
      (query.namespaceName.isNone || e.1.namespaceName = query.namespaceName) &&
        selector.selects e.2.metadata.labelMap) ↔ (key, o) ∈ range.entries ∧ query.Wants key o := by
    rw [List.mem_filter, wants, Bool.and_eq_true, Bool.or_eq_true, Option.isNone_iff_eq_none,
      decide_eq_true_iff]
  rw [SortedMap.get?_eq_some_iff]
  cases token with
  | none =>
    refine (kept s.objects).trans (and_congr_right fun _ => ?_)
    simp [ObjectKey.Beyond]
  | some t =>
    refine (kept (s.objects.after (ObjectKey.parse t))).trans ?_
    simp [SortedMap.after, SortedMap.filter, ObjectKey.Beyond, and_assoc]

end Selected

/-- How a page shows the entries that a listing ranges over: all of them, or the first, where
the last one shown tells where to go on. -/
inductive Shows (limit : Option Nat) (entries : List (ObjectKey × Object k)) :
    Page (Object k) → Prop
  | whole (short : ∀ n, limit = some n → 0 < n → entries.length ≤ n) :
      Shows limit entries ⟨entries.map (·.2), none⟩
  | cut {front back : List (ObjectKey × Object k)} {last : ObjectKey × Object k}
      (split : entries = front ++ last :: back) (full : limit = some (front.length + 1))
      (more : back ≠ []) : Shows limit entries ⟨(front ++ [last]).map (·.2), some last.1.text⟩

theorem shows_pageOf (limit : Option Nat) (entries : List (ObjectKey × Object k)) :
    Shows limit entries (pageOf limit entries) := by
  match limit with
  | none => exact .whole fun n impossible => nomatch impossible
  | some 0 =>
    refine .whole fun n same positive => ?_
    obtain rfl := Option.some.inj same
    omega
  | some (n + 1) =>
    by_cases short : entries.length ≤ n + 1
    · have shown : pageOf (some (n + 1)) entries = ⟨entries.map (·.2), none⟩ := by
        simp [pageOf, short, List.take_of_length_le short]
      rw [shown]
      refine .whole fun m same _ => ?_
      obtain rfl := Option.some.inj same
      exact short
    · have inside : n < entries.length := by omega
      have taken : entries.take (n + 1) = entries.take n ++ [entries[n]] := by
        rw [List.take_succ_eq_append_getElem inside]
      have shown : pageOf (some (n + 1)) entries =
          ⟨(entries.take n ++ [entries[n]]).map (·.2), some entries[n].1.text⟩ := by
        simp only [pageOf, taken, short, if_false, List.getLast?_concat, Option.map_some]
      rw [shown]
      refine @Shows.cut _ _ _ _ (entries.drop (n + 1)) _ ?_ ?_ ?_
      · rw [← List.drop_eq_getElem_cons inside, List.take_append_drop]
      · rw [List.length_take, Nat.min_eq_left (Nat.le_of_lt inside)]
      · intro none
        rw [List.drop_eq_nil_iff] at none
        omega

/-- A page shows a front of the entries; where it leaves some out, its token names the last one
shown. -/
theorem Shows.front {limit : Option Nat} {entries : List (ObjectKey × Object k)}
    {page : Page (Object k)} (shows : Shows limit entries page) : ∃ front back,
      entries = front ++ back ∧ page.items = front.map (·.2) ∧
        (back = [] ∧ page.next = none ∨
          ∃ init last, front = init ++ [last] ∧ page.next = some last.1.text) := by
  cases shows with
  | whole short => exact ⟨entries, [], by simp, rfl, .inl ⟨rfl, rfl⟩⟩
  | @cut front back last split full more =>
    exact ⟨front ++ [last], back, by simp [split], rfl, .inr ⟨front, last, rfl, rfl⟩⟩

theorem list_goingOn (s : MemoryStore k) {query : ListQuery} {selector : Selector}
    (parsed : Selector.parseOptional query.selector = .ok selector) (token : Option String) :
    ∃ page, s.list (query.goingOn token) = .ok page ∧
      Shows query.limit (s.selected (query.goingOn token) selector) page :=
  ⟨_, list_eq_ok.mpr ⟨selector, parsed, rfl⟩, shows_pageOf _ _⟩

theorem of_mem_list {s : MemoryStore k} {query : ListQuery} {page : Page (Object k)}
    (listed : s.list query = .ok page) {o : Object k} (shown : o ∈ page.items) :
    ∃ key, s.objects.get? key = some o ∧ query.Wants key o := by
  obtain ⟨selector, parsed, rfl⟩ := list_eq_ok.mp listed
  obtain ⟨front, back, split, items, -⟩ :=
    (shows_pageOf query.limit (s.selected query selector)).front
  rw [items] at shown
  obtain ⟨⟨key, o⟩, here, rfl⟩ := List.mem_map.mp shown
  have chosen : (key, o) ∈ s.selected (query.goingOn query.continueAfter) selector :=
    split ▸ List.mem_append_left back here
  obtain ⟨found, -, wanted⟩ := (mem_selected parsed).mp chosen
  exact ⟨key, found, wanted⟩

structure Listable (s : MemoryStore k) : Prop extends Sound s where
  told : ∀ {key o}, s.objects.get? key = some o → key.Told

theorem subject?_of_wrote {s : MemoryStore k} {q : Request k} {a : q.Answer} {key : ObjectKey}
    (wrote : s.wrote? q a = some key) : q.subject? = some key := by
  cases q with
  | call ctx clock now c =>
    cases c with
    | get key' => cases wrote
    | list query => cases wrote
    | delete key' version => cases wrote
    | create o =>
      cases a with
      | error e => cases wrote
      | ok stored => exact wrote
    | replace o =>
      cases a with
      | error e => cases wrote
      | ok stored => exact wrote
    | record key' condition =>
      match a, wrote with
      | .ok true, wrote => exact wrote
  | mark now key' =>
    cases a with
    | error e => cases wrote
    | ok _ =>
      simp only [wrote?] at wrote
      split at wrote
      · exact wrote
      · cases wrote

theorem Listable.after {s : MemoryStore k} (listable : s.Listable) {q : Request k}
    (told : ∀ key, q.subject? = some key → key.Told) : (s.after q).Listable := by
  refine { toSound := listable.toSound.after q, told := ?_ }
  intro key o found
  cases served listable.toSound q with
  | quiet _ _ same =>
    rw [same] at found
    exact listable.told found
  | @wrote key' o' wrote _ _ _ stored =>
    by_cases here : key = key'
    · subst here
      exact told key (subject?_of_wrote wrote)
    · rw [stored, get?_write_of_ne _ _ here] at found
      exact listable.told found
  | removed _ _ _ left =>
    rw [left] at found
    exact listable.told (get?_erase found).2

theorem Listable.afterAll {s : MemoryStore k} (listable : s.Listable) {qs : List (Request k)}
    (told : ∀ q ∈ qs, ∀ key, q.subject? = some key → key.Told) : (s.afterAll qs).Listable := by
  induction qs generalizing s with
  | nil => exact listable
  | cons q qs ih =>
    refine ih (listable.after (told q List.mem_cons_self)) ?_
    intro q' later
    exact told q' (List.mem_cons_of_mem q later)

section Page

variable {s : MemoryStore k} {query : ListQuery} {token : Option String}
  {entries : List (ObjectKey × Object k)}

theorem map_ofObject (sound : s.Sound)
    (stored : ∀ e ∈ entries, s.objects.get? e.1 = some e.2) :
    (entries.map (·.2)).map ObjectKey.ofObject = entries.map (·.1) := by
  rw [List.map_map]
  refine List.map_congr_left fun e listed => ?_
  exact sound.keyed (stored e listed)

/-- After the last entry that was shown come the entries that were not, also in a later store
that holds the same after it. -/
theorem selected_goingOn {selector : Selector}
    (parsed : Selector.parseOptional query.selector = .ok selector)
    {front back : List (ObjectKey × Object k)} {last : ObjectKey × Object k}
    (split : s.selected (query.goingOn token) selector = front ++ last :: back)
    (told : last.1.Told) {later : MemoryStore k}
    (same : ∀ key, compare last.1 key = .lt → later.objects.get? key = s.objects.get? key) :
    later.selected (query.goingOn (some last.1.text)) selector = back := by
  have sorted := s.sorted_selected (query.goingOn token) selector
  rw [split] at sorted
  obtain ⟨-, rest, across⟩ := List.pairwise_append.mp sorted
  obtain ⟨above, tail⟩ := List.pairwise_cons.mp rest
  refine SortedMap.eq_of_mem_iff (later.sorted_selected _ _) tail fun e => ?_
  obtain ⟨key, o⟩ := e
  rw [mem_selected parsed, ObjectKey.beyond_text told]
  have before : (key, o) ∈ front ++ last :: back ↔ s.objects.get? key = some o ∧
      key.Beyond token ∧ query.Wants key o := by
    rw [← split]
    exact mem_selected parsed
  have here : last ∈ s.selected (query.goingOn token) selector := by simp [split]
  have reached : last.1.Beyond token := (mem_selected parsed).mp here |>.2.1
  constructor
  · rintro ⟨found, below, wanted⟩
    rw [same key below] at found
    have listed := before.mpr ⟨found, reached.trans below, wanted⟩
    rcases List.mem_append.mp listed with early | listed
    · have earlier := across _ early _ List.mem_cons_self
      exact absurd (Std.TransCmp.lt_trans earlier below) (by simp [Std.ReflCmp.compare_self])
    rcases List.mem_cons.mp listed with rfl | listed
    · simp [Std.ReflCmp.compare_self] at below
    · exact listed
  · intro listed
    obtain ⟨found, -, wanted⟩ := before.mp (by simp [listed])
    have below := above _ listed
    exact ⟨(same key below).trans found, below, wanted⟩

end Page

/-- What a page of a listing holds: the first of what is stored and wanted beyond its token. -/
structure Leaf (s : MemoryStore k) (query : ListQuery) (token : Option String)
    (page : Page (Object k)) : Prop where
  sorted : page.keys.Pairwise fun a b => compare a b = .lt
  beyond : ∀ key ∈ page.keys, key.Beyond token
  stored : ∀ o ∈ page.items, s.objects.get? (.ofObject o) = some o ∧ query.Wants (.ofObject o) o
  short : ∀ n, query.limit = some n → 0 < n → page.items.length ≤ n
  ends : page.next = none → ∀ key o, s.objects.get? key = some o → key.Beyond token →
    query.Wants key o → key ∈ page.keys
  goesOn : ∀ next, page.next = some next → query.limit = some page.items.length ∧
    ∃ last : ObjectKey, last.Told ∧ next = last.text ∧ last.Beyond token ∧
      (∀ key ∈ page.keys, key = last ∨ compare key last = .lt) ∧
      ∀ key o, s.objects.get? key = some o → key.Beyond token → query.Wants key o →
        key ∈ page.keys ∨ compare last key = .lt

theorem Listable.shown {s : MemoryStore k} (listable : s.Listable) {query : ListQuery}
    {token : Option String} {entries : List (ObjectKey × Object k)}
    (sorted : entries.Pairwise fun a b => compare a.1 b.1 = .lt)
    (held : ∀ e ∈ entries, s.objects.get? e.1 = some e.2 ∧ e.1.Beyond token ∧ query.Wants e.1 e.2)
    (next : Option String) :
    let page : Page (Object k) := ⟨entries.map (·.2), next⟩
    page.keys = entries.map (·.1) ∧ (page.keys.Pairwise fun a b => compare a b = .lt) ∧
      (∀ key ∈ page.keys, key.Beyond token) ∧
      ∀ o ∈ page.items, s.objects.get? (.ofObject o) = some o ∧ query.Wants (.ofObject o) o := by
  intro page
  have keys : page.keys = entries.map (·.1) :=
    map_ofObject listable.toSound fun e listed => (held e listed).1
  refine ⟨keys, ?_, ?_, ?_⟩
  · rw [keys]
    exact List.pairwise_map.mpr sorted
  · rw [keys]
    intro key listed
    obtain ⟨e, here, rfl⟩ := List.mem_map.mp listed
    exact (held e here).2.1
  · intro o listed
    obtain ⟨e, here, rfl⟩ := List.mem_map.mp listed
    obtain ⟨found, -, wanted⟩ := held e here
    rw [listable.keyed found]
    exact ⟨found, wanted⟩

theorem Listable.leaf {s : MemoryStore k} (listable : s.Listable) {query : ListQuery}
    {token : Option String} {page : Page (Object k)}
    (listed : s.list (query.goingOn token) = .ok page) : Leaf s query token page := by
  obtain ⟨selector, parsed, rfl⟩ := list_eq_ok.mp listed
  have sorted := s.sorted_selected (query.goingOn token) selector
  have member : ∀ key o, (key, o) ∈ s.selected (query.goingOn token) selector ↔
      s.objects.get? key = some o ∧ key.Beyond token ∧ query.Wants key o :=
    fun key o => mem_selected parsed
  have shows := shows_pageOf query.limit (s.selected (query.goingOn token) selector)
  change Leaf s query token (pageOf query.limit _)
  generalize s.selected (query.goingOn token) selector = entries at sorted member shows
  generalize pageOf query.limit entries = page at shows
  have held : ∀ e ∈ entries,
      s.objects.get? e.1 = some e.2 ∧ e.1.Beyond token ∧ query.Wants e.1 e.2 :=
    fun e here => (member e.1 e.2).mp here
  cases shows with
  | whole short =>
    obtain ⟨keys, ordered, beyond, stored⟩ := listable.shown sorted held none
    refine ⟨ordered, beyond, stored, ?_, ?_, fun next impossible => nomatch impossible⟩
    · intro n limited positive
      rw [List.length_map]
      exact short n limited positive
    · intro _ key o found later wanted
      rw [keys]
      exact List.mem_map.mpr ⟨(key, o), (member key o).mpr ⟨found, later, wanted⟩, rfl⟩
  | @cut front back last split full more =>
    have before : entries = (front ++ [last]) ++ back := by simp [split]
    rw [before] at sorted
    obtain ⟨shown, -, across⟩ := List.pairwise_append.mp sorted
    obtain ⟨-, -, early⟩ := List.pairwise_append.mp shown
    have inside : ∀ e ∈ front ++ [last], e ∈ entries := by
      intro e listed
      rw [before]
      exact List.mem_append_left back listed
    obtain ⟨found, later, -⟩ := held last (inside last (by simp))
    obtain ⟨keys, ordered, beyond, stored⟩ :=
      listable.shown shown (fun e here => held e (inside e here)) (some last.1.text)
    refine ⟨ordered, beyond, stored, ?_, fun impossible => (nomatch impossible), ?_⟩
    · intro n limited positive
      obtain rfl := Option.some.inj (full.symm.trans limited)
      simp
    · intro next continues
      obtain rfl := Option.some.inj continues
      refine ⟨by simp [full], last.1, listable.told found, rfl, later, ?_, ?_⟩
      · rw [keys]
        intro key listed
        obtain ⟨e, here, rfl⟩ := List.mem_map.mp listed
        rcases List.mem_append.mp here with front | this
        · exact .inr (early e front last (List.mem_singleton.mpr rfl))
        · exact .inl (by rw [List.mem_singleton.mp this])
      · rw [keys]
        intro key o found later wanted
        have listed := (member key o).mpr ⟨found, later, wanted⟩
        rw [before] at listed
        rcases List.mem_append.mp listed with listed | rest
        · exact .inl (List.mem_map.mpr ⟨(key, o), listed, rfl⟩)
        · exact .inr (across last (by simp) (key, o) rest)

end MemoryStore

end Reconciler
