import Reconciler.Proofs.Store.Listing

/-!
Listings read page by page while other clients are served. What one page leaves out comes
after its last key, so that no write between two pages makes a listing miss or repeat what is
there all the time.
-/

set_option autoImplicit false

namespace Reconciler.MemoryStore

variable {k : Kind}

/-- A listing read page by page, each page with the token of the one before it, while other
clients are served. The pages come with the stores that they show. -/
inductive Paging (query : ListQuery) :
    Option String → MemoryStore k → List (MemoryStore k × Page (Object k)) → Prop
  | page {token : Option String} {s : MemoryStore k} {page : Page (Object k)}
      (listed : s.list (query.goingOn token) = .ok page) : Paging query token s [(s, page)]
  | turn {token : Option String} {s : MemoryStore k} {page : Page (Object k)} {next : String}
      {between : List (Request k)} {pages : List (MemoryStore k × Page (Object k))}
      (listed : s.list (query.goingOn token) = .ok page) (continues : page.next = some next)
      (told : ∀ q ∈ between, ∀ key, q.subject? = some key → key.Told)
      (rest : Paging query (some next) (s.afterAll between) pages) :
      Paging query token s ((s, page) :: pages)

def Finished (pages : List (MemoryStore k × Page (Object k))) : Prop :=
  ∀ p, pages.getLast? = some p → p.2.next = none

def shownKeys (pages : List (MemoryStore k × Page (Object k))) : List ObjectKey :=
  pages.flatMap fun p => p.2.keys

theorem Paging.head_mem {query : ListQuery} {token : Option String} {s : MemoryStore k}
    {pages : List (MemoryStore k × Page (Object k))} (paging : Paging query token s pages) :
    ∃ page, (s, page) ∈ pages := by
  cases paging <;> exact ⟨_, List.mem_cons_self⟩

theorem Paging.parsed {query : ListQuery} {token : Option String} {s : MemoryStore k}
    {pages : List (MemoryStore k × Page (Object k))} (paging : Paging query token s pages) :
    ∃ selector, Selector.parseOptional query.selector = .ok selector := by
  cases paging with
  | page listed | turn listed continues told rest =>
    obtain ⟨selector, parsed, -⟩ := list_eq_ok.mp listed
    exact ⟨selector, parsed⟩

theorem Paging.ne_nil {query : ListQuery} {token : Option String} {s : MemoryStore k}
    {pages : List (MemoryStore k × Page (Object k))} (paging : Paging query token s pages) :
    pages ≠ [] := by
  obtain ⟨page, first⟩ := paging.head_mem
  exact List.ne_nil_of_mem first

@[simp] theorem finished_singleton {p : MemoryStore k × Page (Object k)} :
    Finished [p] ↔ p.2.next = none := by
  simp [Finished]

theorem finished_cons {p : MemoryStore k × Page (Object k)}
    {pages : List (MemoryStore k × Page (Object k))} (more : pages ≠ []) :
    Finished (p :: pages) ↔ Finished pages := by
  obtain ⟨p', pages, rfl⟩ := List.exists_cons_of_ne_nil more
  simp [Finished, List.getLast?_cons_cons]

/-- What the pages of a listing hold together, beyond the token of the first. -/
structure Exact (query : ListQuery) (token : Option String)
    (pages : List (MemoryStore k × Page (Object k))) : Prop where
  sorted : (shownKeys pages).Pairwise fun a b => compare a b = .lt
  beyond : ∀ key ∈ shownKeys pages, key.Beyond token
  stored : ∀ p ∈ pages, ∀ o ∈ p.2.items,
    p.1.objects.get? (.ofObject o) = some o ∧ query.Wants (.ofObject o) o
  short : ∀ p ∈ pages, ∀ n, query.limit = some n → 0 < n → p.2.items.length ≤ n
  full : ∀ p ∈ pages.dropLast, query.limit = some p.2.items.length
  complete : Finished pages → ∀ key, key.Beyond token →
    (∀ p ∈ pages, ∃ o, p.1.objects.get? key = some o ∧ query.Wants key o) → key ∈ shownKeys pages

namespace Exact

variable {s : MemoryStore k} {query : ListQuery} {token : Option String} {page : Page (Object k)}
  {pages : List (MemoryStore k × Page (Object k))}

theorem single (leaf : Leaf s query token page) : Exact query token [(s, page)] where
  sorted := by simpa [shownKeys] using leaf.sorted
  beyond := by simpa [shownKeys] using leaf.beyond
  stored := by simpa using leaf.stored
  short := by simpa using leaf.short
  full := by simp
  complete := by
    intro finished key beyond kept
    obtain ⟨o, stored, wanted⟩ := kept _ List.mem_cons_self
    have listed := leaf.ends (finished_singleton.mp finished) key o stored beyond wanted
    simpa [shownKeys] using listed

theorem turn {next : String} (leaf : Leaf s query token page) (continues : page.next = some next)
    (more : pages ≠ []) (rest : Exact query (some next) pages) :
    Exact query token ((s, page) :: pages) := by
  obtain ⟨full, last, told, rfl, reached, before, after⟩ := leaf.goesOn next continues
  have later : ∀ key ∈ shownKeys pages, compare last key = .lt := by
    intro key listed
    exact (ObjectKey.beyond_text told).mp (rest.beyond key listed)
  have keys : shownKeys ((s, page) :: pages) = page.keys ++ shownKeys pages := rfl
  refine ⟨?_, ?_, ?_, ?_, ?_, ?_⟩
  · rw [keys]
    refine List.pairwise_append.mpr ⟨leaf.sorted, rest.sorted, ?_⟩
    intro key listed key' listed'
    rcases before key listed with rfl | early
    · exact later key' listed'
    · exact Std.TransCmp.lt_trans early (later key' listed')
  · rw [keys]
    intro key listed
    rcases List.mem_append.mp listed with here | there
    · exact leaf.beyond key here
    · exact reached.trans (later key there)
  · intro p listed
    rcases List.mem_cons.mp listed with rfl | listed
    · exact leaf.stored
    · exact rest.stored p listed
  · intro p listed
    rcases List.mem_cons.mp listed with rfl | listed
    · exact leaf.short
    · exact rest.short p listed
  · intro p listed
    rw [List.dropLast_cons_of_ne_nil more] at listed
    rcases List.mem_cons.mp listed with rfl | listed
    · exact full
    · exact rest.full p listed
  · intro finished key beyond kept
    rw [keys, List.mem_append]
    obtain ⟨o, stored, wanted⟩ := kept _ List.mem_cons_self
    rcases after key o stored beyond wanted with here | late
    · exact .inl here
    · refine .inr (rest.complete ((finished_cons more).mp finished) key ?_ ?_)
      · exact (ObjectKey.beyond_text told).mpr late
      · intro p listed
        exact kept p (List.mem_cons_of_mem _ listed)

end Exact

theorem Paging.exact {query : ListQuery} {token : Option String} {s : MemoryStore k}
    {pages : List (MemoryStore k × Page (Object k))} (paging : Paging query token s pages)
    (listable : s.Listable) : Exact query token pages := by
  induction paging with
  | page listed => exact .single (listable.leaf listed)
  | turn listed continues told rest ih =>
    exact .turn (listable.leaf listed) continues rest.ne_nil (ih (listable.afterAll told))

section Quiet

variable {s : MemoryStore k} {query : ListQuery} {selector : Selector}

theorem list_unlimited (parsed : Selector.parseOptional query.selector = .ok selector) :
    s.list query.unlimited = .ok ⟨(s.selected (query.goingOn none) selector).map (·.2), none⟩ :=
  list_eq_ok.mpr ⟨selector, parsed, rfl⟩

theorem Paging.items_of_quiet {token : Option String}
    {pages : List (MemoryStore k × Page (Object k))} (paging : Paging query token s pages)
    (listable : s.Listable) (parsed : Selector.parseOptional query.selector = .ok selector)
    (quiet : ∀ p ∈ pages, p.1 = s) (finished : Finished pages) :
    pages.flatMap (·.2.items) = (s.selected (query.goingOn token) selector).map (·.2) := by
  induction paging with
  | @page token s page listed =>
    obtain ⟨page', listed', shows⟩ := s.list_goingOn parsed token
    obtain rfl := Except.ok.inj (listed.symm.trans listed')
    have ends := finished_singleton.mp finished
    cases shows with
    | whole short => simp
    | cut split full more => cases ends
  | @turn token s page next between pages listed continues told rest ih =>
    obtain ⟨page', listed', shows⟩ := s.list_goingOn parsed token
    obtain rfl := Except.ok.inj (listed.symm.trans listed')
    -- the store that the second page shows is the first one
    have same : s.afterAll between = s := by
      obtain ⟨page', first⟩ := rest.head_mem
      exact quiet _ (List.mem_cons_of_mem _ first)
    rw [same] at ih
    cases shows with
    | whole short => cases continues
    | @cut front back last split full more =>
      obtain rfl := Option.some.inj continues
      have here : (last.1, last.2) ∈ s.selected (query.goingOn token) selector := by simp [split]
      have known : last.1.Told := listable.told ((mem_selected parsed).mp here).1
      have later := ih listable (fun p listed => quiet p (List.mem_cons_of_mem _ listed))
        ((finished_cons rest.ne_nil).mp finished)
      rw [selected_goingOn parsed split known fun _ _ => rfl] at later
      rw [List.flatMap_cons, later, split]
      simp

theorem exists_quiet (listable : s.Listable) (query : ListQuery)
    (parsed : Selector.parseOptional query.selector = .ok selector) (token : Option String) :
    ∃ pages, Paging query token s pages ∧ Finished pages ∧ ∀ p ∈ pages, p.1 = s := by
  generalize size : (s.selected (query.goingOn token) selector).length = n
  induction n using Nat.strong_induction_on generalizing token with
  | _ n ih =>
    obtain ⟨page, listed, shows⟩ := s.list_goingOn parsed token
    cases shows with
    | whole short => exact ⟨_, .page listed, by simp, by simp⟩
    | @cut front back last split full more =>
      have here : (last.1, last.2) ∈ s.selected (query.goingOn token) selector := by simp [split]
      have known : last.1.Told := listable.told ((mem_selected parsed).mp here).1
      have rest := selected_goingOn parsed split known fun _ _ => rfl
      have fewer : back.length < n := by
        rw [← size, split]
        simp
        omega
      obtain ⟨pages, paging, finished, quiet⟩ := ih back.length fewer _ (by rw [rest])
      have untouched : ∀ q ∈ ([] : List (Request k)), ∀ key, q.subject? = some key → key.Told :=
        fun q impossible => nomatch impossible
      refine ⟨_, .turn listed rfl untouched paging, (finished_cons paging.ne_nil).mpr finished, ?_⟩
      intro p listed
      rcases List.mem_cons.mp listed with rfl | listed
      · rfl
      · exact quiet p listed

end Quiet

/-- From a store whose keys can be told, with a limit of one or more: whatever is done to such
keys between the pages, the keys on the pages increase, each object shown is stored and wanted
at that moment, every page but the last is full, and when the listing is read to its end, each
key that was stored and wanted at every page has been shown once. If nothing was written, the
pages are the listing without a limit. With a selector that can be read no page fails, the
listing without a limit holds the objects that are wanted in the order of their keys, and the
pages can be read to the last. -/
theorem pages_hold_the_listing (past : List (Request k)) {s : MemoryStore k}
    (made : s = empty.afterAll past)
    (told : ∀ key o, s.objects.get? key = some o → key.Told) {query : ListQuery} {limit : Nat}
    (limited : query.limit = some limit) (positive : 0 < limit) :
    (∀ pages, Paging query none s pages →
      ((shownKeys pages).Pairwise fun a b => compare a b = .lt) ∧
      (∀ p ∈ pages, ∀ o ∈ p.2.items,
        p.1.objects.get? (.ofObject o) = some o ∧ query.Wants (.ofObject o) o) ∧
      (∀ p ∈ pages.dropLast, p.2.items.length = limit) ∧
      (∀ p ∈ pages, p.2.items.length ≤ limit) ∧
      (Finished pages → ∀ key,
        (∀ p ∈ pages, ∃ o, p.1.objects.get? key = some o ∧ query.Wants key o) →
          (shownKeys pages).count key = 1) ∧
      (Finished pages → (∀ p ∈ pages, p.1 = s) →
        s.list query.unlimited = .ok ⟨pages.flatMap (·.2.items), none⟩)) ∧
    ∀ selector, Selector.parseOptional query.selector = .ok selector →
      (∀ (s' : MemoryStore k) token, ∃ page, s'.list (query.goingOn token) = .ok page) ∧
      (∃ all, s.list query.unlimited = .ok all ∧
        (all.keys.Pairwise fun a b => compare a b = .lt) ∧
        ∀ key o, (o ∈ all.items ∧ .ofObject o = key) ↔
          s.objects.get? key = some o ∧ query.Wants key o) ∧
      ∃ pages, Paging query none s pages ∧ Finished pages ∧ ∀ p ∈ pages, p.1 = s := by
  have listable : s.Listable :=
    { toSound := made ▸ sound_empty.afterAll past, told := fun found => told _ _ found }
  have everywhere : ∀ key : ObjectKey, key.Beyond none := fun key t none => nomatch none
  refine ⟨?_, ?_⟩
  · intro pages paging
    have exact := paging.exact listable
    refine ⟨exact.sorted, exact.stored, ?_, ?_, ?_, ?_⟩
    · intro p listed
      exact Option.some.inj ((exact.full p listed).symm.trans limited)
    · intro p listed
      exact exact.short p listed limit limited positive
    · intro finished key kept
      have listed := exact.complete finished key (everywhere key) kept
      exact List.count_eq_one_of_mem (SortedMap.nodup_of_sorted exact.sorted) listed
    · intro finished quiet
      obtain ⟨page, first⟩ := paging.head_mem
      obtain ⟨selector, parsed⟩ := paging.parsed
      rw [list_unlimited parsed, paging.items_of_quiet listable parsed quiet finished]
  · intro selector parsed
    have leaf : Leaf s query.unlimited none _ := listable.leaf (list_unlimited parsed)
    refine ⟨?_, ⟨_, list_unlimited parsed, leaf.sorted, ?_⟩,
      exists_quiet listable query parsed none⟩
    · intro s' token
      obtain ⟨page, listed, -⟩ := s'.list_goingOn parsed token
      exact ⟨page, listed⟩
    · intro key o
      constructor
      · rintro ⟨shown, rfl⟩
        exact leaf.stored o shown
      · rintro ⟨found, wanted⟩
        refine ⟨?_, listable.keyed found⟩
        exact List.mem_map.mpr
          ⟨(key, o), (mem_selected parsed).mpr ⟨found, everywhere key, wanted⟩, rfl⟩

def threeVolumes : List (Request .volume) :=
  ["v1", "v2", "v3"].map fun name => .call .unbounded .zero default
    (.create { Object.plainVolume with
      metadata := { Object.plainVolume.metadata with name := some name } })

theorem told_threeVolumes : ∀ key o,
    (empty.afterAll threeVolumes).objects.get? key = some o → key.Told := by
  intro key o found
  have keys : (empty.afterAll threeVolumes).keys =
      [⟨some "a", "v1"⟩, ⟨some "a", "v2"⟩, ⟨some "a", "v3"⟩] := by decide +kernel
  have listed : key ∈ (empty.afterAll threeVolumes).keys :=
    List.mem_map.mpr ⟨_, SortedMap.get?_eq_some_iff.mp found, rfl⟩
  rw [keys] at listed
  simp only [List.mem_cons, List.not_mem_nil, or_false] at listed
  rcases listed with rfl | rfl | rfl <;> rfl

/-- Three volumes are listed in two pages, each of them once, although the volume that the token
names is removed before the second page is asked for. -/
theorem listing_outlives_its_token :
    let remove : Request .volume := .call .unbounded .zero default (.delete ⟨some "a", "v2"⟩ none)
    let s := empty.afterAll threeVolumes
    ∃ page page', Paging { ListQuery.everything with limit := some 2 } none s
        [(s, page), (s.afterAll [remove], page')] ∧
      page.next = some "a/v2" ∧ page'.next = none ∧ page.items.length = 2 ∧
      (shownKeys [(s, page), (s.afterAll [remove], page')]).count ⟨some "a", "v3"⟩ = 1 := by
  intro remove s
  have answered {x : Except Error (Page (Object .volume))} {page : Page (Object .volume)}
      (told : x.toOption = some page) : x = .ok page := by
    cases x with
    | error e => cases told
    | ok page => exact congrArg Except.ok (Option.some.inj told)
  have first : (s.list { ListQuery.everything with limit := some 2 }).toOption.map
      (fun page => (page.next, page.keys)) =
        some (some "a/v2", [⟨some "a", "v1"⟩, ⟨some "a", "v2"⟩]) := by decide +kernel
  have second : ((s.afterAll [remove]).list
      { ListQuery.everything with limit := some 2, continueAfter := some "a/v2" }).toOption.map
        (fun page => (page.next, page.keys)) = some (none, [⟨some "a", "v3"⟩]) := by decide +kernel
  have kept : (s.objects.contains ⟨some "a", "v3"⟩ &&
      (s.afterAll [remove]).objects.contains ⟨some "a", "v3"⟩) = true := by decide +kernel
  obtain ⟨here, there⟩ := Bool.and_eq_true_iff.mp kept
  obtain ⟨page, listed, shown⟩ := Option.map_eq_some_iff.mp first
  obtain ⟨page', listed', shown'⟩ := Option.map_eq_some_iff.mp second
  obtain ⟨next, -⟩ := Prod.mk.inj shown
  obtain ⟨next', -⟩ := Prod.mk.inj shown'
  have made : s = empty.afterAll threeVolumes := rfl
  have told : ∀ key o, s.objects.get? key = some o → key.Told := told_threeVolumes
  clear_value s
  have between : ∀ q ∈ [remove], ∀ key, q.subject? = some key → key.Told := by
    intro q here key subject
    rw [List.mem_singleton.mp here] at subject
    obtain rfl := Option.some.inj subject
    rfl
  have paging : Paging { ListQuery.everything with limit := some 2 } none s
      [(s, page), (s.afterAll [remove], page')] :=
    .turn (answered listed) next between (.page (answered listed'))
  obtain ⟨-, -, full, -, once, -⟩ :=
    (pages_hold_the_listing threeVolumes made told rfl (by decide)).1 _ paging
  refine ⟨page, page', paging, next, next', full (s, page) (by simp), once ?_ _ ?_⟩
  · simpa [Finished] using next'
  · intro p listed
    have stored : p.1.objects.contains ⟨some "a", "v3"⟩ = true := by
      simp only [List.mem_cons, List.not_mem_nil, or_false] at listed
      rcases listed with rfl | rfl
      · exact here
      · exact there
    obtain ⟨o, found⟩ := Option.isSome_iff_exists.mp stored
    exact ⟨o, found, fun ns none => (nomatch none), [], rfl, rfl⟩

end Reconciler.MemoryStore
