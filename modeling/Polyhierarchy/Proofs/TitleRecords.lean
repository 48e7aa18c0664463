import Mathlib.Data.List.Induction
import Mathlib.Tactic.ByContra
import Mathlib.Tactic.Lemma
import Polyhierarchy.Titles

set_option relaxedAutoImplicit false
set_option autoImplicit false

/-!
# What a cache of titles holds

A cache stands between a source of titles and those who ask for them. On both sides of it the
answers are recorded. Only a request that the source answers moves a page to the front: a request
that the cache answers leaves it as it is. So what the cache holds is a function of the record
behind it: the pages that the source has found titles for most lately, each with the last one.

## Main definitions

* `TitleSource.recorded` — a source that keeps a record of its answers.
* `TitleRecord.pages`, `TitleRecord.last?` — the pages that were answered with a title, the last
  one first, and the last title of each.
* `TitleStep`, `TitleHistory` — the use of a cached source, with the records on both sides of its
  cache.
* `TitleCache.Recalls` — a cache holds the last titles of a record.

## Main results

* `TitleHistory.fetch_cases` — all that a request can do.
* `TitleHistory.recalls_after` — after every history the cache holds the last titles of the record
  behind it.
* `TitleHistory.keeps_last_asked` — which pages are held, and when the source is asked again.
* `TitleHistory.served_page_evicted` — a page that the cache has just answered for may be the next
  to go.
-/

namespace Polyhierarchy

/-! ### Lists -/

/-- An element is found among the first ones if not too many come before it. -/
lemma mem_take_append_cons {α : Type} {l l' : List α} {a : α} {n : Nat} (h : a ∉ l) :
    a ∈ (l ++ a :: l').take n ↔ l.length < n := by
  rw [List.take_append, List.mem_append, or_iff_right fun hmem => h (List.mem_of_mem_take hmem)]
  constructor
  · intro hmem
    by_contra hle
    rw [Nat.sub_eq_zero_of_le (Nat.le_of_not_lt hle), List.take_zero] at hmem
    exact List.not_mem_nil hmem
  · intro hlt
    obtain ⟨k, hk⟩ := Nat.exists_eq_succ_of_ne_zero (Nat.sub_ne_zero_of_lt hlt)
    rw [hk, List.take_succ_cons]
    exact List.mem_cons_self

/-- What is found in the beginning of a list is found in the list. -/
lemma lookup_of_lookup_take {α β : Type} [BEq α] {l : List (α × β)} {n : Nat} {a : α} {b : β}
    (h : (l.take n).lookup a = some b) : l.lookup a = some b := by
  rw [← List.take_append_drop n l, List.lookup_append, h]
  rfl

section

variable {α β : Type} [BEq α] [LawfulBEq α]

/-- Entries of another key do not matter when one is looked up. -/
lemma lookup_filter_ne {a k : α} (h : a ≠ k) (l : List (α × β)) :
    (l.filter (·.1 != k)).lookup a = l.lookup a := by
  induction l with
  | nil => rfl
  | cons p l ih =>
    rw [List.filter_cons]
    split
    · rw [List.lookup_cons, List.lookup_cons, ih]
    next hk =>
      have hpk : p.1 = k := by simpa using hk
      rw [ih, List.lookup_cons, beq_false_of_ne (hpk ▸ h)]

/-- An element that is appended counts if it is the first of its kind. -/
lemma eraseDups_concat (l : List α) (a : α) :
    (l ++ [a]).eraseDups = if a ∈ l then l.eraseDups else l.eraseDups ++ [a] := by
  rw [List.eraseDups_append]
  by_cases ha : a ∈ l
  · simp [List.removeAll, ha]
  · simp [List.removeAll, ha, List.eraseDups_cons]

/-- It is the same to drop repetitions before some elements are taken out, and after. -/
lemma eraseDups_filter (p : α → Bool) (l : List α) :
    (l.filter p).eraseDups = l.eraseDups.filter p := by
  induction l using List.reverseRecOn with
  | nil => rfl
  | append_singleton l a ih =>
    rw [eraseDups_concat, List.filter_append]
    cases hp : p a with
    | false => split <;> simp [hp, ih]
    | true =>
      have hmem : a ∈ l.filter p ↔ a ∈ l := by simp [hp]
      simp only [List.filter_cons, hp, if_true, List.filter_nil, eraseDups_concat, hmem]
      split <;> simp [hp, ih]

/-- Taking out an element that comes late does not change the beginning of a list. -/
lemma take_filter_ne {l : List α} {a : α} {n : Nat} (h : a ∉ l.take (n + 1)) :
    (l.filter (· != a)).take n = l.take n := by
  induction l generalizing n with
  | nil => rfl
  | cons b l ih =>
    rw [List.take_succ_cons, List.mem_cons, not_or] at h
    have hb : (b != a) = true := bne_iff_ne.2 (Ne.symm h.1)
    cases n with
    | zero => rfl
    | succ n =>
      rw [List.filter_cons, if_pos hb, List.take_succ_cons, List.take_succ_cons, ih h.2]

end

/-! ### Records -/

/-- Answers with the URLs that they were given for, the last one first. -/
abbrev TitleRecord := List (CanonicalUrl × TitleAnswer)

namespace TitleRecord

/-- The answers that are titles, also of pages that have none, by canonical URL. -/
def titles (r : TitleRecord) : List (String × Option String) :=
  r.filterMap fun p =>
    match p.2 with
    | .title text => some (p.1.canonical, text)
    | .failure _ => none

/-- The canonical URLs that were answered with a title, each once, the last one first. -/
def pages (r : TitleRecord) : List String := (r.titles.map (·.1)).eraseDups

/-- The last title that was given for a canonical URL. -/
def last? (r : TitleRecord) (url : String) : Option (Option String) := r.titles.lookup url

variable {r : TitleRecord} {url : CanonicalUrl} {text : Option String}

@[simp] lemma titles_cons_title :
    titles ((url, .title text) :: r) = (url.canonical, text) :: r.titles := rfl

/-- A page that is answered with a title comes first, and nowhere else. -/
lemma pages_cons_title :
    pages ((url, .title text) :: r) = url.canonical :: r.pages.filter (· != url.canonical) := by
  rw [pages, titles_cons_title, List.map_cons, List.eraseDups_cons, eraseDups_filter]
  rfl

/-- Where the last title of a page stands among the pages of a record. -/
lemma exists_pages_append {newer : TitleRecord} (hnew : url.canonical ∉ newer.pages)
    (text : Option String) (older : TitleRecord) :
    ∃ rest, pages (newer ++ (url, .title text) :: older) =
      newer.pages ++ url.canonical :: rest := by
  have hnew' : url.canonical ∉ newer.titles.map (·.1) :=
    fun hmem => hnew (List.mem_eraseDups.2 hmem)
  have htitles : titles (newer ++ (url, .title text) :: older) =
      newer.titles ++ (url.canonical, text) :: older.titles := by
    rw [titles, List.filterMap_append]
    rfl
  have hhead : (!(newer.titles.map (·.1)).elem url.canonical) = true := by
    rw [Bool.not_eq_true', ← Bool.not_eq_true, List.elem_iff]
    exact hnew'
  rw [pages, htitles, List.map_append, List.map_cons, List.eraseDups_append, List.removeAll,
    List.filter_cons, if_pos hhead, List.eraseDups_cons]
  exact ⟨_, rfl⟩

end TitleRecord

namespace TitleSource

variable {σ : Type}

/-- A source that keeps a record of its answers. -/
def recorded (source : TitleSource σ) : TitleSource (TitleRecord × σ) where
  fetch url := fun (r, s) =>
    let (answer, s) := source.fetch url s
    (answer, (url, answer) :: r, s)

end TitleSource

/-! ### Histories -/

/-- What happens to a cached source: a title is asked for, the cache is cleared, or the source comes
to another state of itself. -/
inductive TitleStep (σ : Type) where
  | fetch (url : CanonicalUrl)
  | clear
  | change (s : σ)

/-- A cached source in use. Its records begin anew when its cache is cleared. -/
structure TitleHistory (σ : Type) where
  /-- The cache. -/
  cache : TitleCache
  /-- The state of the source. -/
  state : σ
  /-- The answers of the source behind the cache. -/
  asked : TitleRecord
  /-- The answers that came out in front of the cache. -/
  answered : TitleRecord

namespace TitleHistory

variable {σ : Type}

/-- The beginning, with an empty cache. -/
def start (capacity : Nat) (s : σ) : TitleHistory σ := ⟨.ofCapacity capacity, s, [], []⟩

/-- A request for a title. The source is recorded on both sides of its cache. -/
def fetch (h : TitleHistory σ) (source : TitleSource σ) (url : CanonicalUrl) :
    TitleAnswer × TitleHistory σ :=
  let (answer, answered, cache, asked, s) :=
    source.recorded.cached.recorded.fetch url (h.answered, h.cache, h.asked, h.state)
  (answer, ⟨cache, s, asked, answered⟩)

/-- What becomes of a cached source with a step. -/
def step (source : TitleSource σ) (h : TitleHistory σ) : TitleStep σ → TitleHistory σ
  | .fetch url => (h.fetch source url).2
  | .clear => ⟨h.cache.clear, h.state, [], []⟩
  | .change s => { h with state := s }

/-- What becomes of a cached source with some steps, one after another. -/
def after (source : TitleSource σ) (capacity : Nat) (s : σ) (steps : List (TitleStep σ)) :
    TitleHistory σ :=
  steps.foldl (step source) (start capacity s)

variable {source : TitleSource σ} {h : TitleHistory σ} {url : CanonicalUrl}

/-- **All that a request can do.** The cache has a title, which is the answer, and nothing but the
record in front of it changes. Or it has none, and the source is asked: a title is stored as the
last one, and a failure is not. -/
theorem fetch_cases (h : TitleHistory σ) (source : TitleSource σ) (url : CanonicalUrl) :
    (∃ text, h.cache.find? url.canonical = some text ∧ h.fetch source url =
      (.title text, { h with answered := (url, .title text) :: h.answered })) ∨
    h.cache.find? url.canonical = none ∧
      ((∃ text s, source.fetch url h.state = (.title text, s) ∧ h.fetch source url =
          (.title text, ⟨h.cache.store url.canonical text, s, (url, .title text) :: h.asked,
            (url, .title text) :: h.answered⟩)) ∨
        ∃ e s, source.fetch url h.state = (.failure e, s) ∧ h.fetch source url =
          (.failure e, ⟨h.cache, s, (url, .failure e) :: h.asked,
            (url, .failure e) :: h.answered⟩)) := by
  cases hfind : h.cache.find? url.canonical with
  | some text =>
    refine .inl ⟨text, rfl, ?_⟩
    simp only [fetch, TitleSource.recorded, TitleSource.cached, hfind]
  | none =>
    refine .inr ⟨rfl, ?_⟩
    rcases hs : source.fetch url h.state with ⟨text | e, s⟩
    · refine .inl ⟨text, s, rfl, ?_⟩
      simp only [fetch, TitleSource.recorded, TitleSource.cached, hfind, hs]
    · refine .inr ⟨e, s, rfl, ?_⟩
      simp only [fetch, TitleSource.recorded, TitleSource.cached, hfind, hs]

end TitleHistory

/-! ### What is held -/

namespace TitleCache

/-- A cache holds the last titles of a record. -/
structure Recalls (c : TitleCache) (r : TitleRecord) : Prop where
  /-- The pages are the last ones of the record, as many as there is room for. -/
  pages : c.entries.map (·.1) = r.pages.take c.capacity
  /-- The title of a page is its last one in the record. -/
  last : ∀ url text, c.find? url = some text → r.last? url = some text

variable {c : TitleCache} {r : TitleRecord} {url : CanonicalUrl} {text : Option String}

/-- Nothing is kept for a URL that is none of the keys. -/
lemma find?_eq_none_iff {k : String} : c.find? k = none ↔ k ∉ c.entries.map (·.1) := by
  rw [find?, List.lookup_eq_none_iff, List.mem_map, not_exists]
  refine forall_congr' fun p => ?_
  rw [bne_iff_ne, not_and]
  exact imp_congr_right fun _ => ⟨Ne.symm, Ne.symm⟩

/-- What is found after a title has been stored is that title, or was found before. -/
lemma find?_store {k k' : String} {found : Option String}
    (h : (c.store k text).find? k' = some found) :
    k' = k ∧ found = text ∨ k' ≠ k ∧ c.find? k' = some found := by
  have hstored := lookup_of_lookup_take h
  rw [List.lookup_cons] at hstored
  split at hstored
  next heq => exact .inl ⟨beq_iff_eq.1 heq, (Option.some.inj hstored).symm⟩
  next heq =>
    have hne : k' ≠ k := ne_of_beq_false heq
    rw [lookup_filter_ne hne] at hstored
    exact .inr ⟨hne, hstored⟩

/-- An empty cache holds all of an empty record. -/
lemma recalls_nil (capacity : Nat) : Recalls ⟨capacity, []⟩ [] where
  pages := List.take_nil.symm
  last _ _ hfind := nomatch hfind

/-- A failure of the source is not remembered. -/
lemma Recalls.failure (h : c.Recalls r) (e : FetchError) :
    c.Recalls ((url, .failure e) :: r) := ⟨h.pages, h.last⟩

/-- A title that the source is asked for is held as the last one.

**Proof sketch.** The page is not held, so storing it takes nothing out but what there is no room
for, and in the record it does not occur among the pages that are held. -/
lemma Recalls.store (h : c.Recalls r) (hroom : 0 < c.capacity)
    (hnew : c.find? url.canonical = none) :
    (c.store url.canonical text).Recalls ((url, .title text) :: r) := by
  obtain ⟨n, hn⟩ := Nat.exists_eq_succ_of_ne_zero (Nat.ne_of_gt hroom)
  have hkey := find?_eq_none_iff.1 hnew
  have hkept : c.entries.filter (·.1 != url.canonical) = c.entries := by
    refine List.filter_eq_self.2 fun p hp => bne_iff_ne.2 fun heq => ?_
    exact hkey (heq ▸ List.mem_map_of_mem hp)
  have hentries : (c.store url.canonical text).entries =
      (url.canonical, text) :: c.entries.take n := by
    rw [TitleCache.store, hkept, hn, List.take_succ_cons]
  constructor
  · rw [h.pages, hn] at hkey
    rw [hentries, List.map_cons, List.map_take, h.pages, TitleRecord.pages_cons_title,
      TitleCache.store, hn, List.take_take, List.take_succ_cons, take_filter_ne hkey,
      Nat.min_eq_left (Nat.le_succ n)]
  · intro k found hfind
    rw [TitleRecord.last?, TitleRecord.titles_cons_title, List.lookup_cons]
    rcases find?_store hfind with ⟨rfl, rfl⟩ | ⟨hne, hfind⟩
    · rw [beq_self_eq_true]
    · rw [beq_false_of_ne hne]
      exact h.last k found hfind

end TitleCache

namespace TitleHistory

variable {σ : Type} {source : TitleSource σ} {h : TitleHistory σ}

/-- A request keeps the room of the cache, and what it recalls. -/
lemma recalls_fetch (hroom : 0 < h.cache.capacity) (hc : h.cache.Recalls h.asked)
    (url : CanonicalUrl) :
    (h.fetch source url).2.cache.capacity = h.cache.capacity ∧
      (h.fetch source url).2.cache.Recalls (h.fetch source url).2.asked := by
  rcases h.fetch_cases source url with
    ⟨text, -, heq⟩ | ⟨hnew, ⟨text, s, -, heq⟩ | ⟨e, s, -, heq⟩⟩ <;> rw [heq]
  · exact ⟨rfl, hc⟩
  · exact ⟨rfl, hc.store hroom hnew⟩
  · exact ⟨rfl, hc.failure e⟩

/-- Whatever happens, the cache keeps its room and recalls the record behind it. -/
lemma recalls_step (source : TitleSource σ) (hroom : 0 < h.cache.capacity)
    (hc : h.cache.Recalls h.asked) (x : TitleStep σ) :
    (h.step source x).cache.capacity = h.cache.capacity ∧
      (h.step source x).cache.Recalls (h.step source x).asked := by
  cases x with
  | fetch url => exact recalls_fetch hroom hc url
  | clear => exact ⟨rfl, TitleCache.recalls_nil _⟩
  | change s => exact ⟨rfl, hc⟩

/-- **After every history the cache holds the last titles of the record behind it**, and has the
room that it was given, at least for one. -/
theorem recalls_after (source : TitleSource σ) (capacity : Nat) (s : σ)
    (steps : List (TitleStep σ)) :
    (after source capacity s steps).cache.capacity = max capacity 1 ∧
      (after source capacity s steps).cache.Recalls (after source capacity s steps).asked := by
  have hrun : ∀ h : TitleHistory σ, h.cache.capacity = max capacity 1 →
      h.cache.Recalls h.asked →
        (steps.foldl (step source) h).cache.capacity = max capacity 1 ∧
          (steps.foldl (step source) h).cache.Recalls (steps.foldl (step source) h).asked := by
    induction steps with
    | nil => exact fun _ hcapacity hc => ⟨hcapacity, hc⟩
    | cons x steps ih =>
      intro h hcapacity hc
      have hroom : 0 < h.cache.capacity := hcapacity ▸ Nat.le_max_right capacity 1
      obtain ⟨hcapacity', hc'⟩ := recalls_step source hroom hc x
      exact ih _ (hcapacity'.trans hcapacity) hc'
  exact hrun _ rfl (TitleCache.recalls_nil _)

/-- The source is asked exactly if nothing is held for the page. -/
lemma fetch_asked_eq_iff (h : TitleHistory σ) (source : TitleSource σ) (url : CanonicalUrl) :
    (h.fetch source url).2.asked = h.asked ↔ url.canonical ∈ h.cache.entries.map (·.1) := by
  have hcons : ∀ a, (url, a) :: h.asked ≠ h.asked := fun a => List.cons_ne_self _ _
  rcases h.fetch_cases source url with
    ⟨text, hfind, heq⟩ | ⟨hnew, ⟨text, s, -, heq⟩ | ⟨e, s, -, heq⟩⟩ <;> rw [heq]
  · refine ⟨fun _ => ?_, fun _ => rfl⟩
    by_contra hkey
    rw [TitleCache.find?_eq_none_iff.2 hkey] at hfind
    cases hfind
  · exact iff_of_false (hcons _) (TitleCache.find?_eq_none_iff.1 hnew)
  · exact iff_of_false (hcons _) (TitleCache.find?_eq_none_iff.1 hnew)

/-- **Which pages are held after every history**: the last ones that the source itself has answered
for with a title since the cache was cleared, as many as there is room for, in this order. So a page
that the source has answered for is answered for by the cache exactly as long as fewer other pages
than there is room for have been answered for by the source since. How often the cache has answered
for a page does not count. -/
theorem keeps_last_asked (source : TitleSource σ) (capacity : Nat) (s : σ)
    (steps : List (TitleStep σ)) :
    let h := after source capacity s steps
    h.cache.entries.map (·.1) = h.asked.pages.take (max capacity 1) ∧
    ∀ (url u : CanonicalUrl) (text : Option String) (newer older : TitleRecord),
      h.asked = newer ++ (u, .title text) :: older → u.canonical = url.canonical →
        url.canonical ∉ newer.pages →
          ((h.fetch source url).2.asked = h.asked ↔ newer.pages.length < max capacity 1) := by
  intro h
  obtain ⟨hcapacity, hc⟩ := recalls_after source capacity s steps
  have hpages : h.cache.entries.map (·.1) = h.asked.pages.take (max capacity 1) := by
    rw [← hcapacity]
    exact hc.pages
  refine ⟨hpages, fun url u text newer older hasked hu hnew => ?_⟩
  rw [← hu] at hnew
  obtain ⟨rest, hrest⟩ := TitleRecord.exists_pages_append hnew text older
  rw [fetch_asked_eq_iff, hpages, hasked, hrest, ← hu]
  exact mem_take_append_cons hnew

/-- A page whose URL is in canonical form. -/
def sitePage (name : String) : CanonicalUrl :=
  ⟨"http://" ++ name ++ ".example/", "http://" ++ name ++ ".example/"⟩

/-- Requests for three pages, of which the first one is asked for again before the third. -/
def visits : List (TitleStep Unit) :=
  [.fetch (sitePage "a"), .fetch (sitePage "b"), .fetch (sitePage "a"), .fetch (sitePage "c")]

/-- With room for two, the second and the third page are held after the visits, and the source is
not asked for the second one again. -/
theorem keeps_last_asked_visits :
    let h := after .silent 2 () visits
    h.cache.entries.map (·.1) = [(sitePage "c").canonical, (sitePage "b").canonical] ∧
      (h.fetch .silent (sitePage "b")).2.asked = h.asked := by
  intro h
  obtain ⟨hpages, hserved⟩ := keeps_last_asked .silent 2 () visits
  have hasked : h.asked = [(sitePage "c", .title none)] ++
      (sitePage "b", .title none) :: [(sitePage "a", .title none)] := by decide +kernel
  refine ⟨hpages.trans ?_, (hserved _ _ _ _ _ hasked rfl ?_).2 ?_⟩
  · decide +kernel
  · decide +kernel
  · decide +kernel

/-- **A page that was asked for lately may be gone.** The third request of the visits is answered by
the cache. With room for two, the pages held after the visits are not the last two that were asked
for with success: the one that the cache has answered for is gone, though only one other page has
been asked for since, and the source is asked for it again. -/
theorem served_page_evicted :
    let h := after .silent 2 () visits
    h.answered = [(sitePage "c", .title none), (sitePage "a", .title none),
        (sitePage "b", .title none), (sitePage "a", .title none)] ∧
      h.asked.length = 3 ∧
      ¬ (∀ k, k ∈ h.cache.entries.map (·.1) ↔ k ∈ h.answered.pages.take (max 2 1)) ∧
      (h.fetch .silent (sitePage "a")).2.asked ≠ h.asked := by
  intro h
  refine ⟨by decide +kernel, by decide +kernel, fun hall => ?_, by decide +kernel⟩
  have hgone : (sitePage "a").canonical ∉ h.cache.entries.map (·.1) := by decide +kernel
  exact hgone ((hall _).2 (by decide +kernel))

end TitleHistory

end Polyhierarchy
