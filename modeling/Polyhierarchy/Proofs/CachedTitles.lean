import Polyhierarchy.Proofs.History
import Polyhierarchy.Proofs.TitleRecords

set_option relaxedAutoImplicit false
set_option autoImplicit false

/-!
# A cache of titles does not show

Whoever asks for a title cannot tell that there is a cache, as far as the source lets it: the answer
is the one that the source gives to this request, or the last title that it has given for the page
since the cache was cleared. If the source gives the same answer for a page at all times, then the
answers are those of the source, and so is all that calls return and store.

## Main definitions

* `TitleCache.Agrees` — a cache holds no other titles than those of a function.
* `TitleUse`, `TitleUse.on` — requests, calls and clearings, with any source of titles.

## Main results

* `Operation.run_cached` — a call does the same with a cached source, if the source never changes
  its answers.
* `TitleUse.onEach_cached` — so do any number of requests, calls and clearings.
* `TitleSource.cached_transparent` — what comes out of a cached source after every history.
-/

namespace Polyhierarchy

variable {σ τ : Type}

/-! ### Sources that never change their answers -/

/-- A cache holds no other titles than those that a function gives. -/
def TitleCache.Agrees (c : TitleCache) (answer : String → TitleAnswer) : Prop :=
  ∀ url text, c.find? url = some text → answer url = .title text

section

variable {source : TitleSource σ} {answer : String → TitleAnswer} {c : TitleCache}

lemma TitleCache.agrees_nil (capacity : Nat) : Agrees ⟨capacity, []⟩ answer :=
  fun _ _ hfind => nomatch hfind

/-- A title that the function gives can be stored. -/
lemma TitleCache.Agrees.store (hc : c.Agrees answer) {url : String} {text : Option String}
    (htext : answer url = .title text) : (c.store url text).Agrees answer := by
  intro k found hfind
  rcases find?_store hfind with ⟨rfl, rfl⟩ | ⟨-, hfind⟩
  · exact htext
  · exact hc k found hfind

/-- A cached source gives the answers of the function that its source follows. -/
lemma TitleSource.fetch_cached
    (halways : ∀ url s, (source.fetch url s).1 = answer url.canonical) (hc : c.Agrees answer)
    (url : CanonicalUrl) (s : σ) :
    (source.cached.fetch url (c, s)).1 = answer url.canonical ∧
      (source.cached.fetch url (c, s)).2.1.Agrees answer := by
  have hanswer := halways url s
  simp only [TitleSource.cached]
  cases hfind : c.find? url.canonical with
  | some text => exact ⟨(hc _ _ hfind).symm, hc⟩
  | none =>
    rcases hs : source.fetch url s with ⟨text | e, s'⟩ <;> rw [hs] at hanswer
    · exact ⟨hanswer, hc.store hanswer.symm⟩
    · exact ⟨hanswer, hc⟩

/-- **A call does the same with a cached source and with the source itself**, if the source never
changes its answers: it returns the same and leaves the store as it would. -/
theorem Operation.run_cached {μ κ ε α : Type}
    (halways : ∀ url s, (source.fetch url s).1 = answer url.canonical) (op : Operation α)
    (store : Store μ κ ε) (d : Deadline) (hc : c.Agrees answer) (m : μ) (s s' : σ) :
    let x := op.run store source.cached d (m, c, s)
    let y := op.run store source d (m, s')
    x.1 = y.1 ∧ x.2.1 = y.2.1 ∧ x.2.2.1.Agrees answer := by
  induction op generalizing c s s' with
  | answer a => exact ⟨rfl, rfl, hc⟩
  | fetchTitle url next ih =>
    obtain ⟨hsame, hc'⟩ := TitleSource.fetch_cached halways hc url s
    simp only [Operation.run, hsame, halways url s']
    exact ih _ hc' _ _
  | session body => exact ⟨rfl, rfl, hc⟩

end

/-! ### Requests, calls and clearings -/

/-- How a cached source is used: a title is asked for, the cache is cleared, or a call asks for
titles on its way. -/
inductive TitleUse where
  | fetch (url : CanonicalUrl)
  | clear
  | call (m : Mutation) (d : Deadline)

/-- What comes out of a use. -/
inductive TitleOutcome where
  | answer (a : TitleAnswer)
  | cleared
  | result {m : Mutation} (v : Except EngineError m.Result)

namespace TitleUse

/-- A use of a source of titles, with a store in memory for the calls. -/
def on (titles : TitleSource τ) (clear : τ → τ) :
    TitleUse → Memory × τ → TitleOutcome × Memory × τ
  | .fetch url, (mem, s) => (.answer (titles.fetch url s).1, mem, (titles.fetch url s).2)
  | .clear, (mem, s) => (.cleared, mem, clear s)
  | .call m d, x =>
    (.result (m.operation.run Memory.store titles d x).1,
      (m.operation.run Memory.store titles d x).2)

/-- One use after another, with all that comes out. -/
def onEach (titles : TitleSource τ) (clear : τ → τ) :
    List TitleUse → Memory × τ → List TitleOutcome × Memory × τ
  | [], x => ([], x)
  | u :: us, x =>
    let rest := onEach titles clear us (u.on titles clear x).2
    ((u.on titles clear x).1 :: rest.1, rest.2)

variable {source : TitleSource σ} {answer : String → TitleAnswer} {c : TitleCache}

/-- A use of a cached source does what a use of the source does, where there is nothing to clear. -/
lemma on_cached (halways : ∀ url s, (source.fetch url s).1 = answer url.canonical)
    (hc : c.Agrees answer) (u : TitleUse) (mem : Memory) (s s' : σ) :
    let x := u.on source.cached (fun y => (y.1.clear, y.2)) (mem, c, s)
    let y := u.on source id (mem, s')
    x.1 = y.1 ∧ x.2.1 = y.2.1 ∧ x.2.2.1.Agrees answer := by
  cases u with
  | fetch url =>
    obtain ⟨hsame, hc'⟩ := TitleSource.fetch_cached halways hc url s
    exact ⟨congrArg TitleOutcome.answer (hsame.trans (halways url s').symm), rfl, hc'⟩
  | clear => exact ⟨rfl, rfl, TitleCache.agrees_nil _⟩
  | call m d =>
    obtain ⟨hresult, hmem, hc'⟩ :=
      Operation.run_cached halways m.operation Memory.store d hc mem s s'
    exact ⟨congrArg TitleOutcome.result hresult, hmem, hc'⟩

/-- **Any number of uses of a cached source do what they do with the source itself**, if this never
changes its answers. -/
theorem onEach_cached (halways : ∀ url s, (source.fetch url s).1 = answer url.canonical)
    (hc : c.Agrees answer) (uses : List TitleUse) (mem : Memory) (s s' : σ) :
    let x := onEach source.cached (fun y => (y.1.clear, y.2)) uses (mem, c, s)
    let y := onEach source id uses (mem, s')
    x.1 = y.1 ∧ x.2.1 = y.2.1 := by
  induction uses generalizing c mem s s' with
  | nil => exact ⟨rfl, rfl⟩
  | cons u us ih =>
    have hstep := on_cached halways hc u mem s s'
    rcases hx : u.on source.cached (fun y => (y.1.clear, y.2)) (mem, c, s)
      with ⟨outcome, mem₁, c₁, s₁⟩
    rcases hy : u.on source id (mem, s') with ⟨outcome', mem₂, s₂⟩
    rw [hx, hy] at hstep
    obtain ⟨rfl, rfl, hc'⟩ := hstep
    obtain ⟨hrest, hmem⟩ := ih hc' mem₁ s₁ s₂
    simp only [onEach, hx, hy, hrest, hmem, and_self]

end TitleUse

/-! ### What comes out of a cached source -/

open TitleHistory in
/-- **What comes out of a cached source after every history.** The cache holds no more titles than
there is room for. The answer to a request is the one that the source gives to this very request, or
the source is not asked, and the answer is the last title that it has given for the page since the
cache was cleared. A failure comes out only if the source has just failed, and leaves the cache as
it was. If the source never changes its answers, then whatever is requested, called and cleared,
what comes out and what is stored are the same as without the cache. -/
theorem TitleSource.cached_transparent (source : TitleSource σ) (capacity : Nat) (s : σ) :
    (∀ steps : List (TitleStep σ),
      let h := after source capacity s steps
      h.cache.size ≤ max capacity 1 ∧
      ∀ url, let x := h.fetch source url
        source.cached.fetch url (h.cache, h.state) = (x.1, x.2.cache, x.2.state) ∧
        (x.1 = (source.fetch url h.state).1 ∧ x.2.asked = (url, x.1) :: h.asked ∨
          x.2.asked = h.asked ∧
            ∃ text, h.asked.last? url.canonical = some text ∧ x.1 = .title text) ∧
        ∀ e, x.1 = .failure e → (source.fetch url h.state).1 = .failure e ∧
          x.2.asked = (url, .failure e) :: h.asked ∧ x.2.cache = h.cache) ∧
    ∀ answer : String → TitleAnswer,
      (∀ url s, (source.fetch url s).1 = answer url.canonical) →
      ∀ (uses : List TitleUse) (mem : Memory) (s' : σ),
        let x := TitleUse.onEach source.cached (fun y => (y.1.clear, y.2)) uses
          (mem, .ofCapacity capacity, s)
        let y := TitleUse.onEach source id uses (mem, s')
        x.1 = y.1 ∧ x.2.1 = y.2.1 := by
  refine ⟨fun steps => ?_, fun answer halways uses mem s' =>
    TitleUse.onEach_cached halways (TitleCache.agrees_nil _) uses mem s s'⟩
  intro h
  obtain ⟨hcapacity, hc⟩ := recalls_after source capacity s steps
  refine ⟨?_, fun url => ?_⟩
  · have hsize := congrArg List.length hc.pages
    rw [List.length_map, List.length_take, hcapacity] at hsize
    exact hsize.trans_le (Nat.min_le_left _ _)
  · rcases h.fetch_cases source url with
      ⟨text, hfind, heq⟩ | ⟨hnew, ⟨text, s₁, hs, heq⟩ | ⟨e, s₁, hs, heq⟩⟩ <;> rw [heq]
    · refine ⟨?_, .inr ⟨rfl, text, hc.last _ _ hfind, rfl⟩, by rintro e ⟨⟩⟩
      simp only [TitleSource.cached, hfind]
    · refine ⟨?_, .inl ⟨by rw [hs], rfl⟩, by rintro e ⟨⟩⟩
      simp only [TitleSource.cached, hnew, hs]
    · refine ⟨?_, .inl ⟨by rw [hs], rfl⟩, fun e' he' => ?_⟩
      · simp only [TitleSource.cached, hnew, hs]
      · cases he'
        exact ⟨by rw [hs], rfl, rfl⟩

/-- A source that finds every page to be named after its URL. -/
def TitleSource.echo : TitleSource Unit := ⟨fun url s => (.title (some url.canonical), s)⟩

/-- A link is submitted without a title, once before a page is asked for and once after its link is
deleted. With room for one title, and without a cache, it is stored with the same title. -/
theorem TitleSource.cached_transparent_echo :
    let page : CanonicalUrl := ⟨"http://new.example/", "http://new.example/"⟩
    let submit : LinkId → Mutation := fun id => .upsertLink ⟨⟨1⟩⟩ page.input none [] id default
    let uses : List TitleUse := [.call (submit ⟨⟨5⟩⟩) .never, .fetch page,
      .call (.deleteLink ⟨⟨5⟩⟩) .never, .call (submit ⟨⟨6⟩⟩) .never]
    let x := TitleUse.onEach echo.cached (fun y => (y.1.clear, y.2)) uses
      (Memory.chain, .ofCapacity 0, ())
    (∀ url s, (echo.fetch url s).1 = .title (some url.canonical)) ∧
      (x.2.1.tables.links.get? ⟨⟨6⟩⟩).map Link.title = some page.canonical ∧
      x.2.1 = (TitleUse.onEach echo id uses (Memory.chain, ())).2.1 := by
  intro page submit uses x
  have halways : ∀ url s, (echo.fetch url s).1 = .title (some url.canonical) := fun _ _ => rfl
  refine ⟨halways, ?_, ?_⟩
  · decide +kernel
  · obtain ⟨-, hsame⟩ := cached_transparent echo 0 ()
    exact (hsame (fun url => .title (some url)) halways uses Memory.chain ()).2

end Polyhierarchy
