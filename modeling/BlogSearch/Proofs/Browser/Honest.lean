import BlogSearch.Proofs.Browser.Correction
import BlogSearch.Proofs.Browser.Overlap
import BlogSearch.Proofs.Network.Wire

/-!
# Pages of an honest backend

An honest backend holds some matches, and fills the window of each page that it is asked for.  Against
it a page behind the last match is corrected to the last page.  A window that begins right where the
matches end does not lie behind them: such a page is shown as it stands, without a result.
-/

namespace BlogSearch

/-! ## Windows of the matches -/

namespace SearchResponse

/-- The answer is the window of a page on the matches held. -/
structure Fills (r : SearchResponse) (held size page : ℕ) : Prop where
  error : r.info.error = none
  total : r.info.total.toNat = held
  pageSize : r.info.pageSize.toNat = size
  offset : r.info.offset.toNat = (page - 1) * size
  length : r.results.length = min size (held - min held ((page - 1) * size))
  count : r.info.count.toNat = r.results.length

variable {r : SearchResponse} {held size page : ℕ}

theorem Fills.outOfRange_iff (h : r.Fills held size page) :
    r.info.OutOfRange ↔ held < (page - 1) * size := by
  rw [SearchMeta.OutOfRange, UInt64.lt_iff_toNat_lt, h.total, h.offset]
  exact and_iff_right h.error

/-- The last page is the one on which the matches end, where that is a page that can be asked for. -/
theorem Fills.lastPage
    (h : r.Fills held size page) (hheld : 1 ≤ held) (hsize : 1 ≤ size)
    (hlt : held ⌈/⌉ size < 2 ^ 32) : r.info.lastPage = held ⌈/⌉ size := by
  have hpos : 0 < held ⌈/⌉ size := by
    rw [lt_ceilDiv_iff hsize]
    omega
  rw [SearchMeta.lastPage, h.total, h.pageSize]
  omega

/-- A window has results exactly if it begins before the last match. -/
theorem Fills.results_eq_nil_iff (h : r.Fills held size page) (hsize : 1 ≤ size) :
    r.results = [] ↔ held ≤ (page - 1) * size := by
  rw [← List.length_eq_zero_iff, h.length]
  omega

end SearchResponse

/-- The backend holds some matches, and answers every search for a page with its window, as long as the
window begins at a number that an answer can hold. -/
structure Backend.Honest (backend : Backend) (held size : ℕ) : Prop where
  holds : 1 ≤ held
  hasSize : 1 ≤ size
  answers : ∀ (sent : List Request) (q : SearchRequest), (q.page.toNat - 1) * size < 2 ^ 64 →
    ∃ r, backend.answer (sent ++ [.search q]) = .ok r ∧ r.Fills held size q.page.toNat

/-- An action has ended with the window of a page: its outcome is made of it, the results are shown,
and form and last search hold the page. -/
structure EndsOnPage
    (held size page : ℕ) (corrected : Option UInt32)
    (after : List Request × Browser × Result) : Prop where
  shown : ∃ r : SearchResponse, r.Fills held size page ∧
    after.2.2 = .ok (.searched (.rendered r.info.panel r.results.length corrected)) ∧
    after.2.1.page.results = r.results.map ResultView.ofItem ∧
    after.2.1.page.panel = some r.info.panel
  form : after.2.1.form.page.toNat = page
  last : ∃ l, after.2.1.last = some l ∧ l.page.toNat = page

theorem EndsOnPage.results_eq_nil_iff
    {held size page : ℕ} {corrected : Option UInt32} {after : List Request × Browser × Result}
    (h : EndsOnPage held size page corrected after) (hsize : 1 ≤ size) :
    after.2.1.page.results = [] ↔ held ≤ (page - 1) * size := by
  obtain ⟨r, hfills, -, hresults, -⟩ := h.shown
  rw [hresults, List.map_eq_nil_iff]
  exact hfills.results_eq_nil_iff hsize

/-- A search that was corrected at most once ends on the page of its last request, if the answer to it
is the window of that page. -/
theorem CorrectedOnce.endsOnPage
    {backend : Backend} {f : SearchForm} {push : Bool} {sent sent' : List Request}
    {b b' : Browser} {result : Result} {held size : ℕ}
    (h : CorrectedOnce backend f push sent b sent' b' result) (hpage : 1 ≤ f.page)
    {q : SearchRequest} (hlast : sent'.getLast? = some (.search q))
    {r : SearchResponse} (hr : backend.answer sent' = .ok r)
    (hfills : r.Fills held size q.page.toNat) {corrected : Option UInt32}
    (hcorrected : ∀ p, corrected = some p ↔
      sent' = sent ++ [.search f.request, .search { f.request with page := p }]) :
    EndsOnPage held size q.page.toNat corrected (sent', b', result) := by
  obtain ⟨hresults, hpanel, -⟩ := h.shown r hr
  obtain ⟨c, hc, hresult⟩ := h.outcome
  obtain ⟨q', hq', hheld⟩ := h.page
  obtain ⟨hform, l, hl, hlpage⟩ := hheld hpage
  obtain rfl : q = q' := by
    rw [hlast, Option.some.injEq] at hq'
    exact Request.search_injective hq'
  obtain rfl : corrected = c := Option.ext fun p => (hcorrected p).trans (hc p).symm
  constructor
  · refine ⟨r, hfills, ?_, hresults, hpanel⟩
    rw [hresult, hr]
    rfl
  · exact congrArg UInt32.toNat hform
  · exact ⟨l, hl, congrArg UInt32.toNat hlpage⟩

namespace Backend.Honest

variable {backend : Backend} {held size : ℕ}

/-- A search for a page whose window does not begin behind the matches shows this page. -/
theorem search_of_le
    (h : backend.Honest held size) (sent : List Request) (b : Browser)
    {f : SearchForm} (push : Bool) (hpage : 1 ≤ f.page)
    (hfits : (f.page.toNat - 1) * size < 2 ^ 64) (hle : (f.page.toNat - 1) * size ≤ held) :
    EndsOnPage held size f.page.toNat none (backend.network.search sent b f push) := by
  have hrequest : f.request.page = f.page := SearchForm.max_one_of_le hpage
  have honce := backend.correctedOnce_search sent b f push
  obtain ⟨r, hr, hfills⟩ := h.answers sent f.request (by rwa [hrequest])
  have hsecond : ¬∃ second, (backend.network.search sent b f push).1 =
      sent ++ [.search f.request, second] := by
    rw [honce.second_iff]
    rintro ⟨r', hr', hout⟩
    obtain rfl : r = r' := Except.ok.inj (hr.symm.trans hr')
    rw [hfills.outOfRange_iff, hrequest] at hout
    omega
  have hone : (backend.network.search sent b f push).1 = sent ++ [.search f.request] :=
    honce.requests.resolve_right hsecond
  rw [← hrequest]
  refine honce.endsOnPage hpage (by rw [hone]; simp) (by rw [hone]; exact hr) hfills ?_
  intro p
  constructor
  · intro hp
    cases hp
  · intro htwo
    exact absurd ⟨_, htwo⟩ hsecond

/-- A search for a page whose window begins behind the matches shows the last page. -/
theorem search_of_lt
    (h : backend.Honest held size) (sent : List Request) (b : Browser)
    {f : SearchForm} (push : Bool) (hpage : 1 ≤ f.page)
    (hfits : (f.page.toNat - 1) * size < 2 ^ 64) (hlt : held < (f.page.toNat - 1) * size) :
    ∃ p : UInt32, p.toNat = held ⌈/⌉ size ∧
      EndsOnPage held size p.toNat (some p) (backend.network.search sent b f push) := by
  have hrequest : f.request.page = f.page := SearchForm.max_one_of_le hpage
  have hpages : held ⌈/⌉ size ≤ f.page.toNat - 1 := by
    rw [← not_lt, lt_ceilDiv_iff h.hasSize]
    omega
  have honce := backend.correctedOnce_search sent b f push
  obtain ⟨r, hr, hfills⟩ := h.answers sent f.request (by rwa [hrequest])
  have hout : r.info.OutOfRange := by
    rw [hfills.outOfRange_iff, hrequest]
    exact hlt
  obtain ⟨p, hp, -, htwo⟩ := honce.second r hr hout
  have hbound := f.page.toNat_lt
  rw [hfills.lastPage h.holds h.hasSize (by omega)] at hp
  have hfits' : (p.toNat - 1) * size < 2 ^ 64 := by
    refine Nat.lt_of_le_of_lt (Nat.mul_le_mul_right size ?_) hfits
    omega
  have hsent : sent ++ [.search f.request, .search { f.request with page := p }] =
      (sent ++ [.search f.request]) ++ [.search { f.request with page := p }] := by
    simp
  obtain ⟨r', hr', hfills'⟩ :=
    h.answers (sent ++ [.search f.request]) { f.request with page := p } hfits'
  refine ⟨p, hp, ?_⟩
  refine honce.endsOnPage hpage (q := { f.request with page := p }) (by rw [htwo, hsent]; simp)
    (by rw [htwo, hsent]; exact hr') hfills' ?_
  intro p'
  rw [htwo]
  simp [Request.search_injective.eq_iff]

end Backend.Honest

/-! ## A backend that is honest -/

namespace Backend

/-- The window of a page, filled with results that say nothing. -/
def window (held size page : ℕ) : SearchResponse :=
  let count := min size (held - min held ((page - 1) * size))
  ⟨List.replicate count ⟨"", [], "", "", none, none, none⟩,
    ⟨.ofNat count, .ofNat held, .ofNat ((page - 1) * size), .ofNat size, 0, none⟩⟩

/-- The backend that answers a search with the window of its page, and nothing else at all. -/
def holding (held size : ℕ) : Backend := fun sent =>
  match (sent.getLast?.bind Request.body).map SearchRequest.decode.stream with
  | some (.ok q) => .answer 200 (window held size q.page.toNat).json.compact
  | _ => .failed

theorem fills_window
    {held size page : ℕ} (hheld : held < 2 ^ 64) (hsize : size < 2 ^ 64)
    (hfits : (page - 1) * size < 2 ^ 64) : (window held size page).Fills held size page := by
  have hcount : min size (held - min held ((page - 1) * size)) < 2 ^ 64 :=
    Nat.lt_of_le_of_lt (Nat.min_le_left _ _) hsize
  refine ⟨rfl, UInt64.toNat_ofNat_of_lt' hheld, UInt64.toNat_ofNat_of_lt' hsize,
    UInt64.toNat_ofNat_of_lt' hfits, List.length_replicate, ?_⟩
  rw [window, List.length_replicate]
  exact UInt64.toNat_ofNat_of_lt' hcount

theorem answer_holding (held size : ℕ) (sent : List Request) (q : SearchRequest) :
    (holding held size).answer (sent ++ [.search q]) = .ok (window held size q.page.toNat) := by
  have hreply : holding held size (sent ++ [.search q]) =
      .answer 200 (window held size q.page.toNat).json.compact := by
    have hbody : (Request.search q).body = some q.json.compact := rfl
    simp only [holding, List.getLast?_concat, Option.bind_some, hbody, Option.map_some,
      SearchRequest.stream_compact]
  rw [answer, hreply, Reply.read_answer rfl, SearchResponse.read_compact]
  rfl

theorem honest_holding
    {held size : ℕ} (hholds : 1 ≤ held) (hhasSize : 1 ≤ size)
    (hheld : held < 2 ^ 64) (hsize : size < 2 ^ 64) : (holding held size).Honest held size where
  holds := hholds
  hasSize := hhasSize
  answers sent q hfits := ⟨_, answer_holding held size sent q, fills_window hheld hsize hfits⟩

end Backend

namespace Overlap

/-- One search has been made and has ended. -/
def searchedOnce (backend : Backend) : Overlap :=
  let after := backend.network.performAll [] (new default .empty).browser [.submit "staff" "art"]
  ⟨after.2.1, after.2.2.map .finished⟩

theorem reaches_searchedOnce (backend : Backend) :
    (new default .empty).Reaches (searchedOnce backend) :=
  reaches_performAll backend.network [] _ [] _

theorem last_searchedOnce (backend : Backend) : (searchedOnce backend).browser.last ≠ none := by
  have hissued : (new default .empty).browser.TicketsIssued := Browser.ticketsIssued_new default .empty
  have hsubmit := backend.network.perform_submit [] hissued "staff" "art"
  have honce := backend.correctedOnce_search []
    { (new default .empty).browser with form := .new "staff" "art" } (.new "staff" "art") true
  obtain ⟨q, -, hheld⟩ := honce.page
  obtain ⟨-, l, hl, -⟩ := hheld (UInt32.le_refl 1)
  have hbrowser : (searchedOnce backend).browser =
      (backend.network.perform [] (new default .empty).browser (.submit "staff" "art")).2.1 := rfl
  rw [hbrowser, hsubmit]
  exact Option.ne_none_iff_exists'.mpr ⟨l, hl⟩

end Overlap

/-! ## Pages of an active search -/

/-- Going to a page has ended with results: on that page, or on the last one, and then the outcome
names it. -/
def EndsWithResults
    (held size : ℕ) (p : UInt32) (after : List Request × Browser × Result) : Prop :=
  after.2.1.page.results ≠ [] ∧
    ∃ corrected, EndsOnPage held size (min p.toNat (held ⌈/⌉ size)) corrected after ∧
      ∀ c : UInt32, corrected = some c ↔ held ⌈/⌉ size < p.toNat ∧ c.toNat = held ⌈/⌉ size

namespace EndsWithResults

variable {held size : ℕ} {after : List Request × Browser × Result}

theorem of_own_page
    {p : UInt32} (hp : 1 ≤ p.toNat) (hsize : 1 ≤ size) (hlt : (p.toNat - 1) * size < held)
    (h : EndsOnPage held size p.toNat none after) : EndsWithResults held size p after := by
  have hpages : p.toNat - 1 < held ⌈/⌉ size := (lt_ceilDiv_iff hsize).mpr hlt
  refine ⟨?_, none, ?_, ?_⟩
  · rw [ne_eq, h.results_eq_nil_iff hsize]
    omega
  · rw [Nat.min_eq_left (by omega)]
    exact h
  · intro c
    constructor
    · intro hnone
      cases hnone
    · rintro ⟨hbehind, -⟩
      omega

theorem of_last_page
    {p c : UInt32} (hheld : 1 ≤ held) (hsize : 1 ≤ size) (hlt : held ⌈/⌉ size < p.toNat)
    (hc : c.toNat = held ⌈/⌉ size) (h : EndsOnPage held size c.toNat (some c) after) :
    EndsWithResults held size p after := by
  have hfirst : 0 < held ⌈/⌉ size := by
    rw [lt_ceilDiv_iff hsize]
    omega
  have hbegins : (c.toNat - 1) * size < held := by
    rw [← lt_ceilDiv_iff hsize]
    omega
  refine ⟨?_, some c, ?_, ?_⟩
  · rw [ne_eq, h.results_eq_nil_iff hsize]
    omega
  · rw [Nat.min_eq_right (Nat.le_of_lt hlt), ← hc]
    exact h
  · intro c'
    rw [Option.some.injEq, ← UInt32.toNat_inj, hc]
    constructor
    · intro heq
      exact ⟨hlt, heq.symm⟩
    · rintro ⟨-, heq⟩
      exact heq.symm

end EndsWithResults

/-- Unless the window of its page begins right where the matches end, a search ends with results. -/
theorem Backend.Honest.endsWithResults_search
    {backend : Backend} {held size : ℕ} (h : backend.Honest held size)
    (sent : List Request) (b : Browser) {f : SearchForm} (push : Bool) (hpage : 1 ≤ f.page)
    (hfits : (f.page.toNat - 1) * size < 2 ^ 64) (hne : (f.page.toNat - 1) * size ≠ held) :
    EndsWithResults held size f.page (backend.network.search sent b f push) := by
  have hpos : 1 ≤ f.page.toNat := UInt32.le_iff_toNat_le.mp hpage
  rcases Nat.lt_or_gt_of_ne hne with hbefore | hbehind
  · have hends := h.search_of_le sent b push hpage hfits (Nat.le_of_lt hbefore)
    exact .of_own_page hpos h.hasSize hbefore hends
  · obtain ⟨c, hc, hends⟩ := h.search_of_lt sent b push hpage hfits hbehind
    have hpages : held ⌈/⌉ size ≤ f.page.toNat - 1 := by
      rw [← not_lt, lt_ceilDiv_iff h.hasSize]
      omega
    exact .of_last_page h.holds h.hasSize (by omega) hc hends

/-- Going to another page of an active search is a search for that page. -/
theorem Network.perform_paginate_of_last
    {σ : Type} (net : Network σ) (s : σ) {b : Browser} (hissued : b.TicketsIssued)
    (hlast : b.last ≠ none) {p : UInt32} (hp : 1 ≤ p) :
    ∃ f : SearchForm, f.page = p ∧
      net.perform s b (.paginate (some p)) = net.search s { b with form := f } f false := by
  obtain ⟨l, hl⟩ := Option.ne_none_iff_exists'.mp hlast
  have hform : b.form.restore? b.last (some p) =
      some { b.form with blog := l.blog, query := l.query, page := p } := by
    rw [hl, SearchForm.restore?, Option.map_some, SearchForm.max_one_of_le hp]
  exact ⟨_, rfl, net.perform_paginate s hissued hform⟩

/-- A page whose window begins right where the matches end is shown as it stands. -/
theorem Backend.Honest.paginate_at_end
    {backend : Backend} {held size : ℕ} (h : backend.Honest held size)
    (sent : List Request) {b : Browser} (hissued : b.TicketsIssued) (hlast : b.last ≠ none)
    {p : UInt32} (hp : 1 ≤ p) (hfits : (p.toNat - 1) * size < 2 ^ 64)
    (heq : (p.toNat - 1) * size = held) :
    let after := backend.network.perform sent b (.paginate (some p))
    after.2.1.page.results = [] ∧ EndsOnPage held size p.toNat none after := by
  intro after
  obtain ⟨f, rfl, hafter⟩ := backend.network.perform_paginate_of_last sent hissued hlast hp
  rw [show after = _ from hafter]
  have hends := h.search_of_le sent { b with form := f } false hp hfits (Nat.le_of_eq heq)
  exact ⟨(hends.results_eq_nil_iff h.hasSize).mpr (Nat.le_of_eq heq.symm), hends⟩

/-- In every state that actions can reach, however they overlap, and whatever was sent before: if a
search is active, then against an honest backend going to a page ends with results, unless the window
of the page begins right where the matches end.  In that case it ends on the page, without a result
and without a correction. -/
theorem paginate_against_honest_backend
    {backend : Backend} {held size : ℕ} (hhonest : backend.Honest held size)
    {defaults : SearchForm} {view : PageView} {o : Overlap}
    (hreaches : (Overlap.new defaults view).Reaches o) (hlast : o.browser.last ≠ none)
    (sent : List Request) {p : UInt32} (hp : 1 ≤ p) (hfits : (p.toNat - 1) * size < 2 ^ 64) :
    let after := backend.network.perform sent o.browser (.paginate (some p))
    ((p.toNat - 1) * size ≠ held → EndsWithResults held size p after) ∧
      ((p.toNat - 1) * size = held →
        after.2.1.page.results = [] ∧ EndsOnPage held size p.toNat none after) := by
  intro after
  have hissued := ((Overlap.ticketsIssued_new defaults view).of_reaches hreaches).browser
  constructor
  · intro hne
    obtain ⟨f, rfl, hafter⟩ := backend.network.perform_paginate_of_last sent hissued hlast hp
    rw [show after = _ from hafter]
    exact hhonest.endsWithResults_search sent _ false hp hfits hne
  · intro heq
    exact hhonest.paginate_at_end sent hissued hlast hp hfits heq

/-- Page 7 of 42 matches is corrected to page 5. -/
theorem paginate_behind_42_matches :
    let backend := Backend.holding 42 10
    let o := Overlap.searchedOnce backend
    let after := backend.network.perform [] o.browser (.paginate (some 7))
    backend.Honest 42 10 ∧ (Overlap.new default .empty).Reaches o ∧ o.browser.last ≠ none ∧
      (1 : UInt32) ≤ 7 ∧ ((7 : UInt32).toNat - 1) * 10 < 2 ^ 64 ∧
      EndsWithResults 42 10 7 after := by
  intro backend o after
  have hhonest : backend.Honest 42 10 :=
    Backend.honest_holding (by decide) (by decide) (by decide) (by decide)
  have hreaches := Overlap.reaches_searchedOnce backend
  have hlast := Overlap.last_searchedOnce backend
  have hends := paginate_against_honest_backend hhonest hreaches hlast [] (p := 7) (by decide)
    (by decide)
  exact ⟨hhonest, hreaches, hlast, by decide, by decide, hends.1 (by decide)⟩

/-- Against an honest backend, going to a page of an active search always ends with results. -/
def PaginatesToResults (backend : Backend) (held size : ℕ) : Prop :=
  ∀ (defaults : SearchForm) (view : PageView) (o : Overlap) (sent : List Request) (p : UInt32),
    backend.Honest held size → (Overlap.new defaults view).Reaches o → o.browser.last ≠ none →
    1 ≤ p → (p.toNat - 1) * size < 2 ^ 64 →
    EndsWithResults held size p (backend.network.perform sent o.browser (.paginate (some p)))

/-- The second page of ten matches is the first one without a result, and is shown as it stands. -/
theorem not_paginatesToResults :
    ¬PaginatesToResults (Backend.holding 10 10) 10 10 := by
  intro hresults
  have hhonest : (Backend.holding 10 10).Honest 10 10 :=
    Backend.honest_holding (by decide) (by decide) (by decide) (by decide)
  have hreaches := Overlap.reaches_searchedOnce (Backend.holding 10 10)
  have hlast := Overlap.last_searchedOnce (Backend.holding 10 10)
  have hissued := ((Overlap.ticketsIssued_new default .empty).of_reaches hreaches).browser
  have hends := hresults default .empty _ [] 2 hhonest hreaches hlast (by decide) (by decide)
  have hempty := hhonest.paginate_at_end [] hissued hlast (p := 2) (by decide) (by decide) rfl
  exact hends.1 hempty.1

end BlogSearch
