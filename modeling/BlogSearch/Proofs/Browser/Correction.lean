import BlogSearch.Proofs.Browser.Alone
import BlogSearch.Proofs.Network.Request
import BlogSearch.Proofs.Page.View
import BlogSearch.Proofs.Search.Page

/-!
# A search corrects its page once

A search whose first answer lies behind the last match asks for the last page in its place.  The second
answer is shown whatever it says, so a search sends two requests at most.  What a search leaves behind
is stated for every browser that actions one after another can reach and for every backend.
-/

namespace BlogSearch

/-- The body of a reply with a status of success is decoded. -/
theorem Reply.read_answer
    {α : Type} {status : Nat} (hstatus : isSuccess status = true) (body : String)
    (decode : String → Except Json.Fault α) :
    (answer status body).read decode = (decode body).mapError .unreadable := by
  simp only [Reply.read, Reply.body, hstatus, if_true]
  cases decode body <;> rfl

/-- What the backend says to the last of the requests. -/
def Backend.answer (backend : Backend) (sent : List Request) :
    Except ClientError SearchResponse :=
  (backend sent).read SearchResponse.read

/-- What a search that runs alone makes of the requests and the browser before it: one round, and one
more for the last page if the answer to the first is out of range. -/
structure CorrectedOnce
    (backend : Backend) (f : SearchForm) (push : Bool)
    (sent : List Request) (b : Browser)
    (sent' : List Request) (b' : Browser) (result : Result) : Prop where
  /-- The form is sent first, and there is no third request. -/
  requests : sent' = sent ++ [.search f.request] ∨
    ∃ second, sent' = sent ++ [.search f.request, second]
  /-- There is a second request when the first answer is out of range, and only then. -/
  second_iff : (∃ second, sent' = sent ++ [.search f.request, second]) ↔
    ∃ r, backend.answer (sent ++ [.search f.request]) = .ok r ∧ r.info.OutOfRange
  /-- The second request asks for the last page of the same search. -/
  second : ∀ r, backend.answer (sent ++ [.search f.request]) = .ok r → r.info.OutOfRange →
    ∃ p : UInt32, p.toNat = r.info.lastPage ∧ (r.info.pageSize = 0 → p = 1) ∧
      sent' = sent ++ [.search f.request, .search { f.request with page := p }]
  /-- The outcome is made of the last answer, and names the page of the second request. -/
  outcome : ∃ corrected : Option UInt32,
    (∀ p, corrected = some p ↔
      sent' = sent ++ [.search f.request, .search { f.request with page := p }]) ∧
    result = (backend.answer sent').map fun r =>
      .searched (.rendered r.info.panel r.results.length corrected)
  /-- The last answer is shown as it stands. -/
  shown : ∀ r, backend.answer sent' = .ok r →
    b'.page.results = r.results.map ResultView.ofItem ∧
      b'.page.panel = some r.info.panel ∧ b'.page.scrollTop = 0
  /-- Form and last search hold the page of the last request. -/
  page : ∃ q, sent'.getLast? = some (.search q) ∧
    (1 ≤ f.page → b'.form.page = q.page ∧ ∃ last, b'.last = some last ∧ last.page = q.page)
  /-- Only the first round may go into the history. -/
  history : b'.history = if push then b.history.push (.ofForm f) else b.history
  location : b'.page.location =
    if push then some (HistoryEntry.ofForm f).url else b.page.location

namespace Browser

variable (b : Browser)

theorem location_register (f : SearchForm) (push : Bool) :
    (b.register f push).page.location =
      if push then some (HistoryEntry.ofForm f).url else b.page.location := by
  cases push <;> rfl

/-- An answer changes nothing but the page, and there not the location. -/
theorem settle_frame (answer : Except ClientError SearchResponse) :
    (b.settle answer).form = b.form ∧ (b.settle answer).last = b.last ∧
      (b.settle answer).history = b.history ∧
      (b.settle answer).page.location = b.page.location := by
  cases answer with
  | error e => exact ⟨rfl, rfl, rfl, rfl⟩
  | ok r => exact ⟨rfl, rfl, rfl, PageView.location_showResponse b.page r⟩

theorem shown_settle (r : SearchResponse) :
    (b.settle (.ok r)).page.results = r.results.map ResultView.ofItem ∧
      (b.settle (.ok r)).page.panel = some r.info.panel ∧
      (b.settle (.ok r)).page.scrollTop = 0 := by
  simp [settle, display, PageView.showResponse_eq]

end Browser

namespace Attempt

/-- The round after the first asks for the last page of the same search, off the record. -/
theorem again?_first_eq_some_iff
    {f : SearchForm} {push : Bool} {answer : Except ClientError SearchResponse}
    {again : Attempt} :
    (first f push).again? answer = some again ↔
      ∃ r, answer = .ok r ∧ r.info.OutOfRange ∧
        ∃ p : UInt32, p.toNat = r.info.lastPage ∧
          again = ⟨{ f with page := p }, false, some p⟩ := by
  cases answer with
  | error e => simp [again?]
  | ok r =>
      rw [again?, correction?_eq_some_iff]
      constructor
      · rintro ⟨-, p, hpage, rfl⟩
        obtain ⟨hout, hp⟩ := SearchMeta.correctedPage?_eq_some_iff.mp hpage
        exact ⟨r, rfl, hout, p, hp, rfl⟩
      · rintro ⟨r', hr, hout, p, hp, rfl⟩
        cases hr
        have hpage := SearchMeta.correctedPage?_eq_some_iff.mpr ⟨hout, hp⟩
        exact ⟨rfl, p, hpage, rfl⟩

theorem again?_first_eq_none_iff
    {f : SearchForm} {push : Bool} {answer : Except ClientError SearchResponse} :
    (first f push).again? answer = none ↔
      ¬∃ r, answer = .ok r ∧ r.info.OutOfRange := by
  cases answer with
  | error e => simp [again?]
  | ok r =>
      simp [again?, correction?, first, SearchMeta.correctedPage?_eq_none_iff]

end Attempt

namespace Backend

variable (backend : Backend) (sent : List Request) (b : Browser)

theorem lastRound_eq (a : Attempt) :
    backend.network.lastRound sent b a =
      (sent ++ [a.request],
        (b.register a.form a.push).settle (backend.answer (sent ++ [a.request])),
        (backend.answer (sent ++ [a.request])).map fun r => .searched (a.outcome r)) := rfl

/-- A search whose first answer is not out of range ends with it. -/
theorem correctedOnce_of_inRange
    {f : SearchForm} {push : Bool}
    (hin : ¬∃ r, backend.answer (sent ++ [.search f.request]) = .ok r ∧ r.info.OutOfRange) :
    let after := backend.network.lastRound sent b (.first f push)
    CorrectedOnce backend f push sent b after.1 after.2.1 after.2.2 := by
  rw [lastRound_eq]
  obtain ⟨hform, hlast, hhistory, hlocation⟩ := (b.register f push).settle_frame
    (backend.answer (sent ++ [.search f.request]))
  have hone (second : Request) :
      sent ++ [.search f.request] ≠ sent ++ [.search f.request, second] := by
    simp
  constructor
  · exact Or.inl rfl
  · constructor
    · rintro ⟨second, heq⟩
      exact absurd heq (hone second)
    · intro hout
      exact absurd hout hin
  · intro r hr hout
    exact absurd ⟨r, hr, hout⟩ hin
  · refine ⟨none, ?_, rfl⟩
    intro p
    constructor
    · intro hnone
      cases hnone
    · intro heq
      exact absurd heq (hone _)
  · intro r hr
    dsimp only [Attempt.request, Attempt.first] at hr ⊢
    rw [hr]
    exact (b.register f push).shown_settle r
  · refine ⟨f.request, by simp [Attempt.request, Attempt.first], ?_⟩
    intro hpage
    have hmax : max f.page 1 = f.page := SearchForm.max_one_of_le hpage
    refine ⟨?_, f, hlast, hmax.symm⟩
    exact (congrArg SearchForm.page hform).trans hmax.symm
  · exact hhistory
  · exact hlocation.trans (b.location_register f push)

/-- A search whose first answer is out of range ends with a second round for the last page. -/
theorem correctedOnce_of_outOfRange
    {f : SearchForm} {push : Bool} {r : SearchResponse} {p : UInt32}
    (hr : backend.answer (sent ++ [.search f.request]) = .ok r)
    (hout : r.info.OutOfRange) (hp : p.toNat = r.info.lastPage) :
    let once := backend.network.round sent b (.first f push)
    let after := backend.network.lastRound once.1 once.2.1 ⟨{ f with page := p }, false, some p⟩
    CorrectedOnce backend f push sent b after.1 after.2.1 after.2.2 := by
  intro once after
  let b₁ := (b.register f push).settle (backend.answer (sent ++ [.search f.request]))
  let b₂ := b₁.register { f with page := p } false
  have hone : (1 : UInt32) ≤ p := by
    rw [UInt32.le_iff_toNat_le, hp]
    exact r.info.lastPage_pos
  have hrequest : ({ f with page := p } : SearchForm).request = { f.request with page := p } := by
    simp only [SearchForm.request, SearchForm.max_one_of_le hone]
  have hsent : after.1 =
      sent ++ [.search f.request, .search { f.request with page := p }] := by
    rw [← hrequest]
    exact List.append_assoc sent _ _
  have hafter : after.2.1 = b₂.settle (backend.answer after.1) := rfl
  obtain ⟨-, -, hhistory₁, hlocation₁⟩ := (b.register f push).settle_frame
    (backend.answer (sent ++ [.search f.request]))
  obtain ⟨hform₂, hlast₂, hhistory₂, hlocation₂⟩ := b₂.settle_frame (backend.answer after.1)
  constructor
  · exact Or.inr ⟨_, hsent⟩
  · constructor
    · intro _
      exact ⟨r, hr, hout⟩
    · intro _
      exact ⟨_, hsent⟩
  · intro r' hr' _
    obtain rfl : r = r' := Except.ok.inj (hr.symm.trans hr')
    refine ⟨p, hp, ?_, hsent⟩
    intro hzero
    apply UInt32.toNat_inj.mp
    rw [hp, SearchMeta.lastPage_of_pageSize_eq_zero hzero]
    rfl
  · refine ⟨some p, ?_, rfl⟩
    intro q
    rw [hsent]
    constructor
    · intro hq
      cases hq
      rfl
    · intro heq
      have hsecond : Request.search { f.request with page := p } =
          Request.search { f.request with page := q } := by
        simpa using heq
      have hpage : p = q := congrArg SearchRequest.page (Request.search_injective hsecond)
      rw [hpage]
  · intro r' hr'
    rw [hafter, hr']
    exact b₂.shown_settle r'
  · refine ⟨{ f.request with page := p }, by simp [hsent], ?_⟩
    intro _
    exact ⟨congrArg SearchForm.page hform₂, _, hlast₂, rfl⟩
  · exact hhistory₂.trans hhistory₁
  · exact hlocation₂.trans (hlocation₁.trans (b.location_register f push))

theorem correctedOnce_search (f : SearchForm) (push : Bool) :
    let after := backend.network.search sent b f push
    CorrectedOnce backend f push sent b after.1 after.2.1 after.2.2 := by
  cases hagain : (Attempt.first f push).again?
      (backend.network.round sent b (.first f push)).2.2 with
  | none =>
      rw [Network.search_of_none hagain]
      exact correctedOnce_of_inRange backend sent b (Attempt.again?_first_eq_none_iff.mp hagain)
  | some again =>
      obtain ⟨r, hr, hout, p, hp, rfl⟩ := Attempt.again?_first_eq_some_iff.mp hagain
      rw [Network.search_of_some hagain]
      exact correctedOnce_of_outOfRange backend sent b hr hout hp

end Backend

/-- After any actions one after another, and whatever the backend answers, a search asks for at most
one more page than its own: the last one, when the first answer lies behind it. -/
theorem search_corrects_once
    (backend : Backend) (defaults : SearchForm) (view : PageView) (earlier : List Action)
    (f : SearchForm) (push : Bool) :
    let before :=
      backend.network.performAll [] { Browser.new defaults with page := view } earlier
    let after := backend.network.perform before.1 before.2.1 (.search f push)
    CorrectedOnce backend f push before.1 before.2.1 after.1 after.2.1 after.2.2 := by
  intro before after
  have hbefore : before.2.1.TicketsIssued :=
    Network.ticketsIssued_performAll _ _ earlier (Browser.ticketsIssued_new defaults view)
  have hafter : after = backend.network.search before.1 before.2.1 f push :=
    Network.perform_search _ _ hbefore f push
  rw [hafter]
  exact Backend.correctedOnce_search backend before.1 before.2.1 f push

end BlogSearch
