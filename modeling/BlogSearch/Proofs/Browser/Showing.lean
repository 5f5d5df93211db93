import BlogSearch.Proofs.Browser.Record
import Mathlib.Algebra.Group.Nat.Even

/-!
# The page shows one whole answer

The results, the panel and the scroll position on the page are those of the answer that was decoded
last, whichever action got it and whatever has failed since.  Only previews are the user's: a result is
expanded if it has been toggled an odd number of times since that answer came.
-/

namespace BlogSearch

/-- The preview of a clipped result after a number of toggles. -/
def Preview.afterToggles (n : Nat) : Preview :=
  if Odd n then .unclipped else .clipped

theorem Preview.afterToggles_succ (n : Nat) : afterToggles (n + 1) = (afterToggles n).toggle := by
  by_cases hodd : Odd n
  · simp [afterToggles, Nat.odd_add_one, hodd, toggle]
  · simp [afterToggles, Nat.odd_add_one, hodd, toggle]

namespace Event

/-- The answer to a search, if it could be decoded. -/
def response? : Event → Option SearchResponse
  | .asked request reply =>
      if request.IsSearch then (reply.read SearchResponse.read).toOption else none
  | .ended _ _ => none

/-- The result was toggled. -/
def toggles (index : Nat) : Event → Bool
  | .ended (.toggle i) (.ok _) => i == index
  | _ => false

theorem toggles_of_endsQuietly
    {action : Action} {result : Result} {index : Nat} (h : action.EndsQuietly) :
    (ended action result).toggles index = false := by
  cases action with
  | toggle i => cases h
  | _ => rfl

/-- How often a result was toggled since the last answer. -/
def toggleCount (record : List Event) (index : Nat) : Nat :=
  (since response? record).countP (toggles index)

/-- The results of the last answer, each expanded or clipped by its toggles. -/
def shownResults (record : List Event) : List ResultView :=
  match last? response? record with
  | none => []
  | some r =>
      r.results.mapIdx fun index item =>
        { ResultView.ofItem item with preview := .afterToggles (toggleCount record index) }

end Event

open Event

/-- The page shows the last answer of a record, from its top. -/
structure PageView.Shows (p : PageView) (record : List Event) : Prop where
  results : p.results = shownResults record
  panel : p.panel = (last? response? record).map fun r => r.info.panel
  scrollTop : p.scrollTop = 0

namespace PageView.Shows

variable {p p' : PageView} {past : List Event} {e : Event}

theorem empty : PageView.empty.Shows [] :=
  ⟨rfl, rfl, rfl⟩

theorem congr (h : p.Shows past) (hsame : p'.SameDisplay p) : p'.Shows past :=
  ⟨hsame.results.trans h.results, hsame.panel.trans h.panel, hsame.scrollTop.trans h.scrollTop⟩

/-- An event that brings no answer and toggles nothing leaves what is shown. -/
theorem concat_of_none
    (h : p.Shows past) (hnone : e.response? = none) (htoggles : ∀ index, e.toggles index = false) :
    p.Shows (past ++ [e]) := by
  have hcount (index : Nat) : toggleCount (past ++ [e]) index = toggleCount past index := by
    simp [toggleCount, since_concat_of_none hnone, htoggles]
  refine ⟨?_, ?_, h.scrollTop⟩
  · simp only [shownResults, last?_concat_of_none hnone, hcount]
    exact h.results
  · rw [last?_concat_of_none hnone]
    exact h.panel

/-- An answer is shown with all its results clipped. -/
theorem concat_of_some {r : SearchResponse} (hsome : e.response? = some r) (p : PageView) :
    (p.showResponse r).Shows (past ++ [e]) := by
  have hcount (index : Nat) : toggleCount (past ++ [e]) index = 0 := by
    simp [toggleCount, since_concat_of_some hsome]
  have hclipped (item : ResultItem) :
      { ResultView.ofItem item with preview := .afterToggles 0 } = ResultView.ofItem item := rfl
  rw [PageView.showResponse_eq]
  refine ⟨?_, ?_, rfl⟩
  · simp only [shownResults, last?_concat_of_some hsome, hcount, hclipped]
    apply List.ext_getElem?
    intro index
    simp
  · rw [last?_concat_of_some hsome]
    rfl

theorem toggleCount_concat_toggled (past : List Event) (index i : Nat) (preview : Preview) :
    toggleCount (past ++ [.ended (.toggle index) (.ok (.preview preview))]) i =
      toggleCount past i + if index = i then 1 else 0 := by
  have hnone : (Event.ended (.toggle index) (.ok (.preview preview))).response? = none := rfl
  simp [toggleCount, since_concat_of_none hnone, toggles, List.countP_append,
    List.countP_singleton]

/-- A toggle makes the preview of its result the other one, and keeps those of the others. -/
theorem shownResults_concat_toggled
    {index : Nat} {r : ResultView} (hr : (shownResults past)[index]? = some r) (preview : Preview) :
    shownResults (past ++ [.ended (.toggle index) (.ok (.preview preview))]) =
      (shownResults past).set index { r with preview := r.preview.toggle } := by
  have hlast : last? response? (past ++ [.ended (.toggle index) (.ok (.preview preview))]) =
      last? response? past := last?_concat_of_none rfl
  have hlt : index < (shownResults past).length := (List.getElem?_eq_some_iff.mp hr).1
  cases hresponse : last? response? past with
  | none =>
      simp only [shownResults, hresponse] at hr
      cases hr
  | some response =>
      apply List.ext_getElem?
      intro i
      by_cases hi : index = i
      · subst hi
        rw [List.getElem?_set_self hlt]
        simp only [shownResults, hresponse, List.getElem?_mapIdx] at hr
        obtain ⟨item, hitem, rfl⟩ := Option.map_eq_some_iff.mp hr
        simp only [shownResults, hlast, hresponse, List.getElem?_mapIdx, hitem, Option.map_some,
          toggleCount_concat_toggled, if_pos, Preview.afterToggles_succ]
      · rw [List.getElem?_set_ne hi]
        simp only [shownResults, hlast, hresponse, List.getElem?_mapIdx,
          toggleCount_concat_toggled, if_neg hi, Nat.add_zero]

theorem concat_toggled
    (h : p.Shows past) {index : Nat} {preview : Preview}
    (htoggle : p.toggle index = .ok (p', preview)) :
    p'.Shows (past ++ [.ended (.toggle index) (.ok (.preview preview))]) := by
  obtain ⟨r, hr, rfl, rfl⟩ := PageView.toggle_eq_ok_iff.mp htoggle
  refine ⟨?_, ?_, h.scrollTop⟩
  · rw [h.results] at hr ⊢
    exact (shownResults_concat_toggled hr _).symm
  · rw [last?_concat_of_none rfl]
    exact h.panel

/-- A round shows its answer, or leaves what is shown if it has none. -/
theorem concat_round
    {b : Browser} (h : b.page.Shows past) (q : SearchRequest) (f : SearchForm) (push : Bool)
    (reply : Reply) :
    ((b.register f push).settle (reply.read SearchResponse.read)).page.Shows
      (past ++ [.asked (.search q) reply]) := by
  have hsearch := Request.isSearch_search q
  cases hread : reply.read SearchResponse.read with
  | ok r =>
      have hsome : (Event.asked (.search q) reply).response? = some r := by
        simp only [response?, if_pos hsearch, hread]
        rfl
      exact concat_of_some hsome _
  | error e =>
      have hnone : (Event.asked (.search q) reply).response? = none := by
        simp only [response?, if_pos hsearch, hread]
        rfl
      have hkept : (b.register f push).page.Shows past := h.congr (b.sameDisplay_register f push)
      exact hkept.concat_of_none hnone fun index => rfl

/-- News do not touch the answer that is shown. -/
theorem told
    {b : Browser} (h : b.page.Shows past) (news : Except ClientError News) :
    (b.told news).page.Shows past := by
  have hkept := b.keepsSearch_told news
  exact ⟨hkept.results.trans h.results, hkept.panel.trans h.panel, hkept.scrollTop.trans h.scrollTop⟩

/-- Every turn goes on showing the last answer. -/
theorem turn
    {b b' : Browser} (h : b.page.Shows past) (hturn : b.Turn e b') :
    b'.page.Shows (past ++ [e]) := by
  cases hturn with
  | first hprepare reply =>
      have hprepared := h.congr (Browser.sameDisplay_of_prepare? hprepare)
      exact hprepared.concat_round _ _ _ reply
  | again form reply => exact h.concat_round _ _ _ reply
  | news hrequest reply news =>
      apply (h.told news).concat_of_none
      · simp only [response?, if_neg hrequest]
      · exact fun index => rfl
  | quiet haction result =>
      apply h.concat_of_none rfl
      intro index
      exact toggles_of_endsQuietly haction
  | toggled htoggle => exact h.concat_toggled htoggle
  | missed htoggle => exact h.concat_of_none rfl fun index => rfl
  | preferred render sort => exact h.concat_of_none rfl fun index => rfl

theorem turns
    {start b : Browser} (hstart : start.page.Shows []) (hturns : start.Turns past b) :
    b.page.Shows past := by
  induction hturns with
  | none => exact hstart
  | turn before now ih => exact ih.turn now

end PageView.Shows

theorem News.map_outcome_ne_searched (news : Except ClientError News) (outcome : SearchOutcome) :
    news.map News.outcome ≠ .ok (.searched outcome) := by
  rcases news with e | news
  · nofun
  · cases news <;> nofun

namespace Network

variable {σ : Type} (net : Network σ) (s : σ) {b : Browser} {action : Action}

/-- An action that does not search has no outcome of a search. -/
theorem ne_searched_of_not_searches (hsearches : ¬action.Searches) (outcome : SearchOutcome) :
    (net.perform s b action).2.2 ≠ .ok (.searched outcome) := by
  cases action with
  | login username password =>
      rw [perform_login]
      exact News.map_outcome_ne_searched _ _
  | logout =>
      rw [perform_logout]
      exact News.map_outcome_ne_searched _ _
  | listBlogs =>
      rw [perform_listBlogs]
      exact News.map_outcome_ne_searched _ _
  | toggle index =>
      rw [perform_toggle]
      cases b.page.toggle index <;> nofun
  | prefer render sort =>
      rw [perform_prefer]
      nofun
  | _ => exact absurd trivial hsearches

end Network

/-- A rendered outcome tells the panel and the number of the results that are on the page. -/
theorem Backend.shown_of_rendered
    (backend : Backend) (sent : List Request) {b : Browser} (hissued : b.TicketsIssued)
    {action : Action} {panel : Panel} {count : Nat} {corrected : Option UInt32}
    (h : (backend.network.perform sent b action).2.2 =
      .ok (.searched (.rendered panel count corrected))) :
    (backend.network.perform sent b action).2.1.page.panel = some panel ∧
      (backend.network.perform sent b action).2.1.page.results.length = count := by
  by_cases hsearches : action.Searches
  · rcases hprepare : b.prepare? action with _ | ⟨b₀, f, push⟩
    · rw [Network.perform_of_prepare?_eq_none _ sent hsearches hprepare] at h
      exact absurd h (action.refusal_ne_searched _)
    · rw [Network.perform_of_prepare? _ sent hissued hprepare] at h ⊢
      have hsearch := backend.correctedOnce_search sent b₀ f push
      obtain ⟨corrected', -, hresult⟩ := hsearch.outcome
      rw [hresult] at h
      cases hanswer : backend.answer (backend.network.search sent b₀ f push).1 with
      | error e =>
          rw [hanswer] at h
          cases h
      | ok r =>
          obtain ⟨hresults, hpanel, -⟩ := hsearch.shown r hanswer
          rw [hanswer] at h
          cases h
          refine ⟨hpanel, ?_⟩
          rw [hresults, List.length_map]
  · exact absurd h (backend.network.ne_searched_of_not_searches sent hsearches _)

/-- After any actions one after another, and whatever the backend answers, the page shows the whole
answer that was decoded last, with the previews that were toggled since; a rendered outcome tells what
is on the page; and a toggle changes one preview, or nothing where there is no result. -/
theorem page_shows_last_answer
    (backend : Backend) (defaults : SearchForm) (actions : List Action) :
    let record := backend.events [] (Browser.new defaults) actions
    let before := backend.network.performAll [] (Browser.new defaults) actions
    let page := before.2.1.page
    page.Shows record ∧
      (∀ action panel count corrected,
        let after := backend.network.perform before.1 before.2.1 action
        after.2.2 = .ok (.searched (.rendered panel count corrected)) →
          after.2.1.page.panel = some panel ∧ after.2.1.page.results.length = count) ∧
      ∀ index,
        let after := backend.network.perform before.1 before.2.1 (.toggle index)
        (∀ hindex : index < page.results.length,
          let result := page.results[index]
          let preview := result.preview.toggle
          let results := page.results.set index { result with preview := preview }
          after = (before.1, { before.2.1 with page := { page with results := results } },
            .ok (.preview preview))) ∧
        (page.results.length ≤ index →
          after = (before.1, before.2.1, .error (.noSuchResult index page.results.length))) := by
  intro record before page
  have hnew : (Browser.new defaults).TicketsIssued := Browser.ticketsIssued_new defaults .empty
  have hissued : before.2.1.TicketsIssued :=
    Network.ticketsIssued_performAll _ _ actions hnew
  have hturns : (Browser.new defaults).Turns record before.2.1 :=
    backend.turns_performAll [] hnew .none actions
  refine ⟨.turns .empty hturns, ?_, ?_⟩
  · intro action panel count corrected after h
    exact backend.shown_of_rendered before.1 hissued h
  · intro index after
    have hafter : after = _ := Network.perform_toggle _ _ _ index
    constructor
    · intro hindex result preview results
      have hresult : page.results[index]? = some result := List.getElem?_eq_getElem hindex
      rw [hafter, PageView.toggle_of_getElem? hresult]
    · intro hle
      rw [hafter, PageView.toggle_of_length_le hle]

end BlogSearch
