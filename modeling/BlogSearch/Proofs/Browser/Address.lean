import BlogSearch.Proofs.Browser.Prepared
import BlogSearch.Proofs.Browser.Trail
import BlogSearch.Proofs.Navigation.History
import BlogSearch.Proofs.Navigation.Location

/-!
# The history and the location of the page

The entries of the history name the searches that they were made for, and the page stands at the
entry under the cursor until someone logs in or out.  Actions write the history and the location at
different moments, so both facts are shown of an action as a whole: what it prepares keeps them, and
so does the search that follows.
-/

namespace BlogSearch

/-- The search is for a form that does not come from the page. -/
def Action.Direct : Action → Prop
  | .search _ _ => True
  | _ => False

/-- Someone was logged in or out. -/
def Result.ChangesAccount : Result → Prop
  | .ok (.loggedIn r) => r.success
  | .ok .loggedOut => True
  | _ => False

/-- The path of the entry is that of its search, and reads back as it. -/
structure HistoryEntry.Faithful (e : HistoryEntry) : Prop where
  page : 1 ≤ e.state.page
  url : e.url = searchPath e.state.blog e.state.query e.state.page
  read : Location.read? e.url = some ⟨e.state.blog, e.state.query, e.state.page⟩

/-- The cursor of the history stands on an entry, and every entry is faithful. -/
structure History.Coherent (h : History) : Prop where
  placed : h.CursorPlaced
  faithful : ∀ e ∈ h.entries, e.Faithful

/-- The page stands at the entry under the cursor, and nowhere if there is none. -/
def Browser.AtCurrent (b : Browser) : Prop :=
  b.page.location = b.history.current?.map HistoryEntry.url

theorem HistoryEntry.faithful_ofForm {f : SearchForm} (hpage : 1 ≤ f.page) :
    (ofForm f).Faithful := by
  have hread : Location.read? (ofForm f).url = some ⟨f.blog, f.query, max f.page 1⟩ :=
    Location.read?_path ⟨f.blog, f.query, f.page⟩
  rw [SearchForm.max_one_of_le hpage] at hread
  exact ⟨hpage, rfl, hread⟩

namespace History.Coherent

variable {h : History} {e : HistoryEntry}

theorem empty : History.empty.Coherent := by
  refine ⟨cursorPlaced_empty, ?_⟩
  intro e he
  cases he

theorem push (hcoherent : h.Coherent) (he : e.Faithful) : (h.push e).Coherent := by
  refine ⟨cursorPlaced_push h e, ?_⟩
  intro x hx
  rcases mem_push hx with hold | rfl
  · exact hcoherent.faithful x hold
  · exact he

theorem replace (hcoherent : h.Coherent) (he : e.Faithful) : (h.replace e).Coherent := by
  refine ⟨hcoherent.placed.replace, ?_⟩
  intro x hx
  rcases mem_replace hx with hold | rfl
  · exact hcoherent.faithful x hold
  · exact he

theorem back (hcoherent : h.Coherent) : h.back.1.Coherent := by
  refine ⟨hcoherent.placed.back, ?_⟩
  rw [entries_back]
  exact hcoherent.faithful

theorem forward (hcoherent : h.Coherent) : h.forward.1.Coherent := by
  refine ⟨hcoherent.placed.forward, ?_⟩
  rw [entries_forward]
  exact hcoherent.faithful

end History.Coherent

namespace Browser

variable {b b' b₀ : Browser} {action : Action} {form : SearchForm} {push : Bool}

theorem AtCurrent.congr
    (hb : b.AtCurrent) (hhistory : b'.history = b.history)
    (hlocation : b'.page.location = b.page.location) : b'.AtCurrent := by
  rw [AtCurrent, hhistory, hlocation]
  exact hb

/-- A browser that has been brought to an entry stands there. -/
theorem atCurrent_of_current?
    {e : HistoryEntry} (hcurrent : b.history.current? = some e)
    (hlocation : b.page.location = some e.url) : b.AtCurrent := by
  rw [AtCurrent, hcurrent, hlocation]
  rfl

/-- What an action prepares keeps the history coherent and the page at its entry, and a search that
goes into the history is for a page that counts. -/
theorem coherent_of_prepare?
    (hb : b.history.Coherent) (hdirect : ¬action.Direct)
    (h : b.prepare? action = some (b₀, form, push)) :
    b₀.history.Coherent ∧ (push = true → 1 ≤ form.page) ∧ (b.AtCurrent → b₀.AtCurrent) := by
  cases action with
  | submit blog query =>
      cases h
      exact ⟨hb, fun _ => UInt32.le_refl 1, fun hat => hat⟩
  | search f p => exact absurd trivial hdirect
  | paginate page =>
      obtain ⟨f, -, hf⟩ := Option.map_eq_some_iff.mp h
      cases hf
      exact ⟨hb, nofun, fun hat => hat⟩
  | back =>
      obtain ⟨entry, hentry, rfl, -, rfl⟩ := revisit?_eq_some_iff.mp h
      have hcurrent := History.current?_back hentry
      exact ⟨hb.back, nofun, fun _ => atCurrent_of_current? hcurrent rfl⟩
  | forward =>
      obtain ⟨entry, hentry, rfl, -, rfl⟩ := revisit?_eq_some_iff.mp h
      have hcurrent := History.current?_forward hentry
      exact ⟨hb.forward, nofun, fun _ => atCurrent_of_current? hcurrent rfl⟩
  | openPath path =>
      obtain ⟨l, hread, hl⟩ := Option.map_eq_some_iff.mp h
      cases hl
      let f := { b.form with blog := l.blog, query := l.query, page := l.page }
      have hfaithful : (HistoryEntry.ofForm f).Faithful :=
        HistoryEntry.faithful_ofForm (Location.one_le_page_of_read? hread)
      have hcurrent : (b.history.replace (.ofForm f)).current? = some (.ofForm f) :=
        hb.placed.current?_replace
      exact ⟨hb.replace hfaithful, nofun, fun _ => atCurrent_of_current? hcurrent rfl⟩
  | _ => cases h

end Browser

namespace Network

variable {σ : Type} (net : Network σ) (s : σ) {b : Browser}

theorem coherent_search
    (hb : b.history.Coherent) {f : SearchForm} {push : Bool} (hpage : push = true → 1 ≤ f.page) :
    (net.search s b f push).2.1.history.Coherent ∧
      (b.AtCurrent → (net.search s b f push).2.1.AtCurrent) := by
  obtain ⟨-, -, hhistory, hlocation⟩ := net.trail_search s b f push
  cases push with
  | false =>
      refine ⟨?_, fun hat => hat.congr hhistory hlocation⟩
      rw [hhistory]
      exact hb
  | true =>
      have hcurrent : (net.search s b f true).2.1.history.current? = some (.ofForm f) := by
        rw [hhistory]
        exact History.current?_push b.history _
      refine ⟨?_, fun _ => Browser.atCurrent_of_current? hcurrent hlocation⟩
      rw [hhistory]
      exact hb.push (HistoryEntry.faithful_ofForm (hpage rfl))

theorem location_told_loggedIn
    (b : Browser) {answer : Except ClientError LoginResponse}
    (h : ¬Result.ChangesAccount ((answer.map News.loggedIn).map News.outcome)) :
    (b.told (answer.map News.loggedIn)).page.location = b.page.location := by
  cases answer with
  | error e => rfl
  | ok r =>
      have hfailed : ¬r.success := h
      simp [Except.map, Browser.told, Browser.hear, hfailed, PageView.showLoginStatus]

theorem location_told_loggedOut
    (b : Browser) {answer : Except ClientError String}
    (h : ¬Result.ChangesAccount ((answer.map fun _ => News.loggedOut).map News.outcome)) :
    (b.told (answer.map fun _ => News.loggedOut)).page.location = b.page.location := by
  cases answer with
  | error e => rfl
  | ok body => exact absurd trivial h

/-- An action that does not search keeps the history, and the location unless it changes the
account. -/
theorem address_of_not_searches {action : Action} (hsearches : ¬action.Searches) :
    (net.perform s b action).2.1.history = b.history ∧
      (¬(net.perform s b action).2.2.ChangesAccount →
        (net.perform s b action).2.1.page.location = b.page.location) := by
  cases action with
  | login username password =>
      rw [perform_login]
      exact ⟨(trail_told b _).2.2, location_told_loggedIn b⟩
  | logout =>
      rw [perform_logout]
      exact ⟨(trail_told b _).2.2, location_told_loggedOut b⟩
  | listBlogs =>
      rw [perform_listBlogs]
      exact ⟨(trail_told b _).2.2, fun _ => net.location_told_listing s b⟩
  | toggle index =>
      obtain ⟨-, -, hhistory, hlocation⟩ := net.trail_toggle s b index
      exact ⟨hhistory, fun _ => hlocation⟩
  | prefer render sort =>
      rw [perform_prefer]
      exact ⟨rfl, fun _ => rfl⟩
  | _ => exact absurd trivial hsearches

/-- An action keeps the history coherent, and the page at its entry unless it changes the account. -/
theorem coherent_perform
    (hissued : b.TicketsIssued) (hb : b.history.Coherent) {action : Action}
    (hdirect : ¬action.Direct) :
    (net.perform s b action).2.1.history.Coherent ∧
      (¬(net.perform s b action).2.2.ChangesAccount → b.AtCurrent →
        (net.perform s b action).2.1.AtCurrent) := by
  by_cases hsearches : action.Searches
  · rcases hprepare : b.prepare? action with _ | ⟨b₀, f, push⟩
    · rw [perform_of_prepare?_eq_none net s hsearches hprepare]
      exact ⟨hb, fun _ hat => hat⟩
    · obtain ⟨hb₀, hpage, hat₀⟩ := Browser.coherent_of_prepare? hb hdirect hprepare
      obtain ⟨hafter, hat⟩ := net.coherent_search s hb₀ hpage
      rw [perform_of_prepare? net s hissued hprepare]
      exact ⟨hafter, fun _ hstart => hat (hat₀ hstart)⟩
  · obtain ⟨hhistory, hlocation⟩ := net.address_of_not_searches s (b := b) hsearches
    refine ⟨?_, fun haccount hat => hat.congr hhistory (hlocation haccount)⟩
    rw [hhistory]
    exact hb

theorem coherent_performAll
    (hissued : b.TicketsIssued) (hb : b.history.Coherent) (actions : List Action)
    (hdirect : ∀ action ∈ actions, ¬action.Direct) :
    (net.performAll s b actions).2.1.history.Coherent ∧
      ((∀ result ∈ (net.performAll s b actions).2.2, ¬result.ChangesAccount) → b.AtCurrent →
        (net.performAll s b actions).2.1.AtCurrent) := by
  induction actions generalizing s b with
  | nil => exact ⟨hb, fun _ hat => hat⟩
  | cons action rest ih =>
      have haction : ¬action.Direct := hdirect action List.mem_cons_self
      have hrest : ∀ other ∈ rest, ¬other.Direct := by
        intro other hother
        exact hdirect other (List.mem_cons_of_mem action hother)
      obtain ⟨hb', hat'⟩ := net.coherent_perform s hissued hb haction
      obtain ⟨hafter, hat⟩ := ih (net.perform s b action).1
        (ticketsIssued_perform net s action hissued) hb' hrest
      refine ⟨hafter, ?_⟩
      intro haccount hstart
      have hfirst := haccount _ List.mem_cons_self
      have hlater : ∀ result ∈ (net.performAll (net.perform s b action).1
          (net.perform s b action).2.1 rest).2.2, ¬result.ChangesAccount := by
        intro result hresult
        exact haccount result (List.mem_cons_of_mem _ hresult)
      exact hat hlater (hat' hfirst hstart)

end Network

/-- After any actions one after another that take their forms from the page, and whatever the backend
answers, every entry of the history names its search; and unless someone was logged in or out, the
page stands at the entry under the cursor, and nowhere exactly if there is no entry. -/
theorem page_at_current_entry
    (backend : Backend) (defaults : SearchForm) (actions : List Action)
    (hdirect : ∀ action ∈ actions, ¬action.Direct) :
    let after := backend.network.performAll [] (Browser.new defaults) actions
    let history := after.2.1.history
    let location := after.2.1.page.location
    (∀ e ∈ history.entries, e.Faithful) ∧
      ((∀ result ∈ after.2.2, ¬result.ChangesAccount) →
        location = history.current?.map HistoryEntry.url ∧
          (location = none ↔ history.entries = [])) := by
  intro after history location
  have hissued : (Browser.new defaults).TicketsIssued :=
    Browser.ticketsIssued_new defaults .empty
  obtain ⟨hcoherent, hat⟩ := backend.network.coherent_performAll [] hissued .empty actions hdirect
  refine ⟨hcoherent.faithful, ?_⟩
  intro haccount
  have hlocation : location = history.current?.map HistoryEntry.url := hat haccount rfl
  refine ⟨hlocation, ?_⟩
  rw [hlocation, Option.map_eq_none_iff]
  exact hcoherent.placed.current?_eq_none_iff

/-- A backend to which no connection can be made. -/
def Backend.unreachable : Backend := fun _ => .failed

theorem Backend.result_unreachable
    (sent : List Request) {b : Browser} (hissued : b.TicketsIssued) {action : Action}
    (hsearches : b.prepare? action ≠ none) :
    (unreachable.network.perform sent b action).2.2 = .error .http := by
  obtain ⟨⟨b₀, f, push⟩, hprepare⟩ := Option.ne_none_iff_exists'.mp hsearches
  rw [Network.perform_of_prepare? unreachable.network sent hissued hprepare]
  rfl

/-- Opening a path after a submitted search brings the page to the path, though neither search could
be sent. -/
theorem page_at_opened_path :
    let actions := [Action.submit "staff" "my art", .openPath "/search/staff/new/page/3"]
    let after := Backend.unreachable.network.performAll [] (Browser.new default) actions
    (∀ action ∈ actions, ¬action.Direct) ∧ after.2.2 = [.error .http, .error .http] ∧
      (∀ e ∈ after.2.1.history.entries, e.Faithful) ∧
        after.2.1.page.location = after.2.1.history.current?.map HistoryEntry.url ∧
          (after.2.1.page.location = none ↔ after.2.1.history.entries = []) := by
  intro actions after
  have hdirect : ∀ action ∈ actions, ¬action.Direct := by simp [actions, Action.Direct]
  have hnew : (Browser.new default).TicketsIssued := Browser.ticketsIssued_new default .empty
  have hresults : after.2.2 = [.error .http, .error .http] := by
    let submitted :=
      Backend.unreachable.network.perform [] (Browser.new default) (.submit "staff" "my art")
    have hsubmit : submitted.2.2 = .error .http := Backend.result_unreachable [] hnew (Option.some_ne_none _)
    have hread : Location.read? "/search/staff/new/page/3" = some ⟨"staff", "new", 3⟩ := by
      decide +kernel
    have hissued : submitted.2.1.TicketsIssued :=
      Network.ticketsIssued_perform _ [] (.submit "staff" "my art") hnew
    have hopen : (Backend.unreachable.network.perform submitted.1 submitted.2.1
        (.openPath "/search/staff/new/page/3")).2.2 = .error .http := by
      apply Backend.result_unreachable submitted.1 hissued
      intro hnone
      rw [Browser.prepare?_openPath_eq_none_iff, hread] at hnone
      cases hnone
    exact congrArg₂ (fun first second => [first, second]) hsubmit hopen
  obtain ⟨hfaithful, hat⟩ :=
    page_at_current_entry Backend.unreachable default actions hdirect
  have haccount : ∀ result ∈ after.2.2, ¬result.ChangesAccount := by
    simp [hresults, Result.ChangesAccount]
  exact ⟨hdirect, hresults, hfaithful, hat haccount⟩

end BlogSearch
