import BlogSearch.Proofs.Browser.Deeds
import BlogSearch.Proofs.Browser.Prepared
import BlogSearch.Proofs.Browser.Trail
import BlogSearch.Proofs.Navigation.History

/-!
# The preferences of the form

Renderer and order are fields of the form, so whatever puts a form on the page puts its preferences
there.  A search from the form of the page keeps them; setting preferences changes them, and moving to
an entry of the history brings back those with which the entry was written.  So the form has the
preferences that the deeds of a run have brought last.
-/

namespace BlogSearch

/-- The form has the given preferences. -/
def SearchForm.Prefers (f : SearchForm) (render : Renderer) (sort : SortOrder) : Prop :=
  f.render = render ∧ f.sort = sort

/-- The preferences of an entry, if there is one. -/
def HistoryEntry.preferences (e : Option HistoryEntry) : Option Renderer × Option SortOrder :=
  (e.map fun e => e.state.render, e.map fun e => e.state.sort)

namespace Browser

/-- The preferences that an action brings to the page: those that it sets, or those of the entry or the
form that it searches for. -/
def brings (b : Browser) : Action → Option Renderer × Option SortOrder
  | .prefer render sort => (render, sort)
  | .search form _ => (some form.render, some form.sort)
  | .back => HistoryEntry.preferences b.history.back.2
  | .forward => HistoryEntry.preferences b.history.forward.2
  | _ => (none, none)

variable {b b₀ : Browser} {action : Action} {form : SearchForm} {push : Bool}

/-- An action searches with the preferences that it brings, and else with those of the page. -/
theorem prefers_of_prepare? (h : b.prepare? action = some (b₀, form, push)) :
    form.Prefers ((b.brings action).1.getD b.form.render)
      ((b.brings action).2.getD b.form.sort) := by
  cases action with
  | submit blog query =>
      cases h
      exact ⟨rfl, rfl⟩
  | search f p =>
      cases h
      exact ⟨rfl, rfl⟩
  | paginate page =>
      obtain ⟨f, hrestore, hf⟩ := Option.map_eq_some_iff.mp h
      obtain ⟨l, -, rfl⟩ := Option.map_eq_some_iff.mp hrestore
      cases hf
      exact ⟨rfl, rfl⟩
  | back =>
      obtain ⟨entry, hentry, -, rfl, -⟩ := revisit?_eq_some_iff.mp h
      simp only [brings, HistoryEntry.preferences, hentry]
      exact ⟨rfl, rfl⟩
  | forward =>
      obtain ⟨entry, hentry, -, rfl, -⟩ := revisit?_eq_some_iff.mp h
      simp only [brings, HistoryEntry.preferences, hentry]
      exact ⟨rfl, rfl⟩
  | openPath path =>
      obtain ⟨l, -, hl⟩ := Option.map_eq_some_iff.mp h
      cases hl
      exact ⟨rfl, rfl⟩
  | _ => cases h

/-- An action that is refused brings no preferences. -/
theorem brings_of_prepare?_eq_none
    (hsearches : action.Searches) (h : b.prepare? action = none) :
    b.brings action = (none, none) := by
  cases action with
  | submit blog query => cases h
  | search f p => cases h
  | paginate page => rfl
  | openPath path => rfl
  | back =>
      have hentry := revisit?_eq_none_iff.mp h
      simp [brings, HistoryEntry.preferences, hentry]
  | forward =>
      have hentry := revisit?_eq_none_iff.mp h
      simp [brings, HistoryEntry.preferences, hentry]
  | _ => cases hsearches

end Browser

namespace Network

variable {σ : Type} (net : Network σ) (s : σ) {b : Browser}

/-- After an action the page has the preferences that the action brings, and else those it had. -/
theorem prefers_perform (hissued : b.TicketsIssued) (action : Action) :
    (net.perform s b action).2.1.form.Prefers ((b.brings action).1.getD b.form.render)
      ((b.brings action).2.getD b.form.sort) := by
  by_cases hsearches : action.Searches
  · rcases hprepare : b.prepare? action with _ | ⟨b₀, f, push⟩
    · rw [perform_of_prepare?_eq_none net s hsearches hprepare,
        Browser.brings_of_prepare?_eq_none hsearches hprepare]
      exact ⟨rfl, rfl⟩
    · obtain ⟨⟨-, -, hrender, hsort⟩, -⟩ := net.trail_search s b₀ f push
      obtain ⟨hrender', hsort'⟩ := Browser.prefers_of_prepare? hprepare
      rw [perform_of_prepare? net s hissued hprepare]
      exact ⟨hrender.trans hrender', hsort.trans hsort'⟩
  · have hkept {form : SearchForm} (h : form = b.form) :
        form.Prefers b.form.render b.form.sort := by
      rw [h]
      exact ⟨rfl, rfl⟩
    cases action with
    | login username password =>
        rw [perform_login]
        exact hkept (trail_told b _).1
    | logout =>
        rw [perform_logout]
        exact hkept (trail_told b _).1
    | listBlogs =>
        rw [perform_listBlogs]
        exact hkept (trail_told b _).1
    | toggle index => exact hkept (net.trail_toggle s b index).1
    | prefer render sort =>
        rw [perform_prefer]
        exact ⟨rfl, rfl⟩
    | _ => exact absurd trivial hsearches

end Network

/-- The preferences that a deed brought to the page. -/
def Deed.brings (d : Deed) : Option Renderer × Option SortOrder :=
  d.before.brings d.action

/-- After actions one after another the page has the preferences that were brought last, and else those
with which it began. -/
theorem Backend.prefers_performAll
    (backend : Backend) (sent : List Request) {start : Browser} (hissued : start.TicketsIssued)
    (actions : List Action) :
    let deeds := backend.deeds sent start actions
    (backend.network.performAll sent start actions).2.1.form.Prefers
      ((latest? (·.brings.1) deeds).getD start.form.render)
      ((latest? (·.brings.2) deeds).getD start.form.sort) := by
  let Kept (past : List Deed) (b : Browser) : Prop :=
    b.TicketsIssued ∧ b.form.Prefers ((latest? (·.brings.1) past).getD start.form.render)
      ((latest? (·.brings.2) past).getD start.form.sort)
  have hkept : Kept (backend.deeds sent start actions)
      (backend.network.performAll sent start actions).2.1 := by
    refine backend.deeds_preserve (P := Kept) ?_ [] sent start actions ⟨hissued, rfl, rfl⟩
    rintro past sent b action ⟨hb, hrender, hsort⟩
    obtain ⟨hrender', hsort'⟩ := backend.network.prefers_perform sent hb action
    refine ⟨Network.ticketsIssued_perform _ sent action hb, ?_⟩
    rw [latest?_concat, latest?_concat, Option.getD_or, Option.getD_or, ← hrender, ← hsort]
    exact ⟨hrender', hsort'⟩
  exact hkept.2

/-- Going back behind two submitted searches brings back the preferences of the first one, though others
were set since. -/
theorem Backend.prefers_after_return
    (backend : Backend) (sent : List Request) {b : Browser} (hissued : b.TicketsIssued)
    (blog query blog' query' : String) (render : Option Renderer) (sort : Option SortOrder) :
    (backend.network.performAll sent b
      [.submit blog query, .submit blog' query', .prefer render sort, .back]).2.1.form.Prefers
        b.form.render b.form.sort := by
  let first := backend.network.perform sent b (.submit blog query)
  let second := backend.network.perform first.1 first.2.1 (.submit blog' query')
  let third := backend.network.perform second.1 second.2.1 (.prefer render sort)
  have hfirst : first.2.1.TicketsIssued := Network.ticketsIssued_perform _ sent _ hissued
  have hsecond : second.2.1.TicketsIssued := Network.ticketsIssued_perform _ _ _ hfirst
  have hthird : third.2.1.TicketsIssued := Network.ticketsIssued_perform _ _ _ hsecond
  let form := { b.form with blog := blog, query := query, page := 1 }
  have hhistory : ∃ e, third.2.1.history = (b.history.push (.ofForm form)).push e := by
    obtain ⟨-, -, hpushed, -⟩ :=
      backend.network.trail_search sent { b with form := form } form true
    let form' := { first.2.1.form with blog := blog', query := query', page := 1 }
    obtain ⟨-, -, hpushed', -⟩ :=
      backend.network.trail_search first.1 { first.2.1 with form := form' } form' true
    rw [← Network.perform_submit backend.network sent hissued] at hpushed
    rw [← Network.perform_submit backend.network first.1 hfirst] at hpushed'
    have hkept : third.2.1.history = second.2.1.history := by
      simp only [third, Network.perform_prefer]
    exact ⟨.ofForm form', hkept.trans (hpushed'.trans (congrArg (History.push · _) hpushed))⟩
  obtain ⟨e, hhistory⟩ := hhistory
  have hentry : third.2.1.history.back.2 = some (.ofForm form) := by
    rw [hhistory, History.back_push_push]
  have hafter := backend.network.prefers_perform third.1 hthird .back
  rw [Browser.brings, hentry] at hafter
  exact hafter

end BlogSearch
