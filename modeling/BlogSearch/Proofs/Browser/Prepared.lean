import BlogSearch.Proofs.Browser.Alone
import BlogSearch.Proofs.Page.View

/-!
# What comes before a search

Six of the actions search.  Before it searches, such an action prepares the browser: it fills in the
form, or moves through the history, or puts a location on the page.  If there is nothing to search
for, it is refused and the browser stays as it is.  Neither the preparation nor the registration of a
round touches what is shown.
-/

namespace BlogSearch

/-- The action searches, unless it is refused. -/
def Action.Searches : Action → Prop
  | .submit _ _ => True
  | .search _ _ => True
  | .paginate _ => True
  | .back => True
  | .forward => True
  | .openPath _ => True
  | _ => False

/-- How an action that searches ends when there is nothing to search for. -/
def Action.refusal : Action → Result
  | .paginate _ => .error .noActiveSearch
  | .openPath path => .error (.invalidLocation path)
  | _ => .ok .nowhere

theorem Action.refusal_ne_searched (action : Action) (outcome : SearchOutcome) :
    action.refusal ≠ .ok (.searched outcome) := by
  cases action <;> nofun

namespace Browser

/-- The browser after the history has moved to an entry, with the form of that entry. -/
def revisit? (b : Browser) : History × Option HistoryEntry → Option (Browser × SearchForm × Bool)
  | (history, some entry) =>
      some ({ b with history := history, page := b.page.navigate entry.url }, entry.state, false)
  | (_, none) => none

/-- The browser from which an action searches, the form that it searches for, and whether the search
goes into the history. -/
def prepare? (b : Browser) : Action → Option (Browser × SearchForm × Bool)
  | .submit blog query =>
      let form := { b.form with blog := blog, query := query, page := 1 }
      some ({ b with form := form }, form, true)
  | .search form push => some (b, form, push)
  | .paginate page =>
      (b.form.restore? b.last page).map fun form => ({ b with form := form }, form, false)
  | .back => b.revisit? b.history.back
  | .forward => b.revisit? b.history.forward
  | .openPath path =>
      (Location.read? path).map fun l =>
        let form := { b.form with blog := l.blog, query := l.query, page := l.page }
        let entry := HistoryEntry.ofForm form
        ({ b with page := b.page.navigate entry.url, history := b.history.replace entry }, form,
          false)
  | _ => none

variable {b b₀ : Browser} {action : Action} {form : SearchForm} {push : Bool}

theorem revisit?_eq_some_iff
    {moved : History × Option HistoryEntry} :
    b.revisit? moved = some (b₀, form, push) ↔
      ∃ entry, moved.2 = some entry ∧
        b₀ = { b with history := moved.1, page := b.page.navigate entry.url } ∧
        form = entry.state ∧ push = false := by
  obtain ⟨history, _ | entry⟩ := moved
  · simp [revisit?]
  · simp only [revisit?, Option.some.injEq, Prod.mk.injEq, exists_eq_left']
    constructor
    · rintro ⟨rfl, rfl, rfl⟩
      exact ⟨rfl, rfl, rfl⟩
    · rintro ⟨rfl, rfl, rfl⟩
      exact ⟨rfl, rfl, rfl⟩

theorem revisit?_eq_none_iff
    {moved : History × Option HistoryEntry} : b.revisit? moved = none ↔ moved.2 = none := by
  obtain ⟨history, _ | entry⟩ := moved
  · simp [revisit?]
  · simp [revisit?]

theorem prepare?_paginate_eq_none_iff
    {page : Option UInt32} : b.prepare? (.paginate page) = none ↔ b.last = none := by
  have hrestore : b.form.restore? b.last page = none ↔ b.last = none := Option.map_eq_none_iff
  exact Option.map_eq_none_iff.trans hrestore

theorem prepare?_openPath_eq_none_iff
    {path : String} : b.prepare? (.openPath path) = none ↔ Location.read? path = none :=
  Option.map_eq_none_iff

/-- A registration changes nothing on the page but the location. -/
theorem sameDisplay_register (b : Browser) (f : SearchForm) (push : Bool) :
    (b.register f push).page.SameDisplay b.page := by
  cases push with
  | false => exact .refl b.page
  | true => exact b.page.sameDisplay_navigate _

/-- A preparation changes nothing on the page but the location. -/
theorem sameDisplay_of_prepare? (h : b.prepare? action = some (b₀, form, push)) :
    b₀.page.SameDisplay b.page := by
  cases action with
  | submit blog query =>
      cases h
      exact .refl b.page
  | search f p =>
      cases h
      exact .refl b.page
  | paginate page =>
      obtain ⟨f, -, hf⟩ := Option.map_eq_some_iff.mp h
      cases hf
      exact .refl b.page
  | back =>
      obtain ⟨entry, -, rfl, -, -⟩ := revisit?_eq_some_iff.mp h
      exact b.page.sameDisplay_navigate entry.url
  | forward =>
      obtain ⟨entry, -, rfl, -, -⟩ := revisit?_eq_some_iff.mp h
      exact b.page.sameDisplay_navigate entry.url
  | openPath path =>
      obtain ⟨l, -, hl⟩ := Option.map_eq_some_iff.mp h
      cases hl
      exact b.page.sameDisplay_navigate _
  | _ => cases h

end Browser

namespace Network

variable {σ : Type} {s : σ} {b b₀ : Browser} {action : Action} {form : SearchForm} {push : Bool}

/-- An action that has prepared its search searches. -/
theorem perform_of_prepare?
    (net : Network σ) (s : σ) (hb : b.TicketsIssued)
    (h : b.prepare? action = some (b₀, form, push)) :
    net.perform s b action = net.search s b₀ form push := by
  cases action with
  | submit blog query =>
      cases h
      exact perform_submit net s hb blog query
  | search f p =>
      cases h
      exact perform_search net s hb _ _
  | paginate page =>
      obtain ⟨f, hform, hf⟩ := Option.map_eq_some_iff.mp h
      cases hf
      exact perform_paginate net s hb hform
  | back =>
      obtain ⟨entry, hentry, rfl, rfl, rfl⟩ := Browser.revisit?_eq_some_iff.mp h
      exact perform_back net s hb (Prod.ext rfl hentry)
  | forward =>
      obtain ⟨entry, hentry, rfl, rfl, rfl⟩ := Browser.revisit?_eq_some_iff.mp h
      exact perform_forward net s hb (Prod.ext rfl hentry)
  | openPath path =>
      obtain ⟨l, hread, hl⟩ := Option.map_eq_some_iff.mp h
      cases hl
      exact perform_openPath net s hb hread
  | _ => cases h

/-- An action that finds nothing to search for sends nothing and changes nothing. -/
theorem perform_of_prepare?_eq_none
    (net : Network σ) (s : σ) (hsearches : action.Searches) (h : b.prepare? action = none) :
    net.perform s b action = (s, b, action.refusal) := by
  cases action with
  | submit blog query => cases h
  | search f p => cases h
  | paginate page =>
      have hlast : b.last = none := Browser.prepare?_paginate_eq_none_iff.mp h
      exact perform_paginate_of_none net s hlast
  | back =>
      have hback := Browser.revisit?_eq_none_iff.mp h
      exact perform_back_of_none net s (Prod.ext rfl hback)
  | forward =>
      have hforward := Browser.revisit?_eq_none_iff.mp h
      exact perform_forward_of_none net s (Prod.ext rfl hforward)
  | openPath path => exact perform_openPath_of_none net s (Browser.prepare?_openPath_eq_none_iff.mp h)
  | _ => cases hsearches

end Network

end BlogSearch
