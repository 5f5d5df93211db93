import BlogSearch.Proofs.Browser.Address
import BlogSearch.Proofs.Browser.Causes
import BlogSearch.Proofs.Browser.Repetition
import BlogSearch.Proofs.Navigation.Route

/-!
# Opening a path

A path is opened if it is one of the routes of a search, and refused as it was given if it is none.  The
path of the current entry is always one of them, and to open it is to load the page again: the search is
repeated with the preferences of the form, and the history stays as it is but for them.
-/

namespace BlogSearch

open Location

variable (backend : Backend) (sent : List Request) (b : Browser)

/-! ## Which paths are opened -/

/-- What a browser with a current entry makes of loading its page again. -/
structure Reloads
    (backend : Backend) (sent : List Request) (b : Browser) (e : HistoryEntry)
    (sent' : List Request) (b' : Browser) : Prop where
  /-- The search of the entry is asked for first, with the preferences of the form. -/
  request : sent ++ [.search ⟨e.state.blog, e.state.query, e.state.page, b.form.render,
    b.form.sort⟩] <+: sent'
  size : b'.history.size = b.history.size
  cursor : b'.history.cursor = b.history.cursor
  others : ∀ i, b.history.cursor ≠ some i → b'.history.entries[i]? = b.history.entries[i]?
  url : ∃ e', b'.history.current? = some e' ∧ e'.url = e.url
  /-- With the preferences of the entry nothing of the history changes, and what is sent first is what
  is sent when the entry is replayed. -/
  repeated : b.form.render = e.state.render → b.form.sort = e.state.sort →
    b'.history = b.history ∧ sent ++ [.search e.state.request] <+: sent' ∧
      sent ++ [.search e.state.request] <+: (backend.network.run sent b (.replay e)).1

theorem History.exists_cursor_of_current? {h : History} {e : HistoryEntry}
    (hcurrent : h.current? = some e) : ∃ c, h.cursor = some c ∧ h.entries[c]? = some e :=
  Option.bind_eq_some_iff.mp hcurrent

theorem History.Coherent.faithful_current {h : History} {e : HistoryEntry}
    (hcoherent : h.Coherent) (hcurrent : h.current? = some e) : e.Faithful := by
  obtain ⟨c, -, hentry⟩ := History.exists_cursor_of_current? hcurrent
  exact hcoherent.faithful e (List.mem_of_getElem? hentry)

/-- An entry that takes its own place changes nothing. -/
theorem History.replace_current
    {h : History} {e : HistoryEntry} (hplaced : h.CursorPlaced) (hcurrent : h.current? = some e) :
    h.replace e = h := by
  obtain ⟨c, hcursor, hentry⟩ := History.exists_cursor_of_current? hcurrent
  obtain ⟨hlt, rfl⟩ := List.getElem?_eq_some_iff.mp hentry
  rw [History.replace_of_cursor_eq_some hplaced hcursor, List.set_getElem_self]

namespace HistoryEntry

variable {b} {e : HistoryEntry}

/-- The form that asks for the search of an entry again. -/
def again (b : Browser) (e : HistoryEntry) : SearchForm :=
  { b.form with blog := e.state.blog, query := e.state.query, page := e.state.page }

theorem Faithful.url_again (he : e.Faithful) : (ofForm (again b e)).url = e.url :=
  he.url.symm

theorem Faithful.request_again (he : e.Faithful) :
    (again b e).request =
      ⟨e.state.blog, e.state.query, e.state.page, b.form.render, b.form.sort⟩ := by
  rw [SearchForm.request, again, SearchForm.max_one_of_le he.page]

theorem again_eq_state (hrender : b.form.render = e.state.render) (hsort : b.form.sort = e.state.sort) :
    again b e = e.state := by
  rw [again, hrender, hsort]

theorem Faithful.ofForm_state (he : e.Faithful) : ofForm e.state = e := by
  rw [ofForm, ← he.url]

end HistoryEntry

open HistoryEntry

/-- Opening the path of an entry searches for it again from the entry put in its place. -/
theorem Network.perform_openPath_url
    {σ : Type} (net : Network σ) (s : σ) {b : Browser} (hissued : b.TicketsIssued) {e : HistoryEntry}
    (he : e.Faithful) :
    net.perform s b (.openPath e.url) =
      net.search s
        { b with
          page := b.page.navigate (ofForm (again b e)).url
          history := b.history.replace (ofForm (again b e)) }
        (again b e) false := by
  have hopen := perform_openPath net s hissued he.read
  simpa only [again] using hopen

/-- Opening the path of the current entry loads its page again. -/
theorem Backend.reloads_openPath
    (hissued : b.TicketsIssued) (hcoherent : b.history.Coherent) {e : HistoryEntry}
    (hcurrent : b.history.current? = some e) :
    let after := backend.network.perform sent b (.openPath e.url)
    Reloads backend sent b e after.1 after.2.1 := by
  intro after
  have he := hcoherent.faithful_current hcurrent
  obtain ⟨c, hcursor, -⟩ := History.exists_cursor_of_current? hcurrent
  let form := again b e
  let b₀ : Browser := { b with
    page := b.page.navigate (ofForm form).url
    history := b.history.replace (ofForm form) }
  have hafter : after = backend.network.search sent b₀ form false :=
    Network.perform_openPath_url backend.network sent hissued he
  have hsent : sent ++ [.search form.request] <+: after.1 := by
    rw [hafter]
    exact backend.prefix_search sent form false
  have hhistory : after.2.1.history = b.history.replace (ofForm form) := by
    rw [hafter]
    exact (backend.network.trail_search sent b₀ form false).2.2.1
  have hreplaced := History.replace_of_cursor_eq_some (e := ofForm form) hcoherent.placed hcursor
  constructor
  · rw [← he.request_again]
    exact hsent
  · rw [hhistory, hreplaced, History.size, List.length_set]
    rfl
  · rw [hhistory, hreplaced]
  · intro i hi
    have hne : c ≠ i := fun heq => hi (hcursor.trans (congrArg some heq))
    rw [hhistory, hreplaced, List.getElem?_set_ne hne]
  · refine ⟨ofForm form, ?_, he.url_again⟩
    rw [hhistory]
    exact hcoherent.placed.current?_replace
  · intro hrender hsort
    have hform : form = e.state := again_eq_state hrender hsort
    refine ⟨?_, ?_, ?_⟩
    · rw [hhistory, hform, he.ofForm_state, History.replace_current hcoherent.placed hcurrent]
    · rw [← hform]
      exact hsent
    · rw [Network.run_replay backend.network sent hissued e]
      exact backend.prefix_search sent e.state false

end BlogSearch
