import BlogSearch.Proofs.Browser.Record
import BlogSearch.Proofs.Browser.Trail

/-!
# Another page of the last search

Going to another page repeats the request that was sent last, whichever action sent it and however it
ended.  Blog and query come from the last search, page and preferences from the form; that they fit
together rests on what the browser remembers of its record.
-/

namespace BlogSearch

namespace Event

/-- The request of an exchange that asks for a search. -/
def search? : Event → Option Request
  | .asked request _ => if request.IsSearch then some request else none
  | .ended _ _ => none

/-- Preferences were set. -/
def Prefers : Event → Prop
  | .ended (.prefer _ _) _ => True
  | _ => False

end Event

open Event

/-- The last search of the browser is the one that was sent last, and the form asks for the same page
and, until preferences are set, with the same preferences. -/
structure Browser.Remembers (b : Browser) (record : List Event) : Prop where
  request : last? search? record = b.last.map fun l => .search l.request
  page : ∀ l ∈ b.last, b.form.page = l.page
  preferences : (∀ e ∈ since search? record, ¬e.Prefers) →
    ∀ l ∈ b.last, b.form.render = l.render ∧ b.form.sort = l.sort

namespace Browser.Remembers

variable {b b' : Browser} {past : List Event} {e : Event}

theorem new (defaults : SearchForm) (view : PageView) :
    { Browser.new defaults with page := view }.Remembers [] := by
  constructor
  · rfl
  · intro l hl
    cases hl
  · intro _ l hl
    cases hl

/-- An event that is no search keeps what is remembered. -/
theorem concat_of_none
    (h : b.Remembers past) (hnone : e.search? = none) (hlast : b'.last = b.last)
    (hpage : b'.form.page = b.form.page) (hform : ¬e.Prefers → b'.form = b.form) :
    b'.Remembers (past ++ [e]) := by
  constructor
  · rw [last?_concat_of_none hnone, hlast]
    exact h.request
  · rw [hlast, hpage]
    exact h.page
  · rw [since_concat_of_none hnone, hlast]
    intro hkept
    have hpast : ∀ e' ∈ since search? past, ¬e'.Prefers := by
      intro e' he'
      exact hkept e' (List.mem_append_left _ he')
    have hnow : ¬e.Prefers := hkept e (List.mem_append_right _ List.mem_cons_self)
    rw [hform hnow]
    exact h.preferences hpast

/-- A round is remembered in place of the searches before it. -/
theorem concat_round
    (b : Browser) (past : List Event) (f : SearchForm) (push : Bool) (reply : Reply) :
    ((b.register f push).settle (reply.read SearchResponse.read)).Remembers
      (past ++ [.asked (.search f.request) reply]) := by
  obtain ⟨hform, hlast, -, -⟩ := (b.register f push).settle_frame (reply.read SearchResponse.read)
  have hsome : (Event.asked (.search f.request) reply).search? = some (.search f.request) :=
    by rw [search?, if_pos (Request.isSearch_search f.request)]
  constructor
  · rw [last?_concat_of_some hsome, hlast]
    rfl
  · rw [hform, hlast]
    intro l hl
    cases hl
    rfl
  · rw [hform, hlast]
    intro _ l hl
    cases hl
    exact ⟨rfl, rfl⟩

/-- Every turn goes on remembering the last search. -/
theorem turn (h : b.Remembers past) (hturn : b.Turn e b') : b'.Remembers (past ++ [e]) := by
  cases hturn with
  | first hprepare reply => exact concat_round _ past _ _ reply
  | again form reply => exact concat_round b past form false reply
  | @news request hrequest reply news =>
      obtain ⟨hform, hlast, -⟩ := Network.trail_told b news
      have hnone : (Event.asked request reply).search? = none := by rw [search?, if_neg hrequest]
      exact h.concat_of_none hnone hlast (congrArg SearchForm.page hform) fun _ => hform
  | quiet haction result => exact h.concat_of_none rfl rfl rfl fun _ => rfl
  | toggled htoggle => exact h.concat_of_none rfl rfl rfl fun _ => rfl
  | missed htoggle => exact h.concat_of_none rfl rfl rfl fun _ => rfl
  | preferred render sort =>
      have hnone : (Event.ended (.prefer render sort) (.ok .preferred)).search? = none := rfl
      refine h.concat_of_none hnone rfl rfl ?_
      intro hprefers
      exact absurd trivial hprefers

theorem turns
    {start : Browser} (hstart : start.Remembers []) (hturns : start.Turns past b) :
    b.Remembers past := by
  induction hturns with
  | none => exact hstart
  | turn before now ih => exact ih.turn now

end Browser.Remembers

/-- The form for another page of a search sends the request of that search, for the page that is given
or else its own, with the preferences of the form. -/
theorem SearchForm.request_of_restore?
    {f l restored : SearchForm} {page : Option UInt32} (hpage : f.page = l.page)
    (h : f.restore? (some l) page = some restored) :
    restored.request =
      { l.request with
        page := (page.map (max · 1)).getD l.request.page
        render := f.render
        sort := f.sort } := by
  rw [f.restore?_of_some rfl page] at h
  cases h
  cases page with
  | none => simp only [SearchForm.request, hpage, Option.map_none, Option.getD_none]
  | some p =>
      have hmax : max (max p 1) 1 = max p 1 :=
        SearchForm.max_one_of_le (SearchForm.one_le_max_one p)
      simp only [SearchForm.request, hmax, Option.map_some, Option.getD_some]

namespace Backend

variable (backend : Backend) (sent : List Request) {b : Browser}

/-- A search sends its form first. -/
theorem prefix_search (f : SearchForm) (push : Bool) :
    sent ++ [.search f.request] <+: (backend.network.search sent b f push).1 := by
  rcases (backend.correctedOnce_search sent b f push).requests with hone | ⟨second, htwo⟩
  · rw [hone]
  · rw [htwo]
    exact ⟨[second], List.append_assoc sent _ _⟩

/-- Going to another page of a last search sends its request first, and stays where it is. -/
theorem paginate_of_last
    (hissued : b.TicketsIssued) {l : SearchForm} (hlast : b.last = some l)
    (hpage : b.form.page = l.page) (page : Option UInt32) :
    let after := backend.network.perform sent b (.paginate page)
    let first : SearchRequest :=
      { l.request with
        page := (page.map (max · 1)).getD l.request.page
        render := b.form.render
        sort := b.form.sort }
    sent ++ [.search first] <+: after.1 ∧ after.2.1.history = b.history ∧
      after.2.1.page.location = b.page.location := by
  intro after first
  obtain ⟨restored, hrestored⟩ : ∃ restored, b.form.restore? (some l) page = some restored :=
    ⟨_, rfl⟩
  have hfirst : restored.request = first := SearchForm.request_of_restore? hpage hrestored
  have hafter : after = backend.network.search sent { b with form := restored } restored false :=
    Network.perform_paginate _ sent hissued (hlast ▸ hrestored)
  have hsearch := backend.correctedOnce_search sent { b with form := restored } restored false
  rw [hafter, ← hfirst]
  exact ⟨backend.prefix_search sent restored false, hsearch.history, hsearch.location⟩

end Backend

/-- After any actions one after another, and whatever the backend answers, going to another page fails
and does nothing if no search was sent.  Otherwise it first sends the request that was sent last, for
the page that is given or else for the same one, with the preferences of the form; that is the very
same request if no page is given and no preferences were set since.  It leaves history and location. -/
theorem paginate_repeats_last_search
    (backend : Backend) (defaults : SearchForm) (view : PageView) (earlier : List Action)
    (page : Option UInt32) :
    let start := { Browser.new defaults with page := view }
    let record := backend.events [] start earlier
    let before := backend.network.performAll [] start earlier
    let after := backend.network.perform before.1 before.2.1 (.paginate page)
    (last? search? record = none → after = (before.1, before.2.1, .error .noActiveSearch)) ∧
      ∀ request, last? search? record = some request →
        ∃ q, (∀ q', request = .search q' ↔ q' = q) ∧
          let first : SearchRequest :=
            { q with
              page := (page.map (max · 1)).getD q.page
              render := before.2.1.form.render
              sort := before.2.1.form.sort }
          before.1 ++ [.search first] <+: after.1 ∧
            after.2.1.history = before.2.1.history ∧
            after.2.1.page.location = before.2.1.page.location ∧
            (page = none → (∀ e ∈ since search? record, ¬e.Prefers) → first = q) := by
  intro start record before after
  have hstart : start.TicketsIssued := Browser.ticketsIssued_new defaults view
  have hissued : before.2.1.TicketsIssued := Network.ticketsIssued_performAll _ _ earlier hstart
  have hturns : start.Turns record before.2.1 := backend.turns_performAll [] hstart .none earlier
  have hremembers := (Browser.Remembers.new defaults view).turns hturns
  have hrequest := hremembers.request
  cases hlast : before.2.1.last with
  | none =>
      rw [hlast] at hrequest
      refine ⟨fun _ => Network.perform_paginate_of_none _ _ hlast, ?_⟩
      intro request hsome
      rw [hrequest] at hsome
      cases hsome
  | some l =>
      rw [hlast] at hrequest
      constructor
      · intro hnone
        rw [hrequest] at hnone
        cases hnone
      · intro request hsome
        have hsent : Request.search l.request = request :=
          Option.some.inj (hrequest.symm.trans hsome)
        have hpage : before.2.1.form.page = l.page := hremembers.page l hlast
        obtain ⟨hfirst, hhistory, hlocation⟩ :=
          backend.paginate_of_last before.1 hissued hlast hpage page
        refine ⟨l.request, ?_, hfirst, hhistory, hlocation, ?_⟩
        · intro q'
          rw [← hsent, Request.search_injective.eq_iff]
          exact eq_comm
        · intro hnopage hkept
          obtain ⟨hrender, hsort⟩ := hremembers.preferences hkept l hlast
          rw [hnopage, hrender, hsort]
          rfl

end BlogSearch
