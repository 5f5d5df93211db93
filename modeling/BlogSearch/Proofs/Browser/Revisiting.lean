import BlogSearch.Proofs.Browser.Address
import BlogSearch.Proofs.Browser.Deeds
import BlogSearch.Proofs.Browser.Repetition

/-!
# Going back and forward

Going back or forward to an entry of the history repeats the request that was sent when the entry was
written, whatever has been sent, corrected, preferred or visited since.  Which action wrote an entry is
read off the deeds of the run: it is the last one that wrote an entry and left the cursor at its index.
-/

namespace BlogSearch

/-- The action writes an entry into the history: a new one, or one in the place of the current one. -/
def Action.writesEntry : Action → Bool
  | .submit _ _ => true
  | .search _ push => push
  | .openPath path => (Location.read? path).isSome
  | _ => false

/-- The first request of a deed that wrote the entry at an index. -/
def Deed.wrote? (d : Deed) (index : Nat) : Option Request :=
  if d.action.writesEntry ∧ d.after.history.cursor = some index then d.requests.head? else none

/-- The request of every entry was the first one of the deed that wrote the entry last. -/
structure Browser.Traced (b : Browser) (past : List Deed) : Prop where
  issued : b.TicketsIssued
  placed : b.history.CursorPlaced
  origin : ∀ i e, b.history.entries[i]? = some e →
    latest? (Deed.wrote? · i) past = some (.search e.state.request)

/-- What an action does that lands on an entry: it first sends the request with which the entry was
written, and it leaves the form of the entry, perhaps for a corrected page. -/
structure Backend.Revisits
    (backend : Backend) (past : List Deed) (sent : List Request) (b : Browser)
    (action : Action) (index : Nat) (e : HistoryEntry) : Prop where
  entry : b.history.entries[index]? = some e
  request : ∃ request, latest? (Deed.wrote? · index) past = some request ∧
    request = .search e.state.request ∧
      sent ++ [request] <+: (backend.network.perform sent b action).1
  history : (backend.network.perform sent b action).2.1.history =
    { b.history with cursor := some index }
  last : (backend.network.perform sent b action).2.1.last =
    some (backend.network.perform sent b action).2.1.form
  /-- The page is that of the entry, or the one that a second request asked for. -/
  form : ∃ page : UInt32,
    (backend.network.perform sent b action).2.1.form = { e.state with page := page } ∧
      ((backend.network.perform sent b action).1 = sent ++ [.search e.state.request] ∧
          page = e.state.page ∨
        (backend.network.perform sent b action).1 =
          sent ++ [.search e.state.request, .search { e.state.request with page := page }])

namespace Network

variable {σ : Type} (net : Network σ) (s : σ) {b : Browser} {action : Action}

/-- An action that writes no entry keeps all entries in their places. -/
theorem entries_of_not_writesEntry
    (hissued : b.TicketsIssued) (hwrites : action.writesEntry = false) :
    let history := (net.perform s b action).2.1.history
    history.entries = b.history.entries ∧ (b.history.CursorPlaced → history.CursorPlaced) := by
  intro history
  by_cases hsearches : action.Searches
  · rcases hprepare : b.prepare? action with _ | ⟨b₀, f, push⟩
    · have hkept : history = b.history := by
        simp only [history, perform_of_prepare?_eq_none net s hsearches hprepare]
      rw [hkept]
      exact ⟨rfl, id⟩
    · obtain ⟨-, -, hhistory, -⟩ := net.trail_search s b₀ f push
      rw [← perform_of_prepare? net s hissued hprepare] at hhistory
      cases action with
      | submit blog query => cases hwrites
      | search form p =>
          cases hprepare
          have hpush : push = false := hwrites
          subst hpush
          have hkept : history = b.history := hhistory
          rw [hkept]
          exact ⟨rfl, id⟩
      | paginate page =>
          obtain ⟨form, -, hform⟩ := Option.map_eq_some_iff.mp hprepare
          cases hform
          have hkept : history = b.history := hhistory
          rw [hkept]
          exact ⟨rfl, id⟩
      | back =>
          obtain ⟨entry, -, rfl, rfl, rfl⟩ := Browser.revisit?_eq_some_iff.mp hprepare
          have hback : history = b.history.back.1 := hhistory
          rw [hback]
          exact ⟨b.history.entries_back, fun hplaced => hplaced.back⟩
      | forward =>
          obtain ⟨entry, -, rfl, rfl, rfl⟩ := Browser.revisit?_eq_some_iff.mp hprepare
          have hforward : history = b.history.forward.1 := hhistory
          rw [hforward]
          exact ⟨b.history.entries_forward, fun hplaced => hplaced.forward⟩
      | openPath path =>
          obtain ⟨l, hread, -⟩ := Option.map_eq_some_iff.mp hprepare
          simp [Action.writesEntry, hread] at hwrites
      | _ => cases hsearches
  · have hkept : history = b.history := (net.address_of_not_searches s hsearches).1
    rw [hkept]
    exact ⟨rfl, id⟩

end Network

namespace Backend

variable (backend : Backend) (sent : List Request) {b : Browser} {action : Action}
  {past : List Deed}

/-- An action that writes an entry first sends the request of the entry. -/
theorem wrote_perform
    (hissued : b.TicketsIssued) (hwrites : action.writesEntry) :
    let after := backend.network.perform sent b action
    ∃ f : SearchForm, sent ++ [.search f.request] <+: after.1 ∧
      (after.2.1.history = b.history.push (.ofForm f) ∨
        after.2.1.history = b.history.replace (.ofForm f)) := by
  intro after
  rcases hprepare : b.prepare? action with _ | ⟨b₀, f, push⟩
  · exfalso
    cases action with
    | openPath path =>
        have hread := Browser.prepare?_openPath_eq_none_iff.mp hprepare
        simp [Action.writesEntry, hread] at hwrites
    | submit blog query => cases hprepare
    | search form p => cases hprepare
    | _ => cases hwrites
  · have hafter : after = backend.network.search sent b₀ f push :=
      Network.perform_of_prepare? _ sent hissued hprepare
    obtain ⟨-, -, hhistory, -⟩ := backend.network.trail_search sent b₀ f push
    rw [hafter, hhistory]
    refine ⟨f, backend.prefix_search sent f push, ?_⟩
    cases action with
    | submit blog query =>
        cases hprepare
        exact Or.inl rfl
    | search form p =>
        cases hprepare
        have hpush : push = true := hwrites
        rw [if_pos hpush]
        exact Or.inl rfl
    | openPath path =>
        obtain ⟨l, -, hl⟩ := Option.map_eq_some_iff.mp hprepare
        cases hl
        exact Or.inr rfl
    | _ => cases hwrites

theorem head?_requests_deed
    {request : Request} (h : sent ++ [request] <+: (backend.network.perform sent b action).1) :
    (backend.deed sent b action).requests.head? = some request := by
  obtain ⟨more, hmore⟩ := h
  rw [deed, ← hmore, List.append_assoc, List.drop_left]
  rfl

/-- Every action keeps the entries traced. -/
theorem traced_perform (h : b.Traced past) (action : Action) :
    (backend.network.perform sent b action).2.1.Traced
      (past ++ [backend.deed sent b action]) := by
  have hissued := Network.ticketsIssued_perform backend.network sent action h.issued
  rcases hwrites : action.writesEntry with _ | _
  · obtain ⟨hentries, hplaced⟩ :=
      backend.network.entries_of_not_writesEntry sent h.issued hwrites
    refine ⟨hissued, hplaced h.placed, ?_⟩
    intro i e he
    have hnone : (backend.deed sent b action).wrote? i = none := by
      simp [Deed.wrote?, deed, hwrites]
    rw [latest?_concat, hnone, Option.none_or]
    exact h.origin i e (hentries ▸ he)
  · obtain ⟨f, hsent, hwritten⟩ := backend.wrote_perform sent h.issued hwrites
    obtain ⟨hplaced, hcurrent, hothers⟩ := h.placed.written hwritten
    refine ⟨hissued, hplaced, ?_⟩
    intro i e he
    rw [latest?_concat]
    by_cases hcursor : (backend.network.perform sent b action).2.1.history.cursor = some i
    · have hwrote : (backend.deed sent b action).wrote? i = some (.search f.request) := by
        rw [Deed.wrote?, if_pos ⟨hwrites, hcursor⟩]
        exact backend.head?_requests_deed sent hsent
      have hentry : some e = some (.ofForm f) := by
        rw [← he, ← hcurrent, History.current?, hcursor]
        rfl
      cases hentry
      rw [hwrote]
      rfl
    · have hnone : (backend.deed sent b action).wrote? i = none :=
        if_neg fun hwrote => hcursor hwrote.2
      rw [hnone, Option.none_or]
      exact h.origin i e (hothers i e hcursor he)

/-- A search leaves its form, perhaps for a corrected page. -/
theorem form_search (b : Browser) (f : SearchForm) (push : Bool) :
    let after := backend.network.search sent b f push
    after.2.1.last = some after.2.1.form ∧ ∃ page : UInt32,
      after.2.1.form = { f with page := page } ∧
        (after.1 = sent ++ [.search f.request] ∧ page = f.page ∨
          after.1 = sent ++ [.search f.request, .search { f.request with page := page }]) := by
  intro after
  let first := Attempt.first f push
  cases hagain : first.again? (backend.network.round sent b first).2.2 with
  | none =>
      obtain ⟨hform, hlast, -, -⟩ := backend.network.trail_round sent b first
      have hafter : after = backend.network.lastRound sent b first := Network.search_of_none hagain
      rw [hafter]
      exact ⟨hlast.trans (congrArg some hform.symm), f.page, hform, Or.inl ⟨rfl, rfl⟩⟩
  | some again =>
      obtain ⟨r, -, -, p, hp, rfl⟩ := Attempt.again?_first_eq_some_iff.mp hagain
      let once := backend.network.round sent b first
      let second : Attempt := ⟨{ f with page := p }, false, some p⟩
      have hone : (1 : UInt32) ≤ p := by
        rw [UInt32.le_iff_toNat_le, hp]
        exact r.info.lastPage_pos
      have hrequest : second.request = .search { f.request with page := p } := by
        simp only [second, Attempt.request, SearchForm.request, SearchForm.max_one_of_le hone]
      obtain ⟨hform, hlast, -, -⟩ := backend.network.trail_round once.1 once.2.1 second
      have hafter : after = backend.network.lastRound once.1 once.2.1 second :=
        Network.search_of_some hagain
      rw [hafter]
      refine ⟨hlast.trans (congrArg some hform.symm), p, hform, Or.inr ?_⟩
      rw [← hrequest]
      exact List.append_assoc sent _ _

/-- Landing on an entry repeats the request with which it was written. -/
theorem revisits_of_traced
    (h : b.Traced past) {index : Nat} {e : HistoryEntry}
    (hentry : b.history.entries[index]? = some e)
    (hprepare : b.prepare? action =
      b.revisit? ({ b.history with cursor := some index }, some e)) :
    backend.Revisits past sent b action index e := by
  have hperform := Network.perform_of_prepare? backend.network sent h.issued hprepare
  obtain ⟨-, -, hhistory, -⟩ := backend.network.trail_search sent
    { b with history := { b.history with cursor := some index }, page := b.page.navigate e.url }
    e.state false
  obtain ⟨hlast, hform⟩ := backend.form_search sent
    { b with history := { b.history with cursor := some index }, page := b.page.navigate e.url }
    e.state false
  rw [← hperform] at hhistory hlast hform
  refine ⟨hentry, ⟨_, h.origin index e hentry, rfl, ?_⟩, hhistory, hlast, hform⟩
  rw [hperform]
  exact backend.prefix_search sent e.state false

/-- Going back lands on the entry before the current one. -/
theorem revisits_back
    (h : b.Traced past) {c : Nat} (hcursor : b.history.cursor = some (c + 1)) :
    ∃ e, backend.Revisits past sent b .back c e := by
  have hlt : c < b.history.entries.length := Nat.lt_of_succ_lt (h.placed.lt hcursor)
  have hentry := List.getElem?_eq_getElem hlt
  have hprepare : b.prepare? .back = b.revisit? b.history.back := rfl
  rw [History.back_of_cursor_eq_succ hcursor, hentry] at hprepare
  exact ⟨_, backend.revisits_of_traced sent h hentry hprepare⟩

/-- Going forward lands on the entry after the current one. -/
theorem revisits_forward
    (h : b.Traced past) {c : Nat} (hcursor : b.history.cursor = some c)
    (hlt : c + 1 < b.history.entries.length) :
    ∃ e, backend.Revisits past sent b .forward (c + 1) e := by
  have hentry := List.getElem?_eq_getElem hlt
  have hprepare : b.prepare? .forward = b.revisit? b.history.forward := rfl
  rw [History.forward_of_cursor_lt hcursor hlt, hentry] at hprepare
  exact ⟨_, backend.revisits_of_traced sent h hentry hprepare⟩

end Backend

/-- After any actions one after another, and whatever the backend answers, going back or forward lands
on the entry before or after the current one and repeats the request with which that entry was written;
and it does nothing where there is no such entry. -/
theorem revisits_repeat_written_request
    (backend : Backend) (defaults : SearchForm) (view : PageView) (earlier : List Action) :
    let start := { Browser.new defaults with page := view }
    let past := backend.deeds [] start earlier
    let before := backend.network.performAll [] start earlier
    let history := before.2.1.history
    (∀ c, history.cursor = some (c + 1) →
      ∃ e, backend.Revisits past before.1 before.2.1 .back c e) ∧
    (history.cursor = none ∨ history.cursor = some 0 →
      backend.network.perform before.1 before.2.1 .back = (before.1, before.2.1, .ok .nowhere)) ∧
    (∀ c, history.cursor = some c → c + 1 < history.entries.length →
      ∃ e, backend.Revisits past before.1 before.2.1 .forward (c + 1) e) ∧
    ((∀ c ∈ history.cursor, history.entries.length ≤ c + 1) →
      backend.network.perform before.1 before.2.1 .forward =
        (before.1, before.2.1, .ok .nowhere)) := by
  intro start past before history
  have hstart : start.Traced [] := by
    refine ⟨Browser.ticketsIssued_new defaults view, History.cursorPlaced_empty, ?_⟩
    intro i e he
    cases he
  have htraced : before.2.1.Traced past := by
    refine backend.deeds_preserve (P := fun past b => b.Traced past) ?_ [] [] start earlier hstart
    intro past sent b action h
    exact backend.traced_perform sent h action
  refine ⟨?_, ?_, ?_, ?_⟩
  · intro c hcursor
    exact backend.revisits_back before.1 htraced hcursor
  · intro hcursor
    exact Network.perform_back_of_none _ _ (History.back_of_cursor_at_start hcursor)
  · intro c hcursor hlt
    exact backend.revisits_forward before.1 htraced hcursor hlt
  · intro hcursor
    exact Network.perform_forward_of_none _ _ (History.forward_of_cursor_at_end hcursor)

end BlogSearch
