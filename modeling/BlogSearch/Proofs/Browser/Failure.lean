import BlogSearch.Proofs.Browser.Correction
import BlogSearch.Proofs.Browser.Prepared

/-!
# What a failed search leaves on the page

A search whose first request fails shows nothing.  If the first answer lies behind the last match, it
is shown before the last page is asked for, so a search whose second request fails ends with an error
and yet has changed what is shown.  The page then shows the first answer.
-/

namespace BlogSearch

open PageView

namespace Backend

/-- The answer to the first of the requests that were sent between two moments. -/
def FirstAnswer
    (backend : Backend) (sent sent' : List Request) (r : SearchResponse) : Prop :=
  ∃ request, sent ++ [request] <+: sent' ∧ backend.answer (sent ++ [request]) = .ok r

/-- What a search that failed leaves on the page: its first answer, if it got one. -/
structure LeavesFirstAnswer
    (backend : Backend) (sent : List Request) (p : PageView)
    (sent' : List Request) (p' : PageView) : Prop where
  /-- Without an answer nothing has changed. -/
  unanswered : (∀ r, ¬backend.FirstAnswer sent sent' r) → p'.SameDisplay p
  /-- An answer has been followed by another request, and is what is shown. -/
  answered : ∀ r, backend.FirstAnswer sent sent' r →
    r.info.OutOfRange ∧ p'.SameDisplay (p.showResponse r)

variable {backend : Backend} {sent sent' : List Request} {b : Browser} {p p' : PageView}

theorem firstAnswer_append_iff
    (sent : List Request) {request : Request} {rest : List Request} {r : SearchResponse} :
    backend.FirstAnswer sent (sent ++ request :: rest) r ↔
      backend.answer (sent ++ [request]) = .ok r := by
  constructor
  · rintro ⟨first, hprefix, hr⟩
    have hfirst : [first] <+: request :: rest := (List.prefix_append_right_inj sent).mp hprefix
    obtain rfl : first = request := (List.cons_prefix_cons.mp hfirst).1
    exact hr
  · intro hr
    refine ⟨request, ?_, hr⟩
    rw [List.prefix_append_right_inj]
    exact ⟨rest, rfl⟩

theorem not_firstAnswer_self (r : SearchResponse) : ¬backend.FirstAnswer sent sent r := by
  rintro ⟨request, hprefix, -⟩
  have hlength := hprefix.length_le
  simp at hlength

theorem leavesFirstAnswer_refl (p : PageView) : backend.LeavesFirstAnswer sent p sent p := by
  constructor
  · intro _
    exact .refl p
  · intro r hr
    exact absurd hr (not_firstAnswer_self r)

theorem LeavesFirstAnswer.congr
    {q : PageView} (h : backend.LeavesFirstAnswer sent p sent' p') (hsame : p.SameDisplay q) :
    backend.LeavesFirstAnswer sent q sent' p' := by
  constructor
  · intro hnone
    exact (h.unanswered hnone).trans hsame
  · intro r hr
    obtain ⟨hout, hshown⟩ := h.answered r hr
    exact ⟨hout, hshown.trans (hsame.showResponse r)⟩

/-- The display is what it was exactly if the first answer, where there is one, changes nothing. -/
theorem LeavesFirstAnswer.sameDisplay_iff
    (h : backend.LeavesFirstAnswer sent p sent' p') :
    p'.SameDisplay p ↔
      ∀ r, backend.FirstAnswer sent sent' r → (p.showResponse r).SameDisplay p := by
  constructor
  · intro hsame r hr
    exact (h.answered r hr).2.symm.trans hsame
  · intro hanswers
    by_cases hsome : ∃ r, backend.FirstAnswer sent sent' r
    · obtain ⟨r, hr⟩ := hsome
      exact (h.answered r hr).2.trans (hanswers r hr)
    · exact h.unanswered fun r hr => hsome ⟨r, hr⟩

theorem round_eq (a : Attempt) :
    backend.network.round sent b a =
      (sent ++ [a.request],
        (b.register a.form a.push).settle (backend.answer (sent ++ [a.request])),
        backend.answer (sent ++ [a.request])) := rfl

theorem answer_eq_error_of_lastRound
    {a : Attempt} {e : ClientError} (h : (backend.network.lastRound sent b a).2.2 = .error e) :
    backend.answer (sent ++ [a.request]) = .error e := by
  rw [lastRound_eq] at h
  cases hanswer : backend.answer (sent ++ [a.request]) with
  | error e' =>
      rw [hanswer] at h
      cases h
      rfl
  | ok r =>
      rw [hanswer] at h
      cases h

/-- A round that fails is registered and shows nothing. -/
theorem sameDisplay_lastRound
    {a : Attempt} {e : ClientError} (h : (backend.network.lastRound sent b a).2.2 = .error e) :
    (backend.network.lastRound sent b a).2.1.page.SameDisplay b.page := by
  have hanswer := answer_eq_error_of_lastRound h
  rw [lastRound_eq, hanswer]
  exact b.sameDisplay_register a.form a.push

/-- A search that fails in its first round has no answer. -/
theorem leavesFirstAnswer_lastRound
    {a : Attempt} {e : ClientError} (h : (backend.network.lastRound sent b a).2.2 = .error e) :
    backend.LeavesFirstAnswer sent b.page (backend.network.lastRound sent b a).1
      (backend.network.lastRound sent b a).2.1.page := by
  have hfailed := answer_eq_error_of_lastRound h
  constructor
  · intro _
    exact sameDisplay_lastRound h
  · intro r hr
    have hanswer : backend.answer (sent ++ [a.request]) = .ok r := (firstAnswer_append_iff sent).mp hr
    rw [hfailed] at hanswer
    cases hanswer

/-- A search that fails in its second round leaves the answer to its first. -/
theorem leavesFirstAnswer_again
    {a again : Attempt} {r : SearchResponse} {e : ClientError}
    (hr : backend.answer (sent ++ [a.request]) = .ok r) (hout : r.info.OutOfRange)
    (h : (backend.network.lastRound (sent ++ [a.request])
      ((b.register a.form a.push).settle (.ok r)) again).2.2 = .error e) :
    backend.LeavesFirstAnswer sent b.page (sent ++ [a.request] ++ [again.request])
      (backend.network.lastRound (sent ++ [a.request])
        ((b.register a.form a.push).settle (.ok r)) again).2.1.page := by
  rw [List.append_assoc, List.singleton_append]
  have hshown : ((b.register a.form a.push).settle (.ok r)).page.SameDisplay
      (b.page.showResponse r) := (b.sameDisplay_register a.form a.push).showResponse r
  have hkept := sameDisplay_lastRound h
  constructor
  · intro hnone
    exact absurd ((firstAnswer_append_iff sent).mpr hr) (hnone r)
  · intro r' hr'
    have hanswer := (firstAnswer_append_iff sent).mp hr'
    rw [hr] at hanswer
    cases hanswer
    exact ⟨hout, hkept.trans hshown⟩

theorem leavesFirstAnswer_search
    {f : SearchForm} {push : Bool} {e : ClientError}
    (h : (backend.network.search sent b f push).2.2 = .error e) :
    backend.LeavesFirstAnswer sent b.page (backend.network.search sent b f push).1
      (backend.network.search sent b f push).2.1.page := by
  cases hagain : (Attempt.first f push).again?
      (backend.network.round sent b (.first f push)).2.2 with
  | none =>
      rw [Network.search_of_none hagain] at h ⊢
      exact leavesFirstAnswer_lastRound h
  | some again =>
      obtain ⟨r, hr, hout, -⟩ := Attempt.again?_first_eq_some_iff.mp hagain
      rw [Network.search_of_some hagain] at h ⊢
      have hanswer : backend.answer (sent ++ [(Attempt.first f push).request]) = .ok r := hr
      rw [round_eq, hanswer] at h ⊢
      exact leavesFirstAnswer_again hanswer hout h

/-- An action that searches and fails leaves its first answer, and nothing if it got none. -/
theorem leavesFirstAnswer_perform
    (hb : b.TicketsIssued) {action : Action} (hsearches : action.Searches) {e : ClientError}
    (h : (backend.network.perform sent b action).2.2 = .error e) :
    backend.LeavesFirstAnswer sent b.page (backend.network.perform sent b action).1
      (backend.network.perform sent b action).2.1.page := by
  rcases hprepare : b.prepare? action with _ | ⟨b₀, f, push⟩
  · rw [Network.perform_of_prepare?_eq_none _ sent hsearches hprepare]
    exact leavesFirstAnswer_refl b.page
  · have hsame := Browser.sameDisplay_of_prepare? hprepare
    rw [Network.perform_of_prepare? _ sent hb hprepare] at h ⊢
    exact (leavesFirstAnswer_search h).congr hsame

end Backend

/-- After any actions one after another, an action that searches and fails leaves what is shown as it
was, except for its first answer: if it got one, that answer lay behind the last match and is shown. -/
theorem failed_search_leaves_first_answer
    (backend : Backend) (defaults : SearchForm) (view : PageView) (earlier : List Action)
    {action : Action} (hsearches : action.Searches) {e : ClientError} :
    let before :=
      backend.network.performAll [] { Browser.new defaults with page := view } earlier
    let after := backend.network.perform before.1 before.2.1 action
    after.2.2 = .error e →
      backend.LeavesFirstAnswer before.1 before.2.1.page after.1 after.2.1.page ∧
        (after.2.1.page.SameDisplay before.2.1.page ↔
          ∀ r, backend.FirstAnswer before.1 after.1 r →
            (before.2.1.page.showResponse r).SameDisplay before.2.1.page) := by
  intro before after h
  have hbefore : before.2.1.TicketsIssued :=
    Network.ticketsIssued_performAll _ _ earlier (Browser.ticketsIssued_new defaults view)
  have hleaves := Backend.leavesFirstAnswer_perform hbefore hsearches h
  exact ⟨hleaves, hleaves.sameDisplay_iff⟩

namespace Backend

/-- A backend whose first answer lies behind the last match, and which is out of order after it. -/
def lostRetry : Backend := fun sent =>
  if sent.length = 1 then .answer 200 "\x7b\"meta\":\x7b\"offset\":1\x7d\x7d"
  else .answer 500 "boom"

/-- An answer without results whose window lies behind the last match. -/
def beyondLast : SearchResponse :=
  ⟨[], { SearchMeta.empty with offset := 1 }⟩

theorem read_beyondLast :
    (Reply.answer 200 "\x7b\"meta\":\x7b\"offset\":1\x7d\x7d").read SearchResponse.read =
      .ok beyondLast := by
  have hread : SearchResponse.read "\x7b\"meta\":\x7b\"offset\":1\x7d\x7d" =
      .ok beyondLast := by decide +kernel
  rw [Reply.read_answer rfl, hread]
  rfl

theorem answer_lostRetry_first (request : Request) :
    lostRetry.answer [request] = .ok beyondLast := by
  have hreply : lostRetry [request] =
      .answer 200 "\x7b\"meta\":\x7b\"offset\":1\x7d\x7d" := rfl
  rw [answer, hreply, read_beyondLast]

theorem answer_lostRetry_second (first second : Request) :
    lostRetry.answer [first, second] = .error (.backend 500 "boom") := rfl

/-- The first answer asks for a correction, and the correction fails. -/
theorem search_lostRetry (b : Browser) (f : SearchForm) (push : Bool) :
    (lostRetry.network.search [] b f push).2.2 = .error (.backend 500 "boom") ∧
      lostRetry.FirstAnswer [] (lostRetry.network.search [] b f push).1 beyondLast := by
  have hfirst : (lostRetry.network.round [] b (.first f push)).2.2 = .ok beyondLast := by
    rw [round_eq, List.nil_append, answer_lostRetry_first]
  have hout : beyondLast.info.OutOfRange := ⟨rfl, by decide⟩
  have hlast : (1 : UInt32).toNat = beyondLast.info.lastPage :=
    (SearchMeta.lastPage_of_pageSize_eq_zero rfl).symm
  have hagain : (Attempt.first f push).again?
      (lostRetry.network.round [] b (.first f push)).2.2 =
        some ⟨{ f with page := 1 }, false, some 1⟩ :=
    Attempt.again?_first_eq_some_iff.mpr ⟨beyondLast, hfirst, hout, 1, hlast, rfl⟩
  rw [Network.search_of_some hagain, lastRound_eq, round_eq, List.nil_append,
    List.singleton_append]
  constructor
  · rw [answer_lostRetry_second]
    rfl
  · apply (firstAnswer_append_iff []).mpr
    rw [List.nil_append, answer_lostRetry_first]

theorem submit_lostRetry {b : Browser} (hb : b.TicketsIssued) (blog query : String) :
    let after := lostRetry.network.perform [] b (.submit blog query)
    after.2.2 = .error (.backend 500 "boom") ∧ lostRetry.FirstAnswer [] after.1 beyondLast := by
  intro after
  have hafter : after = _ := Network.perform_submit lostRetry.network [] hb blog query
  rw [hafter]
  exact search_lostRetry _ _ true

/-- A submitted search whose correction fails leaves the answer that asked for the correction. -/
theorem submit_leaves_first_answer :
    let before := (Browser.new default).page
    let after := lostRetry.network.perform [] (Browser.new default) (.submit "staff" "art")
    (Action.submit "staff" "art").Searches ∧ after.2.2 = .error (.backend 500 "boom") ∧
      lostRetry.LeavesFirstAnswer [] before after.1 after.2.1.page ∧
        (after.2.1.page.SameDisplay before ↔
          ∀ r, lostRetry.FirstAnswer [] after.1 r → (before.showResponse r).SameDisplay before) := by
  have hnew : (Browser.new default).TicketsIssued := Browser.ticketsIssued_new default .empty
  have hsearches : (Action.submit "staff" "art").Searches := trivial
  have herror := (submit_lostRetry hnew "staff" "art").1
  exact ⟨hsearches, herror,
    failed_search_leaves_first_answer lostRetry default .empty [] hsearches herror⟩

/-- Whenever an action that searches fails, what is shown stays as it was. -/
def FailuresKeepDisplay (backend : Backend) : Prop :=
  ∀ (defaults : SearchForm) (view : PageView) (earlier : List Action) (action : Action)
    (e : ClientError), action.Searches →
    let before :=
      backend.network.performAll [] { Browser.new defaults with page := view } earlier
    let after := backend.network.perform before.1 before.2.1 action
    after.2.2 = .error e → after.2.1.page.SameDisplay before.2.1.page

/-- A search that shows its first answer and then fails has not kept what was shown before. -/
theorem not_failuresKeepDisplay : ¬lostRetry.FailuresKeepDisplay := by
  intro hkeep
  have hnew : (Browser.new default).TicketsIssued := Browser.ticketsIssued_new default .empty
  have hsearches : (Action.submit "staff" "art").Searches := trivial
  obtain ⟨herror, hfirst⟩ := submit_lostRetry hnew "staff" "art"
  have hsame := hkeep default .empty [] (.submit "staff" "art") _ hsearches herror
  have hleaves := leavesFirstAnswer_perform hnew hsearches herror
  have hshown := (hleaves.answered beyondLast hfirst).2
  have hpanel : some beyondLast.info.panel = none := hshown.panel.symm.trans hsame.panel
  cases hpanel

end Backend

end BlogSearch
