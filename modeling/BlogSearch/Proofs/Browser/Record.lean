import BlogSearch.Proofs.Browser.Correction
import BlogSearch.Proofs.Browser.Prepared
import Mathlib.Data.List.DropRight

/-!
# The record of a run

While actions run one after another, requests are sent and replied to, and actions end.  The record of
a run lists these events in their order, so what was last sent, last received or last done can be read
off it.  A few kinds of turns say what a browser becomes with each event, and every run is made of
such turns; what all of them keep, a run keeps.
-/

namespace BlogSearch

/-- What can happen while actions run one after another. -/
inductive Event where
  /-- A request was sent and replied to. -/
  | asked (request : Request) (reply : Reply)
  /-- An action ended. -/
  | ended (action : Action) (result : Result)

namespace Event

variable {α : Type} {f : Event → Option α} {past : List Event} {e : Event} {a : α}

/-- What `f` finds in the last event in which it finds something. -/
def last? (f : Event → Option α) (events : List Event) : Option α :=
  (events.filterMap f).getLast?

/-- The events after the last one in which `f` finds something. -/
def since (f : Event → Option α) (events : List Event) : List Event :=
  events.rtakeWhile fun e => (f e).isNone

theorem last?_concat_of_some (h : f e = some a) : last? f (past ++ [e]) = some a := by
  simp [last?, h]

theorem last?_concat_of_none (h : f e = none) : last? f (past ++ [e]) = last? f past := by
  simp [last?, h]

theorem since_concat_of_some (h : f e = some a) : since f (past ++ [e]) = [] :=
  List.rtakeWhile_concat_neg _ _ _ (by simp [h])

theorem since_concat_of_none (h : f e = none) : since f (past ++ [e]) = since f past ++ [e] :=
  List.rtakeWhile_concat_pos _ _ _ (by simp [h])

/-- The request of an exchange. -/
def request? : Event → Option Request
  | .asked request _ => some request
  | .ended _ _ => none

end Event

/-- The request asks for a search. -/
def Request.IsSearch (r : Request) : Prop :=
  r.method = .post ∧ r.path = "/search"

instance (r : Request) : Decidable r.IsSearch :=
  inferInstanceAs (Decidable (_ ∧ _))

theorem Request.isSearch_search (q : SearchRequest) : (Request.search q).IsSearch :=
  ⟨rfl, rfl⟩

/-- The action neither toggles a preview nor sets preferences, so its end changes nothing. -/
def Action.EndsQuietly : Action → Prop
  | .toggle _ => False
  | .prefer _ _ => False
  | _ => True

theorem Action.Searches.endsQuietly {action : Action} (h : action.Searches) :
    action.EndsQuietly := by
  cases action with
  | toggle index => exact h
  | prefer render sort => exact h
  | _ => trivial

namespace Browser

/-- What a browser becomes with one event of a run. -/
inductive Turn (b : Browser) : Event → Browser → Prop
  /-- The first round of a search follows on what its action has prepared. -/
  | first {action : Action} {b₀ : Browser} {form : SearchForm} {push : Bool}
      (hprepare : b.prepare? action = some (b₀, form, push)) (reply : Reply) :
      Turn b (.asked (.search form.request) reply)
        ((b₀.register form push).settle (reply.read SearchResponse.read))
  /-- The second round of a search stays off the history. -/
  | again (form : SearchForm) (reply : Reply) :
      Turn b (.asked (.search form.request) reply)
        ((b.register form false).settle (reply.read SearchResponse.read))
  | news {request : Request} (hrequest : ¬request.IsSearch) (reply : Reply)
      (news : Except ClientError News) : Turn b (.asked request reply) (b.told news)
  | quiet {action : Action} (haction : action.EndsQuietly) (result : Result) :
      Turn b (.ended action result) b
  | toggled {index : Nat} {page : PageView} {preview : Preview}
      (htoggle : b.page.toggle index = .ok (page, preview)) :
      Turn b (.ended (.toggle index) (.ok (.preview preview))) { b with page := page }
  | missed {index : Nat} {e : ClientError} (htoggle : b.page.toggle index = .error e) :
      Turn b (.ended (.toggle index) (.error e)) b
  | preferred (render : Option Renderer) (sort : Option SortOrder) :
      Turn b (.ended (.prefer render sort) (.ok .preferred))
        { b with form := b.form.prefer render sort }

/-- A run of turns from a browser, with the record of their events. -/
inductive Turns (start : Browser) : List Event → Browser → Prop
  | none : Turns start [] start
  | turn {past : List Event} {b b' : Browser} {e : Event}
      (before : Turns start past b) (now : b.Turn e b') : Turns start (past ++ [e]) b'

end Browser

namespace Backend

/-- The exchanges for requests that are sent after others. -/
def exchanges (backend : Backend) (sent : List Request) : List Request → List Event
  | [] => []
  | request :: rest =>
      .asked request (backend (sent ++ [request])) :: exchanges backend (sent ++ [request]) rest

/-- The record of one action. -/
def eventsOf
    (backend : Backend) (sent : List Request) (b : Browser) (action : Action) : List Event :=
  let after := backend.network.perform sent b action
  backend.exchanges sent (after.1.drop sent.length) ++ [.ended action after.2.2]

/-- The record of actions one after another. -/
def events
    (backend : Backend) (sent : List Request) (b : Browser) : List Action → List Event
  | [] => []
  | action :: rest =>
      let after := backend.network.perform sent b action
      backend.eventsOf sent b action ++ backend.events after.1 after.2.1 rest

variable (backend : Backend) {start : Browser} {past : List Event} (sent : List Request)
  {b b₀ : Browser} {action : Action}

theorem prefix_run (stage : Stage) : sent <+: (backend.network.run sent b stage).1 := by
  generalize hnet : backend.network = net
  fun_induction net.run sent b stage with
  | case1 s b stage result h => exact List.prefix_refl s
  | case2 s b stage b' stage' h ih => exact ih
  | case3 s b stage request resume h told ih =>
      subst hnet
      exact (List.prefix_append s [request]).trans ih

theorem requests_exchanges (more : List Request) :
    (backend.exchanges sent more).filterMap Event.request? = more := by
  induction more generalizing sent with
  | nil => rfl
  | cons request rest ih =>
      have hrest := ih (sent ++ [request])
      simpa [exchanges, Event.request?] using hrest

theorem eventsOf_of_append
    {more : List Request} (h : (backend.network.perform sent b action).1 = sent ++ more) :
    backend.eventsOf sent b action =
      backend.exchanges sent more ++ [.ended action (backend.network.perform sent b action).2.2] := by
  rw [eventsOf, h, List.drop_left]

/-- The record holds every request that was sent, in order. -/
theorem append_requests_events (b : Browser) (actions : List Action) :
    sent ++ (backend.events sent b actions).filterMap Event.request? =
      (backend.network.performAll sent b actions).1 := by
  induction actions generalizing sent b with
  | nil => exact List.append_nil sent
  | cons action rest ih =>
      obtain ⟨more, hmore⟩ : sent <+: (backend.network.perform sent b action).1 :=
        backend.prefix_run sent (.start action)
      have hrest := ih (backend.network.perform sent b action).1
        (backend.network.perform sent b action).2.1
      have haction : (backend.eventsOf sent b action).filterMap Event.request? = more := by
        rw [eventsOf_of_append backend sent hmore.symm, List.filterMap_append, requests_exchanges]
        exact List.append_nil more
      rw [events, List.filterMap_append, haction, ← List.append_assoc, hmore]
      exact hrest

/-- A search takes a turn for each of its rounds. -/
theorem turns_search
    (hpast : start.Turns past b) {f : SearchForm} {push : Bool}
    (hprepare : b.prepare? action = some (b₀, f, push)) :
    ∃ more, (backend.network.search sent b₀ f push).1 = sent ++ more ∧
      start.Turns (past ++ backend.exchanges sent more)
        (backend.network.search sent b₀ f push).2.1 := by
  let request := Request.search f.request
  have hfirst : start.Turns (past ++ [.asked request (backend (sent ++ [request]))])
      (backend.network.round sent b₀ (.first f push)).2.1 :=
    hpast.turn (.first hprepare _)
  cases hagain : (Attempt.first f push).again?
      (backend.network.round sent b₀ (.first f push)).2.2 with
  | none =>
      rw [Network.search_of_none hagain]
      exact ⟨[request], rfl, hfirst⟩
  | some again =>
      obtain ⟨r, -, -, p, -, rfl⟩ := Attempt.again?_first_eq_some_iff.mp hagain
      let second := Request.search { f with page := p }.request
      have hsecond := hfirst.turn
        (.again { f with page := p } (backend (sent ++ [request] ++ [second])))
      rw [List.append_assoc] at hsecond
      rw [Network.search_of_some hagain]
      exact ⟨[request, second], List.append_assoc sent _ _, hsecond⟩

/-- A listing of the blogs takes a turn for each place in which it looks. -/
theorem turns_listing (hpast : start.Turns past b) :
    ∃ more, (backend.network.listing sent).1 = sent ++ more ∧
      start.Turns (past ++ backend.exchanges sent more)
        (b.told (backend.network.listing sent).2) := by
  have hblogs : ¬Request.blogs.IsSearch := by decide
  have hlegacy : ¬Request.legacyBlogs.IsSearch := by decide
  have hask : backend.network.ask sent .blogs =
      (sent ++ [.blogs], backend (sent ++ [.blogs])) := rfl
  rcases Network.notFound_or_found (backend (sent ++ [.blogs])) with ⟨body, hbody⟩ | hfound
  · rw [hbody] at hask
    rw [Network.listing_of_not_found hask]
    -- The first reply brings no news.
    have hfirst := hpast.turn (.news hblogs (backend (sent ++ [.blogs])) (.error .http))
    have hsecond := hfirst.turn (.news hlegacy (backend (sent ++ [.blogs] ++ [.legacyBlogs]))
      (Query.readBlogs (backend (sent ++ [.blogs] ++ [.legacyBlogs]))))
    rw [List.append_assoc] at hsecond
    exact ⟨[.blogs, .legacyBlogs], List.append_assoc sent _ _, hsecond⟩
  · rw [Network.listing_of_found hask hfound]
    exact ⟨[.blogs], rfl, hpast.turn (.news hblogs _ _)⟩

/-- The end of an action that has sent requests and taken its turns for them. -/
theorem turns_of_quiet
    (haction : action.EndsQuietly) (more : List Request)
    (hsent : (backend.network.perform sent b action).1 = sent ++ more)
    (hturns : start.Turns (past ++ backend.exchanges sent more)
      (backend.network.perform sent b action).2.1) :
    start.Turns (past ++ backend.eventsOf sent b action)
      (backend.network.perform sent b action).2.1 := by
  rw [eventsOf_of_append backend sent hsent, ← List.append_assoc]
  exact hturns.turn (.quiet haction _)

/-- Every action is made of turns. -/
theorem turns_perform
    (hissued : b.TicketsIssued) (hpast : start.Turns past b) (action : Action) :
    start.Turns (past ++ backend.eventsOf sent b action)
      (backend.network.perform sent b action).2.1 := by
  by_cases hsearches : action.Searches
  · have hquiet : action.EndsQuietly := hsearches.endsQuietly
    rcases hprepare : b.prepare? action with _ | ⟨b₀, f, push⟩
    · have hperform := Network.perform_of_prepare?_eq_none backend.network sent hsearches hprepare
      apply turns_of_quiet backend sent hquiet []
      · rw [hperform, List.append_nil]
      · rw [hperform, exchanges, List.append_nil]
        exact hpast
    · have hperform := Network.perform_of_prepare? backend.network sent hissued hprepare
      obtain ⟨more, hsent, hturns⟩ := turns_search backend sent hpast hprepare
      rw [← hperform] at hsent hturns
      exact turns_of_quiet backend sent hquiet more hsent hturns
  · cases action with
    | login username password =>
        have hquiet : (Action.login username password).EndsQuietly := trivial
        apply turns_of_quiet backend sent hquiet [.login (Form.login username password)]
        · rw [Network.perform_login]
          rfl
        · rw [Network.perform_login]
          exact hpast.turn (.news (by simp [Request.IsSearch, Request.login]) _ _)
    | logout =>
        have hquiet : Action.logout.EndsQuietly := trivial
        apply turns_of_quiet backend sent hquiet [.logout]
        · rw [Network.perform_logout]
          rfl
        · rw [Network.perform_logout]
          exact hpast.turn (.news (by decide) _ _)
    | listBlogs =>
        have hquiet : Action.listBlogs.EndsQuietly := trivial
        obtain ⟨more, hsent, hturns⟩ := turns_listing backend sent hpast
        apply turns_of_quiet backend sent hquiet more
        · rw [Network.perform_listBlogs]
          exact hsent
        · rw [Network.perform_listBlogs]
          exact hturns
    | toggle index =>
        have hperform := Network.perform_toggle backend.network sent b index
        rcases htoggle : b.page.toggle index with e | ⟨page, preview⟩
        · simp only [htoggle] at hperform
          simp only [eventsOf, hperform, List.drop_length, exchanges]
          exact hpast.turn (.missed htoggle)
        · simp only [htoggle] at hperform
          simp only [eventsOf, hperform, List.drop_length, exchanges]
          exact hpast.turn (.toggled htoggle)
    | prefer render sort =>
        have hperform := Network.perform_prefer backend.network sent b render sort
        simp only [eventsOf, hperform, List.drop_length, exchanges]
        exact hpast.turn (.preferred render sort)
    | _ => exact absurd trivial hsearches

/-- Every run is made of turns. -/
theorem turns_performAll
    (hissued : b.TicketsIssued) (hpast : start.Turns past b) (actions : List Action) :
    start.Turns (past ++ backend.events sent b actions)
      (backend.network.performAll sent b actions).2.1 := by
  induction actions generalizing sent b past with
  | nil =>
      rw [events, List.append_nil]
      exact hpast
  | cons action rest ih =>
      have hturns := turns_perform backend sent hissued hpast action
      have hissued' := Network.ticketsIssued_perform backend.network sent action hissued
      rw [events, ← List.append_assoc]
      exact ih (backend.network.perform sent b action).1 hissued' hturns

end Backend

end BlogSearch
