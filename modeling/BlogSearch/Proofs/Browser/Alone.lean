import BlogSearch.Browser.Run
import BlogSearch.Proofs.Browser.Tickets

/-!
# Actions that run alone

Nobody overtakes an action that runs alone, so its rounds are never cancelled and every answer it
gets is shown.  A search is then one round, and a second one if its answer asks for a correction.
Every action that searches is a search from a browser that it has prepared.
-/

namespace BlogSearch

/-- The browser after the answer to its newest round: an answer is shown, a failure is not. -/
def Browser.settle (b : Browser) : Except ClientError SearchResponse → Browser
  | .ok r => b.display r
  | .error _ => b

theorem Browser.TicketsIssued.settle
    {b : Browser} (h : b.TicketsIssued) (answer : Except ClientError SearchResponse) :
    (b.settle answer).TicketsIssued := by
  cases answer with
  | error e => exact h
  | ok r => exact h.display r

/-- The browser after news were asked for: news are put on the page, a failure is not. -/
def Browser.told (b : Browser) : Except ClientError News → Browser
  | .ok news => b.hear news
  | .error _ => b

/-- What belongs to searches has stayed as it was. -/
structure Browser.KeepsSearch (b b' : Browser) : Prop where
  form : b'.form = b.form
  last : b'.last = b.last
  history : b'.history = b.history
  results : b'.page.results = b.page.results
  panel : b'.page.panel = b.page.panel
  scrollTop : b'.page.scrollTop = b.page.scrollTop
  generation : b'.generation = b.generation
  inFlight : b'.inFlight = b.inFlight
  cancelled : b'.cancelled = b.cancelled

namespace Browser

variable {b b' b'' : Browser}

theorem KeepsSearch.refl (b : Browser) : b.KeepsSearch b :=
  ⟨rfl, rfl, rfl, rfl, rfl, rfl, rfl, rfl, rfl⟩

theorem KeepsSearch.trans (h : b.KeepsSearch b') (h' : b'.KeepsSearch b'') : b.KeepsSearch b'' :=
  ⟨h'.form.trans h.form, h'.last.trans h.last, h'.history.trans h.history,
    h'.results.trans h.results, h'.panel.trans h.panel, h'.scrollTop.trans h.scrollTop,
    h'.generation.trans h.generation, h'.inFlight.trans h.inFlight,
    h'.cancelled.trans h.cancelled⟩

theorem keepsSearch_hear (b : Browser) (news : News) : b.KeepsSearch (b.hear news) := by
  cases news with
  | loggedIn r =>
      by_cases hsuccess : r.success = true
      · simp only [hear, if_pos hsuccess]
        exact ⟨rfl, rfl, rfl, rfl, rfl, rfl, rfl, rfl, rfl⟩
      · simp only [hear, if_neg hsuccess]
        exact ⟨rfl, rfl, rfl, rfl, rfl, rfl, rfl, rfl, rfl⟩
  | loggedOut => exact ⟨rfl, rfl, rfl, rfl, rfl, rfl, rfl, rfl, rfl⟩
  | listed blogs => exact ⟨rfl, rfl, rfl, rfl, rfl, rfl, rfl, rfl, rfl⟩

/-- Whether news come or not, what belongs to searches stays. -/
theorem keepsSearch_told (b : Browser) (news : Except ClientError News) :
    b.KeepsSearch (b.told news) := by
  cases news with
  | error e => exact .refl b
  | ok news => exact b.keepsSearch_hear news

end Browser

/-- The round that follows the answer to a round, if one does. -/
def Attempt.again? (a : Attempt) : Except ClientError SearchResponse → Option Attempt
  | .ok r => a.correction? r
  | .error _ => none

namespace Network

variable {σ : Type} {net : Network σ} {s : σ} {b b' : Browser} {stage stage' : Stage}

/-! ## Runs by steps -/

theorem run_done {result : Result} (h : stage.next b = .done result) :
    net.run s b stage = (s, b, result) := by
  rw [run]
  split <;> simp_all

theorem run_moved (h : stage.next b = .moved b' stage') :
    net.run s b stage = net.run s b' stage' := by
  rw [run]
  split <;> simp_all

theorem run_ask
    {request : Request} {resume : Reply → Stage} (h : stage.next b = .ask request resume) :
    net.run s b stage =
      net.run (net.ask s request).1 b (resume (net.ask s request).2) := by
  rw [run]
  split <;> simp_all

theorem next_attempt (b : Browser) (a : Attempt) :
    (Stage.attempt a).next b =
      .moved (b.register a.form a.push) (.awaiting (b.register a.form a.push).generation a) := rfl

theorem next_replay (b : Browser) (entry : HistoryEntry) :
    (Stage.replay entry).next b =
      .moved { b with page := b.page.navigate entry.url } (.attempt (.first entry.state false)) :=
  rfl

theorem run_finished (result : Result) :
    net.run s b (.finished result) = (s, b, result) :=
  run_done rfl

/-- What every step of an action keeps, its run keeps. -/
theorem run_preserves
    {P : Browser → Prop}
    (hstep : ∀ {b b' : Browser} {stage stage' : Stage},
      stage.Step b b' stage' → P b → P b')
    (net : Network σ) (s : σ) {b : Browser} (stage : Stage) (hb : P b) :
    P (net.run s b stage).2.1 := by
  fun_induction net.run s b stage with
  | case1 s b stage result h => exact hb
  | case2 s b stage b' stage' h ih => exact ih (hstep (Stage.step_of_next_eq_moved h) hb)
  | case3 s b stage request resume h told ih => exact ih hb

/-- What every action keeps, actions one after another keep. -/
theorem performAll_preserves
    {P : Browser → Prop} (net : Network σ)
    (hperform : ∀ (s : σ) {b : Browser} (action : Action), P b → P (net.perform s b action).2.1)
    (s : σ) {b : Browser} (actions : List Action) (hb : P b) :
    P (net.performAll s b actions).2.1 := by
  induction actions generalizing s b with
  | nil => exact hb
  | cons action rest ih => exact ih _ (hperform s action hb)

theorem ticketsIssued_perform
    (net : Network σ) (s : σ) {b : Browser} (action : Action) (hb : b.TicketsIssued) :
    (net.perform s b action).2.1.TicketsIssued :=
  run_preserves Stage.Step.ticketsIssued net s (.start action) hb

theorem ticketsIssued_performAll
    (net : Network σ) (s : σ) {b : Browser} (actions : List Action) (hb : b.TicketsIssued) :
    (net.performAll s b actions).2.1.TicketsIssued :=
  performAll_preserves net (ticketsIssued_perform net) s actions hb

/-! ## Searches by rounds -/

/-- A round that runs alone: it is registered and sent, and its answer is shown. -/
def round (net : Network σ) (s : σ) (b : Browser) (a : Attempt) :
    σ × Browser × Except ClientError SearchResponse :=
  let told := net.ask s a.request
  let answer := told.2.read SearchResponse.read
  (told.1, (b.register a.form a.push).settle answer, answer)

/-- A round that runs alone and is the last of its search. -/
def lastRound (net : Network σ) (s : σ) (b : Browser) (a : Attempt) : σ × Browser × Result :=
  let once := net.round s b a
  (once.1, once.2.1, once.2.2.map fun r => .searched (a.outcome r))

/-- A search that runs alone: one round, and another one if its answer asks for a correction. -/
def search (net : Network σ) (s : σ) (b : Browser) (form : SearchForm) (push : Bool) :
    σ × Browser × Result :=
  let first := Attempt.first form push
  let once := net.round s b first
  match first.again? once.2.2 with
  | none => net.lastRound s b first
  | some again => net.lastRound once.1 once.2.1 again

theorem search_of_none
    {f : SearchForm} {push : Bool}
    (hagain : (Attempt.first f push).again? (net.round s b (.first f push)).2.2 = none) :
    net.search s b f push = net.lastRound s b (.first f push) := by
  simp only [search, hagain]

theorem search_of_some
    {f : SearchForm} {push : Bool} {again : Attempt}
    (hagain : (Attempt.first f push).again? (net.round s b (.first f push)).2.2 = some again) :
    net.search s b f push =
      net.lastRound (net.round s b (.first f push)).1 (net.round s b (.first f push)).2.1 again := by
  simp only [search, hagain]

/-- A new round that runs alone is sent. -/
theorem next_awaiting_register
    (hb : b.TicketsIssued) (a : Attempt) :
    let registered := b.register a.form a.push
    (Stage.awaiting registered.generation a).next registered =
      .ask a.request (Stage.receive registered.generation a) := by
  intro registered
  simp only [Stage.next, if_neg (hb.generation_register_notMem a.form a.push), registered]

/-- A round that runs alone goes on with the round that its answer asks for, or ends its search. -/
theorem run_attempt
    (net : Network σ) (s : σ) (hb : b.TicketsIssued) (a : Attempt) :
    net.run s b (.attempt a) =
      match a.again? (net.round s b a).2.2 with
      | none => net.lastRound s b a
      | some again => net.run (net.round s b a).1 (net.round s b a).2.1 (.attempt again) := by
  rw [run_moved (next_attempt b a), run_ask (next_awaiting_register hb a),
    lastRound, round, Stage.receive]
  cases (net.ask s a.request).2.read SearchResponse.read with
  | error e => exact run_finished _
  | ok r =>
      simp only [Attempt.again?, Browser.settle]
      cases hagain : a.correction? r with
      | some again => exact run_moved (by simp [Stage.next, hagain])
      | none =>
          have hlast : (Stage.answered (b.register a.form a.push).generation a r).next
              (b.register a.form a.push) =
                .moved ((b.register a.form a.push).display r)
                  (.finished (.ok (.searched (a.outcome r)))) := by
            simp [Stage.next, hagain]
          rw [run_moved hlast, run_finished]
          rfl

/-- A second round asks for no third one. -/
theorem again?_again?
    {a again : Attempt} {answer : Except ClientError SearchResponse}
    (h : a.again? answer = some again) (answer' : Except ClientError SearchResponse) :
    again.again? answer' = none := by
  cases answer with
  | error e => cases h
  | ok r =>
      obtain ⟨-, page, -, rfl⟩ := Attempt.correction?_eq_some_iff.mp h
      cases answer' with
      | error e => rfl
      | ok r' => rfl

/-- Alone, the stages of a search are its rounds. -/
theorem run_attempt_first
    (net : Network σ) (s : σ) (hb : b.TicketsIssued) (f : SearchForm) (push : Bool) :
    net.run s b (.attempt (.first f push)) = net.search s b f push := by
  rw [run_attempt net s hb]
  cases hagain : (Attempt.first f push).again? (net.round s b (.first f push)).2.2 with
  | none => exact (search_of_none hagain).symm
  | some again =>
      have hshown : (net.round s b (Attempt.first f push)).2.1.TicketsIssued :=
        (hb.register f push).settle _
      dsimp only
      rw [run_attempt net _ hshown, again?_again? hagain, search_of_some hagain]

/-! ## Actions that search -/

theorem perform_search
    (net : Network σ) (s : σ) (hb : b.TicketsIssued) (form : SearchForm) (push : Bool) :
    net.perform s b (.search form push) = net.search s b form push := by
  have hnext : (Stage.start (.search form push)).next b =
      .moved b (.attempt (.first form push)) := rfl
  rw [perform, run_moved hnext]
  exact run_attempt_first net s hb form push

theorem perform_submit
    (net : Network σ) (s : σ) (hb : b.TicketsIssued) (blog query : String) :
    let form := { b.form with blog := blog, query := query, page := 1 }
    net.perform s b (.submit blog query) = net.search s { b with form := form } form true := by
  intro form
  have hnext : (Stage.start (.submit blog query)).next b =
      .moved { b with form := form } (.attempt (.first form true)) := rfl
  rw [perform, run_moved hnext]
  exact run_attempt_first (b := { b with form := form }) net s hb form true

theorem perform_paginate
    (net : Network σ) (s : σ) (hb : b.TicketsIssued) {page : Option UInt32} {form : SearchForm}
    (hform : b.form.restore? b.last page = some form) :
    net.perform s b (.paginate page) = net.search s { b with form := form } form false := by
  have hnext : (Stage.start (.paginate page)).next b =
      .moved { b with form := form } (.attempt (.first form false)) := by
    simp [Stage.next, Stage.begin, hform]
  rw [perform, run_moved hnext]
  exact run_attempt_first (b := { b with form := form }) net s hb form false

theorem perform_paginate_of_none
    (net : Network σ) (s : σ) {page : Option UInt32} (hlast : b.last = none) :
    net.perform s b (.paginate page) = (s, b, .error .noActiveSearch) := by
  have hnext : (Stage.start (.paginate page)).next b =
      .moved b (.finished (.error .noActiveSearch)) := by
    simp [Stage.next, Stage.begin, SearchForm.restore?, hlast]
  rw [perform, run_moved hnext, run_finished]

/-- An entry that the history has moved to is navigated to and searched for again. -/
theorem run_replay
    (net : Network σ) (s : σ) (hb : b.TicketsIssued) (entry : HistoryEntry) :
    net.run s b (.replay entry) =
      net.search s { b with page := b.page.navigate entry.url } entry.state false := by
  rw [run_moved (next_replay b entry)]
  exact run_attempt_first (b := { b with page := b.page.navigate entry.url }) net s hb
    entry.state false

theorem perform_back
    (net : Network σ) (s : σ) (hb : b.TicketsIssued) {history : History} {entry : HistoryEntry}
    (hback : b.history.back = (history, some entry)) :
    net.perform s b .back =
      net.search s { b with history := history, page := b.page.navigate entry.url }
        entry.state false := by
  have hnext : (Stage.start .back).next b =
      .moved { b with history := history } (.replay entry) := by
    simp [Stage.next, Stage.begin, hback]
  rw [perform, run_moved hnext]
  exact run_replay (b := { b with history := history }) net s hb entry

theorem perform_forward
    (net : Network σ) (s : σ) (hb : b.TicketsIssued) {history : History} {entry : HistoryEntry}
    (hforward : b.history.forward = (history, some entry)) :
    net.perform s b .forward =
      net.search s { b with history := history, page := b.page.navigate entry.url }
        entry.state false := by
  have hnext : (Stage.start .forward).next b =
      .moved { b with history := history } (.replay entry) := by
    simp [Stage.next, Stage.begin, hforward]
  rw [perform, run_moved hnext]
  exact run_replay (b := { b with history := history }) net s hb entry

theorem perform_back_of_none
    (net : Network σ) (s : σ) {history : History} (hback : b.history.back = (history, none)) :
    net.perform s b .back = (s, b, .ok .nowhere) := by
  have hnext : (Stage.start .back).next b = .moved b (.finished (.ok .nowhere)) := by
    simp [Stage.next, Stage.begin, hback]
  rw [perform, run_moved hnext, run_finished]

theorem perform_forward_of_none
    (net : Network σ) (s : σ) {history : History}
    (hforward : b.history.forward = (history, none)) :
    net.perform s b .forward = (s, b, .ok .nowhere) := by
  have hnext : (Stage.start .forward).next b = .moved b (.finished (.ok .nowhere)) := by
    simp [Stage.next, Stage.begin, hforward]
  rw [perform, run_moved hnext, run_finished]

theorem perform_openPath
    (net : Network σ) (s : σ) (hb : b.TicketsIssued) {path : String} {l : Location}
    (hread : Location.read? path = some l) :
    let form := { b.form with blog := l.blog, query := l.query, page := l.page }
    let entry := HistoryEntry.ofForm form
    net.perform s b (.openPath path) =
      net.search s
        { b with page := b.page.navigate entry.url, history := b.history.replace entry }
        form false := by
  intro form entry
  have hnext : (Stage.start (.openPath path)).next b =
      .moved
        { b with page := b.page.navigate entry.url, history := b.history.replace entry }
        (.attempt (.first form false)) := by
    simp [Stage.next, Stage.begin, hread, form, entry]
  rw [perform, run_moved hnext]
  exact run_attempt_first
    (b := { b with page := b.page.navigate entry.url, history := b.history.replace entry })
    net s hb form false

theorem perform_openPath_of_none
    (net : Network σ) (s : σ) {path : String} (hread : Location.read? path = none) :
    net.perform s b (.openPath path) = (s, b, .error (.invalidLocation path)) := by
  have hnext : (Stage.start (.openPath path)).next b =
      .moved b (.finished (.error (.invalidLocation path))) := by
    simp [Stage.next, Stage.begin, hread]
  rw [perform, run_moved hnext, run_finished]

theorem perform_toggle (net : Network σ) (s : σ) (b : Browser) (index : Nat) :
    net.perform s b (.toggle index) =
      match b.page.toggle index with
      | .ok (page, preview) => (s, { b with page := page }, .ok (.preview preview))
      | .error e => (s, b, .error e) := by
  rw [perform]
  cases htoggle : b.page.toggle index with
  | error e =>
      have hnext : (Stage.start (.toggle index)).next b = .moved b (.finished (.error e)) := by
        simp [Stage.next, Stage.begin, htoggle]
      rw [run_moved hnext, run_finished]
  | ok toggled =>
      have hnext : (Stage.start (.toggle index)).next b =
          .moved { b with page := toggled.1 } (.finished (.ok (.preview toggled.2))) := by
        simp [Stage.next, Stage.begin, htoggle]
      rw [run_moved hnext, run_finished]

theorem perform_prefer
    (net : Network σ) (s : σ) (b : Browser) (render : Option Renderer) (sort : Option SortOrder) :
    net.perform s b (.prefer render sort) =
      (s, { b with form := b.form.prefer render sort }, .ok .preferred) := by
  have hnext : (Stage.start (.prefer render sort)).next b =
      .moved { b with form := b.form.prefer render sort } (.finished (.ok .preferred)) := rfl
  rw [perform, run_moved hnext, run_finished]

/-! ## Actions that ask for news -/

theorem run_tell
    (net : Network σ) (s : σ) (b : Browser) (news : Except ClientError News) :
    net.run s b (Query.tell news) = (s, b.told news, news.map News.outcome) := by
  cases news with
  | error e => exact run_finished _
  | ok n =>
      have hnext : (Stage.told n).next b = .moved (b.hear n) (.finished (.ok n.outcome)) := rfl
      rw [Query.tell, run_moved hnext, run_finished]
      rfl

theorem run_asking (net : Network σ) (s : σ) (b : Browser) (query : Query) :
    net.run s b (.asking query) =
      net.run (net.ask s query.request).1 b (query.resume (net.ask s query.request).2) :=
  run_ask rfl

/-- The listing of the blogs, from its old place if it is not found in the new one. -/
def listing (net : Network σ) (s : σ) : σ × Except ClientError News :=
  let told := net.ask s .blogs
  match told.2 with
  | .answer 404 _ =>
      let again := net.ask told.1 .legacyBlogs
      (again.1, Query.readBlogs again.2)
  | reply => (told.1, Query.readBlogs reply)

theorem notFound_or_found (reply : Reply) :
    (∃ body, reply = .answer 404 body) ∨ ∀ body, reply ≠ .answer 404 body := by
  rw [← not_exists]
  exact Classical.em _

/-- A listing that is not found is looked for in its old place. -/
theorem listing_of_not_found
    {net : Network σ} {s s' : σ} {body : String}
    (h : net.ask s .blogs = (s', .answer 404 body)) :
    net.listing s =
      ((net.ask s' .legacyBlogs).1, Query.readBlogs (net.ask s' .legacyBlogs).2) := by
  simp only [listing, h]

theorem listing_of_found
    {net : Network σ} {s s' : σ} {reply : Reply} (h : net.ask s .blogs = (s', reply))
    (hfound : ∀ body, reply ≠ .answer 404 body) :
    net.listing s = (s', Query.readBlogs reply) := by
  simp only [listing, h]

theorem resume_blogs_of_found {reply : Reply} (hfound : ∀ body, reply ≠ .answer 404 body) :
    Query.blogs.resume reply = Query.tell (Query.readBlogs reply) := by
  simp only [Query.resume]

theorem listing_eq_readBlogs (net : Network σ) (s : σ) :
    ∃ reply, (net.listing s).2 = Query.readBlogs reply := by
  rcases hask : net.ask s .blogs with ⟨s', reply⟩
  rcases notFound_or_found reply with ⟨body, rfl⟩ | hfound
  · rw [listing_of_not_found hask]
    exact ⟨_, rfl⟩
  · rw [listing_of_found hask hfound]
    exact ⟨_, rfl⟩

theorem perform_login
    (net : Network σ) (s : σ) (b : Browser) (username password : String) :
    let told := net.ask s (.login (Form.login username password))
    let news := (told.2.read (Json.Decoder.stream LoginResponse.decode)).map News.loggedIn
    net.perform s b (.login username password) =
      (told.1, b.told news, news.map News.outcome) := by
  intro told news
  have hnext : (Stage.start (.login username password)).next b =
      .moved b (.asking (.login (Form.login username password))) := rfl
  rw [perform, run_moved hnext, run_asking]
  exact run_tell net told.1 b news

theorem perform_logout (net : Network σ) (s : σ) (b : Browser) :
    let told := net.ask s .logout
    let news := told.2.body.map fun _ => News.loggedOut
    net.perform s b .logout = (told.1, b.told news, news.map News.outcome) := by
  intro told news
  have hnext : (Stage.start .logout).next b = .moved b (.asking .logout) := rfl
  rw [perform, run_moved hnext, run_asking]
  exact run_tell net told.1 b news

theorem perform_listBlogs (net : Network σ) (s : σ) (b : Browser) :
    net.perform s b .listBlogs =
      ((net.listing s).1, b.told (net.listing s).2, (net.listing s).2.map News.outcome) := by
  have hnext : (Stage.start .listBlogs).next b = .moved b (.asking .blogs) := rfl
  rcases hask : net.ask s .blogs with ⟨s', reply⟩
  rw [perform, run_moved hnext, run_asking, Query.request, hask]
  rcases notFound_or_found reply with ⟨body, rfl⟩ | hfound
  · have hresume : Query.blogs.resume (.answer 404 body) = .asking .legacyBlogs := rfl
    rw [listing_of_not_found hask, hresume, run_asking]
    exact run_tell _ _ _ _
  · rw [listing_of_found hask hfound, resume_blogs_of_found hfound]
    exact run_tell _ _ _ _

end Network

end BlogSearch
