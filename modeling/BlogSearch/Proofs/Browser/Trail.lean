import BlogSearch.Proofs.Browser.Correction

/-!
# The trail does not depend on the backend

The trail of a browser is its history, its form and its last search, the latter two without their
pages.  A correction changes a page only, and what goes into the history is made of the trail and of
what the user typed, so two browsers with one trail keep one trail, whatever their backends answer.
-/

namespace BlogSearch

/-- Two forms ask for the same search, perhaps for different pages of it. -/
def SearchForm.SameSearch (f g : SearchForm) : Prop :=
  f.blog = g.blog ∧ f.query = g.query ∧ f.render = g.render ∧ f.sort = g.sort

/-- Two browsers have one history, and forms and last searches that differ in pages only. -/
structure Browser.SameTrail (b₁ b₂ : Browser) : Prop where
  history : b₁.history = b₂.history
  form : b₁.form.SameSearch b₂.form
  last : Option.Rel SearchForm.SameSearch b₁.last b₂.last

/-- The action logs in or out. -/
def Action.OnAccount : Action → Prop
  | .login _ _ => True
  | .logout => True
  | _ => False

namespace SearchForm

theorem SameSearch.refl (f : SearchForm) : f.SameSearch f :=
  ⟨rfl, rfl, rfl, rfl⟩

theorem SameSearch.symm {f g : SearchForm} (h : f.SameSearch g) : g.SameSearch f := by
  obtain ⟨hblog, hquery, hrender, hsort⟩ := h
  exact ⟨hblog.symm, hquery.symm, hrender.symm, hsort.symm⟩

theorem SameSearch.trans
    {f g k : SearchForm} (h : f.SameSearch g) (h' : g.SameSearch k) : f.SameSearch k := by
  obtain ⟨hblog, hquery, hrender, hsort⟩ := h
  obtain ⟨hblog', hquery', hrender', hsort'⟩ := h'
  exact ⟨hblog.trans hblog', hquery.trans hquery', hrender.trans hrender', hsort.trans hsort'⟩

theorem sameSearch_page (f : SearchForm) (page : UInt32) :
    { f with page := page }.SameSearch f :=
  ⟨rfl, rfl, rfl, rfl⟩

/-- A form with given blog, query and page is the same on both sides of a trail. -/
theorem SameSearch.retyped
    {f g : SearchForm} (h : f.SameSearch g) (blog query : String) (page : UInt32) :
    { f with blog := blog, query := query, page := page } =
      { g with blog := blog, query := query, page := page } := by
  obtain ⟨-, -, hrender, hsort⟩ := h
  rw [hrender, hsort]

theorem SameSearch.prefer
    {f g : SearchForm} (h : f.SameSearch g) (render : Option Renderer) (sort : Option SortOrder) :
    (f.prefer render sort).SameSearch (g.prefer render sort) := by
  obtain ⟨hblog, hquery, hrender, hsort⟩ := h
  refine ⟨hblog, hquery, ?_, ?_⟩
  · simp only [SearchForm.prefer, hrender]
  · simp only [SearchForm.prefer, hsort]

theorem restore?_of_some
    (f : SearchForm) {last : Option SearchForm} {l : SearchForm} (h : last = some l)
    (page : Option UInt32) :
    f.restore? last page =
      some { f with
        blog := l.blog
        query := l.query
        page := match page with
          | some p => max p 1
          | none => f.page } := by
  rw [h]
  rfl

theorem SameSearch.restored
    {f g l k : SearchForm} (h : f.SameSearch g) (hlast : l.SameSearch k) (p q : UInt32) :
    { f with blog := l.blog, query := l.query, page := p }.SameSearch
      { g with blog := k.blog, query := k.query, page := q } := by
  obtain ⟨-, -, hrender, hsort⟩ := h
  obtain ⟨hblog, hquery, -, -⟩ := hlast
  exact ⟨hblog, hquery, hrender, hsort⟩

end SearchForm

/-- Browsers that keep form, last search and history stay on their trail. -/
theorem Browser.SameTrail.congr
    {b₁ b₂ b₁' b₂' : Browser} (h : b₁.SameTrail b₂)
    (h₁ : b₁'.form = b₁.form ∧ b₁'.last = b₁.last ∧ b₁'.history = b₁.history)
    (h₂ : b₂'.form = b₂.form ∧ b₂'.last = b₂.last ∧ b₂'.history = b₂.history) :
    b₁'.SameTrail b₂' := by
  obtain ⟨hform₁, hlast₁, hhistory₁⟩ := h₁
  obtain ⟨hform₂, hlast₂, hhistory₂⟩ := h₂
  constructor
  · rw [hhistory₁, hhistory₂, h.history]
  · rw [hform₁, hform₂]
    exact h.form
  · rw [hlast₁, hlast₂]
    exact h.last

namespace Network

variable {σ τ : Type} (net : Network σ) (s : σ)

/-- The trail after a round is the trail after its registration. -/
theorem trail_round (b : Browser) (a : Attempt) :
    let b' := (net.round s b a).2.1
    b'.form = a.form ∧ b'.last = some a.form ∧
      b'.history = (if a.push then b.history.push (.ofForm a.form) else b.history) ∧
      b'.page.location =
        if a.push then some (HistoryEntry.ofForm a.form).url else b.page.location := by
  obtain ⟨hform, hlast, hhistory, hlocation⟩ := (b.register a.form a.push).settle_frame
    ((net.ask s a.request).2.read SearchResponse.read)
  exact ⟨hform, hlast, hhistory, hlocation.trans (b.location_register a.form a.push)⟩

/-- The trail after a search is the trail after its first registration: the second round repeats the
search for another page and leaves the history alone. -/
theorem trail_search (b : Browser) (f : SearchForm) (push : Bool) :
    let b' := (net.search s b f push).2.1
    b'.form.SameSearch f ∧ (∃ last, b'.last = some last ∧ last.SameSearch f) ∧
      b'.history = (if push then b.history.push (.ofForm f) else b.history) ∧
      b'.page.location =
        if push then some (HistoryEntry.ofForm f).url else b.page.location := by
  obtain ⟨hform, hlast, hhistory, hlocation⟩ := net.trail_round s b (.first f push)
  cases hagain : (Attempt.first f push).again? (net.round s b (.first f push)).2.2 with
  | none =>
      have hsame : (net.round s b (.first f push)).2.1.form.SameSearch f := by
        rw [hform]
        exact .refl f
      rw [search_of_none hagain]
      exact ⟨hsame, ⟨f, hlast, .refl f⟩, hhistory, hlocation⟩
  | some again =>
      obtain ⟨r, -, -, p, -, rfl⟩ := Attempt.again?_first_eq_some_iff.mp hagain
      let once := net.round s b (.first f push)
      let second : Attempt := ⟨{ f with page := p }, false, some p⟩
      obtain ⟨hform', hlast', hhistory', hlocation'⟩ := net.trail_round once.1 once.2.1 second
      have hsame : (net.round once.1 once.2.1 second).2.1.form.SameSearch f := by
        rw [hform']
        exact f.sameSearch_page p
      rw [search_of_some hagain]
      exact ⟨hsame, ⟨_, hlast', f.sameSearch_page p⟩, hhistory'.trans hhistory,
        hlocation'.trans hlocation⟩

variable (net₁ : Network σ) (net₂ : Network τ) (s₁ : σ) (s₂ : τ)

/-- Two searches from one history keep one trail if they are for the same search, and for the same
page of it where they are recorded. -/
theorem sameTrail_search
    (b₁ b₂ : Browser) {f₁ f₂ : SearchForm} (push : Bool)
    (hhistory : b₁.history = b₂.history) (hsearch : f₁.SameSearch f₂)
    (hpush : push = true → f₁ = f₂) :
    (net₁.search s₁ b₁ f₁ push).2.1.SameTrail (net₂.search s₂ b₂ f₂ push).2.1 ∧
      (b₁.page.location = b₂.page.location →
        (net₁.search s₁ b₁ f₁ push).2.1.page.location =
          (net₂.search s₂ b₂ f₂ push).2.1.page.location) := by
  obtain ⟨hform₁, ⟨last₁, hlast₁, hsame₁⟩, hhistory₁, hlocation₁⟩ :=
    net₁.trail_search s₁ b₁ f₁ push
  obtain ⟨hform₂, ⟨last₂, hlast₂, hsame₂⟩, hhistory₂, hlocation₂⟩ :=
    net₂.trail_search s₂ b₂ f₂ push
  refine ⟨⟨?_, ?_, ?_⟩, ?_⟩
  · rw [hhistory₁, hhistory₂, hhistory]
    cases push with
    | false => rfl
    | true => rw [hpush rfl]
  · exact hform₁.trans (hsearch.trans hform₂.symm)
  · rw [hlast₁, hlast₂]
    exact .some (hsame₁.trans (hsearch.trans hsame₂.symm))
  · intro hlocation
    rw [hlocation₁, hlocation₂, hlocation]
    cases push with
    | false => rfl
    | true => rw [hpush rfl]

/-- Two searches for one form, off the record and from one location and history, keep one trail. -/
theorem sameTrail_navigated
    (b₁ b₂ : Browser) (history : History) (url : String) (form : SearchForm) :
    let after₁ := net₁.search s₁
      { b₁ with history := history, page := b₁.page.navigate url } form false
    let after₂ := net₂.search s₂
      { b₂ with history := history, page := b₂.page.navigate url } form false
    after₁.2.1.SameTrail after₂.2.1 ∧ after₁.2.1.page.location = after₂.2.1.page.location := by
  intro after₁ after₂
  obtain ⟨htrail, hlocation⟩ := sameTrail_search net₁ net₂ s₁ s₂
    { b₁ with history := history, page := b₁.page.navigate url }
    { b₂ with history := history, page := b₂.page.navigate url } false
    rfl (.refl form) fun _ => rfl
  exact ⟨htrail, hlocation rfl⟩

/-- News are about the page, which is not part of the trail. -/
theorem trail_told (b : Browser) (news : Except ClientError News) :
    (b.told news).form = b.form ∧ (b.told news).last = b.last ∧
      (b.told news).history = b.history := by
  have hkept := b.keepsSearch_told news
  exact ⟨hkept.form, hkept.last, hkept.history⟩

theorem location_told_listing (b : Browser) :
    (b.told (net.listing s).2).page.location = b.page.location := by
  obtain ⟨reply, hreply⟩ := net.listing_eq_readBlogs s
  rw [hreply, Query.readBlogs]
  cases reply.read (Json.Decoder.stream BlogSummary.decodeList) <;> rfl

theorem trail_toggle (b : Browser) (index : Nat) :
    let b' := (net.perform s b (.toggle index)).2.1
    b'.form = b.form ∧ b'.last = b.last ∧ b'.history = b.history ∧
      b'.page.location = b.page.location := by
  rw [perform_toggle]
  unfold PageView.toggle
  cases b.page.results[index]? <;> exact ⟨rfl, rfl, rfl, rfl⟩

/-- One action keeps two browsers on one trail, and at one location unless it logs in or out. -/
theorem sameTrail_perform
    {b₁ b₂ : Browser} (hb₁ : b₁.TicketsIssued) (hb₂ : b₂.TicketsIssued) (action : Action)
    (h : b₁.SameTrail b₂) :
    (net₁.perform s₁ b₁ action).2.1.SameTrail (net₂.perform s₂ b₂ action).2.1 ∧
      (¬action.OnAccount → b₁.page.location = b₂.page.location →
        (net₁.perform s₁ b₁ action).2.1.page.location =
          (net₂.perform s₂ b₂ action).2.1.page.location) := by
  cases action with
  | login username password =>
      rw [perform_login, perform_login]
      refine ⟨h.congr (trail_told b₁ _) (trail_told b₂ _), ?_⟩
      intro haccount
      exact absurd trivial haccount
  | logout =>
      rw [perform_logout, perform_logout]
      refine ⟨h.congr (trail_told b₁ _) (trail_told b₂ _), ?_⟩
      intro haccount
      exact absurd trivial haccount
  | listBlogs =>
      rw [perform_listBlogs, perform_listBlogs]
      refine ⟨h.congr (trail_told b₁ _) (trail_told b₂ _), ?_⟩
      intro _ hlocation
      rw [location_told_listing, location_told_listing, hlocation]
  | submit blog query =>
      rw [perform_submit net₁ s₁ hb₁, perform_submit net₂ s₂ hb₂]
      have hform := h.form.retyped blog query 1
      obtain ⟨htrail, hlocation⟩ := sameTrail_search net₁ net₂ s₁ s₂ _ _ true
        h.history (hform ▸ .refl _) fun _ => hform
      exact ⟨htrail, fun _ => hlocation⟩
  | search form push =>
      rw [perform_search net₁ s₁ hb₁, perform_search net₂ s₂ hb₂]
      obtain ⟨htrail, hlocation⟩ := sameTrail_search net₁ net₂ s₁ s₂ b₁ b₂ push
        h.history (.refl form) fun _ => rfl
      exact ⟨htrail, fun _ => hlocation⟩
  | paginate page =>
      have hlast := h.last
      rcases hlast₁ : b₁.last with _ | l₁ <;> rcases hlast₂ : b₂.last with _ | l₂ <;>
        rw [hlast₁, hlast₂] at hlast
      · rw [perform_paginate_of_none net₁ s₁ hlast₁, perform_paginate_of_none net₂ s₂ hlast₂]
        exact ⟨h, fun _ hlocation => hlocation⟩
      · cases hlast
      · cases hlast
      · have hform₁ := b₁.form.restore?_of_some hlast₁ page
        have hform₂ := b₂.form.restore?_of_some hlast₂ page
        rw [perform_paginate net₁ s₁ hb₁ hform₁, perform_paginate net₂ s₂ hb₂ hform₂]
        have hsame : l₁.SameSearch l₂ := by
          cases hlast with
          | some hsame => exact hsame
        obtain ⟨htrail, hlocation⟩ := sameTrail_search net₁ net₂ s₁ s₂ { b₁ with form := _ }
          { b₂ with form := _ } false h.history (h.form.restored hsame _ _) nofun
        exact ⟨htrail, fun _ => hlocation⟩
  | back =>
      have hmove : b₂.history.back = b₁.history.back := by rw [h.history]
      rcases hback : b₁.history.back with ⟨history, _ | entry⟩
      · rw [perform_back_of_none net₁ s₁ hback, perform_back_of_none net₂ s₂ (hmove.trans hback)]
        exact ⟨h, fun _ hlocation => hlocation⟩
      · rw [perform_back net₁ s₁ hb₁ hback, perform_back net₂ s₂ hb₂ (hmove.trans hback)]
        obtain ⟨htrail, hlocation⟩ :=
          sameTrail_navigated net₁ net₂ s₁ s₂ b₁ b₂ history entry.url entry.state
        exact ⟨htrail, fun _ _ => hlocation⟩
  | forward =>
      have hmove : b₂.history.forward = b₁.history.forward := by rw [h.history]
      rcases hforward : b₁.history.forward with ⟨history, _ | entry⟩
      · rw [perform_forward_of_none net₁ s₁ hforward,
          perform_forward_of_none net₂ s₂ (hmove.trans hforward)]
        exact ⟨h, fun _ hlocation => hlocation⟩
      · rw [perform_forward net₁ s₁ hb₁ hforward,
          perform_forward net₂ s₂ hb₂ (hmove.trans hforward)]
        obtain ⟨htrail, hlocation⟩ :=
          sameTrail_navigated net₁ net₂ s₁ s₂ b₁ b₂ history entry.url entry.state
        exact ⟨htrail, fun _ _ => hlocation⟩
  | openPath path =>
      cases hread : Location.read? path with
      | none =>
          rw [perform_openPath_of_none net₁ s₁ hread, perform_openPath_of_none net₂ s₂ hread]
          exact ⟨h, fun _ hlocation => hlocation⟩
      | some l =>
          rw [perform_openPath net₁ s₁ hb₁ hread, perform_openPath net₂ s₂ hb₂ hread]
          rw [← h.history, ← h.form.retyped l.blog l.query l.page]
          obtain ⟨htrail, hlocation⟩ := sameTrail_navigated net₁ net₂ s₁ s₂ b₁ b₂ _ _ _
          exact ⟨htrail, fun _ _ => hlocation⟩
  | toggle index =>
      obtain ⟨hform₁, hlast₁, hhistory₁, hlocation₁⟩ := net₁.trail_toggle s₁ b₁ index
      obtain ⟨hform₂, hlast₂, hhistory₂, hlocation₂⟩ := net₂.trail_toggle s₂ b₂ index
      refine ⟨h.congr ⟨hform₁, hlast₁, hhistory₁⟩ ⟨hform₂, hlast₂, hhistory₂⟩, ?_⟩
      intro _ hlocation
      rw [hlocation₁, hlocation₂, hlocation]
  | prefer render sort =>
      rw [perform_prefer, perform_prefer]
      exact ⟨⟨h.history, h.form.prefer render sort, h.last⟩, fun _ hlocation => hlocation⟩

theorem sameTrail_performAll
    {b₁ b₂ : Browser} (hb₁ : b₁.TicketsIssued) (hb₂ : b₂.TicketsIssued) (actions : List Action)
    (h : b₁.SameTrail b₂) :
    (net₁.performAll s₁ b₁ actions).2.1.SameTrail (net₂.performAll s₂ b₂ actions).2.1 ∧
      ((∀ action ∈ actions, ¬action.OnAccount) → b₁.page.location = b₂.page.location →
        (net₁.performAll s₁ b₁ actions).2.1.page.location =
          (net₂.performAll s₂ b₂ actions).2.1.page.location) := by
  induction actions generalizing s₁ s₂ b₁ b₂ with
  | nil => exact ⟨h, fun _ hlocation => hlocation⟩
  | cons action rest ih =>
      obtain ⟨htrail, hlocation⟩ := sameTrail_perform net₁ net₂ s₁ s₂ hb₁ hb₂ action h
      obtain ⟨htrail', hlocation'⟩ := ih (net₁.perform s₁ b₁ action).1
        (net₂.perform s₂ b₂ action).1 (ticketsIssued_perform net₁ s₁ action hb₁)
        (ticketsIssued_perform net₂ s₂ action hb₂) htrail
      refine ⟨htrail', ?_⟩
      intro haccount hstart
      have haction := haccount action List.mem_cons_self
      have hrest : ∀ action ∈ rest, ¬action.OnAccount := by
        intro other hother
        exact haccount other (List.mem_cons_of_mem action hother)
      exact hlocation' hrest (hlocation haction hstart)

end Network

/-- After any actions one after another, two browsers that began alike have one history and forms and
last searches that differ in pages only, whatever each of their backends answered; and they stand at
one location unless someone logged in or out. -/
theorem trail_independent_of_backend
    (backend₁ backend₂ : Backend) (defaults : SearchForm) (view : PageView)
    (actions : List Action) :
    let start := { Browser.new defaults with page := view }
    let b₁ := (backend₁.network.performAll [] start actions).2.1
    let b₂ := (backend₂.network.performAll [] start actions).2.1
    b₁.SameTrail b₂ ∧
      ((∀ action ∈ actions, ¬action.OnAccount) → b₁.page.location = b₂.page.location) := by
  intro start b₁ b₂
  have hstart : start.TicketsIssued := Browser.ticketsIssued_new defaults view
  have hself : start.SameTrail start := ⟨rfl, .refl defaults, .none⟩
  obtain ⟨htrail, hlocation⟩ := Network.sameTrail_performAll backend₁.network backend₂.network
    [] [] hstart hstart actions hself
  exact ⟨htrail, fun haccount => hlocation haccount rfl⟩

end BlogSearch
