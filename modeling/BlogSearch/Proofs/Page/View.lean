import BlogSearch.Page.View

/-!
# What an answer changes on the page

An answer takes the place of the results, the panel and the scroll position, and leaves the rest of
the page as it was.
-/

namespace BlogSearch

namespace PageView

/-- Two pages show the same, perhaps at different locations. -/
structure SameDisplay (p q : PageView) : Prop where
  results : p.results = q.results
  panel : p.panel = q.panel
  scrollTop : p.scrollTop = q.scrollTop
  blogs : p.blogs = q.blogs
  loginStatus : p.loginStatus = q.loginStatus

/-- Results are added below the others in order, and nothing else is touched. -/
theorem foldl_append (p : PageView) (rs : List ResultView) :
    rs.foldl append p = { p with results := p.results ++ rs } := by
  induction rs generalizing p with
  | nil => simp
  | cons r rs ih =>
      rw [List.foldl_cons, ih]
      simp [append]

theorem render_eq (p : PageView) (items : List ResultItem) :
    p.render items = { p with results := items.map ResultView.ofItem } := by
  rw [render, foldl_append]
  rfl

theorem showResponse_eq (p : PageView) (r : SearchResponse) :
    p.showResponse r =
      { p with
        results := r.results.map ResultView.ofItem
        panel := some r.info.panel
        scrollTop := 0 } := by
  rw [showResponse, render_eq]
  rfl

@[simp] theorem location_showResponse (p : PageView) (r : SearchResponse) :
    (p.showResponse r).location = p.location := by
  rw [showResponse_eq]

theorem SameDisplay.refl (p : PageView) : p.SameDisplay p :=
  ⟨rfl, rfl, rfl, rfl, rfl⟩

theorem SameDisplay.symm {p q : PageView} (h : p.SameDisplay q) : q.SameDisplay p :=
  ⟨h.results.symm, h.panel.symm, h.scrollTop.symm, h.blogs.symm, h.loginStatus.symm⟩

theorem SameDisplay.trans
    {p q t : PageView} (h : p.SameDisplay q) (h' : q.SameDisplay t) : p.SameDisplay t :=
  ⟨h.results.trans h'.results, h.panel.trans h'.panel, h.scrollTop.trans h'.scrollTop,
    h.blogs.trans h'.blogs, h.loginStatus.trans h'.loginStatus⟩

theorem sameDisplay_navigate (p : PageView) (location : String) :
    (p.navigate location).SameDisplay p :=
  ⟨rfl, rfl, rfl, rfl, rfl⟩

/-- Of the page before it, an answer leaves the blogs and the status of the login. -/
theorem SameDisplay.showResponse
    {p q : PageView} (h : p.SameDisplay q) (r : SearchResponse) :
    (p.showResponse r).SameDisplay (q.showResponse r) := by
  rw [showResponse_eq, showResponse_eq]
  exact ⟨rfl, rfl, rfl, h.blogs, h.loginStatus⟩

/-- A toggle changes the preview of one result, and nothing else. -/
theorem toggle_of_getElem?
    {p : PageView} {index : Nat} {r : ResultView} (h : p.results[index]? = some r) :
    p.toggle index =
      .ok ({ p with results := p.results.set index { r with preview := r.preview.toggle } },
        r.preview.toggle) := by
  simp only [toggle, h]

theorem toggle_of_length_le
    {p : PageView} {index : Nat} (h : p.results.length ≤ index) :
    p.toggle index = .error (.noSuchResult index p.results.length) := by
  simp only [toggle, List.getElem?_eq_none h]

theorem toggle_eq_ok_iff
    {p q : PageView} {index : Nat} {preview : Preview} :
    p.toggle index = .ok (q, preview) ↔
      ∃ r, p.results[index]? = some r ∧ preview = r.preview.toggle ∧
        q = { p with results := p.results.set index { r with preview := preview } } := by
  rcases hresult : p.results[index]? with _ | r
  · have hle : p.results.length ≤ index := List.getElem?_eq_none_iff.mp hresult
    rw [toggle_of_length_le hle]
    simp
  · rw [toggle_of_getElem? hresult]
    constructor
    · intro h
      cases h
      exact ⟨r, rfl, rfl, rfl⟩
    · rintro ⟨r', hr', rfl, rfl⟩
      cases hr'
      rfl

end PageView

end BlogSearch
