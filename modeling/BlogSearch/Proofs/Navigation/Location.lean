import BlogSearch.Navigation.History
import BlogSearch.Proofs.Search.Page
import BlogSearch.Proofs.Text.Percent
import BlogSearch.Proofs.Text.Pieces

/-!
# Paths of searches read back

The path of a search is its segments with a slash before each.  Reading drops the empty segments at
the end, so a search without a query, or without blog and query, still reads back from a path with
fewer segments than were written.
-/

namespace BlogSearch.Location

open Text

/-- The segments of the path of a search after the first. -/
def segments (l : Location) : List (List Char) :=
  [Percent.encodeChars l.blog.toList, Percent.encodeChars l.query.toList] ++
    if 1 < l.page then [pageSegment, Decimal.digits l.page.toNat] else []

theorem pathChars_eq_led (l : Location) :
    l.pathChars = '/' :: (searchSegment ++ led '/' l.segments) := by
  unfold pathChars segments
  split <;> simp [led]

theorem isCodeChar_of_mem_searchSegment
    {c : Char} (h : c ∈ searchSegment) : Percent.isCodeChar c = true := by
  have hall : searchSegment.all Percent.isCodeChar = true := by decide
  exact List.all_eq_true.mp hall c h

theorem isCodeChar_of_mem_pageSegment
    {c : Char} (h : c ∈ pageSegment) : Percent.isCodeChar c = true := by
  have hall : pageSegment.all Percent.isCodeChar = true := by decide
  exact List.all_eq_true.mp hall c h

theorem isCodeChar_of_mem_digits
    {n : Nat} {c : Char} (h : c ∈ Decimal.digits n) : Percent.isCodeChar c = true := by
  have hdigit : c.isDigit = true :=
    Nat.isDigit_of_mem_toDigits (by decide) (by decide) h
  simp [Percent.isCodeChar, Char.isAlphanum, hdigit]

theorem isCodeChar_of_mem_segments
    {l : Location} {s : List Char} (hs : s ∈ l.segments) :
    ∀ c ∈ s, Percent.isCodeChar c = true := by
  intro c hc
  simp only [segments, List.mem_append, List.mem_cons, List.not_mem_nil, or_false] at hs
  rcases hs with (rfl | rfl) | hs
  · exact Percent.isCodeChar_of_mem_encodeChars hc
  · exact Percent.isCodeChar_of_mem_encodeChars hc
  · split at hs
    · simp only [List.mem_cons, List.not_mem_nil, or_false] at hs
      rcases hs with rfl | rfl
      · exact isCodeChar_of_mem_pageSegment hc
      · exact isCodeChar_of_mem_digits hc
    · exact absurd hs List.not_mem_nil

theorem slash_notMem_of_mem_segments
    {l : Location} {s : List Char} (hs : s ∈ l.segments) : '/' ∉ s := by
  intro hmem
  exact Bool.noConfusion (isCodeChar_of_mem_segments hs '/' hmem)

theorem slash_or_isCodeChar_of_mem_pathChars
    {l : Location} {c : Char} (hc : c ∈ l.pathChars) : c = '/' ∨ Percent.isCodeChar c = true := by
  rw [pathChars_eq_led, List.mem_cons, List.mem_append] at hc
  rcases hc with rfl | hc | hc
  · exact Or.inl rfl
  · exact Or.inr (isCodeChar_of_mem_searchSegment hc)
  · obtain ⟨s, hs, hcs⟩ := List.mem_flatMap.mp hc
    rcases List.mem_cons.mp hcs with rfl | hcs
    · exact Or.inl rfl
    · exact Or.inr (isCodeChar_of_mem_segments hs c hcs)

/-- No character of a path begins a query string or a fragment. -/
theorem takeWhile_pathChars (l : Location) :
    (l.pathChars.takeWhile fun c => !(c == '?' || c == '#')) = l.pathChars := by
  have hplain {c : Char} (h : c = '/' ∨ Percent.isCodeChar c = true) :
      (!(c == '?' || c == '#')) = true := by
    rcases h with rfl | h
    · rfl
    · have hquestion : c ≠ '?' := by
        rintro rfl
        exact Bool.noConfusion h
      have hnumber : c ≠ '#' := by
        rintro rfl
        exact Bool.noConfusion h
      simp [hquestion, hnumber]
  apply List.takeWhile_eq_self_iff.mpr
  intro c hc
  exact hplain (slash_or_isCodeChar_of_mem_pathChars hc)

/-- The core of a path is its segments without the empty ones at the end. -/
theorem core_pathChars (l : Location) :
    core l.pathChars = searchSegment ++ led '/' (l.segments.rdropWhile List.isEmpty) := by
  rw [core, takeWhile_pathChars, pathChars_eq_led, trimBoth]
  have hdrop : ('/' :: (searchSegment ++ led '/' l.segments)).dropWhile (· == '/') =
      searchSegment ++ led '/' l.segments := rfl
  rw [hdrop]
  exact dropEnd_append_led (by decide) (by decide) fun s => slash_notMem_of_mem_segments

theorem read?_path_eq (l : Location) :
    read? l.path = ofSegments? (l.segments.rdropWhile List.isEmpty) := by
  have hpieces : pieces '/' (core l.path.toList) =
      searchSegment :: l.segments.rdropWhile List.isEmpty := by
    rw [path, String.toList_ofList, core_pathChars]
    apply pieces_append_led (by decide)
    intro s hs
    exact slash_notMem_of_mem_segments ((List.rdropWhile_prefix List.isEmpty _).subset hs)
  rw [read?, hpieces]
  exact if_pos rfl

theorem decodeSegment_encodeChars (s : String) :
    decodeSegment (Percent.encodeChars s.toList) = some s :=
  Percent.decode_encode s

theorem eq_empty_of_encodeChars_eq_nil
    {s : String} (h : Percent.encodeChars s.toList = []) : s = "" := by
  have hread := decodeSegment_encodeChars s
  rw [h] at hread
  exact (Option.some.inj hread).symm

theorem unsigned?_digits
    {limit n : Nat} (h : n < limit) :
    Decimal.unsigned? limit (Decimal.digits n) = some n := by
  have hplus : '+' ∉ Decimal.digits n := by
    intro hmem
    have hdigit : ('+' : Char).isDigit = true :=
      Nat.isDigit_of_mem_toDigits (by decide) (by decide) hmem
    exact Bool.noConfusion hdigit
  unfold Decimal.unsigned?
  split
  · next rest heq => exact absurd (heq ▸ List.mem_cons_self) hplus
  · simpa [Decimal.value?_digits] using h

/-- A path reads back as its search, with the first page for page zero. -/
theorem read?_path (l : Location) :
    read? l.path = some ⟨l.blog, l.query, max l.page 1⟩ := by
  rw [read?_path_eq, segments]
  split
  · next hpage =>
      have hdigits : (Decimal.digits l.page.toNat).isEmpty = false := by
        simp [Decimal.digits, Nat.toDigits_ne_nil]
      have hkept := List.rdropWhile_concat_neg List.isEmpty
        [Percent.encodeChars l.blog.toList, Percent.encodeChars l.query.toList, pageSegment]
        (Decimal.digits l.page.toNat) (by simp [hdigits])
      rw [List.cons_append, List.cons_append, List.nil_append]
      refine (congrArg ofSegments? hkept).trans ?_
      have hnumber : Decimal.unsigned? 4294967296 (Decimal.digits l.page.toNat) =
          some l.page.toNat := unsigned?_digits l.page.toNat_lt
      have hmax : max l.page 1 = l.page := SearchForm.max_one_of_le (UInt32.le_of_lt hpage)
      simp [ofSegments?, decodeSegment_encodeChars, hnumber, hmax]
  · next hpage =>
      rw [SearchForm.max_one_of_not_lt hpage, List.append_nil, ← List.singleton_append]
      by_cases hquery : Percent.encodeChars l.query.toList = []
      · rw [hquery, List.rdropWhile_concat_pos _ _ _ rfl, List.rdropWhile_singleton,
          eq_empty_of_encodeChars_eq_nil hquery]
        by_cases hblog : Percent.encodeChars l.blog.toList = []
        · rw [hblog, eq_empty_of_encodeChars_eq_nil hblog]
          rfl
        · rw [if_neg (by simpa using hblog)]
          simp [ofSegments?, decodeSegment_encodeChars]
      · rw [List.rdropWhile_concat_neg _ _ _ (by simpa using hquery), List.singleton_append]
        simp [ofSegments?, decodeSegment_encodeChars]

/-- Pages zero and one have the same path. -/
theorem path_max_one (blog query : String) (page : UInt32) :
    path ⟨blog, query, max page 1⟩ = path ⟨blog, query, page⟩ := by
  by_cases hpage : 1 < page
  · rw [SearchForm.max_one_of_le (UInt32.le_of_lt hpage)]
  · rw [SearchForm.max_one_of_not_lt hpage]
    simp [path, pathChars, hpage]

theorem one_le_page_of_ofSegments?
    {segments : List (List Char)} {l : Location} (h : ofSegments? segments = some l) :
    1 ≤ l.page := by
  unfold ofSegments? at h
  split at h
  · cases h
    exact UInt32.le_refl 1
  · obtain ⟨b, -, rfl⟩ := Option.map_eq_some_iff.mp h
    exact UInt32.le_refl 1
  · simp only [Option.bind_eq_bind, Option.bind_eq_some_iff, Option.pure_def,
      Option.some.injEq] at h
    obtain ⟨b, -, q, -, rfl⟩ := h
    exact UInt32.le_refl 1
  · split at h
    · simp only [Option.bind_eq_bind, Option.bind_eq_some_iff, Option.pure_def,
        Option.some.injEq] at h
      obtain ⟨n, -, b, -, q, -, rfl⟩ := h
      exact SearchForm.one_le_max_one _
    · cases h
  · cases h

/-- No path names page zero. -/
theorem one_le_page_of_read? {path : String} {l : Location} (h : read? path = some l) :
    1 ≤ l.page := by
  unfold read? at h
  split at h
  · split at h
    · exact one_le_page_of_ofSegments? h
    · cases h
  · cases h

end BlogSearch.Location

namespace BlogSearch

open Location

/-- The path of a search names that search and no other, where page zero counts as the first. -/
theorem searchPath_round_trip (blog query : String) (page : UInt32) :
    read? (searchPath blog query page) = some ⟨blog, query, max page 1⟩ ∧
      ∀ (blog' query' : String) (page' : UInt32),
        searchPath blog query page = searchPath blog' query' page' ↔
          blog = blog' ∧ query = query' ∧ max page 1 = max page' 1 := by
  refine ⟨read?_path ⟨blog, query, page⟩, ?_⟩
  intro blog' query' page'
  constructor
  · intro h
    have hread : some (Location.mk blog query (max page 1)) =
        some ⟨blog', query', max page' 1⟩ := by
      rw [← read?_path ⟨blog, query, page⟩, ← read?_path ⟨blog', query', page'⟩]
      exact congrArg read? h
    simpa using hread
  · rintro ⟨rfl, rfl, hpage⟩
    calc
      searchPath blog query page = path ⟨blog, query, max page 1⟩ :=
        (path_max_one blog query page).symm
      _ = path ⟨blog, query, max page' 1⟩ := by rw [hpage]
      _ = searchPath blog query page' := path_max_one blog query page'

end BlogSearch
