import BlogSearch.Proofs.Navigation.Location
import BlogSearch.Proofs.Text.Trim

/-!
# The routes that name a search

There are four routes, and each is written in one way only once the slashes around it and the query
string behind it are cut away.  So a text is at most one route, and it names a search exactly if it is a
route whose parts can be read.
-/

namespace BlogSearch

open Text

/-! ## Numbers of pages -/

namespace Decimal

end Decimal

namespace Location

/-! ## What is cut away -/

/-- There is neither a query string nor a fragment in the text. -/
def Unmarked (s : List Char) : Prop :=
  ∀ c ∈ s, c ≠ '?' ∧ c ≠ '#'

/-- The text is a query string or a fragment, or there is nothing of it. -/
def MarkFirst (s : List Char) : Prop :=
  ∀ c, s.head? = some c → c = '?' ∨ c = '#'

def Slashes (s : List Char) : Prop :=
  ∀ c ∈ s, c = '/'

/-- Around `t` there are slashes only, as far as the first question mark or number sign, and `t` has
none at its ends. -/
structure IsCore (s t : List Char) : Prop where
  around : ∃ left right tail, s = left ++ t ++ right ++ tail ∧ Slashes left ∧ Slashes right ∧
    MarkFirst tail
  unmarked : Unmarked t
  begins : BeginsOutside (· == '/') t
  ends : EndsOutside (· == '/') t

/-- The text as far as its first question mark or number sign. -/
def beforeMark (s : List Char) : List Char :=
  s.takeWhile fun c => !(c == '?' || c == '#')

theorem Unmarked.append {s t : List Char} (hs : Unmarked s) (ht : Unmarked t) :
    Unmarked (s ++ t) := by
  intro c hc
  rcases List.mem_append.mp hc with hc | hc
  · exact hs c hc
  · exact ht c hc

theorem Slashes.unmarked {s : List Char} (hs : Slashes s) : Unmarked s := by
  intro c hc
  rw [hs c hc]
  decide

theorem slashes_iff {s : List Char} : Slashes s ↔ ∀ c ∈ s, (c == '/') = true := by
  simp [Slashes]

theorem beforeMark_append {s tail : List Char} (hs : Unmarked s) (htail : MarkFirst tail) :
    beforeMark (s ++ tail) = s := by
  have hstop : beforeMark tail = [] := by
    cases tail with
    | nil => rfl
    | cons c tail =>
        apply List.takeWhile_cons_of_neg
        simpa [or_iff_not_imp_left] using htail c rfl
  have hplain : ∀ c ∈ s, (!(c == '?' || c == '#')) = true := by
    intro c hc
    simpa using hs c hc
  rw [beforeMark, List.takeWhile_append_of_pos hplain]
  exact (congrArg (s ++ ·) hstop).trans (List.append_nil s)

theorem exists_eq_beforeMark_append (s : List Char) :
    ∃ tail, s = beforeMark s ++ tail ∧ Unmarked (beforeMark s) ∧ MarkFirst tail := by
  refine ⟨s.dropWhile fun c => !(c == '?' || c == '#'), ?_, ?_, ?_⟩
  · exact List.takeWhile_append_dropWhile.symm
  · intro c hc
    simpa using List.mem_takeWhile_imp hc
  · intro c hc
    have hmark := beginsOutside_dropWhile (fun c => !(c == '?' || c == '#')) s c hc
    simpa [or_iff_not_imp_left] using hmark

/-- Slashes around a text and what follows its first mark make no difference to its core. -/
theorem core_around
    {left s right tail : List Char} (hleft : Slashes left) (hs : Unmarked s)
    (hright : Slashes right) (htail : MarkFirst tail) :
    core (left ++ s ++ right ++ tail) = trimBoth (· == '/') s := by
  have hplain : Unmarked (left ++ s ++ right) :=
    (hleft.unmarked.append hs).append hright.unmarked
  rw [core]
  exact (congrArg (trimBoth (· == '/')) (beforeMark_append hplain htail)).trans
    (trimBoth_append (slashes_iff.mp hleft) (slashes_iff.mp hright) s)

/-- Every text has one core. -/
theorem core_eq_iff {s t : List Char} : core s = t ↔ IsCore s t := by
  constructor
  · rintro rfl
    obtain ⟨tail, hs, hunmarked, htail⟩ := exists_eq_beforeMark_append s
    obtain ⟨left, right, htrim, hleft, hright⟩ := exists_append_trimBoth (· == '/') (beforeMark s)
    refine ⟨⟨left, right, tail, ?_, ?_, ?_, htail⟩, ?_, ?_, ?_⟩
    · exact hs.trans (congrArg (· ++ tail) htrim)
    · exact slashes_iff.mpr hleft
    · exact slashes_iff.mpr hright
    · intro c hc
      apply hunmarked
      rw [htrim]
      exact List.mem_append_left _ (List.mem_append_right _ hc)
    · exact beginsOutside_trimBoth _ _
    · exact endsOutside_dropEnd _ _
  · rintro ⟨⟨left, right, tail, rfl, hleft, hright, htail⟩, hunmarked, hbegins, hends⟩
    rw [core_around hleft hunmarked hright htail]
    exact trimBoth_eq_self hbegins hends

/-! ## The four routes -/

/-- The routes under which the pages of a search are served, with their parts as they are written. -/
inductive Route where
  | form
  | blog (x : List Char)
  | query (x y : List Char)
  | page (x y d : List Char)

namespace Route

/-- The route without slashes around it. -/
def text : Route → List Char
  | form => searchSegment
  | blog x => searchSegment ++ '/' :: x
  | query x y => searchSegment ++ '/' :: x ++ '/' :: y
  | page x y d => searchSegment ++ '/' :: x ++ '/' :: y ++ '/' :: pageSegment ++ '/' :: d

def parts : Route → List (List Char)
  | form => []
  | blog x => [x]
  | query x y => [x, y]
  | page x y d => [x, y, d]

/-- The parts of the route are segments: no slash is in any of them. -/
def Plain (r : Route) : Prop :=
  ∀ part ∈ r.parts, '/' ∉ part

/-- The segments of the route after the first. -/
def segments : Route → List (List Char)
  | form => []
  | blog x => [x]
  | query x y => [x, y]
  | page x y d => [x, y, pageSegment, d]

theorem text_eq_led (r : Route) : r.text = searchSegment ++ led '/' r.segments := by
  cases r <;> simp [text, segments, led]

theorem segments_injective {r r' : Route} (h : r.segments = r'.segments) : r = r' := by
  cases r <;> cases r' <;> simp_all [segments]

theorem plain_iff {r : Route} : r.Plain ↔ ∀ segment ∈ r.segments, '/' ∉ segment := by
  cases r with
  | page x y d =>
      have hpage : '/' ∉ pageSegment := by decide
      simp [Plain, parts, segments, hpage]
  | _ => rfl

end Route

/-- The text is the route once its ends are cut away. -/
structure Writes (s : String) (r : Route) : Prop where
  plain : r.Plain
  core : IsCore s.toList r.text

theorem writes_iff {s : String} {r : Route} :
    Writes s r ↔ pieces '/' (Location.core s.toList) = searchSegment :: r.segments := by
  have hsearch : '/' ∉ searchSegment := by decide
  rw [pieces_eq_cons_iff, ← Route.text_eq_led, ← Route.plain_iff, core_eq_iff]
  constructor
  · rintro ⟨hplain, hcore⟩
    exact ⟨hcore, hsearch, hplain⟩
  · rintro ⟨hcore, -, hplain⟩
    exact ⟨hplain, hcore⟩

/-- No text is two routes. -/
theorem Writes.unique {s : String} {r r' : Route} (h : Writes s r) (h' : Writes s r') : r = r' := by
  rw [writes_iff] at h h'
  exact Route.segments_injective (List.cons.inj (h.symm.trans h')).2

end Location

end BlogSearch
