import BlogSearch.Search.Panel
import Mathlib.Algebra.Order.Floor.Div

/-!
# The first page and the last

Pages count from one, and page zero stands for the first.  A correction asks for the last page that
holds matches: counting pages rounds up, pages of size zero hold nothing, and there is always a first
page and a greatest one that can be asked for.
-/

namespace BlogSearch

namespace SearchForm

theorem max_one_of_le {page : UInt32} (h : 1 ≤ page) : max page 1 = page := by
  by_cases hle : page ≤ 1
  · have hone : page = 1 := UInt32.le_antisymm hle h
    rw [hone]
    rfl
  · exact if_neg hle

theorem max_one_of_not_lt {page : UInt32} (h : ¬1 < page) : max page 1 = 1 :=
  if_pos (UInt32.not_lt.mp h)

theorem one_le_max_one (page : UInt32) : 1 ≤ max page 1 := by
  by_cases hpage : 1 < page
  · have hle : 1 ≤ page := UInt32.le_of_lt hpage
    rw [max_one_of_le hle]
    exact hle
  · rw [max_one_of_not_lt hpage]
    exact UInt32.le_refl 1

end SearchForm

/-- The pages that are needed to hold all matches are those that begin before the last match. -/
theorem lt_ceilDiv_iff {held size n : ℕ} (hsize : 1 ≤ size) :
    n < held ⌈/⌉ size ↔ n * size < held := by
  rw [← not_le, ceilDiv_le_iff_le_mul hsize, not_le, Nat.mul_comm]

namespace SearchMeta

/-- The window lies behind the last match, and the answer is not an error. -/
def OutOfRange (m : SearchMeta) : Prop :=
  m.error = none ∧ m.total < m.offset

/-- The number of the last page. -/
def lastPage (m : SearchMeta) : ℕ :=
  min (2 ^ 32 - 1) (max 1 (m.total.toNat ⌈/⌉ m.pageSize.toNat))

theorem lastPage_pos (m : SearchMeta) : 1 ≤ m.lastPage := by
  unfold lastPage
  omega

theorem lastPage_lt (m : SearchMeta) : m.lastPage < 2 ^ 32 := by
  unfold lastPage
  omega

theorem lastPage_of_pageSize_eq_zero
    {m : SearchMeta} (h : m.pageSize = 0) : m.lastPage = 1 := by
  simp [lastPage, h]

theorem toNat_pageCount (total pageSize : UInt64) :
    (pageCount total pageSize).toNat = total.toNat ⌈/⌉ pageSize.toNat := by
  unfold pageCount
  split
  · next h => simp [h]
  · next h =>
      have hpos : 0 < pageSize.toNat :=
        UInt64.lt_iff_toNat_lt.mp (UInt64.pos_iff_ne_zero.mpr h)
      have hle : total.toNat ⌈/⌉ pageSize.toNat ≤ total.toNat := by
        rw [ceilDiv_le_iff_le_mul hpos]
        exact Nat.le_mul_of_pos_left _ hpos
      rw [← Nat.ceilDiv_eq_add_pred_div, UInt64.toNat_ofNat_of_lt']
      exact Nat.lt_of_le_of_lt hle total.toNat_lt

/-- A correction is asked for exactly when the window is out of range, and then for the last page. -/
theorem correctedPage?_eq_some_iff
    {m : SearchMeta} {p : UInt32} :
    m.correctedPage? = some p ↔ m.OutOfRange ∧ p.toNat = m.lastPage := by
  have hlast : (UInt32.ofNat (min 4294967295 (max 1 (pageCount m.total m.pageSize).toNat))).toNat =
      m.lastPage := by
    rw [UInt32.toNat_ofNat_of_lt' (by rw [UInt32.size]; omega), toNat_pageCount]
    rfl
  unfold correctedPage?
  split
  · next h =>
      simp only [Bool.or_eq_true, Option.isSome_iff_ne_none, decide_eq_true_eq] at h
      constructor
      · intro hnone
        cases hnone
      · rintro ⟨⟨herror, hlt⟩, -⟩
        rcases h with h | h
        · exact absurd herror h
        · exact absurd hlt (UInt64.not_lt.mpr h)
  · next h =>
      simp only [Bool.or_eq_true, Option.isSome_iff_ne_none, decide_eq_true_eq, not_or,
        not_not] at h
      rw [Option.some.injEq, ← hlast, UInt32.toNat_inj]
      constructor
      · intro hp
        exact ⟨⟨h.1, UInt64.not_le.mp h.2⟩, hp.symm⟩
      · rintro ⟨-, hp⟩
        exact hp.symm

theorem correctedPage?_eq_none_iff {m : SearchMeta} :
    m.correctedPage? = none ↔ ¬m.OutOfRange := by
  constructor
  · intro hnone hout
    have hsome := correctedPage?_eq_some_iff.mpr
      ⟨hout, UInt32.toNat_ofNat_of_lt' m.lastPage_lt⟩
    rw [hnone] at hsome
    cases hsome
  · intro hout
    cases hcorrected : m.correctedPage? with
    | none => rfl
    | some p => exact absurd (correctedPage?_eq_some_iff.mp hcorrected).1 hout

end SearchMeta

end BlogSearch
