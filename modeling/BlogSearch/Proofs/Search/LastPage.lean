import BlogSearch.Proofs.Search.Page

/-!
# One correction is enough

The page to which a search is corrected is the first one, or begins before the last match.  So an answer
whose window begins with that page is in range, and a second correction would be for nothing.  The page
is the last one as long as the last one can be asked for, which is so whenever the answer began with the
page that it was asked for.
-/

namespace BlogSearch

/-! ## No division by zero -/

/-- The quotient of two words, rounded up.  There is none by zero. -/
def ceilDiv? (a b : UInt64) : Option UInt64 :=
  if b = 0 then none else some (a / b + if a % b = 0 then 0 else 1)

/-- The number of pages by a division that can fail. -/
def checkedPageCount? (total pageSize : UInt64) : Option UInt64 :=
  if pageSize = 0 then some 0 else ceilDiv? total pageSize

/-- The page to ask for instead, by a division that can fail. -/
def SearchMeta.checkedCorrection? (m : SearchMeta) : Option (Option UInt32) :=
  if m.error.isSome || m.offset ≤ m.total then some none
  else
    (checkedPageCount? m.total m.pageSize).map fun pages =>
      some (UInt32.ofNat (min 4294967295 (max 1 pages.toNat)))

theorem ceilDiv_eq_div_add {a b : ℕ} (hb : 0 < b) :
    a ⌈/⌉ b = a / b + if a % b = 0 then 0 else 1 := by
  have hsplit : b * (a / b) + a % b = a := Nat.div_add_mod a b
  have hmod : a % b < b := Nat.mod_lt a hb
  apply le_antisymm
  · rw [ceilDiv_le_iff_le_mul hb, Nat.mul_add]
    split
    · omega
    · omega
  · by_cases hzero : a % b = 0
    · rw [if_pos hzero, Nat.add_zero]
      apply Nat.div_le_of_le_mul
      exact (ceilDiv_le_iff_le_mul hb).mp le_rfl
    · rw [if_neg hzero, Nat.add_one_le_iff, ← not_le, ceilDiv_le_iff_le_mul hb]
      omega

/-- The quotient of words is that of their numbers, so rounding it up stays within a word. -/
theorem ceilDiv?_eq_some {a b : UInt64} (hb : b ≠ 0) :
    ∃ q, ceilDiv? a b = some q ∧ q.toNat = a.toNat ⌈/⌉ b.toNat := by
  have hpos : 0 < b.toNat := UInt64.lt_iff_toNat_lt.mp (UInt64.pos_iff_ne_zero.mpr hb)
  have hle : a.toNat ⌈/⌉ b.toNat ≤ a.toNat := by
    rw [ceilDiv_le_iff_le_mul hpos]
    exact Nat.le_mul_of_pos_left _ hpos
  have hrest : (if a % b = 0 then (0 : UInt64) else 1).toNat =
      if a.toNat % b.toNat = 0 then 0 else 1 := by
    have hmod : a % b = 0 ↔ a.toNat % b.toNat = 0 := by
      rw [← UInt64.toNat_inj, UInt64.toNat_mod, UInt64.toNat_zero]
    simp only [hmod]
    split
    · exact UInt64.toNat_zero
    · exact UInt64.toNat_one
  rw [ceilDiv_eq_div_add hpos] at hle ⊢
  refine ⟨_, if_neg hb, ?_⟩
  rw [UInt64.toNat_add, UInt64.toNat_div, hrest]
  exact Nat.mod_eq_of_lt (Nat.lt_of_le_of_lt hle a.toNat_lt)

theorem checkedPageCount?_eq (total pageSize : UInt64) :
    checkedPageCount? total pageSize = some (pageCount total pageSize) := by
  by_cases hzero : pageSize = 0
  · rw [checkedPageCount?, pageCount, if_pos hzero, if_pos hzero]
  · obtain ⟨q, hq, hcount⟩ := ceilDiv?_eq_some (a := total) hzero
    rw [← SearchMeta.toNat_pageCount, UInt64.toNat_inj] at hcount
    rw [checkedPageCount?, if_neg hzero, hq, hcount]

namespace SearchMeta

variable {m : SearchMeta} {p : UInt32}

/-- Whether an answer is corrected is decided without a division by zero. -/
theorem checkedCorrection?_eq (m : SearchMeta) :
    m.checkedCorrection? = some m.correctedPage? := by
  rw [checkedCorrection?, correctedPage?, checkedPageCount?_eq]
  split
  · rfl
  · rfl

/-! ## Where the last page begins and ends -/

/-- The number of matches before a page. -/
def before (m : SearchMeta) (page : ℕ) : ℕ :=
  (page - 1) * m.pageSize.toNat

/-- The last page begins before the last match, if there is one. -/
theorem before_lastPage_lt (htotal : 0 < m.total.toNat) : m.before m.lastPage < m.total.toNat := by
  by_cases hsize : 1 ≤ m.pageSize.toNat
  · rw [before, ← lt_ceilDiv_iff hsize]
    have hpages : 0 < m.total.toNat ⌈/⌉ m.pageSize.toNat := by
      rw [lt_ceilDiv_iff hsize]
      omega
    unfold lastPage
    omega
  · have hzero : m.pageSize.toNat = 0 := by omega
    rw [before, hzero, Nat.mul_zero]
    exact htotal

theorem before_lastPage_le (m : SearchMeta) : m.before m.lastPage ≤ m.total.toNat := by
  by_cases htotal : 0 < m.total.toNat
  · exact (before_lastPage_lt htotal).le
  · have hzero : m.total.toNat = 0 := by omega
    have hfirst : m.lastPage = 1 := by
      simp [lastPage, hzero]
    simp [before, hfirst]

/-- The number of the last page is that of all pages, where so many can be asked for. -/
theorem lastPage_eq_max (hlt : m.total.toNat ⌈/⌉ m.pageSize.toNat < 2 ^ 32) :
    m.lastPage = max 1 (m.total.toNat ⌈/⌉ m.pageSize.toNat) := by
  unfold lastPage
  omega

/-- No match lies behind the last page. -/
theorem le_lastPage_mul
    (hsize : m.pageSize ≠ 0) (hlt : m.total.toNat ⌈/⌉ m.pageSize.toNat < 2 ^ 32) :
    m.total.toNat ≤ m.lastPage * m.pageSize.toNat := by
  have hpages : m.total.toNat ⌈/⌉ m.pageSize.toNat ≤ m.lastPage := by
    rw [lastPage_eq_max hlt]
    exact le_max_right _ _
  have hpos : 0 < m.pageSize.toNat :=
    UInt64.lt_iff_toNat_lt.mp (UInt64.pos_iff_ne_zero.mpr hsize)
  rw [Nat.mul_comm]
  exact (ceilDiv_le_iff_le_mul hpos).mp hpages

/-- If the window of a page lies behind the matches, so many pages are not needed. -/
theorem ceilDiv_le_of_outOfRange
    (hout : m.OutOfRange) {page : ℕ} (hoffset : m.offset.toNat = m.before page) :
    m.total.toNat ⌈/⌉ m.pageSize.toNat ≤ page - 1 := by
  have hlt : m.total.toNat < m.before page := by
    rw [← hoffset]
    exact UInt64.lt_iff_toNat_lt.mp hout.2
  have hsize : 1 ≤ m.pageSize.toNat := by
    apply Nat.pos_of_ne_zero
    intro hzero
    rw [before, hzero, Nat.mul_zero] at hlt
    omega
  rw [← not_lt, lt_ceilDiv_iff hsize]
  exact hlt.not_gt

/-! ## The corrected page -/

/-- What is to be said of a page that is asked for in place of the one that an answer has missed. -/
structure CorrectedTo (m : SearchMeta) (p : UInt32) : Prop where
  one_le : 1 ≤ p
  /-- The page begins within the matches, at a number that a word can hold. -/
  begins_le : m.before p.toNat ≤ m.total.toNat
  begins_eq : ((p.toUInt64 - 1) * m.pageSize).toNat = m.before p.toNat
  begins_lt : 0 < m.total → m.before p.toNat < m.total.toNat
  /-- An answer that begins with the page is not corrected again. -/
  inRange : ∀ m' : SearchMeta, m'.total = m.total → m'.pageSize = m.pageSize → m'.error = none →
    m'.offset = (p.toUInt64 - 1) * m.pageSize → m'.correctedPage? = none
  /-- The page is the last one, where the last one can be asked for. -/
  ends : m.pageSize ≠ 0 → m.total.toNat ⌈/⌉ m.pageSize.toNat < 2 ^ 32 →
    m.total.toNat ≤ p.toNat * m.pageSize.toNat
  /-- If the answer began with the page that it was asked for, the last page comes before that one and
  is asked for under its own number. -/
  earlier : ∀ g : UInt32, 1 ≤ g → m.offset.toNat = m.before g.toNat →
    p.toNat ≤ max 1 (g.toNat - 1) ∧ p.toNat = max 1 (m.total.toNat ⌈/⌉ m.pageSize.toNat)

/-- The number at which a page within the matches begins is computed without an overflow. -/
theorem toNat_begin_of_le
    {p : UInt32} (hone : 1 ≤ p) (hle : m.before p.toNat ≤ m.total.toNat) :
    ((p.toUInt64 - 1) * m.pageSize).toNat = m.before p.toNat := by
  have hone' : (1 : UInt64) ≤ p.toUInt64 := by
    rw [UInt64.le_iff_toNat_le, UInt32.toNat_toUInt64]
    exact UInt32.le_iff_toNat_le.mp hone
  have hless : (p.toUInt64 - 1).toNat = p.toNat - 1 := by
    rw [UInt64.toNat_sub_of_le _ _ hone', UInt32.toNat_toUInt64, UInt64.toNat_one]
  rw [UInt64.toNat_mul, hless]
  exact Nat.mod_eq_of_lt (Nat.lt_of_le_of_lt hle m.total.toNat_lt)

/-- Whatever an answer says, no division by zero decides whether it is corrected; and a page to which it
is corrected begins within its matches, so that one correction is enough. -/
theorem corrected_once_for_all (m : SearchMeta) :
    m.checkedCorrection? = some m.correctedPage? ∧
      ∀ p, m.correctedPage? = some p → m.CorrectedTo p := by
  refine ⟨m.checkedCorrection?_eq, ?_⟩
  intro p hp
  obtain ⟨hout, hlast⟩ := correctedPage?_eq_some_iff.mp hp
  have hone : 1 ≤ p := by
    rw [UInt32.le_iff_toNat_le, hlast]
    exact m.lastPage_pos
  have hle : m.before p.toNat ≤ m.total.toNat := by
    rw [hlast]
    exact m.before_lastPage_le
  have hbegin := toNat_begin_of_le hone hle
  constructor
  · exact hone
  · exact hle
  · exact hbegin
  · intro htotal
    rw [hlast]
    exact before_lastPage_lt (UInt64.lt_iff_toNat_lt.mp htotal)
  · intro m' htotal _ _ hoffset
    rw [correctedPage?_eq_none_iff]
    rintro ⟨-, hlt⟩
    rw [UInt64.lt_iff_toNat_lt, htotal, hoffset, hbegin] at hlt
    omega
  · intro hsize hlt
    rw [hlast]
    exact le_lastPage_mul hsize hlt
  · intro g hg hoffset
    have hpages := ceilDiv_le_of_outOfRange hout hoffset
    have hbound := g.toNat_lt
    rw [hlast, lastPage_eq_max (by omega)]
    exact ⟨by omega, rfl⟩

/-- With 41 matches of which ten fill a page, the eleventh page is corrected to the fifth. -/
theorem eleventh_page_corrected :
    let m : SearchMeta := ⟨0, 41, 100, 10, 0, none⟩
    m.correctedPage? = some 5 ∧ m.CorrectedTo 5 := by
  intro m
  have hpage : m.correctedPage? = some 5 := by decide
  exact ⟨hpage, m.corrected_once_for_all.2 5 hpage⟩

end SearchMeta

end BlogSearch
