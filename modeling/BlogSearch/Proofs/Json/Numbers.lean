import BlogSearch.Json.Reader
import BlogSearch.Json.Writer

/-!
# Written numbers read back

A whole number is written with its digits alone, the first of which is a zero only where it stands
alone.  It reads back as the number, unless what follows it carries it on: a digit, a point or the
mark of an exponent.
-/

namespace BlogSearch.Json

open Reader

/-- The character carries on a number that stands before it. -/
def carriesOn (c : Char) : Bool :=
  c.isDigit || c == '.' || c == 'e' || c == 'E'

/-- What follows does not carry on a number. -/
def EndsNumber (rest : List Char) : Prop :=
  ∀ c ds, rest = c :: ds → carriesOn c = false

theorem isDigit_of_mem_digits {n : Nat} {c : Char} (h : c ∈ Decimal.digits n) : c.isDigit = true :=
  Nat.isDigit_of_mem_toDigits (by decide) (by decide) h

/-- The first digit of a number is a zero only if the number is zero. -/
theorem digits_eq_cons (n : Nat) :
    ∃ c ds, Decimal.digits n = c :: ds ∧ (n ≠ 0 → c ≠ '0') := by
  induction n using Nat.strongRecOn with
  | _ n ih =>
      by_cases hlow : n < 10
      · have hall : ∀ k ∈ List.range 10, k ≠ 0 → k.digitChar ≠ '0' := by decide
        refine ⟨n.digitChar, [], Nat.toDigits_of_lt_base hlow, ?_⟩
        exact hall n (List.mem_range.mpr hlow)
      · obtain ⟨c, ds, hfront, hc⟩ := ih (n / 10) (by omega)
        have hdigits : Decimal.digits n = Decimal.digits (n / 10) ++ [(n % 10).digitChar] :=
          Nat.toDigits_of_base_le (by decide) (by omega)
        refine ⟨c, ds ++ [(n % 10).digitChar], ?_, fun _ => hc (by omega)⟩
        rw [hdigits, hfront, List.cons_append]

theorem spanDigits_digits (n : Nat) {rest : List Char} (hrest : EndsNumber rest) :
    spanDigits (Decimal.digits n ++ rest) = (Decimal.digits n, rest) := by
  have hall : ∀ c ∈ Decimal.digits n, c.isDigit = true := fun c => isDigit_of_mem_digits
  have hnone : rest.takeWhile Char.isDigit = [] ∧ rest.dropWhile Char.isDigit = rest := by
    cases rest with
    | nil => exact ⟨rfl, rfl⟩
    | cons c ds =>
        have hdigit : c.isDigit = false := by
          have hc := hrest c ds rfl
          simp only [carriesOn, Bool.or_eq_false_iff] at hc
          exact hc.1.1.1
        simp [hdigit]
  rw [spanDigits, List.takeWhile_append_of_pos hall, List.dropWhile_append_of_pos hall,
    hnone.1, hnone.2, List.append_nil]

theorem wholePart?_digits (n : Nat) {rest : List Char} (hrest : EndsNumber rest) :
    wholePart? (Decimal.digits n ++ rest) = some (Decimal.digits n, rest) := by
  rw [wholePart?, spanDigits_digits n hrest]
  by_cases hzero : n = 0
  · rw [hzero]
    rfl
  · obtain ⟨c, ds, hdigits, hc⟩ := digits_eq_cons n
    simp [hdigits, hc hzero]

theorem fractionPart?_of_endsNumber {rest : List Char} (hrest : EndsNumber rest) :
    fractionPart? rest = some ([], rest) := by
  rw [fractionPart?]
  rintro ds rfl
  have hpoint := hrest '.' ds rfl
  revert hpoint
  decide

theorem exponentPart?_of_endsNumber {rest : List Char} (hrest : EndsNumber rest) :
    exponentPart? rest = some (none, rest) := by
  cases rest with
  | nil => rfl
  | cons c ds =>
      have hc := hrest c ds rfl
      simp only [carriesOn, Bool.or_eq_false_iff] at hc
      simp [exponentPart?, hc.1.2, hc.2]

/-- The numeral of digits alone. -/
def Numeral.ofDigits (negative : Bool) (n : Nat) : Numeral :=
  ⟨negative, Decimal.digits n, [], none⟩

theorem numeral?_digits (negative : Bool) (n : Nat) {rest : List Char} (hrest : EndsNumber rest) :
    numeral? negative (Decimal.digits n ++ rest) = some (.ofDigits negative n, rest) := by
  simp [numeral?, wholePart?_digits n hrest, fractionPart?_of_endsNumber hrest,
    exponentPart?_of_endsNumber hrest, Numeral.ofDigits]

theorem Numeral.number?_ofDigits {n : Int} (fits : IsWord n) :
    (Numeral.ofDigits (decide (n < 0)) n.natAbs).number? = some (.whole n fits) := by
  obtain ⟨hlow, hhigh⟩ := fits
  have hsize : Nat.ofDigitChars 10 (Decimal.digits n.natAbs) 0 = n.natAbs :=
    Nat.ofDigitChars_ten_toDigits
  have hwhole : (Numeral.ofDigits (decide (n < 0)) n.natAbs).whole? = some n := by
    by_cases hneg : n < 0
    · have hbounds : 1 ≤ (n.natAbs : Int) ∧ (n.natAbs : Int) ≤ 9223372036854775808 := by omega
      have habs : -(n.natAbs : Int) = n := by omega
      simp only [whole?, ofDigits, hsize, hneg, hbounds, habs, Int.ofNat_eq_natCast, decide_true,
        List.isEmpty_nil, Option.isNone_none, Bool.and_self, if_true]
    · have habs : (n.natAbs : Int) = n := by omega
      simp only [whole?, ofDigits, hsize, hneg, habs, hhigh, Int.ofNat_eq_natCast, decide_false,
        List.isEmpty_nil, Option.isNone_none, Bool.and_self, if_true, Bool.false_eq_true, if_false]
  rw [number?, hwhole]
  exact dif_pos ⟨hlow, hhigh⟩

/-- A written whole number begins with a digit or a minus sign. -/
theorem writeWhole_eq_cons (n : Int) :
    ∃ c cs, writeWhole n = c :: cs ∧ (c = '-' ∨ c.isDigit = true) := by
  by_cases hneg : n < 0
  · exact ⟨'-', Decimal.digits n.natAbs, if_pos hneg, Or.inl rfl⟩
  · obtain ⟨c, ds, hdigits, -⟩ := digits_eq_cons n.natAbs
    have hc : c.isDigit = true := isDigit_of_mem_digits (hdigits ▸ List.mem_cons_self)
    exact ⟨c, ds, (if_neg hneg).trans hdigits, Or.inr hc⟩

/-- A written whole number is read back up to what follows it. -/
theorem number_writeWhole {n : Int} (fits : IsWord n) {rest : List Char}
    (hrest : EndsNumber rest) :
    number (writeWhole n ++ rest) = (.number (some (.whole n fits)), some rest) := by
  have hnumber := Numeral.number?_ofDigits fits
  by_cases hneg : n < 0
  · rw [decide_eq_true hneg] at hnumber
    simp [number, writeWhole, hneg, numeral?_digits true n.natAbs hrest, hnumber]
  · rw [decide_eq_false hneg] at hnumber
    obtain ⟨c, ds, hdigits, -⟩ := digits_eq_cons n.natAbs
    have hc : c ≠ '-' := by
      rintro rfl
      have hminus : ('-').isDigit = true := isDigit_of_mem_digits (hdigits ▸ List.mem_cons_self)
      revert hminus
      decide
    have hread := numeral?_digits false n.natAbs hrest
    rw [hdigits, List.cons_append] at hread
    simp [number, writeWhole, hneg, hdigits, hc, hread, hnumber]

end BlogSearch.Json
