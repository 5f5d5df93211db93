import BlogSearch.Proofs.Text.Pieces

/-!
# Texts without blanks or slashes at their ends

What is left after characters of a class were removed from an end has none of them at that end, and to
remove them once more changes nothing.  To remove others from the end leaves the beginning as it was.
-/

namespace BlogSearch.Text

variable {p q : Char → Bool} {s t : List Char}

/-- The list does not begin with a character of the class. -/
def BeginsOutside (p : Char → Bool) (s : List Char) : Prop :=
  ∀ c, s.head? = some c → p c = false

/-- The list does not end with a character of the class. -/
def EndsOutside (p : Char → Bool) (s : List Char) : Prop :=
  ∀ c, s.getLast? = some c → p c = false

theorem endsOutside_concat {c : Char} : EndsOutside p (s ++ [c]) ↔ p c = false := by
  simp [EndsOutside]

theorem dropEnd_eq_self_iff : dropEnd p s = s ↔ EndsOutside p s := by
  have hlast : dropEnd p s = s ↔ ∀ hne : s ≠ [], ¬p (s.getLast hne) := List.rdropWhile_eq_self_iff
  rcases List.eq_nil_or_concat' s with rfl | ⟨s, c, rfl⟩
  · simp [hlast, EndsOutside]
  · simp [hlast, endsOutside_concat]

theorem endsOutside_dropEnd (p : Char → Bool) (s : List Char) : EndsOutside p (dropEnd p s) :=
  dropEnd_eq_self_iff.mp (s.rdropWhile_idempotent p)

theorem dropEnd_append_of_forall (h : ∀ c ∈ t, p c = true) (s : List Char) :
    dropEnd p (s ++ t) = dropEnd p s := by
  induction t using List.reverseRecOn with
  | nil => rw [List.append_nil]
  | append_singleton t c ih =>
      rw [← List.append_assoc, dropEnd_concat_of_pos (h c (by simp)),
        ih fun d hd => h d (List.mem_append_left _ hd)]

/-- Only characters of the class are removed. -/
theorem exists_append_dropEnd (p : Char → Bool) (s : List Char) :
    ∃ tail, s = dropEnd p s ++ tail ∧ ∀ c ∈ tail, p c = true :=
  ⟨s.rtakeWhile p, s.rdropWhile_append_rtakeWhile.symm, fun _ => List.mem_rtakeWhile_imp⟩

theorem BeginsOutside.dropEnd (h : BeginsOutside p s) (q : Char → Bool) :
    BeginsOutside p (dropEnd q s) := by
  obtain ⟨tail, htail, -⟩ := exists_append_dropEnd q s
  intro c hc
  refine h c ?_
  rw [htail, List.head?_append, hc]
  rfl

theorem beginsOutside_dropWhile (p : Char → Bool) (s : List Char) :
    BeginsOutside p (s.dropWhile p) := by
  intro c hc
  have hhead := List.head?_dropWhile_not p s
  rw [hc] at hhead
  exact hhead

theorem beginsOutside_trimBoth (p : Char → Bool) (s : List Char) :
    BeginsOutside p (trimBoth p s) :=
  (beginsOutside_dropWhile p s).dropEnd p

theorem trimBoth_eq_self (hbegins : BeginsOutside p s) (hends : EndsOutside p s) :
    trimBoth p s = s := by
  have hwhile : s.dropWhile p = s := by
    cases s with
    | nil => rfl
    | cons c s => rw [List.dropWhile_cons, hbegins c rfl]; rfl
  rw [trimBoth, hwhile, dropEnd_eq_self_iff.mpr hends]

/-- Characters of the class at either end make no difference. -/
theorem trimBoth_append
    {left right : List Char} (hleft : ∀ c ∈ left, p c = true) (hright : ∀ c ∈ right, p c = true)
    (s : List Char) : trimBoth p (left ++ s ++ right) = trimBoth p s := by
  rw [trimBoth, trimBoth, List.append_assoc, List.dropWhile_append_of_pos hleft,
    List.dropWhile_append]
  by_cases hblank : (s.dropWhile p).isEmpty
  · have hnil : right.dropWhile p = [] := List.dropWhile_eq_nil_iff.mpr hright
    rw [if_pos hblank, hnil, List.isEmpty_iff.mp hblank]
  · rw [if_neg hblank, dropEnd_append_of_forall hright]

/-- Only characters of the class are trimmed. -/
theorem exists_append_trimBoth (p : Char → Bool) (s : List Char) :
    ∃ left right, s = left ++ trimBoth p s ++ right ∧ (∀ c ∈ left, p c = true) ∧
      ∀ c ∈ right, p c = true := by
  obtain ⟨right, hright, hall⟩ := exists_append_dropEnd p (s.dropWhile p)
  refine ⟨s.takeWhile p, right, ?_, fun _ => List.mem_takeWhile_imp, hall⟩
  rw [List.append_assoc, trimBoth, ← hright]
  exact List.takeWhile_append_dropWhile.symm

end BlogSearch.Text
