import BlogSearch.Text.Blank
import BlogSearch.Text.Pieces
import Mathlib.Data.List.DropRight

/-!
# Pieces of a joined text

Splitting undoes joining when no piece holds the separator, and removing the separators at the end of
a joined text removes the empty pieces there.
-/

namespace BlogSearch.Text

theorem pieces_of_notMem
    {separator : Char} {s : List Char} (h : separator ∉ s) :
    pieces separator s = [s] := by
  induction s with
  | nil => rfl
  | cons c rest ih =>
      obtain ⟨hc, hrest⟩ := List.ne_and_not_mem_of_not_mem_cons h
      rw [pieces, if_neg (by simpa using Ne.symm hc), ih hrest]

theorem pieces_append_cons
    {separator : Char} {s : List Char} (h : separator ∉ s) (rest : List Char) :
    pieces separator (s ++ separator :: rest) = s :: pieces separator rest := by
  induction s with
  | nil => simp [pieces]
  | cons c s ih =>
      obtain ⟨hc, hs⟩ := List.ne_and_not_mem_of_not_mem_cons h
      rw [List.cons_append, pieces, if_neg (by simpa using Ne.symm hc), ih hs]

/-- Pieces with a separator before each. -/
def led (separator : Char) (ps : List (List Char)) : List Char :=
  ps.flatMap fun p => separator :: p

theorem led_cons (separator : Char) (p : List Char) (ps : List (List Char)) :
    led separator (p :: ps) = separator :: p ++ led separator ps := by
  simp [led]

theorem led_append (separator : Char) (ps qs : List (List Char)) :
    led separator (ps ++ qs) = led separator ps ++ led separator qs := by
  simp [led]

theorem pieces_append_led
    {separator : Char} {first : List Char} {ps : List (List Char)}
    (hfirst : separator ∉ first) (hps : ∀ p ∈ ps, separator ∉ p) :
    pieces separator (first ++ led separator ps) = first :: ps := by
  induction ps generalizing first with
  | nil => simpa [led] using pieces_of_notMem hfirst
  | cons p ps ih =>
      rw [led_cons, List.cons_append, pieces_append_cons hfirst,
        ih (hps p List.mem_cons_self) fun q hq => hps q (List.mem_cons_of_mem p hq)]

/-- The pieces of a text are what its separators stand between. -/
theorem pieces_eq_cons_iff
    {separator : Char} {s first : List Char} {ps : List (List Char)} :
    pieces separator s = first :: ps ↔
      s = first ++ led separator ps ∧ separator ∉ first ∧ ∀ p ∈ ps, separator ∉ p := by
  constructor
  · intro h
    induction s generalizing first ps with
    | nil =>
        obtain ⟨rfl, rfl⟩ := List.cons.inj h
        simp [led]
    | cons c rest ih =>
        obtain ⟨second, others, hrest⟩ :=
          List.exists_cons_of_ne_nil (pieces_ne_nil separator rest)
        obtain ⟨hjoined, hsecond, hothers⟩ := ih hrest
        by_cases hc : c = separator
        · rw [pieces, if_pos (by simpa using hc), hrest] at h
          obtain ⟨rfl, rfl⟩ := List.cons.inj h
          refine ⟨?_, List.not_mem_nil, List.forall_mem_cons.mpr ⟨hsecond, hothers⟩⟩
          rw [led_cons, hc, hjoined]
          rfl
        · rw [pieces, if_neg (by simpa using hc), hrest] at h
          obtain ⟨rfl, rfl⟩ := List.cons.inj h
          refine ⟨?_, ?_, hothers⟩
          · rw [hjoined]
            rfl
          · rw [List.mem_cons, not_or]
            exact ⟨Ne.symm hc, hsecond⟩
  · rintro ⟨rfl, hfirst, hps⟩
    exact pieces_append_led hfirst hps

theorem dropEnd_concat_of_pos
    {p : Char → Bool} {c : Char} (h : p c = true) (s : List Char) :
    dropEnd p (s ++ [c]) = dropEnd p s := by
  simp [dropEnd, h]

theorem dropEnd_append_of_forall_not
    {p : Char → Bool} {t : List Char} (hne : t ≠ []) (h : ∀ c ∈ t, p c = false)
    (s : List Char) : dropEnd p (s ++ t) = s ++ t := by
  obtain ⟨t, c, rfl⟩ := (List.eq_nil_or_concat' t).resolve_left hne
  have hc : p c = false := h c (by simp)
  rw [← List.append_assoc]
  simp [dropEnd, hc]

/-- Removing the separators at the end removes the empty pieces there. -/
theorem dropEnd_append_led
    {separator : Char} {first : List Char} {ps : List (List Char)}
    (hne : first ≠ []) (hfirst : separator ∉ first) (hps : ∀ p ∈ ps, separator ∉ p) :
    dropEnd (· == separator) (first ++ led separator ps) =
      first ++ led separator (ps.rdropWhile List.isEmpty) := by
  have hsep {s : List Char} (hs : separator ∉ s) : ∀ c ∈ s, (c == separator) = false := by
    intro c hc
    exact beq_false_of_ne fun heq => hs (heq ▸ hc)
  induction ps using List.reverseRecOn with
  | nil =>
      have h := dropEnd_append_of_forall_not hne (hsep hfirst) []
      simpa [led] using h
  | append_singleton ps p ih =>
      rw [led_append, ← List.append_assoc]
      cases p with
      | nil =>
          rw [List.rdropWhile_concat_pos _ _ _ rfl]
          have hstep := dropEnd_concat_of_pos (p := (· == separator)) (beq_self_eq_true separator)
            (first ++ led separator ps)
          rw [show led separator [[]] = [separator] from rfl, hstep]
          exact ih fun q hq => hps q (List.mem_append_left _ hq)
      | cons c p =>
          rw [List.rdropWhile_concat_neg _ _ _ (by simp), led_append, ← List.append_assoc]
          have hp : separator ∉ c :: p := hps _ (by simp)
          have hled : led separator [c :: p] = [separator] ++ c :: p := by simp [led]
          rw [hled, ← List.append_assoc]
          exact dropEnd_append_of_forall_not (List.cons_ne_nil c p) (hsep hp) _

end BlogSearch.Text
