import BlogSearch.Json.Reader
import BlogSearch.Json.Writer

/-!
# Written strings read back

A character is written as itself, as a backslash and a letter, or as the number of a 16-bit unit.  Each
of these reads back as the character, whatever follows it, so a string that was written in a text can
be told from what stands after it.
-/

namespace BlogSearch.Json

open Reader Text

/-- The three ways in which a character of a string is written. -/
inductive Written (c : Char) : List Char → Prop
  | plain (hquote : c ≠ '"') (hbackslash : c ≠ '\\') (hcontrol : ¬c.toNat < 0x20) : Written c [c]
  | letter {e : Char} (hunit : e ≠ 'u') (he : escaped? e = some c) : Written c ['\\', e]
  | unit (hcontrol : c.toNat < 0x20) :
      Written c ['\\', 'u', '0', '0', Hex.lower (c.toNat / 16), Hex.lower (c.toNat % 16)]

theorem written_writeChar (c : Char) : Written c (writeChar c) := by
  have hcode {n : Nat} (h : c.toNat = n) : Char.ofNat n = c := by
    rw [← h, Char.ofNat_toNat]
  unfold writeChar
  simp only [beq_iff_eq]
  split
  · next h => exact .letter (by decide) (congrArg some h.symm)
  split
  · next h => exact .letter (by decide) (congrArg some h.symm)
  split
  · next h => exact .letter (by decide) (congrArg some h.symm)
  split
  · next h => exact .letter (by decide) (congrArg some h.symm)
  split
  · next h => exact .letter (by decide) (congrArg some h.symm)
  split
  · next h => exact .letter (by decide) (congrArg some (hcode h))
  split
  · next h => exact .letter (by decide) (congrArg some (hcode h))
  split
  · next h => exact .unit h
  · next hquote hbackslash _ _ _ _ _ hcontrol => exact .plain hquote hbackslash hcontrol

/-- The piece as which a written character is read. -/
def Reads (p : Piece) (c : Char) : Prop :=
  p = .char c ∨ p = .unit c.toNat ∧ c.toNat < 0x20

theorem joined?_of_reads {p : Piece} {c : Char} (h : Reads p c) (ps : List Piece) :
    joined? (p :: ps) = (joined? ps).map (c :: ·) := by
  rcases h with rfl | ⟨rfl, hcontrol⟩
  · rfl
  · have hlow : ¬0xD800 ≤ c.toNat := by omega
    have htrail : ¬0xDC00 ≤ c.toNat := by omega
    cases ps with
    | nil => simp [joined?, hlow, Char.ofNat_toNat]
    | cons next rest =>
        cases next with
        | char d => simp [joined?, hlow, Char.ofNat_toNat]
        | unit m => simp [joined?, hlow, htrail, Char.ofNat_toNat]

theorem unit?_lower {n : Nat} (h : n < 0x20) :
    unit? '0' '0' (Hex.lower (n / 16)) (Hex.lower (n % 16)) = some n := by
  have hzero : Hex.value? '0' = some 0 := rfl
  have hhigh := Hex.value?_lower (show n / 16 < 16 by omega)
  have hlow := Hex.value?_lower (show n % 16 < 16 by omega)
  simp only [unit?, hzero, hhigh, hlow, Option.some.injEq]
  omega

/-- A written character is read as one piece. -/
theorem pieces_append {c : Char} {cs : List Char} (h : Written c cs) (rest : List Char) :
    ∃ p, Reads p c ∧ pieces (cs ++ rest) = (pieces rest).map fun (ps, r) => (p :: ps, r) := by
  cases h with
  | plain hquote hbackslash hcontrol =>
      refine ⟨.char c, Or.inl rfl, ?_⟩
      simp [pieces, hbackslash, hcontrol]
  | letter hunit he =>
      refine ⟨.char c, Or.inl rfl, ?_⟩
      simp [pieces, hunit, he]
  | unit hcontrol =>
      refine ⟨.unit c.toNat, Or.inr ⟨rfl, hcontrol⟩, ?_⟩
      simp [pieces, unit?_lower hcontrol]

theorem pieces_flatMap_writeChar (cs rest : List Char) :
    ∃ ps, joined? ps = some cs ∧
      pieces (cs.flatMap writeChar ++ '"' :: rest) = some (ps, rest) := by
  induction cs with
  | nil => exact ⟨[], rfl, by simp [pieces]⟩
  | cons c cs ih =>
      obtain ⟨ps, hps, hread⟩ := ih
      obtain ⟨p, hp, hfirst⟩ := pieces_append (written_writeChar c)
        (cs.flatMap writeChar ++ '"' :: rest)
      refine ⟨p :: ps, ?_, ?_⟩
      · rw [joined?_of_reads hp, hps]
        rfl
      · rw [List.flatMap_cons, List.append_assoc, hfirst, hread]
        rfl

/-- A written string is read back up to its closing quote. -/
theorem string?_written (s : String) (rest : List Char) :
    string? (s.toList.flatMap writeChar ++ '"' :: rest) = some (some s, rest) := by
  obtain ⟨ps, hps, hread⟩ := pieces_flatMap_writeChar s.toList rest
  simp [string?, hread, hps, String.ofList_toList]

/-- Two texts that begin with written strings are equal only if the strings and the rests are. -/
theorem writeString_append_inj {s t : String} {x y : List Char}
    (h : writeString s ++ x = writeString t ++ y) : s = t ∧ x = y := by
  simp only [writeString, List.cons_append, List.append_assoc, List.nil_append,
    List.cons.injEq, true_and] at h
  have hread := congrArg string? h
  rw [string?_written, string?_written] at hread
  simpa using hread

end BlogSearch.Json
