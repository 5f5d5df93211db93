import BlogSearch.Text.Blank
import BlogSearch.Text.Percent

/-!
# Percent-coding read back

Reading undoes writing, and a written form holds code characters only: they are visible characters of
ASCII, and none of them separates the segments of a path or ends it.
-/

namespace BlogSearch.Text

/-- No visible character of ASCII is blank. -/
theorem isBlank_of_visible {c : Char} (hlow : 0x20 < c.toNat) (hhigh : c.toNat < 0x7F) :
    isBlank c = false := by
  simp only [isBlank, Bool.or_eq_false_iff, Bool.and_eq_false_iff, decide_eq_false_iff_not,
    beq_eq_false_iff_ne, ne_eq]
  omega

theorem visible_of_between
    {c : Char} (low high : Char) (h : low.val ≤ c.val ∧ c.val ≤ high.val)
    (hlow : 0x20 < low.toNat) (hhigh : high.toNat < 0x7F) : 0x20 < c.toNat ∧ c.toNat < 0x7F := by
  have hge : low.toNat ≤ c.toNat := UInt32.le_iff_toNat_le.mp h.1
  have hle : c.toNat ≤ high.toNat := UInt32.le_iff_toNat_le.mp h.2
  omega

theorem visible_of_isAlphanum {c : Char} (h : c.isAlphanum = true) :
    0x20 < c.toNat ∧ c.toNat < 0x7F := by
  have hboth {p q : Prop} [Decidable p] [Decidable q] (hpq : (decide p && decide q) = true) :
      p ∧ q := by
    simpa using hpq
  rcases (Bool.or_eq_true _ _).mp h with hletter | hdigit
  · rcases (Bool.or_eq_true _ _).mp hletter with hupper | hlower
    · exact visible_of_between 'A' 'Z' (of_decide_eq_true hupper) (by decide) (by decide)
    · exact visible_of_between 'a' 'z' (hboth hlower) (by decide) (by decide)
  · exact visible_of_between '0' '9' (hboth hdigit) (by decide) (by decide)

namespace Percent

/-- The characters of written forms: ASCII letters, digits, the four marks that stand for
themselves, and the percent sign. -/
def isCodeChar (c : Char) : Bool :=
  c.isAlphanum || c == '-' || c == '_' || c == '.' || c == '~' || c == '%'

theorem visible_of_isCodeChar {c : Char} (h : isCodeChar c = true) :
    0x20 < c.toNat ∧ c.toNat < 0x7F := by
  simp only [isCodeChar, Bool.or_eq_true, beq_iff_eq] at h
  rcases h with ((((h | rfl) | rfl) | rfl) | rfl) | rfl
  · exact visible_of_isAlphanum h
  all_goals decide

theorem isCodeChar_of_mem_encodeByte
    {b : UInt8} {c : Char} (h : c ∈ encodeByte b) : isCodeChar c = true := by
  have all : ∀ n < 256, (encodeByte (UInt8.ofNat n)).all isCodeChar = true := by
    decide +kernel
  have hb := all b.toNat b.toNat_lt
  rw [UInt8.ofNat_toNat] at hb
  exact List.all_eq_true.mp hb c h

theorem isCodeChar_of_mem_encodeChars
    {s : List Char} {c : Char} (h : c ∈ encodeChars s) : isCodeChar c = true := by
  obtain ⟨d, -, hd⟩ := List.mem_flatMap.mp h
  obtain ⟨b, -, hb⟩ := List.mem_flatMap.mp hd
  exact isCodeChar_of_mem_encodeByte hb

theorem slash_notMem_encodeChars (s : List Char) : '/' ∉ encodeChars s := by
  intro h
  exact Bool.noConfusion (isCodeChar_of_mem_encodeChars h)

/-- A byte that stands for itself is no percent sign, and is its own UTF-8 form. -/
theorem utf8EncodeChar_of_isUnreserved
    {b : UInt8} (h : isUnreserved b = true) :
    Char.ofNat b.toNat ≠ '%' ∧ String.utf8EncodeChar (Char.ofNat b.toNat) = [b] := by
  have all : ∀ n < 256, isUnreserved (UInt8.ofNat n) = true →
      Char.ofNat n ≠ '%' ∧ String.utf8EncodeChar (Char.ofNat n) = [UInt8.ofNat n] := by
    decide +kernel
  have hb := all b.toNat b.toNat_lt
  rw [UInt8.ofNat_toNat] at hb
  exact hb h

theorem decodeBytes_cons_of_ne_percent
    {c : Char} (hc : c ≠ '%') (rest : List Char) :
    decodeBytes (c :: rest) = String.utf8EncodeChar c ++ decodeBytes rest := by
  rw [decodeBytes.eq_def]
  split
  · next heq => exact absurd (List.cons.inj heq).1 hc
  · next heq =>
      cases heq
      rfl
  · next heq => cases heq

theorem decodeBytes_encodeByte
    (b : UInt8) (rest : List Char) :
    decodeBytes (encodeByte b ++ rest) = b :: decodeBytes rest := by
  rw [encodeByte]
  split
  · next h =>
      obtain ⟨hne, hutf⟩ := utf8EncodeChar_of_isUnreserved h
      rw [List.singleton_append, decodeBytes_cons_of_ne_percent hne, hutf]
      rfl
  · have hhigh : b.toNat / 16 < 16 := by
      have hb := b.toNat_lt
      omega
    have hlow : b.toNat % 16 < 16 := Nat.mod_lt _ (by decide)
    simp only [List.cons_append, List.nil_append, decodeBytes, Hex.value?_upper hhigh,
      Hex.value?_upper hlow]
    rw [Nat.div_add_mod, UInt8.ofNat_toNat]

theorem decodeBytes_flatMap_encodeByte
    (bs : List UInt8) (rest : List Char) :
    decodeBytes (bs.flatMap encodeByte ++ rest) = bs ++ decodeBytes rest := by
  induction bs with
  | nil => rfl
  | cons b bs ih =>
      rw [List.flatMap_cons, List.append_assoc, decodeBytes_encodeByte, ih, List.cons_append]

theorem decodeBytes_encodeChars (s : List Char) :
    decodeBytes (encodeChars s) = s.flatMap String.utf8EncodeChar := by
  rw [encodeChars, ← List.flatMap_assoc]
  have h := decodeBytes_flatMap_encodeByte (s.flatMap String.utf8EncodeChar) []
  simpa [decodeBytes] using h

/-- Reading a written form gives the text back. -/
theorem decode_encode (s : String) : decode (encode s) = some s := by
  rw [decode, encode, String.toList_ofList, decodeBytes_encodeChars]
  have h : (s.toList.flatMap String.utf8EncodeChar).toByteArray = s.toByteArray :=
    String.utf8Encode_toList
  rw [h, String.fromUTF8?, dif_pos s.isValidUTF8]
  rfl

end Percent

end BlogSearch.Text
