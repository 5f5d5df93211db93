import BlogSearch.Proofs.Json.Numbers
import BlogSearch.Proofs.Json.Strings

/-!
# Texts that spell values

A text spells a value if it is the value as it is written, with any space between its tokens.  Both
ways of writing a value spell it, as long as its numbers are whole, and every text that spells a value
is read back as the value.  So the layout of a text says nothing.
-/

namespace BlogSearch.Json

open Reader

/-! ## Space between tokens -/

/-- The text is nothing but space. -/
def IsGap (s : List Char) : Prop :=
  ∀ c ∈ s, isSpace c = true

theorem isGap_nil : IsGap [] := by
  intro c h
  cases h

theorem isGap_space : IsGap [' '] := by
  intro c h
  rw [List.mem_singleton.mp h]
  rfl

theorem isGap_newline (level : Nat) : IsGap (Value.newline level) := by
  intro c h
  rcases List.mem_cons.mp h with rfl | h
  · rfl
  · rw [List.eq_of_mem_replicate h]
    rfl

theorem skipSpace_gap {gap : List Char} (hgap : IsGap gap) (s : List Char) :
    skipSpace (gap ++ s) = skipSpace s :=
  List.dropWhile_append_of_pos hgap

theorem skipSpace_cons {c : Char} (hc : isSpace c = false) (s : List Char) :
    skipSpace (c :: s) = c :: s :=
  List.dropWhile_cons_of_neg (by rw [hc]; decide)

theorem skipSpace_gap_cons
    {gap : List Char} {c : Char} (hgap : IsGap gap) (hc : isSpace c = false) (s : List Char) :
    skipSpace (gap ++ c :: s) = c :: s := by
  rw [skipSpace_gap hgap, skipSpace_cons hc]

theorem endsNumber_gap {gap : List Char} (hgap : IsGap gap) : EndsNumber gap := by
  rintro c ds rfl
  have hspace : isSpace c = true := hgap c List.mem_cons_self
  simp only [isSpace, Bool.or_eq_true, beq_iff_eq] at hspace
  rcases hspace with ((rfl | rfl) | rfl) | rfl <;> rfl

theorem endsNumber_gap_cons
    {gap : List Char} {c : Char} (hgap : IsGap gap) (hc : carriesOn c = false) (s : List Char) :
    EndsNumber (gap ++ c :: s) := by
  intro d ds heq
  cases gap with
  | nil =>
      rw [← (List.cons.inj heq).1]
      exact hc
  | cons e gap =>
      rw [← (List.cons.inj heq).1]
      exact endsNumber_gap hgap e gap rfl

/-! ## Spelled texts -/

/-- The parts of a text that are read as one: a value, items up to the closing bracket, and members up
to the closing brace. -/
inductive Part where
  | value (v : Value)
  | items (vs : List Value)
  | members (ms : List (String × Value))

/-- The texts that spell a part. -/
inductive Spells : List Char → Part → Prop
  | null : Spells ['n', 'u', 'l', 'l'] (.value .null)
  | true : Spells ['t', 'r', 'u', 'e'] (.value (.bool Bool.true))
  | false : Spells ['f', 'a', 'l', 's', 'e'] (.value (.bool Bool.false))
  | whole {n : Int} (fits : IsWord n) :
      Spells (writeWhole n) (.value (.number (.whole n fits)))
  | string (s : String) : Spells (writeString s) (.value (.string s))
  | noItems : Spells ['[', ']'] (.value (.array []))
  | array {vs : List Value} {cs : List Char} (hitems : Spells cs (.items vs)) :
      Spells ('[' :: cs) (.value (.array vs))
  | noMembers : Spells ['\x7b', '\x7d'] (.value (.object []))
  | object {ms : List (String × Value)} {cs : List Char} (hmembers : Spells cs (.members ms)) :
      Spells ('\x7b' :: cs) (.value (.object ms))
  | behindGap {v : Value} {gap cs : List Char} (hgap : IsGap gap) (hvalue : Spells cs (.value v)) :
      Spells (gap ++ cs) (.value v)
  | lastItem {v : Value} {cs gap : List Char}
      (hvalue : Spells cs (.value v)) (hgap : IsGap gap) :
      Spells (cs ++ (gap ++ [']'])) (.items [v])
  | item {v : Value} {vs : List Value} {cs ds : List Char}
      (hvalue : Spells cs (.value v)) (hitems : Spells ds (.items vs)) :
      Spells (cs ++ ',' :: ds) (.items (v :: vs))
  | lastMember (key : String) {v : Value} {lead cs gap : List Char}
      (hlead : IsGap lead) (hvalue : Spells cs (.value v)) (hgap : IsGap gap) :
      Spells (lead ++ (writeString key ++ ':' :: (cs ++ (gap ++ ['\x7d'])))) (.members [(key, v)])
  | member (key : String) {v : Value} {ms : List (String × Value)} {lead cs ds : List Char}
      (hlead : IsGap lead) (hvalue : Spells cs (.value v)) (hmembers : Spells ds (.members ms)) :
      Spells (lead ++ (writeString key ++ ':' :: (cs ++ ',' :: ds))) (.members ((key, v) :: ms))

/-- The first token of a part is no closing bracket and no closing brace. -/
def Opens (s : List Char) : Prop :=
  ∀ rest, ∃ c ds, skipSpace (s ++ rest) = c :: ds ∧ c ≠ ']' ∧ c ≠ '\x7d'

theorem Opens.append {s : List Char} (h : Opens s) (t : List Char) : Opens (s ++ t) := by
  intro rest
  rw [List.append_assoc]
  exact h (t ++ rest)

theorem Opens.behindGap {gap s : List Char} (hgap : IsGap gap) (h : Opens s) :
    Opens (gap ++ s) := by
  intro rest
  rw [List.append_assoc, skipSpace_gap hgap]
  exact h rest

theorem opens_cons {c : Char} (hspace : isSpace c = false) (hbracket : c ≠ ']')
    (hbrace : c ≠ '\x7d') (s : List Char) : Opens (c :: s) := by
  intro rest
  exact ⟨c, s ++ rest, skipSpace_cons hspace _, hbracket, hbrace⟩

theorem not_space_of_digit {c : Char} (h : c = '-' ∨ c.isDigit = true) : isSpace c = false := by
  rcases h with rfl | h
  · rfl
  · rw [Bool.eq_false_iff]
    intro hspace
    simp only [isSpace, Bool.or_eq_true, beq_iff_eq] at hspace
    rcases hspace with ((rfl | rfl) | rfl) | rfl <;> cases h

/-- A digit or a minus sign is no other token. -/
theorem ne_of_digit {c d : Char} (h : c = '-' ∨ c.isDigit = true)
    (hd : d ≠ '-' ∧ d.isDigit = false) : c ≠ d := by
  rintro rfl
  rcases h with h | h
  · exact hd.1 h
  · rw [hd.2] at h
    cases h

theorem Spells.opens {s : List Char} {part : Part} (h : Spells s part) : Opens s := by
  induction h with
  | null => exact opens_cons rfl (by decide) (by decide) _
  | true => exact opens_cons rfl (by decide) (by decide) _
  | false => exact opens_cons rfl (by decide) (by decide) _
  | @whole n fits =>
      obtain ⟨c, cs, hwrite, hc⟩ := writeWhole_eq_cons n
      rw [hwrite]
      exact opens_cons (not_space_of_digit hc) (ne_of_digit hc (by decide))
        (ne_of_digit hc (by decide)) cs
  | string s => exact opens_cons rfl (by decide) (by decide) _
  | noItems => exact opens_cons rfl (by decide) (by decide) _
  | array hitems ih => exact opens_cons rfl (by decide) (by decide) _
  | noMembers => exact opens_cons rfl (by decide) (by decide) _
  | object hmembers ih => exact opens_cons rfl (by decide) (by decide) _
  | behindGap hgap hvalue ih => exact ih.behindGap hgap
  | lastItem hvalue hgap ih => exact ih.append _
  | item hvalue hitems ih _ => exact ih.append _
  | lastMember key hlead hvalue hgap ih =>
      exact .behindGap hlead (opens_cons rfl (by decide) (by decide) _)
  | member key hlead hvalue hmembers ih _ =>
      exact .behindGap hlead (opens_cons rfl (by decide) (by decide) _)

/-! ## Reading spelled texts -/

/-- The part is read back from its text whatever follows, if only a number before it ends there. -/
def Part.ReadsBack (s : List Char) : Part → Prop
  | .value v => ∀ fuel rest, 2 * s.length < fuel → EndsNumber rest →
      Reader.value fuel (s ++ rest) = (v.document, some rest)
  | .items vs => ∀ fuel rest, 2 * s.length < fuel →
      Reader.items fuel (s ++ rest) = (Value.itemDocuments vs, some rest)
  | .members ms => ∀ fuel rest, 2 * s.length < fuel →
      Reader.members fuel (s ++ rest) = (Value.memberDocuments ms, some rest)

theorem value_gap {gap : List Char} (hgap : IsGap gap) (fuel : Nat) (s : List Char) :
    Reader.value fuel (gap ++ s) = Reader.value fuel s := by
  cases fuel with
  | zero => rfl
  | succ fuel => rw [Reader.value, Reader.value, skipSpace_gap hgap]

theorem value_digit {c : Char} (hc : c = '-' ∨ c.isDigit = true) (fuel : Nat) (s : List Char) :
    Reader.value (fuel + 1) (c :: s) = number (c :: s) := by
  have hspace := not_space_of_digit hc
  have hother := fun d => ne_of_digit (d := d) hc
  rw [Reader.value, skipSpace_cons hspace]
  simp [hother]

theorem value_items {s : List Char} (hopens : Opens s) (fuel : Nat) {rest after : List Char}
    {ds : List Document} (hitems : Reader.items fuel (s ++ rest) = (ds, some after)) :
    Reader.value (fuel + 1) ('[' :: s ++ rest) = (.array ds true, some after) := by
  obtain ⟨c, cs, hskip, hc, -⟩ := hopens rest
  rw [List.cons_append, Reader.value, skipSpace_cons rfl]
  simp [hskip, hc, hitems]

theorem value_members {s : List Char} (hopens : Opens s) (fuel : Nat) {rest after : List Char}
    {ms : List (Option String × Document)}
    (hmembers : Reader.members fuel (s ++ rest) = (ms, some after)) :
    Reader.value (fuel + 1) ('\x7b' :: s ++ rest) = (.object ms true, some after) := by
  obtain ⟨c, cs, hskip, -, hc⟩ := hopens rest
  rw [List.cons_append, Reader.value, skipSpace_cons rfl]
  simp [hskip, hc, hmembers]

theorem items_last
    {fuel : Nat} {s gap rest : List Char} {d : Document} (hgap : IsGap gap)
    (hvalue : Reader.value fuel s = (d, some (gap ++ ']' :: rest))) :
    Reader.items (fuel + 1) s = ([d], some rest) := by
  simp [Reader.items, hvalue, skipSpace_gap_cons hgap (c := ']') rfl]

theorem items_more
    {fuel : Nat} {s more rest : List Char} {d : Document} {ds : List Document}
    (hvalue : Reader.value fuel s = (d, some (',' :: more)))
    (hitems : Reader.items fuel more = (ds, some rest)) :
    Reader.items (fuel + 1) s = (d :: ds, some rest) := by
  simp [Reader.items, hvalue, skipSpace_cons (c := ',') rfl, hitems]

theorem key?_writeString {lead : List Char} (hlead : IsGap lead) (key : String)
    (rest : List Char) :
    key? (lead ++ (writeString key ++ rest)) = some (some key, rest) := by
  have hskip : skipSpace (lead ++ (writeString key ++ rest)) =
      '"' :: (key.toList.flatMap writeChar ++ '"' :: rest) := by
    rw [skipSpace_gap hlead, writeString, List.cons_append, List.append_assoc,
      skipSpace_cons rfl]
    rfl
  simp [key?, hskip, string?_written]

theorem members_last
    {fuel : Nat} {lead s gap rest : List Char} {key : String} {d : Document}
    (hlead : IsGap lead) (hgap : IsGap gap)
    (hvalue : Reader.value fuel s = (d, some (gap ++ '\x7d' :: rest))) :
    Reader.members (fuel + 1) (lead ++ (writeString key ++ ':' :: s)) =
      ([(some key, d)], some rest) := by
  simp [Reader.members, key?_writeString hlead, skipSpace_cons (c := ':') rfl, hvalue,
    skipSpace_gap_cons hgap (c := '\x7d') rfl]

theorem members_more
    {fuel : Nat} {lead s more rest : List Char} {key : String} {d : Document}
    {ms : List (Option String × Document)} (hlead : IsGap lead)
    (hvalue : Reader.value fuel s = (d, some (',' :: more)))
    (hmembers : Reader.members fuel more = (ms, some rest)) :
    Reader.members (fuel + 1) (lead ++ (writeString key ++ ':' :: s)) =
      ((some key, d) :: ms, some rest) := by
  simp [Reader.members, key?_writeString hlead, skipSpace_cons (c := ':') rfl, hvalue,
    skipSpace_cons (c := ',') rfl, hmembers]

/-- A reader that still has fuel takes a step. -/
theorem exists_fuel {n fuel : Nat} (h : n < fuel) : ∃ left, fuel = left + 1 ∧ n ≤ left :=
  ⟨fuel - 1, by omega, by omega⟩

/-- Whatever spells a part is read back as it. -/
theorem Spells.readsBack {s : List Char} {part : Part} (h : Spells s part) : part.ReadsBack s := by
  -- Every character that is read pays for two calls, so the fuel outlasts the text.
  induction h with
  | null =>
      intro fuel rest hfuel _
      obtain ⟨left, rfl, -⟩ := exists_fuel hfuel
      rfl
  | true =>
      intro fuel rest hfuel _
      obtain ⟨left, rfl, -⟩ := exists_fuel hfuel
      rfl
  | false =>
      intro fuel rest hfuel _
      obtain ⟨left, rfl, -⟩ := exists_fuel hfuel
      rfl
  | @whole n fits =>
      intro fuel rest hfuel hrest
      obtain ⟨left, rfl, -⟩ := exists_fuel hfuel
      obtain ⟨c, cs, hwrite, hc⟩ := writeWhole_eq_cons n
      have hnumber := number_writeWhole fits hrest
      rw [hwrite, List.cons_append] at hnumber ⊢
      exact (value_digit hc left _).trans hnumber
  | string s =>
      intro fuel rest hfuel _
      obtain ⟨left, rfl, -⟩ := exists_fuel hfuel
      have hstring := string?_written s rest
      rw [writeString, List.cons_append, List.append_assoc, Reader.value, skipSpace_cons rfl]
      simp [Reader.string, hstring, Value.document]
  | noItems =>
      intro fuel rest hfuel _
      obtain ⟨left, rfl, -⟩ := exists_fuel hfuel
      rfl
  | @array vs cs hitems ih =>
      intro fuel rest hfuel _
      obtain ⟨left, rfl, hleft⟩ := exists_fuel hfuel
      rw [List.length_cons] at hleft
      exact value_items hitems.opens left (ih left rest (by omega))
  | noMembers =>
      intro fuel rest hfuel _
      obtain ⟨left, rfl, -⟩ := exists_fuel hfuel
      rfl
  | @object ms cs hmembers ih =>
      intro fuel rest hfuel _
      obtain ⟨left, rfl, hleft⟩ := exists_fuel hfuel
      rw [List.length_cons] at hleft
      exact value_members hmembers.opens left (ih left rest (by omega))
  | behindGap hgap hvalue ih =>
      intro fuel rest hfuel hrest
      rw [List.length_append] at hfuel
      rw [List.append_assoc, value_gap hgap]
      exact ih fuel rest (by omega) hrest
  | @lastItem v cs gap hvalue hgap ih =>
      intro fuel rest hfuel
      obtain ⟨left, rfl, hleft⟩ := exists_fuel hfuel
      simp only [List.length_append, List.length_cons] at hleft
      have hread := ih left (gap ++ ']' :: rest) (by omega) (endsNumber_gap_cons hgap rfl rest)
      rw [← List.append_assoc] at hread
      simpa [Value.itemDocuments] using items_last hgap hread
  | @item v vs cs ds hvalue hitems ih ihitems =>
      intro fuel rest hfuel
      obtain ⟨left, rfl, hleft⟩ := exists_fuel hfuel
      simp only [List.length_append, List.length_cons] at hleft
      have hread := ih left (',' :: ds ++ rest) (by omega) (endsNumber_gap_cons isGap_nil rfl _)
      rw [← List.append_assoc] at hread
      exact items_more hread (ihitems left rest (by omega))
  | @lastMember key v lead cs gap hlead hvalue hgap ih =>
      intro fuel rest hfuel
      obtain ⟨left, rfl, hleft⟩ := exists_fuel hfuel
      simp only [List.length_append, List.length_cons] at hleft
      have hread := ih left (gap ++ '\x7d' :: rest) (by omega) (endsNumber_gap_cons hgap rfl rest)
      simpa [Value.memberDocuments] using members_last hlead hgap hread
  | @member key v ms lead cs ds hlead hvalue hmembers ih ihmembers =>
      intro fuel rest hfuel
      obtain ⟨left, rfl, hleft⟩ := exists_fuel hfuel
      simp only [List.length_append, List.length_cons] at hleft
      have hread := ih left (',' :: ds ++ rest) (by omega) (endsNumber_gap_cons isGap_nil rfl _)
      have hmore := ihmembers left rest (by omega)
      simpa [Value.memberDocuments] using members_more hlead hread hmore

/-- A text that spells a value is read as a whole, whatever space follows it. -/
theorem scan_of_spells {s gap : List Char} {v : Value} (h : Spells s (.value v)) (hgap : IsGap gap) :
    scan (s ++ gap) = ⟨v.document, Bool.true⟩ := by
  have hread : Reader.value (fuelFor (s ++ gap)) (s ++ gap) = (v.document, some gap) := by
    refine h.readsBack (fuelFor (s ++ gap)) gap ?_ (endsNumber_gap hgap)
    rw [fuelFor, List.length_append]
    omega
  have hrest : skipSpace gap = [] := by
    rw [← List.append_nil gap, skipSpace_gap hgap]
    rfl
  rw [scan, hread]
  simp [hrest]

/-! ## Written values -/

namespace Value

/-- All numbers of a value are whole. -/
inductive Whole : Value → Prop
  | null : Whole .null
  | bool (b : Bool) : Whole (.bool b)
  | number {n : Int} (fits : IsWord n) : Whole (.number (.whole n fits))
  | string (s : String) : Whole (.string s)
  | array {vs : List Value} (hitems : ∀ v ∈ vs, Whole v) : Whole (.array vs)
  | object {ms : List (String × Value)} (hmembers : ∀ m ∈ ms, Whole m.2) : Whole (.object ms)

theorem whole_word (n : UInt64) : (word n).Whole :=
  .number _

theorem whole_page (n : UInt32) : (page n).Whole :=
  .number _

theorem whole_signed (n : Int64) : (signed n).Whole :=
  .number _

theorem spells_compactItems
    {v : Value} {rest : List Value}
    (h : ∀ w ∈ v :: rest, Spells w.compactChars (.value w)) :
    Spells (v.compactChars ++ compactItems rest) (.items (v :: rest)) := by
  induction rest generalizing v with
  | nil => exact .lastItem (h v List.mem_cons_self) isGap_nil
  | cons w rest ih =>
      exact .item (h v List.mem_cons_self) (ih fun u hu => h u (List.mem_cons_of_mem v hu))

theorem spells_compactMembers
    {m : String × Value} {rest : List (String × Value)}
    (h : ∀ m' ∈ m :: rest, Spells m'.2.compactChars (.value m'.2)) :
    Spells (writeString m.1 ++ ':' :: (m.2.compactChars ++ compactMembers rest))
      (.members (m :: rest)) := by
  induction rest generalizing m with
  | nil => exact .lastMember m.1 isGap_nil (h m List.mem_cons_self) isGap_nil
  | cons m' rest ih =>
      exact .member m.1 isGap_nil (h m List.mem_cons_self)
        (ih fun u hu => h u (List.mem_cons_of_mem m hu))

/-- The compact text of a value spells it. -/
theorem spells_compactChars {v : Value} (h : v.Whole) : Spells v.compactChars (.value v) := by
  induction h with
  | null => exact .null
  | bool b =>
      cases b with
      | false => exact .false
      | true => exact .true
  | number fits => exact .whole fits
  | string s => exact .string s
  | @array vs _ ih =>
      cases vs with
      | nil => exact .noItems
      | cons v rest => exact .array (spells_compactItems ih)
  | @object ms _ ih =>
      cases ms with
      | nil => exact .noMembers
      | cons m rest => exact .object (spells_compactMembers ih)

theorem spells_prettyItems
    {level : Nat} {v : Value} {rest : List Value}
    (h : ∀ w ∈ v :: rest, Spells (w.prettyChars (level + 1)) (.value w)) :
    Spells (newline (level + 1) ++ v.prettyChars (level + 1) ++ prettyItems level rest)
      (.items (v :: rest)) := by
  have hlead : Spells (newline (level + 1) ++ v.prettyChars (level + 1)) (.value v) :=
    .behindGap (isGap_newline (level + 1)) (h v List.mem_cons_self)
  induction rest generalizing v with
  | nil => exact .lastItem hlead (isGap_newline level)
  | cons w rest ih =>
      have hrest : ∀ u ∈ w :: rest, Spells (u.prettyChars (level + 1)) (.value u) :=
        fun u hu => h u (List.mem_cons_of_mem v hu)
      exact .item hlead (ih hrest (.behindGap (isGap_newline (level + 1))
        (hrest w List.mem_cons_self)))

theorem spells_prettyMembers
    {level : Nat} {m : String × Value} {rest : List (String × Value)}
    (h : ∀ m' ∈ m :: rest, Spells (m'.2.prettyChars (level + 1)) (.value m'.2)) :
    Spells (newline (level + 1) ++ writeString m.1 ++ ':' :: ' ' ::
        (m.2.prettyChars (level + 1) ++ prettyMembers level rest))
      (.members (m :: rest)) := by
  have hgap := isGap_newline (level + 1)
  have hvalue : Spells (' ' :: m.2.prettyChars (level + 1)) (.value m.2) :=
    .behindGap isGap_space (h m List.mem_cons_self)
  induction rest generalizing m with
  | nil =>
      simpa [prettyMembers] using
        Spells.lastMember m.1 hgap hvalue (isGap_newline level)
  | cons m' rest ih =>
      have hrest : ∀ u ∈ m' :: rest, Spells (u.2.prettyChars (level + 1)) (.value u.2) :=
        fun u hu => h u (List.mem_cons_of_mem m hu)
      have hmore := ih hrest (.behindGap isGap_space (hrest m' List.mem_cons_self))
      simpa [prettyMembers] using Spells.member m.1 hgap hvalue hmore

/-- The laid-out text of a value spells it. -/
theorem spells_prettyChars {v : Value} (h : v.Whole) (level : Nat) :
    Spells (v.prettyChars level) (.value v) := by
  induction h generalizing level with
  | null => exact .null
  | bool b =>
      cases b with
      | false => exact .false
      | true => exact .true
  | number fits => exact .whole fits
  | string s => exact .string s
  | @array vs _ ih =>
      cases vs with
      | nil => exact .noItems
      | cons v rest => exact .array (spells_prettyItems fun w hw => ih w hw (level + 1))
  | @object ms _ ih =>
      cases ms with
      | nil => exact .noMembers
      | cons m rest => exact .object (spells_prettyMembers fun w hw => ih w hw (level + 1))

end Value

end BlogSearch.Json
