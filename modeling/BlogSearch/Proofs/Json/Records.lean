import BlogSearch.Json.Decoder
import BlogSearch.Proofs.Json.Members
import BlogSearch.Proofs.Json.Spelling

/-!
# Written records decoded

A decoder that undoes the encoder of each field undoes the encoder of the record, in whatever order it
meets the members: as they were written, or in the order of their keys.  A member that is left out
stands for the value that its field has without it.
-/

namespace BlogSearch.Json

variable {α : Type}

/-! ## Values as a decoder meets them -/

/-- The two orders in which a decoder may meet the members of an object. -/
inductive Arrangement where
  | written
  | sorted

/-- The document of a value in one of the orders. -/
def Value.arranged (o : Arrangement) (v : Value) : Document :=
  match o with
  | .written => v.document
  | .sorted => v.sorted.document

/-- The decoder gives back what was encoded, in both ways of reading and in both orders. -/
def Decoder.Undoes (decode : Decoder α) (encode : α → Value) : Prop :=
  ∀ (reading : Reading) (o : Arrangement) (a : α),
    decode reading ((encode a).arranged o) = .ok a

namespace Value

variable (o : Arrangement)

theorem arranged_null : Value.null.arranged o = .null := by
  cases o <;> rfl

theorem arranged_bool (b : Bool) : (Value.bool b).arranged o = .bool b := by
  cases o <;> rfl

theorem arranged_number (n : Number) : (Value.number n).arranged o = .number (some n) := by
  cases o <;> rfl

theorem arranged_string (s : String) : (Value.string s).arranged o = .string (some s) := by
  cases o <;> rfl

theorem arranged_array (vs : List Value) :
    (Value.array vs).arranged o = .array (vs.map (arranged o)) true := by
  cases o with
  | written => rw [arranged, document, itemDocuments_eq_map]; rfl
  | sorted =>
      rw [arranged, sorted, document, itemDocuments_eq_map, sortedItems_eq_map, List.map_map]
      rfl

theorem arranged_object {ms : List (String × Value)} (h : Distinct ms) :
    ∃ found : List (String × Document),
      found.Perm (ms.map fun m => (m.1, m.2.arranged o)) ∧
        (Value.object ms).arranged o = .object (found.map fun m => (some m.1, m.2)) true := by
  cases o with
  | written =>
      refine ⟨_, .refl _, ?_⟩
      rw [arranged, document, memberDocuments_eq_map, List.map_map]
      rfl
  | sorted =>
      have hsorted : Distinct (sortedMembers ms) := by
        rw [Distinct, sortedMembers_eq_map, List.map_map]
        exact h
      refine ⟨(sortMembers (sortedMembers ms)).map fun m => (m.1, m.2.document), ?_, ?_⟩
      · have hperm := (sortMembers_perm hsorted).map fun m => (m.1, m.2.document)
        rw [sortedMembers_eq_map, List.map_map] at hperm
        rw [sortedMembers_eq_map]
        exact hperm
      · rw [arranged, sorted, document, memberDocuments_eq_map, List.map_map]
        rfl

variable {key : String} {encode : α → Value} {x : Option α}

theorem mem_optionalMember {m : String × Value} :
    m ∈ optionalMember key encode x ↔ ∃ a, x = some a ∧ m = (key, encode a) := by
  cases x with
  | none => simp [optionalMember]
  | some a => simp [optionalMember]

theorem forall_mem_optionalMember {P : String × Value → Prop} :
    (∀ m ∈ optionalMember key encode x, P m) ↔ ∀ a, x = some a → P (key, encode a) := by
  constructor
  · intro h a ha
    exact h _ (mem_optionalMember.mpr ⟨a, ha, rfl⟩)
  · intro h m hm
    obtain ⟨a, ha, rfl⟩ := mem_optionalMember.mp hm
    exact h a ha

theorem keys_optionalMember_sublist :
    ((optionalMember key encode x).map Prod.fst).Sublist [key] := by
  cases x with
  | none => exact List.nil_sublist [key]
  | some a => exact .refl [key]

end Value

namespace Decoder

/-! ## Fields -/

theorem undoes_text : text.Undoes Value.string := by
  intro reading o s
  rw [Value.arranged_string]
  rfl

theorem undoes_flag : flag.Undoes Value.bool := by
  intro reading o b
  rw [Value.arranged_bool]
  rfl

theorem undoes_double : double.Undoes Value.double := by
  intro reading o x
  rw [Value.double, Value.arranged_number]
  rfl

theorem whole_number
    {expected : String} {low high n : Int} (fits : IsWord n) (hlow : low ≤ n) (hhigh : n ≤ high)
    (reading : Reading) :
    whole expected low high reading (.number (some (.whole n fits))) = .ok n := by
  simp [whole, hlow, hhigh]

theorem undoes_word : word.Undoes Value.word := by
  intro reading o n
  have hhigh : (n.toNat : Int) ≤ 18446744073709551615 := by
    have := n.toNat_lt
    omega
  rw [Value.word, Value.arranged_number, word,
    whole_number _ (Int.natCast_nonneg n.toNat) hhigh]
  exact congrArg Except.ok UInt64.ofNat_toNat

theorem undoes_page : page.Undoes Value.page := by
  intro reading o n
  have hhigh : (n.toNat : Int) ≤ 4294967295 := by
    have := n.toNat_lt
    omega
  rw [Value.page, Value.arranged_number, page,
    whole_number _ (Int.natCast_nonneg n.toNat) hhigh]
  exact congrArg Except.ok UInt32.ofNat_toNat

theorem undoes_signed : signed.Undoes Value.signed := by
  intro reading o n
  have hlow : (-9223372036854775808 : Int) ≤ n.toInt := n.le_toInt
  have hhigh : n.toInt ≤ 9223372036854775807 := Int.le_of_lt_add_one n.toInt_lt
  have hwhole : whole "i64" (-9223372036854775808) 9223372036854775807 reading
      ((Value.signed n).arranged o) = .ok n.toInt := by
    rw [Value.signed, Value.arranged_number]
    exact whole_number _ hlow hhigh reading
  rw [signed, hwhole]
  exact congrArg Except.ok (Int64.ofInt_toInt n)

variable {decode : Decoder α} {encode : α → Value}

theorem Undoes.items (h : decode.Undoes encode) (reading : Reading) (o : Arrangement)
    (as : List α) :
    Decoder.items decode reading (as.map fun a => (encode a).arranged o) = .ok as := by
  induction as with
  | nil => rfl
  | cons a as ih =>
      rw [List.map_cons, Decoder.items, h reading o a, ih]
      rfl

theorem Undoes.list (h : decode.Undoes encode) :
    (Decoder.list decode).Undoes fun as => .array (as.map encode) := by
  intro reading o as
  have hitems := h.items reading o as
  rw [Value.arranged_array, List.map_map, Function.comp_def]
  simp only [Decoder.list, hitems]
  rfl

/-- The encoder writes no value as an absent one. -/
def NeverNull (encode : α → Value) : Prop :=
  ∀ (o : Arrangement) (a : α), (encode a).arranged o ≠ .null

theorem neverNull_string : NeverNull Value.string := by
  intro o s
  rw [Value.arranged_string]
  nofun

theorem neverNull_word : NeverNull Value.word := by
  intro o n
  rw [Value.word, Value.arranged_number]
  nofun

theorem neverNull_signed : NeverNull Value.signed := by
  intro o n
  rw [Value.signed, Value.arranged_number]
  nofun

theorem neverNull_double : NeverNull Value.double := by
  intro o x
  rw [Value.double, Value.arranged_number]
  nofun

theorem Undoes.optional_some (h : decode.Undoes encode) (hnull : NeverNull encode)
    (reading : Reading) (o : Arrangement) (a : α) :
    optional decode reading ((encode a).arranged o) = .ok (some a) := by
  have hdecode := h reading o a
  cases hd : (encode a).arranged o with
  | null => exact absurd hd (hnull o a)
  | _ =>
      rw [hd] at hdecode
      simp [optional, hdecode, Except.map]

theorem Undoes.optional (h : decode.Undoes encode) (hnull : NeverNull encode) :
    (Decoder.optional decode).Undoes (Value.ofOption encode) := by
  intro reading o x
  cases x with
  | none => rw [Value.ofOption, Value.arranged_null]; rfl
  | some a => exact h.optional_some hnull reading o a

/-! ## Records -/

/-- A record has met the members of an object. -/
structure Meets (o : Arrangement) (ms : List (String × Value)) (present : Present) : Prop where
  distinct : Distinct ms
  found : present.found.Perm (ms.map fun m => (m.1, m.2.arranged o))

namespace Meets

variable {o : Arrangement} {ms : List (String × Value)} {present : Present} {name : String}

theorem keys_perm (h : Meets o ms present) :
    (present.found.map Prod.fst).Perm (ms.map Prod.fst) := by
  have hkeys := h.found.map Prod.fst
  rw [List.map_map] at hkeys
  exact hkeys

theorem distinct_found (h : Meets o ms present) : Distinct present.found :=
  h.keys_perm.nodup_iff.mpr h.distinct

theorem find?_of_mem {v : Value} (h : Meets o ms present) (hmem : (name, v) ∈ ms) :
    present.found.find? (fun entry => entry.1 == name) = some (name, v.arranged o) := by
  have hmeant : (name, v.arranged o) ∈ present.found :=
    h.found.mem_iff.mpr (List.mem_map_of_mem (f := fun m => (m.1, m.2.arranged o)) hmem)
  exact h.distinct_found.find?_of_mem hmeant

theorem find?_of_notMem (h : Meets o ms present) (hname : name ∉ ms.map Prod.fst) :
    present.found.find? (fun entry => entry.1 == name) = none := by
  refine Json.find?_of_notMem ?_
  rw [h.keys_perm.mem_iff]
  exact hname

variable {decode : Decoder α} {encode : α → Value} {a : α}

theorem required (h : Meets o ms present) (hdecode : decode.Undoes encode) (shape : Shape)
    (reading : Reading) (hmem : (name, encode a) ∈ ms) :
    shape.required reading present name decode = .ok a := by
  rw [Shape.required, h.find?_of_mem hmem]
  exact hdecode reading o a

theorem defaulted (h : Meets o ms present) (hdecode : decode.Undoes encode) (fallback : α)
    (reading : Reading) (hmem : (name, encode a) ∈ ms) :
    Shape.defaulted reading present name fallback decode = .ok a := by
  rw [Shape.defaulted, h.find?_of_mem hmem]
  exact hdecode reading o a

/-- A member that is left out when its value is absent is decoded as absent. -/
theorem defaulted_optional
    {x : Option α} (h : Meets o ms present) (hdecode : decode.Undoes encode)
    (hnull : NeverNull encode) (reading : Reading)
    (hmem : ∀ v, (name, v) ∈ ms ↔ ∃ a, x = some a ∧ v = encode a) :
    Shape.defaulted reading present name none (optional decode) = .ok x := by
  cases x with
  | none =>
      have hname : name ∉ ms.map Prod.fst := by
        intro hkey
        obtain ⟨⟨_, v⟩, hv, rfl⟩ := List.mem_map.mp hkey
        obtain ⟨a, ha, -⟩ := (hmem v).mp hv
        cases ha
      rw [Shape.defaulted, h.find?_of_notMem hname]
  | some a =>
      have hsome : (name, encode a) ∈ ms := (hmem (encode a)).mpr ⟨a, rfl, rfl⟩
      rw [Shape.defaulted, h.find?_of_mem hsome]
      exact hdecode.optional_some hnull reading o a

end Meets

namespace Shape

/-- A member that a field of its name accepts. -/
def Accepts (shape : Shape) (reading : Reading) (m : String × Document) : Prop :=
  ∃ f, shape.fields.find? (fun f => f.name == m.1) = some f ∧ f.check reading m.2 = .ok ()

theorem collectMembers_of_accepts
    (shape : Shape) (reading : Reading) (seen : List (String × Document))
    {members : List (String × Document)} (hdistinct : Distinct (seen ++ members))
    (haccepts : ∀ m ∈ members, shape.Accepts reading m) :
    shape.collectMembers reading seen (members.map fun m => (some m.1, m.2)) =
      .ok (seen ++ members) := by
  induction members generalizing seen with
  | nil => simp [collectMembers]
  | cons m members ih =>
      obtain ⟨f, hfind, hcheck⟩ := haccepts m List.mem_cons_self
      have hnew : seen.any (fun entry => entry.1 == m.1) = false := by
        rw [Distinct, List.map_append, List.nodup_append] at hdistinct
        rw [List.any_eq_false]
        intro entry hentry hkey
        exact hdistinct.2.2 entry.1 (List.mem_map_of_mem hentry) m.1 List.mem_cons_self
          (beq_iff_eq.mp hkey)
      have hrest := ih (seen ++ [m]) (by simpa using hdistinct)
        fun n hn => haccepts n (List.mem_cons_of_mem m hn)
      rw [List.append_assoc, List.singleton_append] at hrest
      rw [List.map_cons, collectMembers]
      simp only [hfind, hnew, hcheck]
      exact hrest

/-- A record meets the members of a written object, each of which one of its fields accepts. -/
theorem collect_arranged
    (shape : Shape) (reading : Reading) (o : Arrangement) {ms : List (String × Value)}
    (hdistinct : Distinct ms)
    (haccepts : ∀ m ∈ ms, shape.Accepts reading (m.1, m.2.arranged o)) :
    ∃ present, Meets o ms present ∧
      shape.collect reading ((Value.object ms).arranged o) = .ok present := by
  obtain ⟨found, hperm, harranged⟩ := Value.arranged_object o hdistinct
  have hmeets : Meets o ms ⟨found, false⟩ := ⟨hdistinct, hperm⟩
  have hcollect : shape.collectMembers reading [] (found.map fun m => (some m.1, m.2)) =
      .ok found := by
    refine shape.collectMembers_of_accepts reading [] hmeets.distinct_found ?_
    intro m hm
    obtain ⟨n, hn, rfl⟩ := List.mem_map.mp (hperm.mem_iff.mp hm)
    exact haccepts n hn
  refine ⟨⟨found, false⟩, hmeets, ?_⟩
  simp only [harranged, collect, hcollect]
  rfl

end Shape

/-! ## Texts -/

variable {decode : Decoder α} {encode : α → Value} {a : α}

/-- The compact text of an encoded value is decoded as the value. -/
theorem Undoes.stream_compact (h : decode.Undoes encode) (hwhole : (encode a).Whole) :
    decode.stream (encode a).compact = .ok a := by
  have hscan := scan_of_spells (Value.spells_compactChars hwhole) isGap_nil
  have hdecode : decode .streaming (encode a).document = .ok a := h .streaming .written a
  rw [List.append_nil] at hscan
  rw [Decoder.stream, Value.compact, String.toList_ofList, hscan]
  simp only [hdecode]
  rfl

end Decoder

/-- A text that spells a value is read as the value with its members in order. -/
theorem Value.read?_of_spells
    {s : List Char} {v : Value} (h : Spells s (.value v)) (hfits : v.Fits Document.nestingLimit) :
    Value.read? (String.ofList s) = some v.sorted := by
  have hscan := scan_of_spells h isGap_nil
  rw [List.append_nil] at hscan
  simp only [Value.read?, String.toList_ofList, hscan]
  exact Document.value?_document hfits

theorem Value.read?_compact {v : Value} (hwhole : v.Whole) (hfits : v.Fits Document.nestingLimit) :
    Value.read? v.compact = some v.sorted :=
  Value.read?_of_spells (Value.spells_compactChars hwhole) hfits

theorem Value.read?_pretty {v : Value} (hwhole : v.Whole) (hfits : v.Fits Document.nestingLimit) :
    Value.read? v.pretty = some v.sorted :=
  Value.read?_of_spells (Value.spells_prettyChars hwhole 0) hfits

end BlogSearch.Json
