import BlogSearch.Json.Document
import Mathlib.Data.List.Induction
import Mathlib.Data.List.Nodup
import Mathlib.Data.String.Basic

/-!
# Members in the order of their keys

Sorting the members of an object keeps them all if no key stands twice, and leaves members alone that
are in order already.  A value that was read has all its members in order, so to read its document
again gives the same value.
-/

namespace BlogSearch.Json

/-! ## Sorted members -/

section Sorting

variable {α : Type} {key : String} {value : α} {ms : List (String × α)}

/-- The members are in the order of their keys, and no key stands twice. -/
def Ascending (ms : List (String × α)) : Prop :=
  ms.Pairwise fun m n => m.1 < n.1

/-- No key stands twice. -/
def Distinct (ms : List (String × α)) : Prop :=
  (ms.map Prod.fst).Nodup

/-- Where no key stands twice, a member is found by its key. -/
theorem Distinct.find?_of_mem {m : String × α} (h : Distinct ms) (hm : m ∈ ms) :
    ms.find? (fun entry => entry.1 == m.1) = some m := by
  cases hfind : ms.find? fun entry => entry.1 == m.1 with
  | none =>
      have hnone := List.find?_eq_none.mp hfind m hm
      simp at hnone
  | some entry =>
      have hkey : entry.1 = m.1 := by simpa using List.find?_some hfind
      rw [List.inj_on_of_nodup_map h (List.mem_of_find?_eq_some hfind) hm hkey]

theorem find?_of_notMem (h : key ∉ ms.map Prod.fst) :
    ms.find? (fun entry => entry.1 == key) = none := by
  rw [List.find?_eq_none]
  intro entry hentry hkey
  rw [beq_iff_eq] at hkey
  exact h (hkey ▸ List.mem_map_of_mem hentry)

/-- Where no key stands twice, the order of the members does not matter to who looks for a key. -/
theorem Distinct.find?_perm {ms' : List (String × α)} (h : Distinct ms) (hperm : ms'.Perm ms) :
    ms'.find? (fun entry => entry.1 == key) = ms.find? fun entry => entry.1 == key := by
  have hkeys := hperm.map Prod.fst
  by_cases hkey : key ∈ ms.map Prod.fst
  · obtain ⟨m, hm, rfl⟩ := List.mem_map.mp hkey
    have hdistinct' : Distinct ms' := hkeys.nodup_iff.mpr h
    rw [h.find?_of_mem hm, hdistinct'.find?_of_mem (hperm.mem_iff.mpr hm)]
  · rw [find?_of_notMem hkey, find?_of_notMem (mt hkeys.mem_iff.mp hkey)]

theorem eq_or_mem_of_mem_insertMember
    {m : String × α} (h : m ∈ insertMember key value ms) : m = (key, value) ∨ m ∈ ms := by
  induction ms with
  | nil => exact Or.inl (List.mem_singleton.mp h)
  | cons n ms ih =>
      rw [insertMember] at h
      split at h
      · exact List.mem_cons.mp h
      split at h
      · rcases List.mem_cons.mp h with rfl | h
        · exact Or.inl rfl
        · exact Or.inr (List.mem_cons_of_mem n h)
      · rcases List.mem_cons.mp h with rfl | h
        · exact Or.inr List.mem_cons_self
        · exact (ih h).imp_right (List.mem_cons_of_mem n)

theorem ascending_insertMember (h : Ascending ms) : Ascending (insertMember key value ms) := by
  induction ms with
  | nil => exact List.pairwise_singleton _ _
  | cons n ms ih =>
      obtain ⟨hn, hms⟩ := List.pairwise_cons.mp h
      rw [insertMember]
      split
      · next hlt =>
          refine List.pairwise_cons.mpr ⟨?_, h⟩
          intro m hm
          rcases List.mem_cons.mp hm with rfl | hm
          · exact hlt
          · exact lt_trans hlt (hn m hm)
      split
      · next heq =>
          refine List.pairwise_cons.mpr ⟨?_, hms⟩
          intro m hm
          rw [heq]
          exact hn m hm
      · next hlt hne =>
          refine List.pairwise_cons.mpr ⟨?_, ih hms⟩
          intro m hm
          rcases eq_or_mem_of_mem_insertMember hm with rfl | hm
          · exact lt_of_le_of_ne (not_lt.mp hlt) (Ne.symm hne)
          · exact hn m hm

theorem insertMember_perm (h : key ∉ ms.map Prod.fst) :
    (insertMember key value ms).Perm ((key, value) :: ms) := by
  induction ms with
  | nil => exact .refl _
  | cons n ms ih =>
      rw [List.map_cons, List.mem_cons, not_or] at h
      rw [insertMember]
      split
      · exact .refl _
      split
      · next heq => exact absurd heq h.1
      · exact ((ih h.2).cons n).trans (.swap _ _ _)

/-- A member whose key comes last is put last. -/
theorem insertMember_of_forall_lt (h : ∀ m ∈ ms, m.1 < key) :
    insertMember key value ms = ms ++ [(key, value)] := by
  induction ms with
  | nil => rfl
  | cons n ms ih =>
      have hn := h n List.mem_cons_self
      rw [insertMember, if_neg (not_lt.mpr hn.le), if_neg hn.ne', List.cons_append,
        ih fun m hm => h m (List.mem_cons_of_mem n hm)]

/-- A member whose key comes first is put first. -/
theorem insertMember_of_forall_gt (h : ∀ m ∈ ms, key < m.1) :
    insertMember key value ms = (key, value) :: ms := by
  cases ms with
  | nil => rfl
  | cons n ms => rw [insertMember, if_pos (h n List.mem_cons_self)]

/-- A member that is left out makes no difference to those that are not. -/
theorem filter_insertMember_of_neg {p : String → Bool} (h : p key = false) :
    (insertMember key value ms).filter (fun m => p m.1) = ms.filter fun m => p m.1 := by
  induction ms with
  | nil => simp [insertMember, h]
  | cons n ms ih =>
      rw [insertMember]
      split
      · simp [h]
      split
      · next heq => simp [h, ← heq]
      · rw [List.filter_cons, List.filter_cons, ih]

/-- A member that is not left out is put among those that are not. -/
theorem filter_insertMember_of_pos {p : String → Bool} (hms : Ascending ms) (h : p key = true) :
    (insertMember key value ms).filter (fun m => p m.1) =
      insertMember key value (ms.filter fun m => p m.1) := by
  have hpos {m : String × α} (hm : p m.1 = true) (rest : List (String × α)) :
      (m :: rest).filter (fun m => p m.1) = m :: rest.filter fun m => p m.1 :=
    List.filter_cons_of_pos hm
  induction ms with
  | nil => exact hpos h []
  | cons n ms ih =>
      obtain ⟨hn, hrest⟩ := List.pairwise_cons.mp hms
      rw [insertMember]
      split
      · next hlt =>
          have hfirst : ∀ m ∈ (n :: ms).filter fun m => p m.1, key < m.1 := by
            intro m hm
            rcases List.mem_cons.mp (List.mem_of_mem_filter hm) with rfl | hm
            · exact hlt
            · exact hlt.trans (hn m hm)
          rw [insertMember_of_forall_gt hfirst]
          exact hpos h _
      split
      · next hlt heq =>
          rw [hpos h, hpos (heq ▸ h), insertMember, if_neg hlt, if_pos heq]
      · next hlt hne =>
          by_cases hkept : p n.1 = true
          · rw [hpos hkept, hpos hkept, ih hrest, insertMember, if_neg hlt, if_neg hne]
          · have hneg (rest : List (String × α)) :
                (n :: rest).filter (fun m => p m.1) = rest.filter fun m => p m.1 :=
              List.filter_cons_of_neg hkept
            rw [hneg ms, ← ih hrest]
            exact hneg _

theorem sortMembers_concat (ms : List (String × α)) (m : String × α) :
    sortMembers (ms ++ [m]) = insertMember m.1 m.2 (sortMembers ms) := by
  simp [sortMembers]

theorem mem_of_mem_sortMembers {m : String × α} (h : m ∈ sortMembers ms) : m ∈ ms := by
  induction ms using List.reverseRecOn with
  | nil => exact h
  | append_singleton ms n ih =>
      rw [sortMembers_concat] at h
      rcases eq_or_mem_of_mem_insertMember h with rfl | h
      · exact List.mem_append_right ms List.mem_cons_self
      · exact List.mem_append_left [n] (ih h)

theorem ascending_sortMembers (ms : List (String × α)) : Ascending (sortMembers ms) := by
  induction ms using List.reverseRecOn with
  | nil => exact List.Pairwise.nil
  | append_singleton ms n ih =>
      rw [sortMembers_concat]
      exact ascending_insertMember ih

theorem sortMembers_perm (h : Distinct ms) : (sortMembers ms).Perm ms := by
  induction ms using List.reverseRecOn with
  | nil => exact .refl _
  | append_singleton ms n ih =>
      rw [Distinct, List.map_append, List.nodup_append] at h
      have hsorted := ih h.1
      have hnew : n.1 ∉ (sortMembers ms).map Prod.fst := by
        intro hmem
        exact h.2.2 n.1 ((hsorted.map Prod.fst).mem_iff.mp hmem) n.1 List.mem_cons_self rfl
      rw [sortMembers_concat]
      exact ((insertMember_perm hnew).trans (hsorted.cons n)).trans
        (List.perm_append_singleton n ms).symm

theorem sortMembers_of_ascending (h : Ascending ms) : sortMembers ms = ms := by
  induction ms using List.reverseRecOn with
  | nil => rfl
  | append_singleton ms n ih =>
      obtain ⟨hms, -, hlast⟩ := List.pairwise_append.mp h
      rw [sortMembers_concat, ih hms]
      exact insertMember_of_forall_lt fun m hm => hlast m hm n List.mem_cons_self

end Sorting

/-! ## Documents of values -/

namespace Value

theorem sortedItems_eq_map (vs : List Value) : sortedItems vs = vs.map sorted := by
  induction vs with
  | nil => rfl
  | cons v vs ih => rw [sortedItems, ih, List.map_cons]

theorem sortedMembers_eq_map (ms : List (String × Value)) :
    sortedMembers ms = ms.map fun m => (m.1, m.2.sorted) := by
  induction ms with
  | nil => rfl
  | cons m ms ih => rw [sortedMembers, ih, List.map_cons]

theorem sortedMembers_of_forall {ms : List (String × Value)} (h : ∀ m ∈ ms, m.2.sorted = m.2) :
    sortedMembers ms = ms := by
  have hsame : ∀ m ∈ ms, (m.1, m.2.sorted) = m := fun m hm => Prod.ext rfl (h m hm)
  rw [sortedMembers_eq_map, List.map_congr_left hsame, List.map_id']

theorem itemDocuments_eq_map (vs : List Value) : itemDocuments vs = vs.map document := by
  induction vs with
  | nil => rfl
  | cons v vs ih => rw [itemDocuments, ih, List.map_cons]

theorem memberDocuments_eq_map (ms : List (String × Value)) :
    memberDocuments ms = ms.map fun m => (some m.1, m.2.document) := by
  induction ms with
  | nil => rfl
  | cons m ms ih => rw [memberDocuments, ih, List.map_cons]

/-- A value that nests at most so many arrays and objects. -/
inductive Fits : Nat → Value → Prop
  | null (room : Nat) : Fits room .null
  | bool (room : Nat) (b : Bool) : Fits room (.bool b)
  | number (room : Nat) (n : Number) : Fits room (.number n)
  | string (room : Nat) (s : String) : Fits room (.string s)
  | array {room : Nat} {vs : List Value} (hitems : ∀ v ∈ vs, Fits room v) :
      Fits (room + 1) (.array vs)
  | object {room : Nat} {ms : List (String × Value)} (hmembers : ∀ m ∈ ms, Fits room m.2) :
      Fits (room + 1) (.object ms)

/-- The value has its members in order and nests no further than it may. -/
def Settled (room : Nat) (v : Value) : Prop :=
  v.Fits room ∧ v.sorted = v

variable {room : Nat}

theorem Settled.array {vs : List Value} (h : ∀ v ∈ vs, v.Settled room) :
    (Value.array vs).Settled (room + 1) := by
  have hsorted : vs.map sorted = vs := by
    rw [List.map_congr_left fun v hv => (h v hv).2, List.map_id']
  refine ⟨.array fun v hv => (h v hv).1, ?_⟩
  rw [sorted, sortedItems_eq_map, hsorted]

theorem Settled.object {ms : List (String × Value)} (hms : Ascending ms)
    (h : ∀ m ∈ ms, m.2.Settled room) : (Value.object ms).Settled (room + 1) := by
  have hsorted : sortedMembers ms = ms := sortedMembers_of_forall fun m hm => (h m hm).2
  refine ⟨.object fun m hm => (h m hm).1, ?_⟩
  rw [sorted, hsorted, sortMembers_of_ascending hms]

end Value

namespace Document

theorem items?_of_forall
    {room : Nat} {vs : List Value} (h : ∀ v ∈ vs, v.document.value? room = some v.sorted) :
    items? room (Value.itemDocuments vs) = some (Value.sortedItems vs) := by
  induction vs with
  | nil => rfl
  | cons v vs ih =>
      have hrest := ih fun w hw => h w (List.mem_cons_of_mem v hw)
      simp [Value.itemDocuments, items?, h v List.mem_cons_self, hrest, Value.sortedItems]

theorem members?_of_forall
    {room : Nat} {ms : List (String × Value)}
    (h : ∀ m ∈ ms, m.2.document.value? room = some m.2.sorted) :
    members? room (Value.memberDocuments ms) = some (Value.sortedMembers ms) := by
  induction ms with
  | nil => rfl
  | cons m ms ih =>
      have hrest := ih fun w hw => h w (List.mem_cons_of_mem m hw)
      simp [Value.memberDocuments, members?, h m List.mem_cons_self, hrest, Value.sortedMembers]

theorem members?_cons
    {room : Nat} {key : String} {d : Document} {v : Value}
    {rest : List (Option String × Document)} {vs : List (String × Value)}
    (hv : d.value? room = some v) (hvs : members? room rest = some vs) :
    members? room ((some key, d) :: rest) = some ((key, v) :: vs) := by
  simp only [members?, hv, hvs]

/-- The document of a value is read as the value with its members in order. -/
theorem value?_document {room : Nat} {v : Value} (h : v.Fits room) :
    v.document.value? room = some v.sorted := by
  induction h with
  | null room => rfl
  | bool room b => rfl
  | number room n => rfl
  | string room s => rfl
  | array _ ih => simp [Value.document, value?, items?_of_forall ih, Value.sorted]
  | object _ ih => simp [Value.document, value?, members?_of_forall ih, Value.sorted]

theorem value?_of_settled {room : Nat} {v : Value} (h : v.Settled room) :
    v.document.value? room = some v := by
  rw [value?_document h.1, h.2]

mutual

/-- A value that was read has its members in order and nests no further than it may. -/
theorem settled_of_value?
    {room : Nat} {v : Value} : ∀ {d : Document}, d.value? room = some v →
      v.Settled room
  | .broken, h => by cases h
  | .null, h => by
      cases h
      exact ⟨.null room, rfl⟩
  | .bool b, h => by
      cases h
      exact ⟨.bool room b, rfl⟩
  | .number content, h => by
      obtain ⟨n, -, rfl⟩ := Option.map_eq_some_iff.mp h
      exact ⟨.number room n, rfl⟩
  | .string content, h => by
      obtain ⟨s, -, rfl⟩ := Option.map_eq_some_iff.mp h
      exact ⟨.string room s, rfl⟩
  | .array items closed, h => by
      rw [value?] at h
      split at h
      · next hroom =>
          obtain ⟨vs, hvs, rfl⟩ := Option.map_eq_some_iff.mp h
          rw [Bool.and_eq_true, decide_eq_true_eq] at hroom
          obtain ⟨left, rfl⟩ := Nat.exists_eq_succ_of_ne_zero hroom.2.ne'
          exact .array (settled_of_items? hvs)
      · cases h
  | .object members closed, h => by
      rw [value?] at h
      split at h
      · next hroom =>
          obtain ⟨ms, hms, rfl⟩ := Option.map_eq_some_iff.mp h
          rw [Bool.and_eq_true, decide_eq_true_eq] at hroom
          obtain ⟨left, rfl⟩ := Nat.exists_eq_succ_of_ne_zero hroom.2.ne'
          have hmembers := settled_of_members? hms
          exact .object (ascending_sortMembers ms) fun m hm =>
            hmembers m (mem_of_mem_sortMembers hm)
      · cases h

theorem settled_of_items?
    {room : Nat} : ∀ {ds : List Document} {vs : List Value}, items? room ds = some vs →
      ∀ v ∈ vs, v.Settled room
  | [], vs, h => by
      cases h
      intro v hv
      cases hv
  | d :: rest, vs, h => by
      rw [items?] at h
      split at h
      · next v vs' hv hvs =>
          cases h
          rintro w (_ | ⟨_, hw⟩)
          · exact settled_of_value? hv
          · exact settled_of_items? hvs w hw
      · cases h

theorem settled_of_members?
    {room : Nat} : ∀ {ms : List (Option String × Document)} {vs : List (String × Value)},
      members? room ms = some vs → ∀ m ∈ vs, m.2.Settled room
  | [], vs, h => by
      cases h
      intro v hv
      cases hv
  | (key, d) :: rest, vs, h => by
      simp only [members?] at h
      split at h
      · next k v vs' hv hvs =>
          cases h
          rintro w (_ | ⟨_, hw⟩)
          · exact settled_of_value? hv
          · exact settled_of_members? hvs w hw
      · cases h

end

end Document

end BlogSearch.Json
