import BlogSearch.Navigation.History

/-!
# The cursor of the history

Every operation leaves the cursor on an entry, or leaves no cursor where there are no entries.  An
entry that is pushed, put in the place of another one or moved to is the current one afterwards, and
no operation makes entries of its own.
-/

namespace BlogSearch.History

/-- The cursor stands on an entry, or there is neither cursor nor entry. -/
def CursorPlaced (h : History) : Prop :=
  match h.cursor with
  | none => h.entries = []
  | some c => c < h.entries.length

variable {h : History} {e x : HistoryEntry}

theorem cursorPlaced_empty : empty.CursorPlaced := rfl

theorem CursorPlaced.lt (hplaced : h.CursorPlaced) {c : Nat} (hcursor : h.cursor = some c) :
    c < h.entries.length := by
  simpa only [CursorPlaced, hcursor] using hplaced

theorem CursorPlaced.entries_eq_nil (hplaced : h.CursorPlaced) (hcursor : h.cursor = none) :
    h.entries = [] := by
  simpa only [CursorPlaced, hcursor] using hplaced

theorem CursorPlaced.current?_eq_none_iff (hplaced : h.CursorPlaced) :
    h.current? = none ↔ h.entries = [] := by
  rcases hcursor : h.cursor with _ | c
  · have hnil := hplaced.entries_eq_nil hcursor
    simp [current?, hcursor, hnil]
  · have hlt := hplaced.lt hcursor
    constructor
    · intro hnone
      simp only [current?, hcursor, Option.bind_some, List.getElem?_eq_none_iff] at hnone
      omega
    · intro hnil
      rw [hnil] at hlt
      cases hlt

/-! ## Pushing -/

theorem cursorPlaced_push (h : History) (e : HistoryEntry) : (h.push e).CursorPlaced := by
  simp [CursorPlaced, push]

theorem current?_push (h : History) (e : HistoryEntry) : (h.push e).current? = some e := by
  simp [current?, push]

theorem mem_push (hx : x ∈ (h.push e).entries) : x ∈ h.entries ∨ x = e := by
  rcases List.mem_append.mp hx with hkept | hnew
  · left
    split at hkept
    · cases hkept
    · exact List.mem_of_mem_take hkept
  · exact Or.inr (List.mem_singleton.mp hnew)

/-- Every other entry behind a push was there before, in its place. -/
theorem getElem?_of_push
    {i : Nat} (hne : (h.push e).cursor ≠ some i) (hx : (h.push e).entries[i]? = some x) :
    h.entries[i]? = some x := by
  have hlt : i < (h.push e).entries.length := (List.getElem?_eq_some_iff.mp hx).1
  simp only [push, List.length_append, List.length_singleton, ne_eq, Option.some.injEq] at hne hlt hx
  rw [List.getElem?_append_left (by omega)] at hx
  split at hx
  · cases hx
  · rw [List.getElem?_take] at hx
    split at hx
    · exact hx
    · cases hx

/-! ## Replacing -/

theorem replace_of_entries_eq_nil (hnil : h.entries = []) : h.replace e = h.push e := by
  simp [replace, hnil]

theorem replace_of_cursor_eq_some
    (hplaced : h.CursorPlaced) {c : Nat} (hcursor : h.cursor = some c) :
    h.replace e = { h with entries := h.entries.set c e } := by
  have hlt := hplaced.lt hcursor
  have hnonempty : h.entries.isEmpty = false := by
    rw [List.isEmpty_eq_false_iff]
    exact List.ne_nil_of_length_pos (Nat.zero_lt_of_lt hlt)
  simp [replace, hnonempty, hcursor]

theorem CursorPlaced.replace (hplaced : h.CursorPlaced) : (h.replace e).CursorPlaced := by
  rcases hcursor : h.cursor with _ | c
  · rw [replace_of_entries_eq_nil (hplaced.entries_eq_nil hcursor)]
    exact cursorPlaced_push h e
  · rw [replace_of_cursor_eq_some hplaced hcursor]
    simpa [CursorPlaced, hcursor] using hplaced.lt hcursor

theorem CursorPlaced.current?_replace (hplaced : h.CursorPlaced) :
    (h.replace e).current? = some e := by
  rcases hcursor : h.cursor with _ | c
  · rw [replace_of_entries_eq_nil (hplaced.entries_eq_nil hcursor)]
    exact current?_push h e
  · rw [replace_of_cursor_eq_some hplaced hcursor]
    simp [current?, hcursor, hplaced.lt hcursor]

theorem mem_replace (hx : x ∈ (h.replace e).entries) : x ∈ h.entries ∨ x = e := by
  unfold History.replace at hx
  split at hx
  · exact mem_push hx
  · exact List.mem_or_eq_of_mem_set hx

/-- Every other entry beside a replaced one was there before, in its place. -/
theorem CursorPlaced.getElem?_of_replace
    (hplaced : h.CursorPlaced) {i : Nat} (hne : (h.replace e).cursor ≠ some i)
    (hx : (h.replace e).entries[i]? = some x) : h.entries[i]? = some x := by
  rcases hcursor : h.cursor with _ | c
  · rw [replace_of_entries_eq_nil (hplaced.entries_eq_nil hcursor)] at hne hx
    exact getElem?_of_push hne hx
  · rw [replace_of_cursor_eq_some hplaced hcursor] at hne hx
    have hc : c ≠ i := fun heq => hne (hcursor.trans (congrArg some heq))
    rwa [List.getElem?_set_ne hc] at hx

/-- However an entry is written, it is the current one, and the others keep their places. -/
theorem CursorPlaced.written
    (hplaced : h.CursorPlaced) {h' : History} (hwritten : h' = h.push e ∨ h' = h.replace e) :
    h'.CursorPlaced ∧ h'.current? = some e ∧
      ∀ i x, h'.cursor ≠ some i → h'.entries[i]? = some x → h.entries[i]? = some x := by
  rcases hwritten with rfl | rfl
  · exact ⟨cursorPlaced_push h e, current?_push h e, fun _ _ hne hx => getElem?_of_push hne hx⟩
  · exact ⟨hplaced.replace, hplaced.current?_replace, fun _ _ hne hx =>
      hplaced.getElem?_of_replace hne hx⟩

/-! ## Moving -/

theorem back_of_cursor_eq_succ {c : Nat} (hcursor : h.cursor = some (c + 1)) :
    h.back = ({ h with cursor := some c }, h.entries[c]?) := by
  simp [back, hcursor, current?]

/-- Behind two pushes, going back leads to the first of them. -/
theorem back_push_push (h : History) (e e' : HistoryEntry) :
    ((h.push e).push e').back.2 = some e := by
  obtain ⟨kept, hkept⟩ : ∃ kept, h.push e = ⟨kept ++ [e], some kept.length⟩ := ⟨_, rfl⟩
  have hall : (kept ++ [e]).take (kept.length + 1) = kept ++ [e] :=
    List.take_of_length_le (Nat.le_of_eq List.length_append)
  rw [hkept]
  simp [push, back, current?, hall]

theorem back_of_cursor_at_start (hcursor : h.cursor = none ∨ h.cursor = some 0) :
    h.back = (h, none) := by
  rcases hcursor with hcursor | hcursor <;> simp [back, hcursor]

theorem forward_of_cursor_lt
    {c : Nat} (hcursor : h.cursor = some c) (hlt : c + 1 < h.entries.length) :
    h.forward = ({ h with cursor := some (c + 1) }, h.entries[c + 1]?) := by
  simp [forward, hcursor, hlt, current?]

theorem forward_of_cursor_at_end (hcursor : ∀ c ∈ h.cursor, h.entries.length ≤ c + 1) :
    h.forward = (h, none) := by
  unfold forward
  split
  · next c hc => rw [if_neg (Nat.not_lt.mpr (hcursor c hc))]
  · rfl

theorem entries_back (h : History) : h.back.1.entries = h.entries := by
  unfold back
  split <;> rfl

theorem entries_forward (h : History) : h.forward.1.entries = h.entries := by
  unfold forward
  split
  · split <;> rfl
  · rfl

theorem CursorPlaced.back (hplaced : h.CursorPlaced) : h.back.1.CursorPlaced := by
  unfold History.back
  split
  · next c hcursor =>
      have hlt := hplaced.lt hcursor
      exact Nat.lt_of_succ_lt hlt
  · exact hplaced

theorem CursorPlaced.forward (hplaced : h.CursorPlaced) : h.forward.1.CursorPlaced := by
  unfold History.forward
  split
  · split
    · next hlt => exact hlt
    · exact hplaced
  · exact hplaced

theorem current?_back (hentry : h.back.2 = some e) : h.back.1.current? = some e := by
  unfold back at hentry ⊢
  split at hentry
  · exact hentry
  · cases hentry

theorem current?_forward (hentry : h.forward.2 = some e) : h.forward.1.current? = some e := by
  unfold forward at hentry ⊢
  split at hentry
  · split at hentry
    · next hlt =>
        rw [if_pos hlt]
        exact hentry
    · cases hentry
  · cases hentry

end BlogSearch.History
