import BlogSearch.Proofs.Navigation.History

/-!
# The history of a browser

The history of a browser can be told from where it stands: the entries behind it, the one that is shown,
and the entries ahead.  The list of entries with a cursor is another way to hold the same, and every
operation does the same to both.  So the history behaves as that of a browser whatever is done with it.
-/

namespace BlogSearch

/-- What can be done with a history. -/
inductive HistoryMove where
  | push (e : HistoryEntry)
  | replace (e : HistoryEntry)
  | back
  | forward
  deriving DecidableEq

/-- What shows of a history after a move. -/
structure HistoryView where
  /-- The entry that the move returned. -/
  returned : Option HistoryEntry
  current : Option HistoryEntry
  size : Nat
  isEmpty : Bool
  deriving DecidableEq

/-- Makes moves one after another, and tells what shows after each of them. -/
def HistoryMove.run {σ : Type}
    (move : σ → HistoryMove → σ × Option HistoryEntry)
    (view : σ → Option HistoryEntry → HistoryView) (s : σ) :
    List HistoryMove → σ × List HistoryView
  | [] => (s, [])
  | m :: rest =>
      let after := move s m
      let all := run move view after.1 rest
      (all.1, view after.1 after.2 :: all.2)

namespace History

/-- Makes a move; only the moves back and forward return an entry. -/
def move (h : History) : HistoryMove → History × Option HistoryEntry
  | .push e => (h.push e, none)
  | .replace e => (h.replace e, none)
  | .back => h.back
  | .forward => h.forward

def view (h : History) (returned : Option HistoryEntry) : HistoryView :=
  ⟨returned, h.current?, h.size, h.isEmpty⟩

def moveAll (moves : List HistoryMove) : History × List HistoryView :=
  HistoryMove.run move view empty moves

end History

/-- A history told from where it stands: the entries behind the current one and those ahead of it, the
nearest of them first. -/
inductive Walk where
  | nowhere
  | here (past : List HistoryEntry) (current : HistoryEntry) (future : List HistoryEntry)

namespace Walk

/-- The current entry falls behind, and what lay ahead is forgotten. -/
def push : Walk → HistoryEntry → Walk
  | nowhere, e => here [] e []
  | here past current _, e => here (current :: past) e []

/-- Only the current entry changes. -/
def replace : Walk → HistoryEntry → Walk
  | nowhere, e => here [] e []
  | here past _ future, e => here past e future

/-- One entry goes across, if there is one behind. -/
def back : Walk → Walk × Option HistoryEntry
  | here (e :: past) current future => (here past e (current :: future), some e)
  | w => (w, none)

/-- One entry goes across, if there is one ahead. -/
def forward : Walk → Walk × Option HistoryEntry
  | here past current (e :: future) => (here (current :: past) e future, some e)
  | w => (w, none)

def current? : Walk → Option HistoryEntry
  | nowhere => none
  | here _ current _ => some current

def size : Walk → Nat
  | nowhere => 0
  | here past _ future => past.length + 1 + future.length

def isEmpty : Walk → Bool
  | nowhere => true
  | here _ _ _ => false

def move (w : Walk) : HistoryMove → Walk × Option HistoryEntry
  | .push e => (w.push e, none)
  | .replace e => (w.replace e, none)
  | .back => w.back
  | .forward => w.forward

def view (w : Walk) (returned : Option HistoryEntry) : HistoryView :=
  ⟨returned, w.current?, w.size, w.isEmpty⟩

def moveAll (moves : List HistoryMove) : Walk × List HistoryView :=
  HistoryMove.run move view nowhere moves

/-- The list of entries with a cursor that holds the same. -/
def history : Walk → History
  | nowhere => History.empty
  | here past current future => ⟨past.reverse ++ current :: future, some past.length⟩

variable (w : Walk) (e : HistoryEntry)

/-! ## Every operation does the same to both -/

theorem history_push : w.history.push e = (w.push e).history := by
  cases w with
  | nowhere => rfl
  | here past current future =>
      have hkept : (past.reverse ++ current :: future).take (past.length + 1) =
          (current :: past).reverse := by
        rw [List.append_cons, List.reverse_cons, List.take_left' (by simp)]
      simp only [history, push, History.push, hkept, List.length_reverse]

theorem history_replace : w.history.replace e = (w.replace e).history := by
  cases w with
  | nowhere => rfl
  | here past current future =>
      have hset : (past.reverse ++ current :: future).set past.length e =
          past.reverse ++ e :: future := by
        rw [List.set_append_right _ _ (by simp), List.length_reverse, Nat.sub_self,
          List.set_cons_zero]
      have hplaced : (here past current future).history.CursorPlaced := by
        simp [history, History.CursorPlaced]
      rw [History.replace_of_cursor_eq_some hplaced rfl]
      simp only [history, replace, hset]

theorem history_back : w.history.back = (w.back.1.history, w.back.2) := by
  rcases w with _ | ⟨_ | ⟨e, past⟩, current, future⟩
  · rfl
  · rfl
  · rw [History.back_of_cursor_eq_succ rfl]
    simp [history, back]

theorem history_forward : w.history.forward = (w.forward.1.history, w.forward.2) := by
  rcases w with _ | ⟨past, current, _ | ⟨e, future⟩⟩
  · rfl
  · exact History.forward_of_cursor_at_end (by simp [history])
  · rw [History.forward_of_cursor_lt rfl (by simp [history])]
    simp [history, forward]

theorem history_move (m : HistoryMove) :
    w.history.move m = ((w.move m).1.history, (w.move m).2) := by
  cases m with
  | push e => simp only [History.move, move, w.history_push e]
  | replace e => simp only [History.move, move, w.history_replace e]
  | back => exact w.history_back
  | forward => exact w.history_forward

theorem current?_history : w.history.current? = w.current? := by
  cases w with
  | nowhere => rfl
  | here past current future => simp [history, History.current?, current?]

theorem view_history (returned : Option HistoryEntry) :
    w.history.view returned = w.view returned := by
  have hcurrent := w.current?_history
  cases w with
  | nowhere => rfl
  | here past current future =>
      rw [History.view, hcurrent, view]
      simp only [HistoryView.mk.injEq, true_and]
      constructor
      · simp [history, History.size, size]
        omega
      · simp [history, History.isEmpty, isEmpty]

/-- Moves one after another do the same to both, and show the same. -/
theorem run_history (moves : List HistoryMove) :
    HistoryMove.run History.move History.view w.history moves =
      ((HistoryMove.run move view w moves).1.history, (HistoryMove.run move view w moves).2) := by
  induction moves generalizing w with
  | nil => rfl
  | cons m rest ih =>
      simp only [HistoryMove.run, history_move, view_history, ih]

/-! ## There and back -/

theorem forward_back (he : w.back.2 = some e) : w.back.1.forward = (w, w.current?) := by
  rcases w with _ | ⟨_ | ⟨e, past⟩, current, future⟩
  · cases he
  · cases he
  · rfl

theorem back_forward (he : w.forward.2 = some e) : w.forward.1.back = (w, w.current?) := by
  rcases w with _ | ⟨past, current, _ | ⟨e, future⟩⟩
  · cases he
  · cases he
  · rfl

/-- What lies behind the current entry stays there, whatever move is made. -/
theorem prefix_move (past : List HistoryEntry) (current : HistoryEntry)
    (future : List HistoryEntry) (m : HistoryMove) :
    past.reverse <+: ((here past current future).move m).1.history.entries := by
  cases m with
  | push e => simp [move, push, history]
  | replace e => simp [move, replace, history]
  | back => cases past <;> simp [move, back, history]
  | forward => cases future <;> simp [move, forward, history]

end Walk

namespace History

/-- How a history that moves led to stands, and what a further move does to it. -/
structure Steady (h : History) : Prop where
  /-- There is no cursor exactly where there are no entries. -/
  cursor_eq_none_iff : h.cursor = none ↔ h.entries = []
  /-- A cursor is on an entry. -/
  cursor_lt : ∀ c, h.cursor = some c → c < h.size
  /-- So there is a current entry wherever there are entries. -/
  current_isSome : h.isEmpty = false → h.current?.isSome
  /-- An entry that is replaced is there. -/
  replaced_lt : h.isEmpty = false → h.cursor.getD 0 < h.size
  /-- No move changes the entries behind the cursor. -/
  behind : ∀ m c, h.cursor = some c → (h.move m).1.entries.take c = h.entries.take c
  /-- After a move back the way forward leads to the same history. -/
  back_forward : ∀ e, h.back.2 = some e → h.back.1.forward = (h, h.current?)
  /-- After a move forward the way back leads to the same history. -/
  forward_back : ∀ e, h.forward.2 = some e → h.forward.1.back = (h, h.current?)

theorem steady_history (w : Walk) : w.history.Steady where
  cursor_eq_none_iff := by cases w <;> simp [Walk.history, empty]
  cursor_lt := by
    intro c hc
    cases w with
    | nowhere => cases hc
    | here past current future =>
        cases hc
        simp [Walk.history, size]
  current_isSome := by
    intro hentries
    rw [w.current?_history]
    cases w with
    | nowhere => cases hentries
    | here past current future => rfl
  replaced_lt := by
    intro hentries
    cases w with
    | nowhere => cases hentries
    | here past current future => simp [Walk.history, size]
  behind := by
    intro m c hc
    cases w with
    | nowhere => cases hc
    | here past current future =>
        cases hc
        obtain ⟨ahead, hahead⟩ := Walk.prefix_move past current future m
        rw [Walk.history_move, ← hahead, Walk.history, List.take_left' List.length_reverse,
          List.take_left' List.length_reverse]
  back_forward := by
    intro e he
    rw [w.history_back] at he ⊢
    rw [w.back.1.history_forward, w.forward_back e he, w.current?_history]
  forward_back := by
    intro e he
    rw [w.history_forward] at he ⊢
    rw [w.forward.1.history_back, w.back_forward e he, w.current?_history]

/-- Whatever moves are made, one after another, the list of entries with a cursor shows after each of
them what the history of a browser shows, and ends up steady. -/
theorem moves_like_walk (moves : List HistoryMove) :
    (moveAll moves).2 = (Walk.moveAll moves).2 ∧ (moveAll moves).1.Steady := by
  have hrun : moveAll moves = ((Walk.moveAll moves).1.history, (Walk.moveAll moves).2) :=
    Walk.nowhere.run_history moves
  rw [hrun]
  exact ⟨rfl, steady_history _⟩

end History

end BlogSearch
