import BlogSearch.Proofs.Browser.Overlap

/-!
# The timeline of overlapping actions

A moment is a move together with the states before and after it.  The timeline of a run lists its
moments in order, so what happened before a moment, and what happens after it, is a timeline too.
-/

namespace BlogSearch

/-- A move that was made, between the states before and after it. -/
structure Moment where
  before : Overlap
  move : Move
  after : Overlap

namespace Overlap

/-- A run of moves from a state to another one, with its moments. -/
inductive Timeline (start : Overlap) : List Moment → Overlap → Prop
  | nil : Timeline start [] start
  | next {past : List Moment} {o o' : Overlap} {move : Move}
      (before : start.Timeline past o) (now : o.take move = some o') :
      Timeline start (past ++ [⟨o, move, o'⟩]) o'

namespace Timeline

variable {start o o' : Overlap} {past earlier later : List Moment} {m : Moment} {move : Move}

/-- What each move keeps, a timeline keeps. -/
theorem preserves
    {P : Overlap → Prop} (hstep : ∀ o move o', P o → o.take move = some o' → P o')
    (h : start.Timeline past o) (hstart : P start) : P o := by
  induction h with
  | nil => exact hstart
  | next before now ih => exact hstep _ _ _ ih now

/-- A moment parts a timeline in two. -/
theorem split (h : start.Timeline (earlier ++ m :: later) o) :
    start.Timeline earlier m.before ∧ m.before.take m.move = some m.after ∧
      m.after.Timeline later o := by
  generalize hpast : earlier ++ m :: later = past at h
  induction h generalizing later with
  | nil => cases (List.append_eq_nil_iff.mp hpast).2
  | @next past o o' move before now ih =>
      rcases List.eq_nil_or_concat later with rfl | ⟨rest, last, rfl⟩
      · obtain ⟨rfl, hm⟩ := List.append_inj' hpast rfl
        cases hm
        exact ⟨before, now, .nil⟩
      · rw [List.concat_eq_append, ← List.cons_append, ← List.append_assoc] at hpast
        obtain ⟨hrest, hlast⟩ := List.append_inj' hpast rfl
        cases hlast
        obtain ⟨hearlier, htake, hlater⟩ := ih hrest
        rw [List.concat_eq_append]
        exact ⟨hearlier, htake, hlater.next now⟩

/-- Of two moments of a timeline, the state after the earlier one leads to that before the later
one. -/
theorem split_mem (h : start.Timeline (earlier ++ m :: later) o) {m' : Moment} (hm' : m' ∈ later) :
    ∃ between, m.after.Timeline between m'.before := by
  obtain ⟨between, rest, rfl⟩ := List.append_of_mem hm'
  exact ⟨between, h.split.2.2.split.1⟩

theorem cons {o'' : Overlap} (h : o.take move = some o') (hrest : o'.Timeline past o'') :
    o.Timeline (⟨o, move, o'⟩ :: past) o'' := by
  induction hrest with
  | nil => exact Timeline.nil.next h
  | next before now ih => exact ih.next now

end Timeline

/-- Every run of moves has a timeline. -/
theorem Reaches.timeline {o o' : Overlap} (h : o.Reaches o') : ∃ past, o.Timeline past o' := by
  obtain ⟨moves, hplay⟩ := h
  induction moves generalizing o with
  | nil =>
      cases hplay
      exact ⟨[], .nil⟩
  | cons move rest ih =>
      obtain ⟨next, htake, hrest⟩ := Option.bind_eq_some_iff.mp hplay
      obtain ⟨past, hpast⟩ := ih hrest
      exact ⟨_, hpast.cons htake⟩

end Overlap

end BlogSearch
