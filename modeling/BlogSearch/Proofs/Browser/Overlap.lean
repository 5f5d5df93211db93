import BlogSearch.Browser.Run
import BlogSearch.Proofs.Browser.Tickets

/-!
# Overlapping actions, step by step

Any number of actions share one browser.  A move starts an action, lets one take its next indivisible
step, or brings one the reply to its request; which action moves next, and what the replies say, is
left open, so the runs of moves are all the ways in which the actions can overlap.
-/

namespace BlogSearch

/-- Actions that overlap: the browser they share, and their stages in the order of their starts. -/
structure Overlap where
  browser : Browser
  stages : List Stage

/-- What can happen next while actions overlap. -/
inductive Move where
  | begin (action : Action)
  | go (call : Nat)
  | reply (call : Nat) (reply : Reply)

/-- The action that makes a move. -/
def Move.call? : Move → Option Nat
  | .begin _ => none
  | .go call => some call
  | .reply call _ => some call

namespace Overlap

/-- A browser on which no action has been started. -/
def new (form : SearchForm) (page : PageView) : Overlap :=
  ⟨{ Browser.new form with page := page }, []⟩

/-- Makes a move, if it can be made. -/
def take (o : Overlap) : Move → Option Overlap
  | .begin action => some ⟨o.browser, o.stages ++ [.start action]⟩
  | .go call =>
      o.stages[call]?.bind fun stage =>
        match stage.next o.browser with
        | .moved browser stage' => some ⟨browser, o.stages.set call stage'⟩
        | _ => none
  | .reply call reply =>
      o.stages[call]?.bind fun stage =>
        match stage.next o.browser with
        | .ask _ resume => some ⟨o.browser, o.stages.set call (resume reply)⟩
        | _ => none

/-- Makes moves one after another. -/
def play (o : Overlap) : List Move → Option Overlap
  | [] => some o
  | move :: rest => (o.take move).bind fun o' => o'.play rest

/-- One state of overlapping actions leads to another. -/
def Reaches (o o' : Overlap) : Prop :=
  ∃ moves, o.play moves = some o'

/-- Every ticket, of the browser and of a stage, was handed out. -/
structure TicketsIssued (o : Overlap) : Prop where
  browser : o.browser.TicketsIssued
  stages : ∀ stage ∈ o.stages, ∀ t ∈ stage.ticket?, t ≤ o.browser.generation

/-- The action stands at a stage with a property. -/
def At (o : Overlap) (call : Nat) (P : Stage → Prop) : Prop :=
  ∃ stage, o.stages[call]? = some stage ∧ P stage

variable {o o' : Overlap} {call : Nat} {move : Move}

theorem take_go_eq_some_iff :
    o.take (.go call) = some o' ↔
      ∃ stage browser stage', o.stages[call]? = some stage ∧
        stage.next o.browser = .moved browser stage' ∧
        o' = ⟨browser, o.stages.set call stage'⟩ := by
  simp only [take, Option.bind_eq_some_iff]
  constructor
  · rintro ⟨stage, hstage, h⟩
    split at h
    · next browser stage' hnext =>
        cases h
        exact ⟨stage, browser, stage', hstage, hnext, rfl⟩
    · cases h
  · rintro ⟨stage, browser, stage', hstage, hnext, rfl⟩
    refine ⟨stage, hstage, ?_⟩
    rw [hnext]

theorem take_reply_eq_some_iff {reply : Reply} :
    o.take (.reply call reply) = some o' ↔
      ∃ stage request resume, o.stages[call]? = some stage ∧
        stage.next o.browser = .ask request resume ∧
        o' = ⟨o.browser, o.stages.set call (resume reply)⟩ := by
  simp only [take, Option.bind_eq_some_iff]
  constructor
  · rintro ⟨stage, hstage, h⟩
    split at h
    · next request resume hnext =>
        cases h
        exact ⟨stage, request, resume, hstage, hnext, rfl⟩
    · cases h
  · rintro ⟨stage, request, resume, hstage, hnext, rfl⟩
    refine ⟨stage, hstage, ?_⟩
    rw [hnext]

/-- What each move does keeps `P`, so every run of moves does. -/
theorem Reaches.preserves
    {P : Overlap → Prop} (hstep : ∀ o move o', P o → o.take move = some o' → P o')
    (h : o.Reaches o') (ho : P o) : P o' := by
  obtain ⟨moves, hplay⟩ := h
  induction moves generalizing o with
  | nil =>
      cases hplay
      exact ho
  | cons move rest ih =>
      obtain ⟨next, htake, hrest⟩ := Option.bind_eq_some_iff.mp hplay
      exact ih (hstep o move next ho htake) hrest

theorem Reaches.refl (o : Overlap) : o.Reaches o :=
  ⟨[], rfl⟩

theorem stages_take_of_call_ne
    (h : o.take move = some o') (hmove : move.call? ≠ some call) (hcall : call < o.stages.length) :
    o'.stages[call]? = o.stages[call]? := by
  cases move with
  | begin action =>
      cases h
      exact List.getElem?_append_left hcall
  | go other =>
      obtain ⟨stage, browser, stage', -, -, rfl⟩ := take_go_eq_some_iff.mp h
      have hne : other ≠ call := fun heq => hmove (congrArg some heq)
      exact List.getElem?_set_ne hne
  | reply other reply =>
      obtain ⟨stage, request, resume, -, -, rfl⟩ := take_reply_eq_some_iff.mp h
      have hne : other ≠ call := fun heq => hmove (congrArg some heq)
      exact List.getElem?_set_ne hne

/-- An action that is not the one to move stays at its stage. -/
theorem At.other
    {P : Stage → Prop} (hat : o.At call P) (hmove : move.call? ≠ some call)
    (h : o.take move = some o') : o'.At call P := by
  obtain ⟨stage, hstage, hP⟩ := hat
  refine ⟨stage, ?_, hP⟩
  rw [stages_take_of_call_ne h hmove (List.getElem?_eq_some_iff.mp hstage).1]
  exact hstage

theorem At.mono
    {P Q : Stage → Prop} (hat : o.At call P) (h : ∀ stage, P stage → Q stage) : o.At call Q := by
  obtain ⟨stage, hstage, hP⟩ := hat
  exact ⟨stage, hstage, h stage hP⟩

/-- An action that moves takes a step of its own, or gets the reply to its request. -/
theorem At.self
    {P : Stage → Prop} (hat : o.At call P) (hmove : move.call? = some call)
    (h : o.take move = some o') :
    (∃ stage b stage', P stage ∧ stage.Step o.browser b stage' ∧ o'.browser = b ∧
      o'.stages[call]? = some stage') ∨
    ∃ stage request resume reply, P stage ∧ stage.next o.browser = .ask request resume ∧
      o'.browser = o.browser ∧ o'.stages[call]? = some (resume reply) := by
  obtain ⟨stage, hstage, hP⟩ := hat
  have hcall : call < o.stages.length := (List.getElem?_eq_some_iff.mp hstage).1
  cases move with
  | begin action => cases hmove
  | go other =>
      cases hmove
      obtain ⟨stage₁, b, stage', hstage₁, hnext, rfl⟩ := take_go_eq_some_iff.mp h
      cases hstage.symm.trans hstage₁
      have hstep := Stage.step_of_next_eq_moved hnext
      exact Or.inl ⟨stage, b, stage', hP, hstep, rfl, List.getElem?_set_self hcall⟩
  | reply other reply =>
      cases hmove
      obtain ⟨stage₁, request, resume, hstage₁, hnext, rfl⟩ := take_reply_eq_some_iff.mp h
      cases hstage.symm.trans hstage₁
      exact Or.inr
        ⟨stage, request, resume, reply, hP, hnext, rfl, List.getElem?_set_self hcall⟩

/-- An action that goes on takes a step. -/
theorem step_of_take_go
    {stage : Stage} (hstage : o.stages[call]? = some stage) (h : o.take (.go call) = some o') :
    ∃ stage', stage.Step o.browser o'.browser stage' ∧ o'.stages[call]? = some stage' := by
  obtain ⟨stage₁, b, stage', hstage₁, hnext, rfl⟩ := take_go_eq_some_iff.mp h
  cases hstage.symm.trans hstage₁
  exact ⟨stage', Stage.step_of_next_eq_moved hnext,
    List.getElem?_set_self (List.getElem?_eq_some_iff.mp hstage).1⟩

/-- Only an action that goes on changes the browser. -/
theorem browser_of_take (h : o.take move = some o') :
    (∃ call, move = .go call) ∨ o'.browser = o.browser := by
  cases move with
  | begin action =>
      cases h
      exact Or.inr rfl
  | go call => exact Or.inl ⟨call, rfl⟩
  | reply call reply =>
      obtain ⟨stage, request, resume, -, -, rfl⟩ := take_reply_eq_some_iff.mp h
      exact Or.inr rfl

/-- Where an action stands after a move, it stood before, or it has just been started, or the move has
brought it there. -/
theorem stage_cases_of_take
    {stage' : Stage} (h : o.take move = some o') (hstage : o'.stages[call]? = some stage') :
    o.stages[call]? = some stage' ∨
    (∃ action, move = .begin action ∧ stage' = .start action) ∨
    (∃ stage, move = .go call ∧ o.stages[call]? = some stage ∧
      stage.Step o.browser o'.browser stage') ∨
    ∃ stage request resume reply, move = .reply call reply ∧ o.stages[call]? = some stage ∧
      stage.next o.browser = .ask request resume ∧ stage' = resume reply := by
  cases move with
  | begin action =>
      cases h
      rcases Nat.lt_or_ge call o.stages.length with hlt | hge
      · exact Or.inl ((List.getElem?_append_left hlt).symm.trans hstage)
      · have hnew := (List.getElem?_append_right hge).symm.trans hstage
        exact Or.inr (Or.inl ⟨action, rfl, List.mem_singleton.mp (List.mem_of_getElem? hnew)⟩)
  | go other =>
      by_cases hcall : other = call
      · subst hcall
        obtain ⟨stage, -, -, hbefore, -⟩ := take_go_eq_some_iff.mp h
        obtain ⟨stage₁, hstep, hself⟩ := step_of_take_go hbefore h
        cases hstage.symm.trans hself
        exact Or.inr (Or.inr (Or.inl ⟨stage, rfl, hbefore, hstep⟩))
      · obtain ⟨stage, b, stage₁, -, -, rfl⟩ := take_go_eq_some_iff.mp h
        exact Or.inl ((List.getElem?_set_ne hcall).symm.trans hstage)
  | reply other reply =>
      obtain ⟨stage, request, resume, hbefore, hnext, rfl⟩ := take_reply_eq_some_iff.mp h
      by_cases hcall : other = call
      · subst hcall
        have hself := List.getElem?_set_self (a := resume reply)
          (List.getElem?_eq_some_iff.mp hbefore).1
        exact Or.inr (Or.inr (Or.inr ⟨stage, request, resume, reply, rfl, hbefore, hnext,
          Option.some_inj.mp (hstage.symm.trans hself)⟩))
      · exact Or.inl ((List.getElem?_set_ne hcall).symm.trans hstage)

theorem ticketsIssued_new (form : SearchForm) (page : PageView) :
    (Overlap.new form page).TicketsIssued := by
  constructor
  · exact Browser.ticketsIssued_new form page
  · intro stage hstage
    cases hstage

theorem generation_le_take (h : o.take move = some o') :
    o.browser.generation ≤ o'.browser.generation := by
  cases move with
  | begin action =>
      cases h
      exact Nat.le_refl _
  | go call =>
      obtain ⟨stage, browser, stage', -, hnext, rfl⟩ := take_go_eq_some_iff.mp h
      exact (Stage.step_of_next_eq_moved hnext).generation_le
  | reply call reply =>
      obtain ⟨stage, request, resume, -, -, rfl⟩ := take_reply_eq_some_iff.mp h
      exact Nat.le_refl _

theorem TicketsIssued.take
    (ho : o.TicketsIssued) (h : o.take move = some o') :
    o'.TicketsIssued := by
  have hmono := generation_le_take h
  cases move with
  | begin action =>
      cases h
      refine ⟨ho.browser, ?_⟩
      intro stage hstage t ht
      rcases List.mem_append.mp hstage with hold | hnew
      · exact ho.stages stage hold t ht
      · cases List.mem_singleton.mp hnew
        cases ht
  | go call =>
      obtain ⟨stage, browser, stage', hstage, hnext, rfl⟩ := take_go_eq_some_iff.mp h
      have hstep := Stage.step_of_next_eq_moved hnext
      refine ⟨hstep.ticketsIssued ho.browser, ?_⟩
      intro other hother t ht
      rcases List.mem_or_eq_of_mem_set hother with hold | rfl
      · exact Nat.le_trans (ho.stages other hold t ht) hmono
      · exact Nat.le_of_eq (hstep.eq_generation_of_mem_ticket? ht)
  | reply call reply =>
      obtain ⟨stage, request, resume, hstage, hnext, rfl⟩ := take_reply_eq_some_iff.mp h
      refine ⟨ho.browser, ?_⟩
      intro other hother t ht
      rcases List.mem_or_eq_of_mem_set hother with hold | rfl
      · exact ho.stages other hold t ht
      · exact ho.stages stage (List.mem_of_getElem? hstage) t (Stage.mem_ticket?_of_ask hnext ht)

theorem TicketsIssued.of_reaches
    (ho : o.TicketsIssued) (h : o.Reaches o') : o'.TicketsIssued :=
  h.preserves (fun _ _ _ hissued htake => hissued.take htake) ho

/-! ## Actions one after another are one way to overlap -/

theorem Reaches.head
    {o'' : Overlap} (h : o.take move = some o') (hrest : o'.Reaches o'') : o.Reaches o'' := by
  obtain ⟨moves, hplay⟩ := hrest
  refine ⟨move :: moves, ?_⟩
  rw [play, h]
  exact hplay

theorem Reaches.trans
    {o'' : Overlap} (h : o.Reaches o') (hrest : o'.Reaches o'') : o.Reaches o'' := by
  obtain ⟨moves, hplay⟩ := h
  induction moves generalizing o with
  | nil =>
      cases hplay
      exact hrest
  | cons move moves ih =>
      obtain ⟨next, htake, hmoves⟩ := Option.bind_eq_some_iff.mp hplay
      exact (ih hmoves).head htake

variable {σ : Type} (net : Network σ)

/-- An action that runs alone to its end, beside actions that wait. -/
theorem reaches_run (s : σ) (b : Browser) (stage : Stage) :
    ∀ stages : List Stage, stages[call]? = some stage →
      Reaches ⟨b, stages⟩
        ⟨(net.run s b stage).2.1, stages.set call (.finished (net.run s b stage).2.2)⟩ := by
  fun_induction net.run s b stage with
  | case1 s b stage result h =>
      intro stages hstage
      cases Stage.eq_finished_of_next_eq_done h
      obtain ⟨hcall, hfinished⟩ := List.getElem?_eq_some_iff.mp hstage
      rw [← hfinished, List.set_getElem_self]
      exact Reaches.refl _
  | case2 s b stage b' stage' h ih =>
      intro stages hstage
      have hcall : call < stages.length := (List.getElem?_eq_some_iff.mp hstage).1
      have htake : take ⟨b, stages⟩ (.go call) = some ⟨b', stages.set call stage'⟩ :=
        take_go_eq_some_iff.mpr ⟨stage, b', stage', hstage, h, rfl⟩
      have hrest := ih (stages.set call stage') (List.getElem?_set_self hcall)
      rw [List.set_set] at hrest
      exact hrest.head htake
  | case3 s b stage request resume h told ih =>
      intro stages hstage
      have hcall : call < stages.length := (List.getElem?_eq_some_iff.mp hstage).1
      have htake : take ⟨b, stages⟩ (.reply call told.2) =
          some ⟨b, stages.set call (resume told.2)⟩ :=
        take_reply_eq_some_iff.mpr ⟨stage, request, resume, hstage, h, rfl⟩
      have hrest := ih (stages.set call (resume told.2)) (List.getElem?_set_self hcall)
      rw [List.set_set] at hrest
      exact hrest.head htake

/-- Whatever actions one after another lead to, overlapping actions can lead to. -/
theorem reaches_performAll
    (s : σ) (b : Browser) (stages : List Stage) (actions : List Action) :
    Reaches ⟨b, stages⟩
      ⟨(net.performAll s b actions).2.1,
        stages ++ (net.performAll s b actions).2.2.map .finished⟩ := by
  induction actions generalizing s b stages with
  | nil =>
      simp only [Network.performAll, List.map_nil, List.append_nil]
      exact Reaches.refl _
  | cons action rest ih =>
      have hbegin : take ⟨b, stages⟩ (.begin action) = some ⟨b, stages ++ [.start action]⟩ := rfl
      have hrun := reaches_run net s b (.start action) (stages ++ [.start action])
        List.getElem?_concat_length
      rw [List.set_append_right _ _ (Nat.le_refl _), Nat.sub_self] at hrun
      have hrest := ih (net.perform s b action).1 (net.perform s b action).2.1
        (stages ++ [.finished (net.perform s b action).2.2])
      rw [List.append_assoc] at hrest
      exact (hrun.head hbegin).trans hrest

end Overlap

end BlogSearch
