import BlogSearch.Proofs.Browser.Rounds
import BlogSearch.Proofs.Browser.Timeline
import BlogSearch.Proofs.Page.View

/-!
# No stale answer is shown

Of the searches that overlap, only the newest round shows its answer.  An older round is cancelled, and
gives up while it waits; if its answer came first, the comparison of its ticket with the generation
keeps the answer from the page.  Both follow from what holds of the rounds under way: the round in
flight is the newest one, and every other one is cancelled.
-/

namespace BlogSearch

/-- An answer to a round of a search, and the ticket of the round. -/
structure Showing where
  call : Nat
  ticket : Nat
  round : Attempt
  response : SearchResponse

namespace Moment

variable {m : Moment} {s : Showing}

/-- The moment shows an answer: the search that has it goes on, and is not superseded. -/
structure Shows (m : Moment) (s : Showing) : Prop where
  move : m.move = .go s.call
  answered : m.before.stages[s.call]? = some (.answered s.ticket s.round s.response)
  kept : m.after.stages[s.call]? ≠ some .superseded

/-- The moment brings an answer: the search that gets it has asked for what its round searches. -/
structure Brings (m : Moment) (s : Showing) : Prop where
  awaiting : m.before.stages[s.call]? = some (.awaiting s.ticket s.round)
  asks : ∃ resume, (Stage.awaiting s.ticket s.round).next m.before.browser =
    .ask (.search s.round.form.request) resume
  reply : ∃ reply, m.move = .reply s.call reply ∧
    reply.read SearchResponse.read = .ok s.response

/-- The moment is one of the round of a search that has a ticket. -/
structure Serves (m : Moment) (call ticket : Nat) : Prop where
  move : m.move.call? = some call
  round : ∃ round, m.before.round? call = some (ticket, round) ∨
    m.after.round? call = some (ticket, round)

/-- At this moment the round of a search that has a ticket ends because it is superseded. -/
structure Supersedes (m : Moment) (call ticket : Nat) : Prop where
  move : m.move = .go call
  round : ∃ round, m.before.round? call = some (ticket, round)
  superseded : m.after.stages[call]? = some .superseded

end Moment

/-- In a run of overlapping actions nothing stale was shown, and nothing stale will be. -/
structure Overlap.NothingStale (past : List Moment) (o : Overlap) : Prop where
  /-- A round under way that is older than the newest one is cancelled. -/
  cancelled : ∀ call ticket round, o.round? call = some (ticket, round) →
    ticket < o.browser.generation → ticket ∈ o.browser.cancelled
  /-- The newest ticket is in flight, or there is none, or its round has been shown. -/
  inFlight : o.browser.inFlight = some o.browser.generation ∨
    o.browser.inFlight = none ∧
      (o.browser.generation = 0 ∨ ∃ m ∈ past, ∃ s, m.Shows s ∧ s.ticket = o.browser.generation)
  /-- What is shown is the answer to the newest round, for the form submitted last. -/
  newest : ∀ earlier m later s, past = earlier ++ m :: later → m.Shows s →
    s.ticket = m.before.browser.generation ∧ m.before.browser.last = some s.round.form ∧
      m.after.browser.page = m.before.browser.page.showResponse s.response ∧
        ∃ m' ∈ earlier, m'.Brings s
  /-- The panel and the scroll position change only where an answer is shown. -/
  written : ∀ m ∈ past, (∃ s, m.Shows s) ∨
    m.after.browser.page.panel = m.before.browser.page.panel ∧
      m.after.browser.page.scrollTop = m.before.browser.page.scrollTop
  /-- Answers are shown in the order of their tickets. -/
  rising : past.Pairwise fun m m' => ∀ s s', m.Shows s → m'.Shows s' → s.ticket < s'.ticket
  /-- A round that ends because it is superseded never changes what is displayed. -/
  superseded : ∀ call ticket, (∃ m ∈ past, m.Supersedes call ticket) →
    ∀ m ∈ past, m.Serves call ticket →
      m.after.browser.page.SameDisplay m.before.browser.page

namespace Stage

variable {b b' : Browser} {stage stage' : Stage}

/-- The first step of an action keeps the panel and the scroll position. -/
theorem view_begin {action : Action} (h : begin b action = .moved b' stage') :
    b'.page.panel = b.page.panel ∧ b'.page.scrollTop = b.page.scrollTop := by
  cases action with
  | toggle index =>
      simp only [begin] at h
      split at h
      · next page preview htoggle =>
          cases h
          obtain ⟨r, -, -, rfl⟩ := PageView.toggle_eq_ok_iff.mp htoggle
          exact ⟨rfl, rfl⟩
      · cases h
        exact ⟨rfl, rfl⟩
  | _ =>
      simp only [begin] at h
      (try split at h) <;> cases h <;> exact ⟨rfl, rfl⟩

/-- A step writes the panel and the scroll position only where it shows an answer. -/
theorem Step.view (h : stage.Step b b' stage') :
    (∃ round response, stage = .answered b.generation round response) ∨
      b'.page.panel = b.page.panel ∧ b'.page.scrollTop = b.page.scrollTop := by
  cases h with
  | start hbegin => exact Or.inr (view_begin hbegin)
  | replay entry => exact Or.inr ⟨rfl, rfl⟩
  | register round =>
      right
      simp only [Browser.register]
      split <;> exact ⟨rfl, rfl⟩
  | giveUp hcancelled => exact Or.inr ⟨rfl, rfl⟩
  | correct hnewest hagain =>
      subst hnewest
      exact Or.inl ⟨_, _, rfl⟩
  | conclude hnewest hnone =>
      subst hnewest
      exact Or.inl ⟨_, _, rfl⟩
  | discard hstale => exact Or.inr ⟨rfl, rfl⟩
  | tell news =>
      right
      cases news with
      | loggedIn r =>
          simp only [Browser.hear]
          split <;> exact ⟨rfl, rfl⟩
      | _ => exact ⟨rfl, rfl⟩

/-- A step of a round displays nothing unless it shows the answer. -/
theorem Step.sameDisplay
    (h : stage.Step b b' stage') {p : Nat × Attempt}
    (hround : stage.round? = some p ∨ stage'.round? = some p) :
    (∃ round response, stage = .answered b.generation round response) ∨
      b'.page.SameDisplay b.page := by
  cases h with
  | start hbegin =>
      rcases hround with hbefore | hafter
      · cases hbefore
      · rw [(sameTickets_begin hbegin).2] at hafter
        cases hafter
  | replay entry => rcases hround with h | h <;> cases h
  | register round =>
      right
      simp only [Browser.register]
      split
      · exact PageView.sameDisplay_navigate _ _
      · exact PageView.SameDisplay.refl _
  | giveUp hcancelled => exact Or.inr (PageView.SameDisplay.refl _)
  | correct hnewest hagain =>
      subst hnewest
      exact Or.inl ⟨_, _, rfl⟩
  | conclude hnewest hnone =>
      subst hnewest
      exact Or.inl ⟨_, _, rfl⟩
  | discard hstale => exact Or.inr (PageView.SameDisplay.refl _)
  | tell news => rcases hround with h | h <;> cases h

/-- A search that has an answer shows it if its ticket is the newest, and else is superseded. -/
theorem Step.answered_cases
    {ticket : Nat} {round : Attempt} {response : SearchResponse}
    (h : (answered ticket round response).Step b b' stage') :
    stage'.round? = none ∧
      (ticket = b.generation ∧ b' = b.display response ∧ stage' ≠ superseded ∨
        ticket ≠ b.generation ∧ b' = b ∧ stage' = superseded) := by
  cases h with
  | correct hnewest hagain => exact ⟨rfl, Or.inl ⟨hnewest.symm, rfl, nofun⟩⟩
  | conclude hnewest hnone => exact ⟨rfl, Or.inl ⟨hnewest.symm, rfl, nofun⟩⟩
  | discard hstale => exact ⟨rfl, Or.inr ⟨hstale.symm, rfl, rfl⟩⟩

/-- An answer comes with a reply, and not by a step. -/
theorem Step.ne_answered
    (h : stage.Step b b' stage') (ticket : Nat) (round : Attempt) (response : SearchResponse) :
    stage' ≠ .answered ticket round response := by
  rintro rfl
  cases h with
  | start hbegin => cases (sameTickets_begin hbegin).2

end Stage

namespace Moment

variable {m : Moment} {s : Showing} {call ticket : Nat}

theorem Shows.round (h : m.Shows s) : m.before.round? s.call = some (s.ticket, s.round) :=
  Overlap.round?_of_getElem? h.answered

/-- What is shown is the answer to the newest round, and the round ends. -/
theorem Shows.newest (h : m.Shows s) (htake : m.before.take m.move = some m.after) :
    s.ticket = m.before.browser.generation ∧
      m.after.browser = m.before.browser.display s.response ∧ m.after.round? s.call = none := by
  rw [h.move] at htake
  obtain ⟨stage', hstep, hself⟩ := Overlap.step_of_take_go h.answered htake
  obtain ⟨hnone, ⟨hnewest, hb, -⟩ | ⟨-, -, rfl⟩⟩ := hstep.answered_cases
  · exact ⟨hnewest, hb, (Overlap.round?_of_getElem? hself).trans hnone⟩
  · exact absurd hself h.kept

/-- The newest round shows its answer as soon as its search goes on. -/
theorem shows_of_newest
    {round : Attempt} {response : SearchResponse} (hmove : m.move = .go call)
    (hanswered : m.before.stages[call]? =
      some (.answered m.before.browser.generation round response))
    (htake : m.before.take m.move = some m.after) :
    m.Shows ⟨call, m.before.browser.generation, round, response⟩ := by
  refine ⟨hmove, hanswered, ?_⟩
  rw [hmove] at htake
  obtain ⟨stage', hstep, hself⟩ := Overlap.step_of_take_go hanswered htake
  obtain ⟨-, ⟨-, -, hkept⟩ | ⟨hstale, -, -⟩⟩ := hstep.answered_cases
  · intro h
    cases hself.symm.trans h
    exact hkept rfl
  · exact absurd rfl hstale

/-- A moment writes the panel and the scroll position only if it shows an answer. -/
theorem shows_or_view (htake : m.before.take m.move = some m.after) :
    (∃ s, m.Shows s) ∨
      m.after.browser.page.panel = m.before.browser.page.panel ∧
        m.after.browser.page.scrollTop = m.before.browser.page.scrollTop := by
  rcases Overlap.browser_of_take htake with ⟨call, hmove⟩ | hbrowser
  · have hgo := hmove ▸ htake
    obtain ⟨stage, -, -, hstage, -⟩ := Overlap.take_go_eq_some_iff.mp hgo
    obtain ⟨stage', hstep, -⟩ := Overlap.step_of_take_go hstage hgo
    rcases hstep.view with ⟨round, response, rfl⟩ | hview
    · exact Or.inl ⟨_, shows_of_newest hmove hstage htake⟩
    · exact Or.inr hview
  · rw [hbrowser]
    exact Or.inr ⟨rfl, rfl⟩

/-- A moment of a round displays nothing unless it shows the answer to this round. -/
theorem Serves.sameDisplay
    (h : m.Serves call ticket) (htake : m.before.take m.move = some m.after) :
    (∃ s, m.Shows s ∧ s.call = call ∧ s.ticket = ticket) ∨
      m.after.browser.page.SameDisplay m.before.browser.page := by
  obtain ⟨hmover, round, hround⟩ := h
  rcases Overlap.browser_of_take htake with ⟨other, hmove⟩ | hbrowser
  · rw [hmove] at hmover
    cases hmover
    have hgo := hmove ▸ htake
    obtain ⟨stage, -, -, hstage, -⟩ := Overlap.take_go_eq_some_iff.mp hgo
    obtain ⟨stage', hstep, hself⟩ := Overlap.step_of_take_go hstage hgo
    rw [Overlap.round?_of_getElem? hstage, Overlap.round?_of_getElem? hself] at hround
    rcases hstep.sameDisplay hround with ⟨round', response, rfl⟩ | hsame
    · refine Or.inl ⟨_, shows_of_newest hmove hstage htake, rfl, ?_⟩
      rcases hround with hbefore | hafter
      · cases hbefore
        rfl
      · rw [hstep.answered_cases.1] at hafter
        cases hafter
    · exact Or.inr hsame
  · rw [hbrowser]
    exact Or.inr (PageView.SameDisplay.refl _)

end Moment

namespace Overlap

variable {form : SearchForm} {page : PageView} {past : List Moment} {o o' : Overlap} {move : Move}
  {m : Moment} {s : Showing}

/-- An answer that a search has was there before the move, or was brought by it. -/
theorem brings_of_take
    (h : o.take move = some o')
    (hanswered : o'.stages[s.call]? = some (.answered s.ticket s.round s.response)) :
    o.stages[s.call]? = some (.answered s.ticket s.round s.response) ∨
      Moment.Brings ⟨o, move, o'⟩ s := by
  rcases stage_cases_of_take h hanswered with
    hbefore | ⟨action, -, hstart⟩ | ⟨stage, -, -, hstep⟩ |
    ⟨stage, request, resume, reply, rfl, hstage, hnext, hself⟩
  · exact Or.inl hbefore
  · cases hstart
  · exact absurd rfl (hstep.ne_answered s.ticket s.round s.response)
  · rcases Stage.ask_cases hnext with ⟨ticket, round, rfl, -, rfl, rfl⟩ | ⟨query, rfl, -, rfl⟩
    · obtain ⟨rfl, rfl, hread⟩ := Stage.receive_eq_answered_iff.mp hself.symm
      exact Or.inr ⟨hstage, ⟨_, hnext⟩, reply, rfl, hread⟩
    · have hnone := Stage.round?_resume query reply
      rw [← hself] at hnone
      cases hnone

namespace Timeline

theorem orderly (h : (Overlap.new form page).Timeline past o) : o.Orderly :=
  h.preserves (fun _ _ _ ho htake => ho.take htake) (orderly_new form page)

/-- Every answer that a search has was brought by a moment of the timeline. -/
theorem exists_brings
    (h : (Overlap.new form page).Timeline past o)
    (hanswered : o.stages[s.call]? = some (.answered s.ticket s.round s.response)) :
    ∃ m ∈ past, m.Brings s := by
  induction h with
  | nil => cases hanswered
  | next before now ih =>
      rcases brings_of_take now hanswered with hbefore | hbrings
      · obtain ⟨m, hm, hbrings⟩ := ih hbefore
        exact ⟨m, List.mem_append_left _ hm, hbrings⟩
      · exact ⟨_, List.mem_append_right _ (List.mem_singleton.mpr rfl), hbrings⟩

/-- The ticket of a round that was shown is retired. -/
theorem retired_of_shows
    (h : (Overlap.new form page).Timeline past o) (hm : m ∈ past) (hshows : m.Shows s) :
    o.Retired s.ticket := by
  obtain ⟨earlier, later, rfl⟩ := List.append_of_mem hm
  obtain ⟨hearlier, htake, hlater⟩ := h.split
  exact hlater.preserves (P := (Retired · s.ticket))
    (fun _ _ _ hretired hnext => hretired.take hnext)
    (hearlier.orderly.retired htake hshows.round (hshows.newest htake).2.2)

/-- The newest ticket is in flight, or there is none, or its round has been shown. -/
theorem inFlight_cases (h : (Overlap.new form page).Timeline past o) :
    o.browser.inFlight = some o.browser.generation ∨
      o.browser.inFlight = none ∧
        (o.browser.generation = 0 ∨
          ∃ m ∈ past, ∃ s, m.Shows s ∧ s.ticket = o.browser.generation) := by
  induction h with
  | nil => exact Or.inr ⟨rfl, Or.inl rfl⟩
  | @next past o o' move before now ih =>
      have hlater : ∀ {m}, m ∈ past → m ∈ past ++ [⟨o, move, o'⟩] := List.mem_append_left _
      cases ticketing_of_take now with
      | kept tickets rounds =>
          rw [tickets.inFlight, tickets.generation]
          rcases ih with hflight | ⟨hnone, hzero | ⟨m, hm, hshown⟩⟩
          · exact Or.inl hflight
          · exact Or.inr ⟨hnone, Or.inl hzero⟩
          · exact Or.inr ⟨hnone, Or.inr ⟨m, hlater hm, hshown⟩⟩
      | issued browser self others =>
          rw [browser]
          exact Or.inl rfl
      | shown answered browser self others =>
          have hshows := Moment.shows_of_newest (m := ⟨o, _, o'⟩) rfl answered now
          rw [browser]
          exact Or.inr ⟨rfl, Or.inr ⟨_, List.mem_append_right _ (List.mem_singleton.mpr rfl), _,
            hshows, rfl⟩⟩

/-- The tickets of the rounds that are shown rise. -/
theorem rising (h : (Overlap.new form page).Timeline past o) :
    past.Pairwise fun m m' => ∀ s s', m.Shows s → m'.Shows s' → s.ticket < s'.ticket := by
  induction h with
  | nil => exact List.Pairwise.nil
  | @next past o o' move before now ih =>
      refine List.pairwise_append.mpr ⟨ih, List.pairwise_singleton _ _, ?_⟩
      intro m hm m' hm' s s' hshows hshows'
      cases List.mem_singleton.mp hm'
      have hretired : o.Retired s.ticket := before.retired_of_shows hm hshows
      have hne : s.ticket ≠ s'.ticket := by
        intro heq
        exact hretired.rounds s'.call s'.round (heq ▸ hshows'.round)
      exact Nat.lt_of_le_of_ne ((hshows'.newest now).1 ▸ hretired.issued) hne

/-- A round that ends because it is superseded displays nothing before, then or after. -/
theorem sameDisplay_of_supersedes
    {call ticket : Nat} (h : (Overlap.new form page).Timeline past o) {m' : Moment}
    (hm : m ∈ past) (hsupersedes : m.Supersedes call ticket)
    (hm' : m' ∈ past) (hserves : m'.Serves call ticket) :
    m'.after.browser.page.SameDisplay m'.before.browser.page := by
  obtain ⟨hmove, ⟨round, hround⟩, hsuperseded⟩ := hsupersedes
  obtain ⟨earlier, later, rfl⟩ := List.append_of_mem hm
  obtain ⟨earlier', later', hsplit'⟩ := List.append_of_mem hm'
  have htake' : m'.before.take m'.move = some m'.after := (hsplit' ▸ h).split.2.1
  obtain ⟨hearlier, htake, -⟩ := h.split
  rcases hserves.sameDisplay htake' with ⟨s, hshows, rfl, rfl⟩ | hsame
  · exfalso
    rcases List.mem_append.mp hm' with hbefore | hrest
    · exact (hearlier.retired_of_shows hbefore hshows).rounds _ round hround
    · rcases List.mem_cons.mp hrest with rfl | hafter
      · exact hshows.kept hsuperseded
      · have hretired : m.after.Retired s.ticket :=
          hearlier.orderly.retired htake hround (round?_of_getElem? hsuperseded)
        obtain ⟨between, hbetween⟩ := h.split_mem hafter
        have hlater : m'.before.Retired s.ticket :=
          hbetween.preserves (P := (Retired · s.ticket))
            (fun _ _ _ hretired hnext => hretired.take hnext) hretired
        exact hlater.rounds _ _ hshows.round
  · exact hsame

/-- In no run of overlapping actions is a stale answer shown. -/
theorem nothingStale (h : (Overlap.new form page).Timeline past o) : o.NothingStale past where
  cancelled _ _ _ hround hold := h.orderly.mem_cancelled hround hold
  inFlight := h.inFlight_cases
  newest := by
    rintro earlier m later s rfl hshows
    obtain ⟨hearlier, htake, -⟩ := h.split
    obtain ⟨hticket, hbrowser, -⟩ := hshows.newest htake
    have hlast : m.before.browser.last = some s.round.form := by
      apply hearlier.orderly.last s.call
      rw [← hticket]
      exact hshows.round
    rw [hbrowser]
    exact ⟨hticket, hlast, rfl, hearlier.exists_brings hshows.answered⟩
  written := by
    intro m hm
    obtain ⟨earlier, later, rfl⟩ := List.append_of_mem hm
    exact Moment.shows_or_view h.split.2.1
  rising := h.rising
  superseded _ _ := by
    rintro ⟨m, hm, hsupersedes⟩ m' hm' hserves
    exact h.sameDisplay_of_supersedes hm hsupersedes hm' hserves

end Timeline

/-- Two searches overlap, and the newer one gets its answer. -/
def newerAnswered : List Move :=
  [.begin (.submit "staff" "old"), .go 0, .go 0, .begin (.submit "staff" "new"), .go 1, .go 1,
    .reply 1 (.answer 200 "\x7b\x7d")]

/-- The first search waits under a cancelled ticket, and the second one has the answer to the newest
round. -/
def isNewerAnswered (o : Overlap) : Bool :=
  match o.stages with
  | [.awaiting older _, .answered newer _ _] =>
      o.browser.cancelled.contains older && newer == o.browser.generation
  | _ => false

theorem stages_of_isNewerAnswered (h : o.isNewerAnswered = true) :
    ∃ older round round' response, older ∈ o.browser.cancelled ∧
      o.stages = [.awaiting older round, .answered o.browser.generation round' response] := by
  simp only [isNewerAnswered] at h
  split at h
  · next older round newer round' response hstages =>
      obtain ⟨hcancelled, hnewer⟩ := (Bool.and_eq_true _ _).mp h
      cases beq_iff_eq.mp hnewer
      exact ⟨older, round, round', response, List.contains_iff_mem.mp hcancelled, hstages⟩
  · cases h

theorem exists_take_of_answered
    {call ticket : Nat} {round : Attempt} {response : SearchResponse}
    (h : o.stages[call]? = some (.answered ticket round response)) :
    ∃ o', o.take (.go call) = some o' := by
  have hnext : ∃ b stage, (Stage.answered ticket round response).next o.browser =
      .moved b stage := by
    simp only [Stage.next]
    split
    · split <;> exact ⟨_, _, rfl⟩
    · exact ⟨_, _, rfl⟩
  obtain ⟨b, stage, hnext⟩ := hnext
  exact ⟨_, take_go_eq_some_iff.mpr ⟨_, b, stage, h, hnext, rfl⟩⟩

/-- Of two searches that overlap, the newer one shows its answer and the older one is superseded. -/
theorem nothingStale_of_newerAnswered :
    ∃ past o, (Overlap.new default .empty).Timeline past o ∧ o.NothingStale past ∧
      (∃ m ∈ past, ∃ s, m.Shows s) ∧ ∃ m ∈ past, ∃ ticket, m.Supersedes 0 ticket := by
  have hplay : ((Overlap.new default .empty).play newerAnswered).any isNewerAnswered = true := by
    decide +kernel
  obtain ⟨o, hplay, ho⟩ := (Option.any_eq_true _ _).mp hplay
  obtain ⟨older, round, round', response, hcancelled, hstages⟩ := stages_of_isNewerAnswered ho
  obtain ⟨past, hpast⟩ := Reaches.timeline ⟨newerAnswered, hplay⟩
  have hnewer : o.stages[1]? = some (.answered o.browser.generation round' response) := by
    rw [hstages]
    rfl
  obtain ⟨o₁, h₁⟩ := exists_take_of_answered hnewer
  have hshows := Moment.shows_of_newest (m := ⟨o, .go 1, o₁⟩) rfl hnewer h₁
  obtain ⟨-, hbrowser, -⟩ := hshows.newest h₁
  have holder : o₁.stages[0]? = some (.awaiting older round) := by
    rw [stages_take_of_call_ne h₁ (by decide) (by rw [hstages]; exact Nat.zero_lt_two), hstages]
    rfl
  obtain ⟨o₂, h₂, hsuperseded⟩ :
      ∃ o₂, o₁.take (.go 0) = some o₂ ∧ o₂.stages[0]? = some .superseded := by
    have hgivesUp : older ∈ o₁.browser.cancelled := by
      rw [hbrowser]
      exact hcancelled
    exact ⟨_, take_go_eq_some_iff.mpr ⟨_, _, _, holder, if_pos hgivesUp, rfl⟩,
      List.getElem?_set_self (List.getElem?_eq_some_iff.mp holder).1⟩
  have htimeline := (hpast.next h₁).next h₂
  refine ⟨_, o₂, htimeline, htimeline.nothingStale, ⟨⟨o, .go 1, o₁⟩, ?_, _, hshows⟩,
    ⟨⟨o₁, .go 0, o₂⟩, ?_, older, rfl, ⟨round, round?_of_getElem? holder⟩, hsuperseded⟩⟩
  · simp
  · simp

end Overlap

end BlogSearch
