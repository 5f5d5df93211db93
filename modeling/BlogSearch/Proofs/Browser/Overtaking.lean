import BlogSearch.Proofs.Browser.Overlap

/-!
# Overtaking

A search is overtaken when another one registers its first round.  An overtaken search that waits for
its answer, or has one and has not shown it, changes the browser no more, because its ticket is not
the newest.  A search that has shown an answer and goes on to correct it holds no ticket: it registers
its second round without a look at the generation, and so takes form, last search and page back from
the search that has overtaken it.
-/

namespace BlogSearch

namespace Stage

/-- The search has shown an answer and is about to register the round that corrects it. -/
def Correcting : Stage → Prop
  | .attempt round => round.corrected.isSome
  | _ => False

/-- The search has registered its first round, or the action is finished. -/
def Registered : Stage → Prop
  | .awaiting _ _ => True
  | .answered _ _ _ => True
  | .finished _ => True
  | stage => stage.Correcting

/-- The search waits or answers under a ticket older than the newest one, or is finished. -/
def Overtaken (generation : Nat) : Stage → Prop
  | .awaiting ticket _ => ticket < generation
  | .answered ticket _ _ => ticket < generation
  | .finished _ => True
  | _ => False

variable {b b' : Browser} {stage stage' : Stage} {round : Attempt} {generation : Nat}

theorem registered_receive (ticket : Nat) (round : Attempt) (reply : Reply) :
    (receive ticket round reply).Registered := by
  simp only [receive]
  split <;> trivial

theorem Registered.step
    (hstage : stage.Registered) (h : stage.Step b b' stage') : stage'.Registered := by
  cases h with
  | start hbegin => cases hstage
  | replay entry => cases hstage
  | register round => trivial
  | giveUp hcancelled => trivial
  | correct hnewest hagain =>
      obtain ⟨-, page, -, rfl⟩ := Attempt.correction?_eq_some_iff.mp hagain
      rfl
  | conclude hnewest hnone => trivial
  | discard hstale => trivial
  | tell news => cases hstage

theorem Registered.asked
    {request : Request} {resume : Reply → Stage} (hstage : stage.Registered)
    (h : stage.next b = .ask request resume) (reply : Reply) : (resume reply).Registered := by
  rcases ask_cases h with ⟨ticket, round, rfl, -, -, rfl⟩ | ⟨query, rfl, -, -⟩
  · exact registered_receive ticket round reply
  · cases hstage

/-- A registered search that does not correct is overtaken by the next ticket. -/
theorem Registered.overtaken
    (hstage : stage.Registered) (hcorrecting : ¬ stage.Correcting)
    (hticket : ∀ t ∈ stage.ticket?, t < generation) : stage.Overtaken generation := by
  cases stage with
  | start action => cases hstage
  | replay entry => cases hstage
  | attempt round => exact hcorrecting hstage
  | awaiting ticket round => exact hticket ticket rfl
  | answered ticket round response => exact hticket ticket rfl
  | asking query => cases hstage
  | told news => cases hstage
  | finished result => trivial

theorem Overtaken.mono
    {generation' : Nat} (hstage : stage.Overtaken generation) (h : generation ≤ generation') :
    stage.Overtaken generation' := by
  cases stage with
  | awaiting ticket round => exact Nat.lt_of_lt_of_le hstage h
  | answered ticket round response => exact Nat.lt_of_lt_of_le hstage h
  | finished result => trivial
  | _ => cases hstage

/-- A step of an overtaken search changes nothing in the browser. -/
theorem Overtaken.step
    (hstage : stage.Overtaken b.generation) (h : stage.Step b b' stage') :
    b' = b ∧ stage'.Overtaken b.generation := by
  cases h with
  | giveUp hcancelled => exact ⟨rfl, trivial⟩
  | discard hstale => exact ⟨rfl, trivial⟩
  | correct hnewest hagain => exact absurd hnewest (Nat.ne_of_gt hstage)
  | conclude hnewest hnone => exact absurd hnewest (Nat.ne_of_gt hstage)
  | _ => cases hstage

theorem Overtaken.asked
    {request : Request} {resume : Reply → Stage} (hstage : stage.Overtaken generation)
    (h : stage.next b = .ask request resume) (reply : Reply) :
    (resume reply).Overtaken generation := by
  rcases ask_cases h with ⟨ticket, round, rfl, -, -, rfl⟩ | ⟨query, rfl, -, -⟩
  · simp only [receive]
    split
    · exact hstage
    · trivial
  · cases hstage

end Stage

namespace Overlap

variable {o o' : Overlap} {call : Nat} {move : Move}

/-- An action registers the first round of its search. -/
structure RegistersFirst (o o' : Overlap) (call : Nat) : Prop where
  first : ∃ round, o.stages[call]? = some (.attempt round) ∧ round.corrected = none
  taken : o.take (.go call) = some o'

/-- The older search registers its first round, and some time later the newer one registers its
own. -/
structure Overtakes (start before after : Overlap) (newer older : Nat) : Prop where
  earlier : ∃ o o', start.Reaches o ∧ o.RegistersFirst o' older ∧ o'.Reaches before
  now : before.RegistersFirst after newer

/-- What a page shows of a search, the form and the last search stay as they are, and the round under
way of an action is not cancelled. -/
structure Spares (o o' : Overlap) (call : Nat) : Prop where
  results : o'.browser.page.results = o.browser.page.results
  panel : o'.browser.page.panel = o.browser.page.panel
  scrollTop : o'.browser.page.scrollTop = o.browser.page.scrollTop
  form : o'.browser.form = o.browser.form
  last : o'.browser.last = o.browser.last
  round : ∀ stage, o.stages[call]? = some stage → ∀ t ∈ stage.ticket?,
    t ∈ o'.browser.cancelled → t ∈ o.browser.cancelled

/-- Whatever happens from now on, no move of the older search disturbs the newer one. -/
def Yields (o : Overlap) (older newer : Nat) : Prop :=
  ∀ later later' move, o.Reaches later → move.call? = some older →
    later.take move = some later' → later.Spares later' newer

/-- Once a search has registered its first round, no search that registered before it disturbs it. -/
def NewestPrevails (start : Overlap) : Prop :=
  ∀ before after newer older,
    start.Overtakes before after newer older → after.Yields older newer

theorem At.registered_take
    (hat : o.At call Stage.Registered) (h : o.take move = some o') :
    o'.At call Stage.Registered := by
  by_cases hmove : move.call? = some call
  · rcases hat.self hmove h with
      ⟨stage, b, stage', hregistered, hstep, -, hstage'⟩ |
      ⟨stage, request, resume, reply, hregistered, hnext, -, hstage'⟩
    · exact ⟨stage', hstage', hregistered.step hstep⟩
    · exact ⟨resume reply, hstage', hregistered.asked hnext reply⟩
  · exact hat.other hmove h

theorem At.browser_take_of_overtaken
    (hat : o.At call (Stage.Overtaken o.browser.generation)) (hmove : move.call? = some call)
    (h : o.take move = some o') :
    o'.browser = o.browser ∧ o'.At call (Stage.Overtaken o.browser.generation) := by
  rcases hat.self hmove h with
    ⟨stage, b, stage', hovertaken, hstep, hb, hstage'⟩ |
    ⟨stage, request, resume, reply, hovertaken, hnext, hb, hstage'⟩
  · obtain ⟨hsame, hovertaken'⟩ := hovertaken.step hstep
    exact ⟨hb.trans hsame, stage', hstage', hovertaken'⟩
  · exact ⟨hb, resume reply, hstage', hovertaken.asked hnext reply⟩

theorem At.overtaken_take
    (hat : o.At call (Stage.Overtaken o.browser.generation)) (h : o.take move = some o') :
    o'.At call (Stage.Overtaken o'.browser.generation) := by
  by_cases hmove : move.call? = some call
  · obtain ⟨hb, hat'⟩ := hat.browser_take_of_overtaken hmove h
    rw [hb]
    exact hat'
  · exact (hat.other hmove h).mono fun stage hstage => hstage.mono (generation_le_take h)

theorem Spares.of_browser_eq (h : o'.browser = o.browser) : o.Spares o' call := by
  constructor
  · rw [h]
  · rw [h]
  · rw [h]
  · rw [h]
  · rw [h]
  · intro stage _ t _ ht
    rwa [h] at ht

theorem yields_of_overtaken
    {older newer : Nat} (hat : o.At older (Stage.Overtaken o.browser.generation)) :
    o.Yields older newer := by
  intro later later' move hreach hmove htake
  have hlater : later.At older (Stage.Overtaken later.browser.generation) :=
    hreach.preserves (P := fun o => o.At older (Stage.Overtaken o.browser.generation))
      (fun _ _ _ hovertaken hnext => hovertaken.overtaken_take hnext) hat
  exact Spares.of_browser_eq (hlater.browser_take_of_overtaken hmove htake).1

/-- What the registration of a first round does. -/
theorem RegistersFirst.spec (h : o.RegistersFirst o' call) :
    ∃ round, o.stages[call]? = some (.attempt round) ∧ round.corrected = none ∧
      o' = ⟨o.browser.register round.form round.push,
        o.stages.set call (.awaiting (o.browser.generation + 1) round)⟩ := by
  obtain ⟨⟨round, hround, hnone⟩, htaken⟩ := h
  obtain ⟨stage, b, stage', hstage, hnext, rfl⟩ := take_go_eq_some_iff.mp htaken
  cases hround.symm.trans hstage
  cases hnext
  exact ⟨round, hround, hnone, rfl⟩

theorem RegistersFirst.registered (h : o.RegistersFirst o' call) :
    o'.At call Stage.Registered := by
  obtain ⟨round, hround, -, rfl⟩ := h.spec
  exact ⟨_, List.getElem?_set_self (List.getElem?_eq_some_iff.mp hround).1, trivial⟩

/-- An action that registers its first round has not registered before. -/
theorem RegistersFirst.ne_of_registered
    {newer older : Nat} (h : o.RegistersFirst o' newer) (hat : o.At older Stage.Registered) :
    newer ≠ older := by
  rintro rfl
  obtain ⟨round, hround, hnone, -⟩ := h.spec
  obtain ⟨stage, hstage, hregistered⟩ := hat
  cases hround.symm.trans hstage
  have hsome : round.corrected.isSome := hregistered
  rw [hnone] at hsome
  cases hsome

theorem Overtakes.registered
    {start before after : Overlap} {newer older : Nat}
    (h : start.Overtakes before after newer older) : before.At older Stage.Registered := by
  obtain ⟨o, o', -, hfirst, hreach⟩ := h.earlier
  exact hreach.preserves (P := fun o => o.At older Stage.Registered)
    (fun _ _ _ hregistered hnext => hregistered.registered_take hnext) hfirst.registered

theorem Overtakes.ticketsIssued
    {start before after : Overlap} {newer older : Nat}
    (h : start.Overtakes before after newer older) (hstart : start.TicketsIssued) :
    before.TicketsIssued := by
  obtain ⟨o, o', hreach, hfirst, hreach'⟩ := h.earlier
  exact ((hstart.of_reaches hreach).take hfirst.taken).of_reaches hreach'

/-- The new ticket is newer than that of a search which does not correct. -/
theorem RegistersFirst.overtaken
    {before after : Overlap} {newer older : Nat} (h : before.RegistersFirst after newer)
    (hissued : before.TicketsIssued) (hat : before.At older Stage.Registered)
    (hcorrecting : ¬ before.At older Stage.Correcting) :
    after.At older (Stage.Overtaken after.browser.generation) := by
  have hne : newer ≠ older := h.ne_of_registered hat
  obtain ⟨round, -, -, rfl⟩ := h.spec
  obtain ⟨stage, hstage, hregistered⟩ := hat
  refine ⟨stage, (List.getElem?_set_ne hne).trans hstage, ?_⟩
  apply hregistered.overtaken
  · intro hcorrects
    exact hcorrecting ⟨stage, hstage, hcorrects⟩
  · intro t ht
    exact Nat.lt_succ_of_le (hissued.stages stage (List.mem_of_getElem? hstage) t ht)

/-- A search that corrects cancels the round that has just been registered. -/
theorem RegistersFirst.not_yields_of_correcting
    {before after : Overlap} {newer older : Nat} (h : before.RegistersFirst after newer)
    (hissued : before.TicketsIssued) (hat : before.At older Stage.Correcting) :
    ¬ after.Yields older newer := by
  intro hyields
  obtain ⟨stage, hstage, hcorrecting⟩ := hat
  cases stage with
  | attempt again =>
      have hne : newer ≠ older := h.ne_of_registered ⟨.attempt again, hstage, hcorrecting⟩
      obtain ⟨round, hround, -, hafter⟩ := h.spec
      have hnewer :
          after.stages[newer]? = some (.awaiting (before.browser.generation + 1) round) := by
        rw [hafter]
        exact List.getElem?_set_self (List.getElem?_eq_some_iff.mp hround).1
      have holder : after.stages[older]? = some (.attempt again) := by
        rw [hafter]
        exact (List.getElem?_set_ne hne).trans hstage
      -- The round of the newer search is under way when the older one registers again.
      have hflight : before.browser.generation + 1 ∈ after.browser.inFlight := by
        rw [hafter]
        rfl
      have hspares := hyields after _ (.go older) (Reaches.refl after) rfl
        (take_go_eq_some_iff.mpr ⟨.attempt again, _, _, holder, rfl, rfl⟩)
      have hcancelled : before.browser.generation + 1 ∈ after.browser.cancelled := by
        apply hspares.round _ hnewer _ rfl
        exact List.mem_append_left _ (Option.mem_toList.mpr hflight)
      rw [hafter] at hcancelled
      exact hissued.browser.generation_register_notMem round.form round.push hcancelled
  | _ => cases hcorrecting

/-- Whatever overlaps, a search that has registered its first round is spared from then on by a search
that registered before it, exactly if that one was not about to correct itself at that moment. -/
theorem yields_iff_not_correcting
    {form : SearchForm} {page : PageView} {before after : Overlap} {newer older : Nat}
    (h : (Overlap.new form page).Overtakes before after newer older) :
    after.Yields older newer ↔ ¬ before.At older Stage.Correcting := by
  have hissued : before.TicketsIssued := h.ticketsIssued (ticketsIssued_new form page)
  constructor
  · intro hyields hcorrecting
    exact h.now.not_yields_of_correcting hissued hcorrecting hyields
  · intro hcorrecting
    exact yields_of_overtaken (h.now.overtaken hissued h.registered hcorrecting)

/-- While one search waits for its answer, another one registers, and is spared from then on. -/
theorem yields_while_waiting :
    ∃ before after,
      (Overlap.new default .empty).Overtakes before after 1 0 ∧ after.Yields 0 1 := by
  have h : ∃ before after, (Overlap.new default .empty).Overtakes before after 1 0 ∧
      ∃ ticket round, before.stages[0]? = some (.awaiting ticket round) := by
    refine ⟨_, _, ⟨⟨_, _, ⟨[.begin (.submit "staff" "old"), .go 0], rfl⟩, ⟨⟨_, rfl, rfl⟩, rfl⟩,
      ⟨[.begin (.submit "staff" "new"), .go 1], rfl⟩⟩, ⟨⟨_, rfl, rfl⟩, rfl⟩⟩, _, _, rfl⟩
  obtain ⟨before, after, hovertakes, ticket, round, hwaits⟩ := h
  refine ⟨before, after, hovertakes, (yields_iff_not_correcting hovertakes).mpr ?_⟩
  rintro ⟨stage, hstage, hcorrecting⟩
  cases hwaits.symm.trans hstage
  cases hcorrecting

/-- A search gets an answer that lies behind its last match and shows it; before it registers the
correction, another one starts. -/
def gap : List Move :=
  [.reply 0 (.answer 200 "\x7b\"meta\":\x7b\"offset\":1\x7d\x7d"), .go 0,
    .begin (.submit "staff" "new"), .go 1]

/-- The first action is about to correct, the second one to register. -/
def inGap (o : Overlap) : Bool :=
  match o.stages with
  | [.attempt again, .attempt round] => again.corrected.isSome && round.corrected.isNone
  | _ => false

theorem stages_of_inGap (h : o.inGap = true) :
    ∃ again round, o.stages = [.attempt again, .attempt round] ∧
      again.corrected.isSome ∧ round.corrected = none := by
  simp only [inGap] at h
  split at h
  · next again round hstages =>
      obtain ⟨hsome, hnone⟩ := (Bool.and_eq_true _ _).mp h
      exact ⟨again, round, hstages, hsome, Option.isNone_iff_eq_none.mp hnone⟩
  · cases h

theorem overtakes_in_gap :
    ∃ before after, (Overlap.new default .empty).Overtakes before after 1 0 ∧
      before.At 0 Stage.Correcting := by
  obtain ⟨o, o', hreach, hfirst, hgap⟩ :
      ∃ o o', (Overlap.new default .empty).Reaches o ∧ o.RegistersFirst o' 0 ∧
        (o'.play gap).any inGap = true :=
    ⟨_, _, ⟨[.begin (.submit "staff" "old"), .go 0], rfl⟩, ⟨⟨_, rfl, rfl⟩, rfl⟩,
      by decide +kernel⟩
  obtain ⟨before, hplay, hbefore⟩ := (Option.any_eq_true _ _).mp hgap
  obtain ⟨again, round, hstages, hsome, hnone⟩ := stages_of_inGap hbefore
  have hagain : before.stages[0]? = some (.attempt again) := by rw [hstages]; rfl
  have hround : before.stages[1]? = some (.attempt round) := by rw [hstages]; rfl
  refine ⟨before, _, ⟨⟨o, o', hreach, hfirst, gap, hplay⟩, ⟨round, hround, hnone⟩,
    take_go_eq_some_iff.mpr ⟨_, _, _, hround, rfl, rfl⟩⟩, .attempt again, hagain, hsome⟩

/-- A search that corrects after it was overtaken disturbs the newest search. -/
theorem not_newestPrevails : ¬ (Overlap.new default .empty).NewestPrevails := by
  intro hprevails
  obtain ⟨before, after, hovertakes, hcorrecting⟩ := overtakes_in_gap
  have hissued := hovertakes.ticketsIssued (ticketsIssued_new default .empty)
  exact hovertakes.now.not_yields_of_correcting hissued hcorrecting
    (hprevails before after 1 0 hovertakes)

end Overlap

end BlogSearch
