import BlogSearch.Proofs.Browser.Overlap

/-!
# Rounds under way

A round is under way from its registration until its answer is shown or its search ends.  A move hands
out a ticket when it registers a round, gives the ticket of the newest round back when it shows the
answer of this round, and touches no ticket otherwise.  So at most one round under way is not
cancelled, namely the newest one.
-/

namespace BlogSearch

namespace Overlap

/-- The round of an action that is under way, with its ticket. -/
def round? (o : Overlap) (call : Nat) : Option (Nat × Attempt) :=
  o.stages[call]?.bind Stage.round?

variable {o o' : Overlap} {move : Move} {call ticket : Nat} {round : Attempt}

theorem round?_of_getElem? {stage : Stage} (h : o.stages[call]? = some stage) :
    o.round? call = stage.round? := by
  rw [round?, h, Option.bind_some]

theorem round?_set_self
    {b : Browser} {stages : List Stage} {stage : Stage} (h : call < stages.length) :
    round? ⟨b, stages.set call stage⟩ call = stage.round? :=
  round?_of_getElem? (List.getElem?_set_self h)

theorem round?_set_of_ne
    {b b' : Browser} {stages : List Stage} {stage : Stage} {other : Nat} (h : call ≠ other) :
    round? ⟨b, stages.set call stage⟩ other = round? ⟨b', stages⟩ other := by
  simp only [round?, List.getElem?_set_ne h]

/-- An action that has just been started has no round under way. -/
theorem round?_begin (b : Browser) (stages : List Stage) (action : Action) (call : Nat) :
    round? ⟨b, stages ++ [.start action]⟩ call = round? ⟨b, stages⟩ call := by
  simp only [round?]
  rcases Nat.lt_or_ge call stages.length with hlt | hge
  · rw [List.getElem?_append_left hlt]
  · rw [List.getElem?_append_right hge, List.getElem?_eq_none hge]
    cases call - stages.length with
    | zero => rfl
    | succ n => rfl

/-- What a move does to tickets and to the rounds under way. -/
inductive Ticketing (o : Overlap) : Move → Overlap → Prop
  | kept {move : Move} {o' : Overlap} (tickets : o'.browser.SameTickets o.browser)
      (rounds : ∀ call p, o'.round? call = some p → o.round? call = some p) : Ticketing o move o'
  | issued {call : Nat} {round : Attempt} {o' : Overlap}
      (browser : o'.browser = o.browser.register round.form round.push)
      (self : o'.round? call = some (o.browser.generation + 1, round))
      (others : ∀ other, call ≠ other → o'.round? other = o.round? other) :
      Ticketing o (.go call) o'
  | shown {call : Nat} {round : Attempt} {response : SearchResponse} {o' : Overlap}
      (answered : o.stages[call]? = some (.answered o.browser.generation round response))
      (browser : o'.browser = o.browser.display response)
      (self : o'.round? call = none)
      (others : ∀ other, call ≠ other → o'.round? other = o.round? other) :
      Ticketing o (.go call) o'

theorem ticketing_of_take (h : o.take move = some o') : o.Ticketing move o' := by
  cases move with
  | begin action =>
      cases h
      refine .kept (.refl _) ?_
      intro call p hp
      rwa [round?_begin] at hp
  | go call =>
      obtain ⟨stage, b, stage', hstage, hnext, rfl⟩ := take_go_eq_some_iff.mp h
      have hcall : call < o.stages.length := (List.getElem?_eq_some_iff.mp hstage).1
      have hothers : ∀ other, call ≠ other →
          round? ⟨b, o.stages.set call stage'⟩ other = o.round? other :=
        fun other hne => round?_set_of_ne hne
      rcases (Stage.step_of_next_eq_moved hnext).tickets_cases with
        ⟨htickets, hnone⟩ | ⟨round, rfl, rfl, hround⟩ | ⟨round, response, rfl, rfl, hnone⟩
      · refine .kept htickets ?_
        intro other p hp
        by_cases hne : call = other
        · subst hne
          rw [round?_set_self hcall, hnone] at hp
          cases hp
        · rwa [hothers other hne] at hp
      · exact .issued rfl ((round?_set_self hcall).trans hround) hothers
      · exact .shown hstage rfl ((round?_set_self hcall).trans hnone) hothers
  | reply call reply =>
      obtain ⟨stage, request, resume, hstage, hnext, rfl⟩ := take_reply_eq_some_iff.mp h
      have hcall : call < o.stages.length := (List.getElem?_eq_some_iff.mp hstage).1
      refine .kept (.refl _) ?_
      intro other p hp
      by_cases hne : call = other
      · subst hne
        rw [round?_set_self hcall] at hp
        rw [round?_of_getElem? hstage]
        exact Stage.round?_of_ask hnext hp
      · rwa [round?_set_of_ne hne] at hp

/-- Rounds under way have different tickets, and each of them is cancelled except for the newest one,
whose form is the last submitted one. -/
structure Orderly (o : Overlap) : Prop where
  flight : ∀ t ∈ o.browser.inFlight, t = o.browser.generation
  cancelled : ∀ t ∈ o.browser.cancelled, t < o.browser.generation
  /-- Every round under way is the one in flight or cancelled. -/
  rounds : ∀ call ticket round, o.round? call = some (ticket, round) →
    ticket ∈ o.browser.inFlight ∨ ticket ∈ o.browser.cancelled
  alone : ∀ call other ticket round round', o.round? call = some (ticket, round) →
    o.round? other = some (ticket, round') → call = other
  last : ∀ call round, o.round? call = some (o.browser.generation, round) →
    o.browser.last = some round.form

theorem orderly_new (form : SearchForm) (page : PageView) : (Overlap.new form page).Orderly := by
  constructor
  · intro t ht
    cases ht
  · intro t ht
    cases ht
  · intro call ticket round h
    cases h
  · intro call other ticket round round' h
    cases h
  · intro call round h
    cases h

namespace Orderly

theorem ticket_le (ho : o.Orderly) (h : o.round? call = some (ticket, round)) :
    ticket ≤ o.browser.generation := by
  rcases ho.rounds call ticket round h with hflight | hcancelled
  · exact Nat.le_of_eq (ho.flight ticket hflight)
  · exact Nat.le_of_lt (ho.cancelled ticket hcancelled)

/-- A round under way that is not the newest one is cancelled. -/
theorem mem_cancelled (ho : o.Orderly) (h : o.round? call = some (ticket, round))
    (hold : ticket < o.browser.generation) : ticket ∈ o.browser.cancelled := by
  rcases ho.rounds call ticket round h with hflight | hcancelled
  · exact absurd (ho.flight ticket hflight) (Nat.ne_of_lt hold)
  · exact hcancelled

theorem of_kept
    (ho : o.Orderly) (htickets : o'.browser.SameTickets o.browser)
    (hrounds : ∀ call p, o'.round? call = some p → o.round? call = some p) : o'.Orderly := by
  obtain ⟨hgeneration, hflight, hcancelled, hlast⟩ := htickets
  constructor
  · rw [hflight, hgeneration]
    exact ho.flight
  · rw [hcancelled, hgeneration]
    exact ho.cancelled
  · intro call ticket round h
    rw [hflight, hcancelled]
    exact ho.rounds call ticket round (hrounds call _ h)
  · intro call other ticket round round' h h'
    exact ho.alone call other ticket round round' (hrounds call _ h) (hrounds other _ h')
  · intro call round h
    rw [hgeneration] at h
    rw [hlast]
    exact ho.last call round (hrounds call _ h)

theorem of_issued
    (ho : o.Orderly) (hbrowser : o'.browser = o.browser.register round.form round.push)
    (hself : o'.round? call = some (o.browser.generation + 1, round))
    (hothers : ∀ other, call ≠ other → o'.round? other = o.round? other) : o'.Orderly := by
  -- A round of another action is an old one, so its ticket is smaller than the new one.
  have hround : ∀ other t r, o'.round? other = some (t, r) →
      other = call ∧ t = o.browser.generation + 1 ∧ r = round ∨
        o.round? other = some (t, r) ∧ t ≤ o.browser.generation := by
    intro other t r h
    by_cases hne : call = other
    · subst hne
      rw [hself] at h
      cases h
      exact Or.inl ⟨rfl, rfl, rfl⟩
    · rw [hothers other hne] at h
      exact Or.inr ⟨h, ho.ticket_le h⟩
  constructor
  · intro t ht
    rw [hbrowser] at ht ⊢
    cases ht
    rfl
  · intro t ht
    rw [hbrowser] at ht ⊢
    rcases List.mem_append.mp ht with hflight | hcancelled
    · exact Nat.lt_succ_of_le (Nat.le_of_eq (ho.flight t (Option.mem_toList.mp hflight)))
    · exact Nat.lt_succ_of_lt (ho.cancelled t hcancelled)
  · intro other t r h
    rw [hbrowser]
    rcases hround other t r h with ⟨rfl, rfl, rfl⟩ | ⟨hold, -⟩
    · exact Or.inl rfl
    · right
      rcases ho.rounds other t r hold with hflight | hcancelled
      · exact List.mem_append_left _ (Option.mem_toList.mpr hflight)
      · exact List.mem_append_right _ hcancelled
  · intro first second t r r' h h'
    rcases hround first t r h with ⟨rfl, rfl, rfl⟩ | ⟨hold, hle⟩
    · rcases hround second _ r' h' with ⟨rfl, -, -⟩ | ⟨-, hle'⟩
      · rfl
      · omega
    · rcases hround second t r' h' with ⟨rfl, rfl, -⟩ | ⟨hold', -⟩
      · omega
      · exact ho.alone first second t r r' hold hold'
  · intro other r h
    rw [hbrowser] at h ⊢
    rcases hround other _ r h with ⟨rfl, -, rfl⟩ | ⟨-, hle⟩
    · rfl
    · exact absurd hle (Nat.not_succ_le_self _)

theorem of_shown
    {response : SearchResponse} (ho : o.Orderly)
    (hnewest : o.round? call = some (o.browser.generation, round))
    (hbrowser : o'.browser = o.browser.display response) (hself : o'.round? call = none)
    (hothers : ∀ other, call ≠ other → o'.round? other = o.round? other) : o'.Orderly := by
  have hround : ∀ other p, o'.round? other = some p → call ≠ other ∧ o.round? other = some p := by
    intro other p h
    have hne : call ≠ other := by
      rintro rfl
      rw [hself] at h
      cases h
    exact ⟨hne, (hothers other hne).symm.trans h⟩
  constructor
  · intro t ht
    rw [hbrowser] at ht
    cases ht
  · rw [hbrowser]
    exact ho.cancelled
  · intro other t r h
    rw [hbrowser]
    obtain ⟨hne, hold⟩ := hround other (t, r) h
    rcases ho.rounds other t r hold with hflight | hcancelled
    · cases ho.flight t hflight
      exact absurd (ho.alone call other _ round r hnewest hold) hne
    · exact Or.inr hcancelled
  · intro first second t r r' h h'
    exact ho.alone first second t r r' (hround first _ h).2 (hround second _ h').2
  · intro other r h
    rw [hbrowser] at h ⊢
    exact ho.last other r (hround other _ h).2

theorem take (ho : o.Orderly) (h : o.take move = some o') : o'.Orderly := by
  cases ticketing_of_take h with
  | kept tickets rounds => exact ho.of_kept tickets rounds
  | issued browser self others => exact ho.of_issued browser self others
  | shown answered browser self others =>
      exact ho.of_shown (round?_of_getElem? answered) browser self others

end Orderly

/-- A round under way was under way before the move, or has a new ticket. -/
theorem round?_of_take
    (h : o.take move = some o') (hround : o'.round? call = some (ticket, round)) :
    o.round? call = some (ticket, round) ∨ ticket = o.browser.generation + 1 := by
  cases ticketing_of_take h with
  | kept tickets rounds => exact Or.inl (rounds call _ hround)
  | @issued mover _ _ browser self others =>
      by_cases hne : mover = call
      · subst hne
        rw [self] at hround
        cases hround
        exact Or.inr rfl
      · exact Or.inl ((others call hne).symm.trans hround)
  | @shown mover _ _ _ answered browser self others =>
      by_cases hne : mover = call
      · subst hne
        rw [self] at hround
        cases hround
      · exact Or.inl ((others call hne).symm.trans hround)

/-- No round under way has the ticket, and none will get it. -/
structure Retired (o : Overlap) (ticket : Nat) : Prop where
  issued : ticket ≤ o.browser.generation
  rounds : ∀ call round, o.round? call ≠ some (ticket, round)

theorem Retired.take (hretired : o.Retired ticket) (h : o.take move = some o') :
    o'.Retired ticket := by
  refine ⟨Nat.le_trans hretired.issued (generation_le_take h), ?_⟩
  intro call round hround
  rcases round?_of_take h hround with hold | hnew
  · exact hretired.rounds call round hold
  · exact absurd hnew (Nat.ne_of_lt (Nat.lt_succ_of_le hretired.issued))

/-- The ticket of a round that is not under way any more is retired. -/
theorem Orderly.retired
    (ho : o.Orderly) (h : o.take move = some o') (hround : o.round? call = some (ticket, round))
    (hself : o'.round? call = none) : o'.Retired ticket := by
  have hle : ticket ≤ o.browser.generation := ho.ticket_le hround
  refine ⟨Nat.le_trans hle (generation_le_take h), ?_⟩
  intro other round' hround'
  rcases round?_of_take h hround' with hold | hnew
  · cases ho.alone call other ticket round round' hround hold
    rw [hself] at hround'
    cases hround'
  · exact absurd hnew (Nat.ne_of_lt (Nat.lt_succ_of_le hle))

end Overlap

end BlogSearch
