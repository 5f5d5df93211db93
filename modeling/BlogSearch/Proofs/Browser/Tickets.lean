import BlogSearch.Proofs.Browser.Step

/-!
# Tickets of rounds

A step hands out a ticket when it registers a round, takes the newest ticket back when it shows the
answer to its round, and touches no ticket otherwise.  So every ticket that a browser holds was handed
out before, whether actions overlap or not.
-/

namespace BlogSearch

namespace Browser

/-- Every ticket that a browser holds was handed out. -/
def TicketsIssued (b : Browser) : Prop :=
  ∀ t, t ∈ b.inFlight ∨ t ∈ b.cancelled → t ≤ b.generation

theorem ticketsIssued_new (form : SearchForm) (page : PageView) :
    { Browser.new form with page := page }.TicketsIssued := by
  rintro t (ht | ht)
  · cases ht
  · cases ht

theorem TicketsIssued.register
    {b : Browser} (h : b.TicketsIssued) (form : SearchForm) (push : Bool) :
    (b.register form push).TicketsIssued := by
  rintro t (ht | ht)
  · cases ht
    exact Nat.le_refl _
  · apply Nat.le_succ_of_le
    apply h t
    rcases List.mem_append.mp ht with ht | ht
    · exact Or.inl (Option.mem_toList.mp ht)
    · exact Or.inr ht

theorem TicketsIssued.display
    {b : Browser} (h : b.TicketsIssued) (r : SearchResponse) :
    (b.display r).TicketsIssued := by
  rintro t (ht | ht)
  · cases ht
  · exact h t (Or.inr ht)

/-- The ticket of a new round is not among the cancelled ones. -/
theorem TicketsIssued.generation_register_notMem
    {b : Browser} (h : b.TicketsIssued) (form : SearchForm) (push : Bool) :
    (b.register form push).generation ∉ (b.register form push).cancelled := by
  intro hmem
  have hle : b.generation + 1 ≤ b.generation := by
    rcases List.mem_append.mp hmem with ht | ht
    · exact h _ (Or.inl (Option.mem_toList.mp ht))
    · exact h _ (Or.inr ht)
  omega

/-- The tickets and the last submitted form of a browser are those of another one. -/
structure SameTickets (b b' : Browser) : Prop where
  generation : b.generation = b'.generation
  inFlight : b.inFlight = b'.inFlight
  cancelled : b.cancelled = b'.cancelled
  last : b.last = b'.last

theorem SameTickets.refl (b : Browser) : b.SameTickets b :=
  ⟨rfl, rfl, rfl, rfl⟩

theorem TicketsIssued.of_sameTickets
    {b b' : Browser} (h : b.TicketsIssued) (hsame : b'.SameTickets b) : b'.TicketsIssued := by
  rw [TicketsIssued, hsame.generation, hsame.inFlight, hsame.cancelled]
  exact h

end Browser

namespace Stage

/-- The ticket under which a stage waits or has its answer. -/
def ticket? : Stage → Option Nat
  | .awaiting ticket _ => some ticket
  | .answered ticket _ _ => some ticket
  | _ => none

/-- The ticket and the round with which a stage waits or has its answer. -/
def round? : Stage → Option (Nat × Attempt)
  | .awaiting ticket round => some (ticket, round)
  | .answered ticket round _ => some (ticket, round)
  | _ => none

variable {b b' : Browser} {stage stage' : Stage} {t : Nat}

theorem ticket?_eq_map_round? (stage : Stage) : stage.ticket? = stage.round?.map Prod.fst := by
  cases stage <;> rfl

theorem mem_ticket?_iff : t ∈ stage.ticket? ↔ ∃ round, stage.round? = some (t, round) := by
  rw [ticket?_eq_map_round?, Option.mem_def, Option.map_eq_some_iff]
  constructor
  · rintro ⟨⟨ticket, round⟩, hround, rfl⟩
    exact ⟨round, hround⟩
  · rintro ⟨round, hround⟩
    exact ⟨(t, round), hround, rfl⟩

/-- The first step of an action hands out no ticket and cancels none. -/
theorem sameTickets_begin {action : Action} (h : begin b action = .moved b' stage') :
    b'.SameTickets b ∧ stage'.round? = none := by
  cases action <;> simp only [begin] at h <;> (try split at h) <;> cases h <;>
    exact ⟨⟨rfl, rfl, rfl, rfl⟩, rfl⟩

/-- A step hands out a ticket, shows an answer, or touches no ticket. -/
theorem Step.tickets_cases (h : stage.Step b b' stage') :
    b'.SameTickets b ∧ stage'.round? = none ∨
    (∃ round, stage = .attempt round ∧ b' = b.register round.form round.push ∧
      stage'.round? = some (b.generation + 1, round)) ∨
    ∃ round response, stage = .answered b.generation round response ∧ b' = b.display response ∧
      stage'.round? = none := by
  cases h with
  | start hbegin => exact Or.inl (sameTickets_begin hbegin)
  | replay entry => exact Or.inl ⟨⟨rfl, rfl, rfl, rfl⟩, rfl⟩
  | register round => exact Or.inr (Or.inl ⟨round, rfl, rfl, rfl⟩)
  | giveUp hcancelled => exact Or.inl ⟨.refl b, rfl⟩
  | correct hnewest hagain =>
      subst hnewest
      exact Or.inr (Or.inr ⟨_, _, rfl, rfl, rfl⟩)
  | conclude hnewest hnone =>
      subst hnewest
      exact Or.inr (Or.inr ⟨_, _, rfl, rfl, rfl⟩)
  | discard hstale => exact Or.inl ⟨.refl b, rfl⟩
  | tell news => cases news <;> exact Or.inl ⟨⟨rfl, rfl, rfl, rfl⟩, rfl⟩

theorem Step.ticketsIssued
    (h : stage.Step b b' stage') (hb : b.TicketsIssued) : b'.TicketsIssued := by
  rcases h.tickets_cases with ⟨hsame, -⟩ | ⟨round, -, rfl, -⟩ | ⟨round, response, -, rfl, -⟩
  · exact hb.of_sameTickets hsame
  · exact hb.register round.form round.push
  · exact hb.display response

/-- A step hands out one ticket at most. -/
theorem Step.generation_le (h : stage.Step b b' stage') : b.generation ≤ b'.generation := by
  rcases h.tickets_cases with ⟨hsame, -⟩ | ⟨round, -, rfl, -⟩ | ⟨round, response, -, rfl, -⟩
  · exact Nat.le_of_eq hsame.generation.symm
  · exact Nat.le_succ _
  · exact Nat.le_refl _

/-- A step that leads to a ticket hands it out. -/
theorem Step.eq_generation_of_mem_ticket?
    (h : stage.Step b b' stage') (ht : t ∈ stage'.ticket?) : t = b'.generation := by
  obtain ⟨round', hround⟩ := mem_ticket?_iff.mp ht
  rcases h.tickets_cases with ⟨-, hnone⟩ | ⟨round, -, rfl, hnew⟩ | ⟨-, -, -, -, hnone⟩
  · cases hnone.symm.trans hround
  · cases hnew.symm.trans hround
    rfl
  · cases hnone.symm.trans hround

theorem receive_eq_answered_iff
    {ticket ticket' : Nat} {round round' : Attempt} {reply : Reply} {response : SearchResponse} :
    receive ticket round reply = .answered ticket' round' response ↔
      ticket = ticket' ∧ round = round' ∧ reply.read SearchResponse.read = .ok response := by
  cases hread : reply.read SearchResponse.read with
  | ok r => simp [receive, hread]
  | error e => simp [receive, hread]

theorem round?_tell (news : Except ClientError News) : (Query.tell news).round? = none := by
  cases news <;> rfl

theorem round?_resume (query : Query) (reply : Reply) : (query.resume reply).round? = none := by
  cases query with
  | login form => exact round?_tell _
  | logout => exact round?_tell _
  | blogs =>
      simp only [Query.resume]
      split
      · rfl
      · exact round?_tell _
  | legacyBlogs => exact round?_tell _

/-- A reply begins no round. -/
theorem round?_of_ask
    {request : Request} {resume : Reply → Stage} {reply : Reply} {p : Nat × Attempt}
    (h : stage.next b = .ask request resume) (hp : (resume reply).round? = some p) :
    stage.round? = some p := by
  rcases ask_cases h with ⟨ticket, round, rfl, -, -, rfl⟩ | ⟨query, rfl, -, rfl⟩
  · simp only [receive] at hp
    split at hp
    · exact hp
    · cases hp
  · rw [round?_resume] at hp
    cases hp

/-- A reply brings no new ticket. -/
theorem mem_ticket?_of_ask
    {request : Request} {resume : Reply → Stage} {reply : Reply}
    (h : stage.next b = .ask request resume) (ht : t ∈ (resume reply).ticket?) :
    t ∈ stage.ticket? := by
  obtain ⟨round, hround⟩ := mem_ticket?_iff.mp ht
  exact mem_ticket?_iff.mpr ⟨round, round?_of_ask h hround⟩

end Stage

end BlogSearch
