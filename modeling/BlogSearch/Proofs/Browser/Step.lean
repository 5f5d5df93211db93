import BlogSearch.Browser.Stage

/-!
# What a step can do

A step either changes the browser or waits for a reply.  The relation below lists the steps that
change it, one for each kind of stage and each way in which that stage can end, together with what
must hold for them.  Facts about all steps are proved by its cases.
-/

namespace BlogSearch

/-- A round asks for a correction only if it is not one itself. -/
theorem Attempt.correction?_eq_some_iff
    {a again : Attempt} {r : SearchResponse} :
    a.correction? r = some again ↔
      a.corrected = none ∧ ∃ page, r.info.correctedPage? = some page ∧
        again = ⟨{ a.form with page := page }, false, some page⟩ := by
  unfold correction?
  cases hcorrected : a.corrected with
  | some page =>
      constructor
      · intro h
        cases h
      · rintro ⟨hnone, -⟩
        cases hnone
  | none =>
      constructor
      · intro h
        obtain ⟨page, hpage, rfl⟩ := Option.map_eq_some_iff.mp h
        exact ⟨rfl, page, hpage, rfl⟩
      · rintro ⟨-, page, hpage, rfl⟩
        exact Option.map_eq_some_iff.mpr ⟨page, hpage, rfl⟩

namespace Stage

/-- The steps that change the browser. -/
inductive Step (b : Browser) : Stage → Browser → Stage → Prop
  | start {action : Action} {b' : Browser} {stage' : Stage}
      (h : begin b action = .moved b' stage') : Step b (.start action) b' stage'
  | replay (entry : HistoryEntry) :
      Step b (.replay entry) { b with page := b.page.navigate entry.url }
        (.attempt (.first entry.state false))
  | register (round : Attempt) :
      Step b (.attempt round) (b.register round.form round.push)
        (.awaiting (b.generation + 1) round)
  | giveUp {ticket : Nat} {round : Attempt} (hcancelled : ticket ∈ b.cancelled) :
      Step b (.awaiting ticket round) b superseded
  | correct {ticket : Nat} {round again : Attempt} {response : SearchResponse}
      (hnewest : b.generation = ticket) (hagain : round.correction? response = some again) :
      Step b (.answered ticket round response) (b.display response) (.attempt again)
  | conclude {ticket : Nat} {round : Attempt} {response : SearchResponse}
      (hnewest : b.generation = ticket) (hnone : round.correction? response = none) :
      Step b (.answered ticket round response) (b.display response)
        (.finished (.ok (.searched (round.outcome response))))
  | discard {ticket : Nat} {round : Attempt} {response : SearchResponse}
      (hstale : b.generation ≠ ticket) : Step b (.answered ticket round response) b superseded
  | tell (news : News) : Step b (.told news) (b.hear news) (.finished (.ok news.outcome))

variable {b b' : Browser} {stage stage' : Stage}

theorem step_of_next_eq_moved (h : stage.next b = .moved b' stage') : stage.Step b b' stage' := by
  cases stage with
  | start action => exact .start h
  | replay entry =>
      cases h
      exact .replay entry
  | attempt round =>
      cases h
      exact .register round
  | awaiting ticket round =>
      simp only [next] at h
      split at h
      · next hcancelled =>
          cases h
          exact .giveUp hcancelled
      · cases h
  | answered ticket round response =>
      simp only [next] at h
      split at h
      · next hnewest =>
          split at h
          · next again hagain =>
              cases h
              exact .correct hnewest hagain
          · next hnone =>
              cases h
              exact .conclude hnewest hnone
      · next hstale =>
          cases h
          exact .discard hstale
  | asking query => cases h
  | told news =>
      cases h
      exact .tell news
  | finished result => cases h

/-- Only a round that waits and an action that asks get a reply. -/
theorem ask_cases
    {request : Request} {resume : Reply → Stage} (h : stage.next b = .ask request resume) :
    (∃ ticket round, stage = .awaiting ticket round ∧ ticket ∉ b.cancelled ∧
      request = round.request ∧ resume = receive ticket round) ∨
    ∃ query, stage = .asking query ∧ request = query.request ∧ resume = query.resume := by
  cases stage with
  | start action =>
      exfalso
      cases action <;> simp only [next, begin] at h <;> (try split at h) <;> cases h
  | replay entry => cases h
  | attempt round => cases h
  | awaiting ticket round =>
      simp only [next] at h
      split at h
      · cases h
      · next hcancelled =>
          cases h
          exact Or.inl ⟨ticket, round, rfl, hcancelled, rfl, rfl⟩
  | answered ticket round response =>
      simp only [next] at h
      split at h
      · split at h <;> cases h
      · cases h
  | asking query =>
      cases h
      exact Or.inr ⟨query, rfl, rfl, rfl⟩
  | told news => cases h
  | finished result => cases h

theorem eq_finished_of_next_eq_done
    {result : Result} (h : stage.next b = .done result) : stage = .finished result := by
  cases stage with
  | start action =>
      exfalso
      cases action <;> simp only [next, begin] at h <;> (try split at h) <;> cases h
  | awaiting ticket round =>
      simp only [next] at h
      split at h <;> cases h
  | answered ticket round response =>
      simp only [next] at h
      split at h
      · split at h <;> cases h
      · cases h
  | finished result =>
      cases h
      rfl
  | _ => cases h

end Stage

end BlogSearch
