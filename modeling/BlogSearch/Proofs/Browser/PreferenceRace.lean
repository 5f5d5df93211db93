import BlogSearch.Proofs.Browser.Failure
import BlogSearch.Proofs.Browser.Preference
import BlogSearch.Proofs.Browser.Rounds

/-!
# Preferences that are set while searches run

A search reads the form in one step and puts a whole form back in a later one, first when it registers
its round, and once more when it corrects the page.  Preferences that are set in between are lost: the
form that the search puts back still has those that it has read.  So preferences that are set last
exactly if no search under way is going to register a form that it has read with others.
-/

namespace BlogSearch

/-- The action searches with the preferences of the form. -/
def Action.SearchesFromForm : Action → Prop
  | .submit _ _ => True
  | .paginate _ => True
  | .openPath _ => True
  | _ => False

namespace Overlap

/-- One state leads to another, where the actions that start in between have a property. -/
def ReachesBy (P : Action → Prop) (o o' : Overlap) : Prop :=
  ∃ moves, o.play moves = some o' ∧ ∀ action, .begin action ∈ moves → P action

/-- The preferences of the form are set at a moment of a run in which otherwise only searches from the
form take part. -/
structure SetsPreferences
    (start o o' : Overlap) (render : Renderer) (sort : SortOrder) : Prop where
  run : ∃ before begun, start.ReachesBy Action.SearchesFromForm before ∧
    before.take (.begin (.prefer (some render) (some sort))) = some begun ∧
      begun.ReachesBy Action.SearchesFromForm o ∧
        o.stages[before.stages.length]? = some (.start (.prefer (some render) (some sort))) ∧
          o.take (.go before.stages.length) = some o'

/-- Whatever searches from the form go on or start from now on, the form keeps the preferences, and
the searches that start send them. -/
structure PreferencesLast (o : Overlap) (render : Renderer) (sort : SortOrder) : Prop where
  form : ∀ later, o.ReachesBy Action.SearchesFromForm later →
    later.browser.form.Prefers render sort
  requests : ∀ later call stage request resume, o.ReachesBy Action.SearchesFromForm later →
    o.stages.length ≤ call → later.stages[call]? = some stage →
      stage.next later.browser = .ask request resume →
        ∃ q : SearchRequest, request = .search q ∧ q.render = render ∧ q.sort = sort

/-- Preferences that are set while searches run are never lost. -/
def PreferencesNeverLost (start : Overlap) : Prop :=
  ∀ o o' render sort, start.SetsPreferences o o' render sort → o'.PreferencesLast render sort

end Overlap

namespace Stage

variable {render : Renderer} {sort : SortOrder} {b b' : Browser} {stage stage' : Stage}

/-- If a search has read the form, then with these preferences. -/
def Carries (render : Renderer) (sort : SortOrder) : Stage → Prop
  | .attempt round => round.form.Prefers render sort
  | .awaiting _ round => round.form.Prefers render sort
  | .answered _ round _ => round.form.Prefers render sort
  | _ => True

/-- A search under way that registers no round any more: it was overtaken, or its answer will not be
corrected. -/
def Spent (generation : Nat) : Stage → Prop
  | .awaiting ticket round => ticket < generation ∨ round.corrected.isSome
  | .answered ticket round response =>
      ticket < generation ∨ round.correction? response = none
  | _ => False

/-- The action is a search from the form, or sets the preferences. -/
def FromForm (render : Renderer) (sort : SortOrder) : Stage → Prop
  | .start action =>
      action.SearchesFromForm ∨ action = .prefer (some render) (some sort)
  | .replay _ => False
  | .asking _ => False
  | .told _ => False
  | _ => True

theorem Spent.mono {generation generation' : Nat}
    (hstage : stage.Spent generation) (h : generation ≤ generation') : stage.Spent generation' := by
  cases stage with
  | awaiting ticket round => exact hstage.imp_left (Nat.lt_of_lt_of_le · h)
  | answered ticket round response => exact hstage.imp_left (Nat.lt_of_lt_of_le · h)
  | _ => cases hstage

/-- An action that searches from the form or sets the preferences leads to a round or to its end, and
the form that has the preferences keeps them and hands them on. -/
theorem fromForm_begin
    {action : Action} (h : begin b action = .moved b' stage')
    (haction : (start action).FromForm render sort) :
    stage'.FromForm render sort ∧
      (b.form.Prefers render sort →
        b'.form.Prefers render sort ∧ stage'.Carries render sort) := by
  rcases haction with hsearches | rfl
  · cases action with
    | submit blog query =>
        cases h
        exact ⟨trivial, fun hb => ⟨hb, hb⟩⟩
    | paginate page =>
        simp only [begin] at h
        split at h
        · next form hrestore =>
            cases h
            obtain ⟨l, -, rfl⟩ := Option.map_eq_some_iff.mp hrestore
            exact ⟨trivial, fun hb => ⟨hb, hb⟩⟩
        · cases h
          exact ⟨trivial, fun hb => ⟨hb, trivial⟩⟩
    | openPath path =>
        simp only [begin] at h
        split at h
        · cases h
          exact ⟨trivial, fun hb => ⟨hb, hb⟩⟩
        · cases h
          exact ⟨trivial, fun hb => ⟨hb, trivial⟩⟩
    | _ => cases hsearches
  · cases h
    exact ⟨trivial, fun _ => ⟨⟨rfl, rfl⟩, trivial⟩⟩

theorem FromForm.step
    (hstage : stage.FromForm render sort) (h : stage.Step b b' stage') :
    stage'.FromForm render sort := by
  cases h with
  | start hbegin => exact (fromForm_begin hbegin hstage).1
  | replay entry => cases hstage
  | tell news => cases hstage
  | _ => trivial

theorem FromForm.asked
    {request : Request} {resume : Reply → Stage} (hstage : stage.FromForm render sort)
    (h : stage.next b = .ask request resume) (reply : Reply) :
    (resume reply).FromForm render sort := by
  rcases ask_cases h with ⟨ticket, round, rfl, -, -, rfl⟩ | ⟨query, rfl, -, -⟩
  · simp only [receive]
    split <;> trivial
  · cases hstage

/-- A search with the preferences puts them back into the form. -/
theorem Carries.step
    (hcarries : stage.Carries render sort) (hstage : stage.FromForm render sort)
    (hb : b.form.Prefers render sort) (h : stage.Step b b' stage') :
    b'.form.Prefers render sort ∧ stage'.Carries render sort := by
  cases h with
  | start hbegin => exact (fromForm_begin hbegin hstage).2 hb
  | replay entry => cases hstage
  | register round => exact ⟨hcarries, hcarries⟩
  | giveUp hcancelled => exact ⟨hb, trivial⟩
  | correct hnewest hagain =>
      obtain ⟨-, page, -, rfl⟩ := Attempt.correction?_eq_some_iff.mp hagain
      exact ⟨hb, hcarries⟩
  | conclude hnewest hnone => exact ⟨hb, trivial⟩
  | discard hstale => exact ⟨hb, trivial⟩
  | tell news => cases hstage

theorem Carries.asked
    {request : Request} {resume : Reply → Stage} (hcarries : stage.Carries render sort)
    (hstage : stage.FromForm render sort) (h : stage.next b = .ask request resume)
    (reply : Reply) : (resume reply).Carries render sort := by
  rcases ask_cases h with ⟨ticket, round, rfl, -, -, rfl⟩ | ⟨query, rfl, -, -⟩
  · simp only [receive]
    split
    · exact hcarries
    · trivial
  · cases hstage

/-- A spent search ends without a look at the form. -/
theorem Spent.step
    (hspent : stage.Spent b.generation) (h : stage.Step b b' stage') :
    b'.form = b.form ∧ stage'.Carries render sort := by
  cases h with
  | giveUp hcancelled => exact ⟨rfl, trivial⟩
  | correct hnewest hagain =>
      rcases hspent with hold | hnone
      · exact absurd hnewest (Nat.ne_of_gt hold)
      · rw [hnone] at hagain
        cases hagain
  | conclude hnewest hnone => exact ⟨rfl, trivial⟩
  | discard hstale => exact ⟨rfl, trivial⟩
  | _ => cases hspent

theorem Spent.asked
    {request : Request} {resume : Reply → Stage} (hspent : stage.Spent b.generation)
    (h : stage.next b = .ask request resume) (reply : Reply) :
    (resume reply).Carries render sort ∨ (resume reply).Spent b.generation := by
  rcases ask_cases h with ⟨ticket, round, rfl, -, -, rfl⟩ | ⟨query, rfl, -, -⟩
  · simp only [receive]
    split
    · right
      refine hspent.imp_right fun hcorrected => ?_
      obtain ⟨page, hpage⟩ := Option.isSome_iff_exists.mp hcorrected
      simp only [Attempt.correction?, hpage]
    · exact Or.inl trivial
  · cases hspent

end Stage

namespace Overlap

variable {P : Action → Prop} {start o o' o'' : Overlap} {move : Move} {call : Nat}
  {render : Renderer} {sort : SortOrder}

theorem ReachesBy.refl (P : Action → Prop) (o : Overlap) : o.ReachesBy P o :=
  ⟨[], rfl, nofun⟩

theorem ReachesBy.head
    (h : o.take move = some o') (hmove : ∀ action, move = .begin action → P action)
    (hrest : o'.ReachesBy P o'') : o.ReachesBy P o'' := by
  obtain ⟨moves, hplay, hmoves⟩ := hrest
  refine ⟨move :: moves, ?_, ?_⟩
  · rw [play, h]
    exact hplay
  · intro action haction
    rcases List.mem_cons.mp haction with hhead | htail
    · exact hmove action hhead.symm
    · exact hmoves action htail

/-- A move of an action that has started starts no other. -/
theorem ReachesBy.head_of_call
    (h : o.take move = some o') (hmove : move.call? = some call) (hrest : o'.ReachesBy P o'') :
    o.ReachesBy P o'' := by
  refine .head h ?_ hrest
  rintro action rfl
  cases hmove

/-- What each move keeps that starts no other actions, a run keeps in which no others start. -/
theorem ReachesBy.preserves
    {Q : Overlap → Prop}
    (hstep : ∀ o move o', (∀ action, move = .begin action → P action) → Q o →
      o.take move = some o' → Q o')
    (h : o.ReachesBy P o') (ho : Q o) : Q o' := by
  obtain ⟨moves, hplay, hmoves⟩ := h
  induction moves generalizing o with
  | nil =>
      cases hplay
      exact ho
  | cons move rest ih =>
      obtain ⟨next, htake, hrest⟩ := Option.bind_eq_some_iff.mp hplay
      refine ih ?_ hrest fun action haction => hmoves action (List.mem_cons_of_mem _ haction)
      refine hstep o move next ?_ ho htake
      rintro action rfl
      exact hmoves action (List.mem_cons_self ..)

/-- Only searches from the form take part, and settings of the preferences. -/
def FromForm (render : Renderer) (sort : SortOrder) (o : Overlap) : Prop :=
  ∀ (call : Nat) (stage : Stage), o.stages[call]? = some stage → stage.FromForm render sort

theorem FromForm.take
    (ho : o.FromForm render sort) (h : o.take move = some o')
    (hmove : ∀ action, move = .begin action → (Stage.start action).FromForm render sort) :
    o'.FromForm render sort := by
  intro call stage' hstage'
  rcases stage_cases_of_take h hstage' with
    hbefore | ⟨action, hbegin, rfl⟩ | ⟨stage, -, hstage, hstep⟩ |
    ⟨stage, request, resume, reply, -, hstage, hnext, rfl⟩
  · exact ho call stage' hbefore
  · exact hmove action hbegin
  · exact (ho call stage hstage).step hstep
  · exact (ho call stage hstage).asked hnext reply

/-- The form has the preferences, every search has read it with them or is spent, and those that started
as the `n`-th or later have read it with them. -/
structure Kept (n : Nat) (render : Renderer) (sort : SortOrder) (o : Overlap) : Prop where
  form : o.browser.form.Prefers render sort
  fromForm : o.FromForm render sort
  stages : ∀ (call : Nat) (stage : Stage), o.stages[call]? = some stage →
    stage.Carries render sort ∨ call < n ∧ stage.Spent o.browser.generation

theorem Kept.take
    {n : Nat} (ho : o.Kept n render sort) (h : o.take move = some o')
    (hmove : ∀ action, move = .begin action → action.SearchesFromForm) :
    o'.Kept n render sort := by
  have hstep : ∀ (call : Nat) (stage stage' : Stage), o.stages[call]? = some stage →
      stage.Step o.browser o'.browser stage' →
        o'.browser.form.Prefers render sort ∧ stage'.Carries render sort := by
    intro call stage stage' hstage hstep
    rcases ho.stages call stage hstage with hcarries | ⟨-, hspent⟩
    · exact hcarries.step (ho.fromForm call stage hstage) ho.form hstep
    · obtain ⟨hform, hcarries⟩ := hspent.step hstep
      rw [hform]
      exact ⟨ho.form, hcarries⟩
  constructor
  · rcases browser_of_take h with ⟨call, rfl⟩ | hbrowser
    · obtain ⟨stage, -, -, hstage, -⟩ := take_go_eq_some_iff.mp h
      obtain ⟨stage', hmoved, -⟩ := step_of_take_go hstage h
      exact (hstep call stage stage' hstage hmoved).1
    · rw [hbrowser]
      exact ho.form
  · exact ho.fromForm.take h fun action haction => Or.inl (hmove action haction)
  · intro call stage' hstage'
    rcases stage_cases_of_take h hstage' with
      hbefore | ⟨action, -, rfl⟩ | ⟨stage, -, hstage, hmoved⟩ |
      ⟨stage, request, resume, reply, rfl, hstage, hnext, rfl⟩
    · refine (ho.stages call stage' hbefore).imp_right ?_
      exact fun ⟨hold, hspent⟩ => ⟨hold, hspent.mono (generation_le_take h)⟩
    · exact Or.inl trivial
    · exact Or.inl (hstep call stage stage' hstage hmoved).2
    · rcases ho.stages call stage hstage with hcarries | ⟨hold, hspent⟩
      · exact Or.inl (hcarries.asked (ho.fromForm call stage hstage) hnext reply)
      · refine (hspent.asked hnext reply).imp_right fun hspent' => ⟨hold, ?_⟩
        exact hspent'.mono (generation_le_take h)

/-- What is kept lasts. -/
theorem Kept.preferencesLast (ho : o.Kept o.stages.length render sort) :
    o.PreferencesLast render sort := by
  have hkept : ∀ later, o.ReachesBy Action.SearchesFromForm later →
      later.Kept o.stages.length render sort := by
    intro later hlater
    exact hlater.preserves (Q := Kept o.stages.length render sort)
      (fun _ _ _ hmove hnow htake => hnow.take htake hmove) ho
  constructor
  · intro later hlater
    exact (hkept later hlater).form
  · intro later call stage request resume hlater hnew hstage hnext
    have hcarries : stage.Carries render sort := by
      rcases (hkept later hlater).stages call stage hstage with hcarries | ⟨hold, -⟩
      · exact hcarries
      · exact absurd hnew (Nat.not_le_of_lt hold)
    rcases Stage.ask_cases hnext with ⟨ticket, round, rfl, -, rfl, -⟩ | ⟨query, rfl, -, -⟩
    · exact ⟨round.form.request, rfl, hcarries⟩
    · cases (hkept later hlater).fromForm call _ hstage

/-- A search that is about to register its form puts the preferences of this form on the page. -/
theorem prefers_of_attempt
    {round : Attempt} (hlast : ∀ later, o.ReachesBy P later → later.browser.form.Prefers render sort)
    (h : o.stages[call]? = some (.attempt round)) : round.form.Prefers render sort := by
  have htake : o.take (.go call) = some ⟨o.browser.register round.form round.push, _⟩ :=
    take_go_eq_some_iff.mpr ⟨.attempt round, _, _, h, rfl, rfl⟩
  exact hlast _ (.head_of_call htake rfl (.refl P _))

/-- So does, later, a search whose answer to the newest round asks for a correction. -/
theorem prefers_of_answered
    {round again : Attempt} {response : SearchResponse}
    (hlast : ∀ later, o.ReachesBy P later → later.browser.form.Prefers render sort)
    (h : o.stages[call]? = some (.answered o.browser.generation round response))
    (hagain : round.correction? response = some again) : round.form.Prefers render sort := by
  have hnext : (Stage.answered o.browser.generation round response).next o.browser =
      .moved (o.browser.display response) (.attempt again) := by
    simp only [Stage.next, if_true, hagain]
  have htake := take_go_eq_some_iff.mpr ⟨_, _, _, h, hnext, rfl⟩
  have hprefers : again.form.Prefers render sort :=
    prefers_of_attempt (fun later hlater => hlast later (.head_of_call htake rfl hlater))
      (List.getElem?_set_self (List.getElem?_eq_some_iff.mp h).1)
  obtain ⟨-, page, -, rfl⟩ := Attempt.correction?_eq_some_iff.mp hagain
  exact hprefers

theorem correction?_beyondLast {round : Attempt} (h : round.corrected = none) :
    round.correction? Backend.beyondLast = some ⟨{ round.form with page := 1 }, false, some 1⟩ :=
  Attempt.correction?_eq_some_iff.mpr ⟨h, 1, by decide +kernel, rfl⟩

/-- So does a search that waits for the answer to the newest round, if this answer turns out to lie
behind the last match. -/
theorem prefers_of_awaiting
    {round : Attempt}
    (hlast : ∀ later, o.ReachesBy P later → later.browser.form.Prefers render sort)
    (h : o.stages[call]? = some (.awaiting o.browser.generation round))
    (hcancelled : o.browser.generation ∉ o.browser.cancelled) (hnone : round.corrected = none) :
    round.form.Prefers render sort := by
  have hnext : (Stage.awaiting o.browser.generation round).next o.browser =
      .ask round.request (Stage.receive o.browser.generation round) := if_neg hcancelled
  have hreceive := Stage.receive_eq_answered_iff.mpr
    ⟨Eq.refl o.browser.generation, Eq.refl round, Backend.read_beyondLast⟩
  have htake : o.take (.reply call (.answer 200 "\x7b\"meta\":\x7b\"offset\":1\x7d\x7d")) =
      some ⟨o.browser,
        o.stages.set call (.answered o.browser.generation round Backend.beyondLast)⟩ := by
    rw [← hreceive]
    exact take_reply_eq_some_iff.mpr ⟨_, _, _, h, hnext, rfl⟩
  exact prefers_of_answered (fun later hlater => hlast later (.head_of_call htake rfl hlater))
    (List.getElem?_set_self (List.getElem?_eq_some_iff.mp h).1) (correction?_beyondLast hnone)

/-- What holds at the moment at which preferences are set. -/
theorem SetsPreferences.spec
    {form : SearchForm} {page : PageView}
    (h : (Overlap.new form page).SetsPreferences o o' render sort) :
    o'.Orderly ∧ o'.FromForm render sort ∧ o'.browser.form.Prefers render sort := by
  let Sound (o : Overlap) : Prop := o.Orderly ∧ o.FromForm render sort
  have hmove : ∀ {move : Move}, (∀ action, move = .begin action → action.SearchesFromForm) →
      ∀ action, move = .begin action → (Stage.start action).FromForm render sort :=
    fun hsearches action haction => Or.inl (hsearches action haction)
  have hrun : ∀ {o o' : Overlap}, o.ReachesBy Action.SearchesFromForm o' → Sound o → Sound o' := by
    intro o o' hreach ho
    exact hreach.preserves (Q := Sound)
      (fun _ _ _ hsearches hnow htake =>
        ⟨hnow.1.take htake, hnow.2.take htake (hmove hsearches)⟩) ho
  obtain ⟨before, begun, hbefore, hbegin, hbegun, hstage, htake⟩ := h.run
  have hnew : Sound (Overlap.new form page) := ⟨orderly_new form page, nofun⟩
  have hsound : Sound begun := by
    obtain ⟨horderly, hfrom⟩ := hrun hbefore hnew
    refine ⟨horderly.take hbegin, hfrom.take hbegin ?_⟩
    rintro action haction
    cases haction
    exact Or.inr rfl
  obtain ⟨horderly, hfrom⟩ := hrun hbegun hsound
  refine ⟨horderly.take htake, hfrom.take htake nofun, ?_⟩
  obtain ⟨stage, b, stage', hstage', hnext, rfl⟩ := take_go_eq_some_iff.mp htake
  cases hstage.symm.trans hstage'
  cases hnext
  exact ⟨rfl, rfl⟩

/-- Preferences that are set while searches run last exactly if every search that has read the form
has read these preferences or registers no further round. -/
theorem preferencesLast_iff
    {form : SearchForm} {page : PageView}
    (h : (Overlap.new form page).SetsPreferences o o' render sort) :
    o'.PreferencesLast render sort ↔
      ∀ stage ∈ o'.stages,
        stage.Carries render sort ∨ stage.Spent o'.browser.generation := by
  obtain ⟨horderly, hfrom, hform⟩ := h.spec
  constructor
  · intro hlast stage hstage
    obtain ⟨call, hcall⟩ := List.mem_iff_getElem?.mp hstage
    cases stage with
    | attempt round => exact Or.inl (prefers_of_attempt hlast.form hcall)
    | awaiting ticket round =>
        rcases Nat.lt_or_eq_of_le (horderly.ticket_le (round?_of_getElem? hcall)) with hold | rfl
        · exact Or.inr (Or.inl hold)
        · cases hcorrected : round.corrected with
          | some page => exact Or.inr (Or.inr (by rw [hcorrected]; rfl))
          | none =>
              have hnot : o'.browser.generation ∉ o'.browser.cancelled :=
                fun hmem => Nat.lt_irrefl _ (horderly.cancelled _ hmem)
              exact Or.inl (prefers_of_awaiting hlast.form hcall hnot hcorrected)
    | answered ticket round response =>
        rcases Nat.lt_or_eq_of_le (horderly.ticket_le (round?_of_getElem? hcall)) with hold | rfl
        · exact Or.inr (Or.inl hold)
        · cases hagain : round.correction? response with
          | none => exact Or.inr (Or.inr hagain)
          | some again => exact Or.inl (prefers_of_answered hlast.form hcall hagain)
    | _ => exact Or.inl trivial
  · intro hstages
    refine Kept.preferencesLast ⟨hform, hfrom, ?_⟩
    intro call stage hcall
    refine (hstages stage (List.mem_of_getElem? hcall)).imp_right fun hspent => ?_
    exact ⟨(List.getElem?_eq_some_iff.mp hcall).1, hspent⟩

/-- A search that was overtaken and still waits does no harm to the preferences that are set now. -/
theorem preferencesLast_of_overtaken :
    ∃ o o', (Overlap.new default .empty).SetsPreferences o o' .plain .oldest ∧
      o'.PreferencesLast .plain .oldest := by
  have h : ∃ o o' round, (Overlap.new default .empty).SetsPreferences o o' .plain .oldest ∧
      o'.browser.generation = 2 ∧ o'.stages =
        [.awaiting 1 round, .finished (.error .http), .finished (.ok .preferred)] := by
    refine ⟨_, _, _, ⟨_, _, ⟨[.begin (.submit "staff" "old"), .go 0, .go 0,
      .begin (.submit "staff" "new"), .go 1, .go 1, .reply 1 .failed], rfl, ?_⟩, rfl, .refl _ _,
      rfl, rfl⟩, rfl, rfl⟩
    intro action haction
    simp only [List.mem_cons, List.not_mem_nil, or_false, reduceCtorEq, false_or] at haction
    rcases haction with haction | haction
    · cases haction
      trivial
    · cases haction
      trivial
  obtain ⟨o, o', round, hsets, hgeneration, hstages⟩ := h
  refine ⟨o, o', hsets, (preferencesLast_iff hsets).mpr ?_⟩
  rw [hstages, hgeneration]
  intro stage hstage
  simp only [List.mem_cons, List.not_mem_nil, or_false] at hstage
  rcases hstage with rfl | rfl | rfl
  · exact Or.inr (Or.inl Nat.one_lt_two)
  · exact Or.inl trivial
  · exact Or.inl trivial

/-- Preferences that are set while a search waits for its answer can get lost: the search corrects the
page with those that it has read. -/
theorem not_preferencesNeverLost : ¬(Overlap.new default .empty).PreferencesNeverLost := by
  intro hnever
  have h : ∃ o o' round, (Overlap.new default .empty).SetsPreferences o o' .plain .oldest ∧
      o'.stages[0]? = some (.awaiting o'.browser.generation round) ∧
        o'.browser.cancelled = [] ∧ round.corrected = none ∧ round.form.render = .html := by
    refine ⟨_, _, _, ⟨_, _, ⟨[.begin (.submit "staff" "art"), .go 0, .go 0], rfl, ?_⟩, rfl,
      .refl _ _, rfl, rfl⟩, rfl, rfl, rfl, rfl⟩
    intro action haction
    simp only [List.mem_cons, List.not_mem_nil, or_false, reduceCtorEq] at haction
    cases haction
    trivial
  obtain ⟨o, o', round, hsets, hwaits, hcancelled, hnone, hhtml⟩ := h
  have hlast := (hnever o o' .plain .oldest hsets).form
  have hprefers := prefers_of_awaiting hlast hwaits (by rw [hcancelled]; exact List.not_mem_nil) hnone
  rw [SearchForm.Prefers, hhtml] at hprefers
  cases hprefers.1

end Overlap

end BlogSearch
