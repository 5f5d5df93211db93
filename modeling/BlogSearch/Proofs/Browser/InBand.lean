import BlogSearch.Proofs.Browser.Correction
import BlogSearch.Proofs.Browser.Overlap
import BlogSearch.Proofs.Browser.Prepared
import BlogSearch.Proofs.Browser.Repetition
import BlogSearch.Proofs.Json.Records
import BlogSearch.Proofs.Search.Envelope

/-!
# Errors inside of answers

An answer with a status of success may still carry an error.  Then the error is what is shown, whatever
else the answer says of its results, and no other page is asked for in its place.
-/

namespace BlogSearch

open Json

/-! ## The request that a search ends with -/

/-- Between two moments a request was replied to with a status of success and that body; `sent'` are
the requests up to it. -/
structure Backend.AnsweredAmong
    (backend : Backend) (sent sent' after : List Request) (status : Nat) (body : String) : Prop where
  begun : sent <+: sent'
  new : sent' ≠ sent
  before : sent' <+: after
  success : Reply.isSuccess status = true
  reply : backend sent' = .answer status body

namespace Backend.AnsweredAmong

variable {backend : Backend} {sent sent' after : List Request} {status : Nat} {body : String}

theorem answer_eq (h : backend.AnsweredAmong sent sent' after status body) :
    backend.answer sent' = (SearchResponse.read body).mapError .unreadable := by
  rw [Backend.answer, h.reply]
  exact Reply.read_answer h.success body SearchResponse.read

/-- Nothing is answered where nothing is sent. -/
theorem after_ne (h : backend.AnsweredAmong sent sent' after status body) : after ≠ sent := by
  intro heq
  have hle := h.before.length_le
  rw [heq] at hle
  exact h.new (h.begun.eq_of_length_le hle).symm

/-- A search ends with the first answer that is not out of range. -/
theorem after_eq
    {f : SearchForm} {push : Bool} {b b' : Browser} {result : Result}
    (h : backend.AnsweredAmong sent sent' after status body)
    (honce : CorrectedOnce backend f push sent b after b' result)
    (hrange : ∀ r, backend.answer sent' = .ok r → ¬r.info.OutOfRange) : after = sent' := by
  obtain ⟨more, rfl⟩ := h.begun
  have hne : more ≠ [] := by
    rintro rfl
    exact h.new (List.append_nil sent)
  obtain ⟨first, rest, rfl⟩ := List.exists_cons_of_ne_nil hne
  have hprefix := h.before
  rcases honce.requests with hone | ⟨second, htwo⟩
  · rw [hone, List.prefix_append_right_inj, List.cons_prefix_cons, List.prefix_nil] at hprefix
    rw [hone, hprefix.1, hprefix.2]
  · rw [htwo, List.prefix_append_right_inj, List.cons_prefix_cons] at hprefix
    obtain ⟨rfl, hrest⟩ := hprefix
    by_cases hnil : rest = []
    · rw [hnil] at hrange
      obtain ⟨r, hr, hout⟩ := honce.second_iff.mp ⟨second, htwo⟩
      exact absurd hout (hrange r hr)
    · have hlength : [second].length ≤ rest.length := List.length_pos_of_ne_nil hnil
      rw [htwo, hrest.eq_of_length_le hlength]

end Backend.AnsweredAmong

/-! ## What becomes of a search whose answer has an error -/

/-- The search ended with the request, and shows the error with these results. -/
structure ShowsError
    (rs : List ResultItem) (message : String) (sent sent' : List Request)
    (after : List Request × Browser × Result) : Prop where
  /-- No other page was asked for. -/
  requests : after.1 = sent'
  results : after.2.1.page.results = rs.map ResultView.ofItem
  panel : after.2.1.page.panel = some (.failure message)
  /-- The outcome names the page of the request if that was a correction. -/
  outcome : (∃ first, sent' = sent ++ [first] ∧
      after.2.2 = .ok (.searched (.rendered (.failure message) rs.length none))) ∨
    ∃ (first : Request) (second : SearchRequest), sent' = sent ++ [first, .search second] ∧
      after.2.2 = .ok (.searched (.rendered (.failure message) rs.length (some second.page)))

/-- The search ended with the request, because its answer cannot be read. -/
structure EndsUnreadable
    (m : Mismatch) (sent' : List Request) (after : List Request × Browser × Result) : Prop where
  requests : after.1 = sent'
  result : after.2.2 = .error (.unreadable (.mismatch m))

theorem panel_of_error {info : SearchMeta} {message : String} (h : info.error = some message) :
    info.panel = .failure message := by
  rw [SearchMeta.panel, h]

theorem not_outOfRange_of_error {info : SearchMeta} {message : String}
    (h : info.error = some message) : ¬info.OutOfRange := by
  rintro ⟨hnone, -⟩
  rw [h] at hnone
  cases hnone

namespace CorrectedOnce

variable {backend : Backend} {f : SearchForm} {push : Bool} {sent sent' : List Request}
  {b : Browser} {status : Nat} {body : String} {after : List Request × Browser × Result}

theorem showsError
    (honce : CorrectedOnce backend f push sent b after.1 after.2.1 after.2.2)
    (h : backend.AnsweredAmong sent sent' after.1 status body)
    {rs : List ResultItem} {info : SearchMeta} {message : String}
    (hread : SearchResponse.read body = .ok ⟨rs, info⟩) (herror : info.error = some message) :
    ShowsError rs message sent sent' after := by
  have hanswer : backend.answer sent' = .ok ⟨rs, info⟩ := by
    rw [h.answer_eq, hread]
    rfl
  have hsent : after.1 = sent' := by
    apply h.after_eq honce
    intro r hr
    rw [hanswer] at hr
    cases hr
    exact not_outOfRange_of_error herror
  rw [← hsent] at hanswer
  obtain ⟨hresults, hpanel, -⟩ := honce.shown _ hanswer
  obtain ⟨corrected, hcorrected, hresult⟩ := honce.outcome
  rw [hanswer] at hresult
  simp only [panel_of_error herror] at hpanel
  refine ⟨hsent, hresults, hpanel, ?_⟩
  rw [← hsent, hresult]
  simp only [Except.map, panel_of_error herror]
  rcases honce.requests with hone | htwo
  · left
    refine ⟨_, hone, ?_⟩
    cases corrected with
    | none => rfl
    | some p =>
        have hsecond := (hcorrected p).mp rfl
        rw [hone] at hsecond
        simp at hsecond
  · right
    obtain ⟨r, hr, hout⟩ := honce.second_iff.mp htwo
    obtain ⟨p, -, -, hsecond⟩ := honce.second r hr hout
    refine ⟨_, _, hsecond, ?_⟩
    rw [(hcorrected p).mpr hsecond]

theorem endsUnreadable
    (honce : CorrectedOnce backend f push sent b after.1 after.2.1 after.2.2)
    (h : backend.AnsweredAmong sent sent' after.1 status body)
    {m : Mismatch} (hread : SearchResponse.read body = .error (.mismatch m)) :
    EndsUnreadable m sent' after := by
  have hanswer : backend.answer sent' = .error (.unreadable (.mismatch m)) := by
    rw [h.answer_eq, hread]
    rfl
  have hsent : after.1 = sent' := by
    apply h.after_eq honce
    intro r hr
    rw [hanswer] at hr
    cases hr
  obtain ⟨corrected, -, hresult⟩ := honce.outcome
  rw [hsent, hanswer] at hresult
  exact ⟨hsent, hresult⟩

end CorrectedOnce

/-- In every state that actions can reach, however they overlap, `P` tells how a search ends that is
answered with the body. -/
def WheneverAnswered
    (body : String)
    (P : List Request → List Request → List Request × Browser × Result → Prop) : Prop :=
  ∀ (defaults : SearchForm) (view : PageView) (o : Overlap),
    (Overlap.new defaults view).Reaches o →
    ∀ (backend : Backend) (sent sent' : List Request) (action : Action) (status : Nat),
      action.Searches →
      backend.AnsweredAmong sent sent' (backend.network.perform sent o.browser action).1 status body →
      P sent sent' (backend.network.perform sent o.browser action)

/-- Every search that sends anything corrects its page once at most. -/
theorem wheneverAnswered_of_correctedOnce
    {body : String} {P : List Request → List Request → List Request × Browser × Result → Prop}
    (h : ∀ (backend : Backend) (f : SearchForm) (push : Bool) (sent sent' : List Request) (b : Browser)
      (status : Nat) (after : List Request × Browser × Result),
      CorrectedOnce backend f push sent b after.1 after.2.1 after.2.2 →
      backend.AnsweredAmong sent sent' after.1 status body → P sent sent' after) :
    WheneverAnswered body P := by
  intro defaults view o hreaches backend sent sent' action status hsearches hanswered
  have hissued := ((Overlap.ticketsIssued_new defaults view).of_reaches hreaches).browser
  rcases hprepare : o.browser.prepare? action with _ | ⟨b₀, f, push⟩
  · have hperform := Network.perform_of_prepare?_eq_none backend.network sent hsearches hprepare
    rw [hperform] at hanswered
    exact absurd rfl hanswered.after_ne
  · have hperform := Network.perform_of_prepare? backend.network sent hissued hprepare
    rw [hperform] at hanswered ⊢
    exact h _ f push _ _ b₀ status _ (backend.correctedOnce_search sent b₀ f push) hanswered

/-- Whatever the state of the browser, a round that gets the body as its answer shows the error if it
is the newest, and no round follows it. -/
def RoundsShowError (body : String) (rs : List ResultItem) (message : String) : Prop :=
  ∀ (status ticket : Nat) (round : Attempt), Reply.isSuccess status = true →
    ∃ r, Stage.receive ticket round (.answer status body) = .answered ticket round r ∧
      ∀ b : Browser,
        (b.generation ≠ ticket →
          (Stage.answered ticket round r).next b = .moved b Stage.superseded) ∧
        (b.generation = ticket →
          ∃ b', (Stage.answered ticket round r).next b = .moved b' (.finished (.ok
              (.searched (.rendered (.failure message) rs.length round.corrected)))) ∧
            b'.page.results = rs.map ResultView.ofItem ∧ b'.page.panel = some (.failure message))

theorem roundsShowError
    {body : String} {rs : List ResultItem} {info : SearchMeta} {message : String}
    (hread : SearchResponse.read body = .ok ⟨rs, info⟩) (herror : info.error = some message) :
    RoundsShowError body rs message := by
  intro status ticket round hstatus
  refine ⟨⟨rs, info⟩, ?_, ?_⟩
  · rw [Stage.receive, Reply.read_answer hstatus, hread]
    rfl
  · intro b
    have hcorrection : round.correction? ⟨rs, info⟩ = none := by
      rw [Attempt.correction?,
        SearchMeta.correctedPage?_eq_none_iff.mpr (not_outOfRange_of_error herror)]
      split <;> rfl
    refine ⟨?_, ?_⟩
    · intro hother
      rw [Stage.next, if_neg hother]
    · intro hnewest
      refine ⟨b.display ⟨rs, info⟩, ?_, ?_, ?_⟩
      · rw [Stage.next, if_pos hnewest]
        simp only [hcorrection, Attempt.outcome, panel_of_error herror]
      · simp [Browser.display, PageView.showResponse_eq]
      · simp [Browser.display, PageView.showResponse_eq, panel_of_error herror]

open SearchResponse in
/-- An error inside of an answer always gets to the panel. -/
theorem errors_reach_panel
    {body : String} {ms : List (String × Value)} (hbody : Value.read? body = some (.object ms)) :
    (∀ rs message, ReportsError ms rs message →
      (∃ info, read body = .ok ⟨rs, info⟩ ∧ info.error = some message) ∧
        WheneverAnswered body (ShowsError rs message) ∧ RoundsShowError body rs message) ∧
    ((Value.object ms).member? "meta" ≠ none →
      read body = decode.ofValue (.object (others ms)) ∧
        ∀ body' ms', Value.read? body' = some (.object ms') → others ms' = others ms →
          read body' = read body) ∧
    ((Value.object ms).member? "meta" = none → (Value.object ms).member? "error" = some .null →
      read body = decode.ofValue (.object (others ms)) ∧
        ∀ body', Value.read? body' = some (.object (others ms)) → read body' = read body) ∧
    ∀ v, (Value.object ms).member? "meta" = none → (Value.object ms).member? "error" = some v →
      v ≠ .null → (∀ s, v ≠ .string s) →
      ∃ m, read body = .error (.mismatch m) ∧
        WheneverAnswered body fun _ sent' after => EndsUnreadable m sent' after := by
  refine ⟨?_, ?_, ?_, ?_⟩
  · intro rs message hreports
    obtain ⟨info, hread, herror⟩ := hreports.read hbody
    refine ⟨⟨info, hread, herror⟩, ?_, roundsShowError hread herror⟩
    apply wheneverAnswered_of_correctedOnce
    intro backend f push sent sent' b status after honce hanswered
    exact honce.showsError hanswered hread herror
  · intro hmeta
    have hread := read_eq_decode_others hbody (Or.inl hmeta)
    refine ⟨hread, ?_⟩
    intro body' ms' hbody' hothers
    have hmeta' : (Value.object ms').member? "meta" ≠ none := by
      rw [← member?_others (by decide), hothers, member?_others (by decide)]
      exact hmeta
    rw [hread, read_eq_decode_others hbody' (Or.inl hmeta'), hothers]
  · intro hmeta herror
    have hread := read_eq_decode_others hbody (Or.inr (Or.inr herror))
    refine ⟨hread, ?_⟩
    intro body' hbody'
    rw [hread, read_eq_decode_others hbody' (Or.inr (Or.inl (member?_error_others ms))), others_others]
  · intro v hmeta herror hnull hstring
    obtain ⟨m, hread⟩ := read_eq_mismatch hbody hmeta herror hnull hstring
    refine ⟨m, hread, ?_⟩
    apply wheneverAnswered_of_correctedOnce
    intro backend f push sent sent' b status after honce hanswered
    exact honce.endsUnreadable hanswered hread

/-- A description with an error that would lie behind its matches without it. -/
def rejected : List (String × Value) :=
  [("error", .string "no such blog"), ("offset", .word 50)]

theorem read?_rejected :
    Value.read? (Value.object [("meta", .object rejected)]).compact =
      some (.object [("meta", .object rejected)]) := by
  have hwhole : (Value.object [("meta", .object rejected)]).Whole := by
    refine .object ?_
    simp only [List.forall_mem_singleton]
    refine .object ?_
    simp only [rejected, List.forall_mem_cons]
    exact ⟨.string _, Value.whole_word 50, nofun⟩
  have hfits : (Value.object [("meta", .object rejected)]).Fits Document.nestingLimit := by
    refine .object ?_
    simp only [List.forall_mem_singleton]
    refine .object ?_
    simp only [rejected, List.forall_mem_cons]
    exact ⟨.string _ _, .number _ _, nofun⟩
  exact Value.read?_compact hwhole hfits

theorem reportsError_rejected :
    SearchResponse.ReportsError [("meta", .object rejected)] [] "no such blog" := by
  refine ⟨rfl, Or.inr ⟨rejected, { SearchMeta.empty with error := some "no such blog", offset := 50 },
    rfl, rfl, rfl⟩⟩

/-- A search for a blog that the backend does not know ends with its first request. -/
theorem rejected_search_shows_error :
    let body := (Value.object [("meta", .object rejected)]).compact
    let backend : Backend := fun _ => .answer 200 body
    Value.read? body = some (.object [("meta", .object rejected)]) ∧
      SearchResponse.ReportsError [("meta", .object rejected)] [] "no such blog" ∧
      ShowsError [] "no such blog" [] [.search (SearchForm.new "staff" "art").request]
        (backend.network.perform [] (Browser.new default) (.submit "staff" "art")) := by
  intro body backend
  have hissued : (Browser.new default).TicketsIssued := Browser.ticketsIssued_new default .empty
  have hsent : [] ++ [.search (SearchForm.new "staff" "art").request] <+:
      (backend.network.perform [] (Browser.new default) (.submit "staff" "art")).1 := by
    rw [Network.perform_submit backend.network [] hissued]
    exact backend.prefix_search [] (SearchForm.new "staff" "art") true
  have hanswered : backend.AnsweredAmong [] [.search (SearchForm.new "staff" "art").request]
      (backend.network.perform [] (Browser.new default) (.submit "staff" "art")).1 200 body :=
    ⟨List.nil_prefix, List.cons_ne_nil _ _, hsent, rfl, rfl⟩
  obtain ⟨hreports, -⟩ := errors_reach_panel read?_rejected
  obtain ⟨-, hshows, -⟩ := hreports [] "no such blog" reportsError_rejected
  exact ⟨read?_rejected, reportsError_rejected, hshows default .empty _
    (Overlap.Reaches.refl (Overlap.new default .empty)) backend [] _ _ 200 trivial hanswered⟩

end BlogSearch
