import BlogSearch.Proofs.Browser.Alone
import BlogSearch.Proofs.Page.View

/-!
# Where an error comes from

An action ends with an error for one of two reasons.  It is refused in its first step, before it has
sent or changed anything, because there is nothing to search for or nothing to toggle.  Or a request
fails: the connection fails, the time runs out, the status is none of success, or the body cannot be
read.  Then the action ends with that request.
-/

namespace BlogSearch

open Json

/-! ## Requests that fail -/

namespace Request

/-- The body of a reply to a request is not what the client reads there. -/
inductive Undecodable : Request → String → Fault → Prop
  | login {form : Form} {body : String} {fault : Fault}
      (h : Decoder.stream LoginResponse.decode body = .error fault) :
      Undecodable (.login form) body fault
  | blogs {body : String} {fault : Fault}
      (h : Decoder.stream BlogSummary.decodeList body = .error fault) :
      Undecodable .blogs body fault
  | legacyBlogs {body : String} {fault : Fault}
      (h : Decoder.stream BlogSummary.decodeList body = .error fault) :
      Undecodable .legacyBlogs body fault
  | search {q : SearchRequest} {body : String} {fault : Fault}
      (h : SearchResponse.read body = .error fault) :
      Undecodable (.search q) body fault

/-- A request with such a reply has failed, for that cause. -/
inductive Failed (request : Request) : Reply → ClientError → Prop
  | transport : Failed request .failed .http
  | timeout (seconds : Nat) : Failed request (.timedOut seconds) (.timeout seconds)
  | status {status : Nat} {body : String} (h : Reply.isSuccess status = false) :
      Failed request (.answer status body) (.backend status body)
  | undecodable {status : Nat} {body : String} {fault : Fault}
      (hstatus : Reply.isSuccess status = true) (h : request.Undecodable body fault) :
      Failed request (.answer status body) (.unreadable fault)

variable {request : Request} {reply : Reply} {e : ClientError}

theorem failed_of_body (h : reply.body = .error e) : request.Failed reply e := by
  cases reply with
  | failed =>
      cases h
      exact .transport
  | timedOut seconds =>
      cases h
      exact .timeout seconds
  | answer status body =>
      rw [Reply.body] at h
      split at h
      · cases h
      · next hstatus =>
          cases h
          exact .status (Bool.eq_false_iff.mpr hstatus)

/-- Only an answer with a status of success has a body. -/
theorem answer_of_body {body : String} (h : reply.body = .ok body) :
    ∃ status, reply = .answer status body ∧ Reply.isSuccess status = true := by
  cases reply with
  | failed => cases h
  | timedOut seconds => cases h
  | answer status text =>
      rw [Reply.body] at h
      split at h
      · next hstatus =>
          cases h
          exact ⟨status, rfl, hstatus⟩
      · cases h

/-- A reply that cannot be read has no body, or one that cannot be decoded. -/
theorem failed_of_read
    {decode : String → Except Fault α}
    (hdecode : ∀ {body fault}, decode body = .error fault → request.Undecodable body fault)
    (h : reply.read decode = .error e) : request.Failed reply e := by
  rw [Reply.read] at h
  split at h
  · next e' hbody =>
      cases h
      exact failed_of_body hbody
  · next body hbody =>
      obtain ⟨status, rfl, hstatus⟩ := answer_of_body hbody
      split at h
      · cases h
      · next fault hfault =>
          cases h
          exact .undecodable hstatus (hdecode hfault)

end Request

/-- Between two moments requests were sent, and the last of them failed for that cause. -/
def Backend.FailedLast
    (backend : Backend) (sent sent' : List Request) (e : ClientError) : Prop :=
  ∃ more request, sent' = sent ++ more ++ [request] ∧ request.Failed (backend sent') e

theorem Backend.FailedLast.of_append
    {backend : Backend} {sent sent' : List Request} {first : Request} {e : ClientError}
    (h : backend.FailedLast (sent ++ [first]) sent' e) : backend.FailedLast sent sent' e := by
  obtain ⟨more, request, hsent, hfailed⟩ := h
  refine ⟨first :: more, request, ?_, hfailed⟩
  rw [hsent]
  simp

/-! ## Actions that are refused -/

/-- The browser has nothing on which an action could work. -/
inductive Browser.Refuses (b : Browser) : Action → ClientError → Prop
  | paginate {page : Option UInt32} (h : b.last = none) :
      Refuses b (.paginate page) .noActiveSearch
  | openPath {path : String} (h : Location.read? path = none) :
      Refuses b (.openPath path) (.invalidLocation path)
  | toggle {index : Nat} (h : b.page.results.length ≤ index) :
      Refuses b (.toggle index) (.noSuchResult index b.page.results.length)

namespace Stage

/-- A stage at which an action can only end with that error, and has done nothing that it would have
to undo: its action is refused, or has been. -/
inductive Refuses (b : Browser) : Stage → ClientError → Prop
  | start {action : Action} {e : ClientError} (h : b.Refuses action e) :
      Refuses b (.start action) e
  | finished (e : ClientError) : Refuses b (.finished (.error e)) e

variable {b b' : Browser} {stage stage' : Stage} {e : ClientError}

/-- The first step of an action that is refused changes nothing. -/
theorem refuses_of_begin
    {action : Action} (h : begin b action = .moved b' stage') (hrefuses : stage'.Refuses b' e) :
    b' = b ∧ b.Refuses action e := by
  cases action with
  | paginate page =>
      simp only [begin] at h
      split at h
      · cases h
        cases hrefuses
      · next hrestore =>
          cases h
          cases hrefuses
          exact ⟨rfl, .paginate (Option.map_eq_none_iff.mp hrestore)⟩
  | back =>
      simp only [begin] at h
      split at h
      all_goals
        cases h
        cases hrefuses
  | forward =>
      simp only [begin] at h
      split at h
      all_goals
        cases h
        cases hrefuses
  | openPath path =>
      simp only [begin] at h
      split at h
      · cases h
        cases hrefuses
      · next hread =>
          cases h
          cases hrefuses
          exact ⟨rfl, .openPath hread⟩
  | toggle index =>
      by_cases hle : b.page.results.length ≤ index
      · simp only [begin, PageView.toggle_of_length_le hle] at h
        cases h
        cases hrefuses
        exact ⟨rfl, .toggle hle⟩
      · have hresult := List.getElem?_eq_getElem (Nat.lt_of_not_le hle)
        simp only [begin, PageView.toggle_of_getElem? hresult] at h
        cases h
        cases hrefuses
  | _ =>
      cases h
      cases hrefuses

/-- Only the first step of an action leads to its refusal. -/
theorem Refuses.of_step (h : stage.Step b b' stage') (hrefuses : stage'.Refuses b' e) :
    b' = b ∧ stage.Refuses b e := by
  cases h with
  | start h =>
      obtain ⟨hb, haction⟩ := refuses_of_begin h hrefuses
      exact ⟨hb, .start haction⟩
  | _ => cases hrefuses

theorem failed_of_receive
    {ticket : Nat} {round : Attempt} {reply : Reply}
    (h : (receive ticket round reply).Refuses b e) : round.request.Failed reply e := by
  rw [receive] at h
  split at h
  · cases h
  · next hread =>
      cases h
      exact Request.failed_of_read .search hread

theorem error_of_tell_map
    {α : Type} {f : α → News} {x : Except ClientError α} (h : (Query.tell (x.map f)).Refuses b e) :
    x = .error e := by
  cases x with
  | ok a => cases h
  | error e' =>
      cases h
      rfl

theorem failed_of_resume
    {query : Query} {reply : Reply} (h : (query.resume reply).Refuses b e) :
    query.request.Failed reply e := by
  cases query with
  | login form => exact Request.failed_of_read .login (error_of_tell_map h)
  | logout => exact Request.failed_of_body (error_of_tell_map h)
  | blogs =>
      simp only [Query.resume] at h
      split at h
      · cases h
      · exact Request.failed_of_read .blogs (error_of_tell_map h)
  | legacyBlogs => exact Request.failed_of_read .legacyBlogs (error_of_tell_map h)

/-- A reply that ends an action with an error is the failure of the request. -/
theorem failed_of_ask
    {request : Request} {resume : Reply → Stage} {reply : Reply}
    (h : stage.next b = .ask request resume) (hrefuses : (resume reply).Refuses b e) :
    request.Failed reply e := by
  rcases ask_cases h with ⟨ticket, round, -, -, rfl, rfl⟩ | ⟨query, -, rfl, rfl⟩
  · exact failed_of_receive hrefuses
  · exact failed_of_resume hrefuses

end Stage

/-! ## Actions that end with an error -/

namespace Backend

variable (backend : Backend) (sent : List Request) (b : Browser) {e : ClientError}

/-- A run that ends with an error was refused from the start, or ends with a request that failed. -/
theorem refused_or_failed_of_run
    (stage : Stage) (h : (backend.network.run sent b stage).2.2 = .error e) :
    let after := backend.network.run sent b stage
    (stage.Refuses b e ∧ after.1 = sent ∧ after.2.1 = b) ∨
      backend.FailedLast sent after.1 e := by
  fun_induction backend.network.run sent b stage with
  | case1 sent b stage result hnext =>
      cases h
      obtain rfl := Stage.eq_finished_of_next_eq_done hnext
      exact Or.inl ⟨.finished e, rfl, rfl⟩
  | case2 sent b stage b' stage' hnext ih =>
      rcases ih h with ⟨hrefuses, hsent, hb'⟩ | hfailed
      · obtain ⟨rfl, hstage⟩ := Stage.Refuses.of_step (Stage.step_of_next_eq_moved hnext) hrefuses
        exact Or.inl ⟨hstage, hsent, hb'⟩
      · exact Or.inr hfailed
  | case3 sent b stage request resume hnext told ih =>
      rcases ih h with ⟨hrefuses, hsent, -⟩ | hfailed
      · have hfailed := Stage.failed_of_ask hnext hrefuses
        refine Or.inr ⟨[], request, ?_, ?_⟩
        · rw [hsent, List.append_nil]
          rfl
        · rw [hsent]
          exact hfailed
      · exact Or.inr hfailed.of_append

/-- An action that ends with an error was refused, with nothing sent and nothing changed, or it ends
with a request that failed. -/
theorem refused_or_failed_of_perform
    {action : Action} (h : (backend.network.perform sent b action).2.2 = .error e) :
    let after := backend.network.perform sent b action
    (b.Refuses action e ∧ after.1 = sent ∧ after.2.1 = b) ∨ backend.FailedLast sent after.1 e := by
  rcases backend.refused_or_failed_of_run sent b (.start action) h with
    ⟨hrefuses, hsame⟩ | hfailed
  · cases hrefuses with
    | start haction => exact Or.inl ⟨haction, hsame⟩
  · exact Or.inr hfailed

end Backend

end BlogSearch
