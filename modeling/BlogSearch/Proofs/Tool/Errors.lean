import BlogSearch.Proofs.Browser.Causes
import BlogSearch.Proofs.Tool.Calls

/-!
# What the error of a call tells

The code of an error says whether the call is to blame.  A call that is to blame has sent nothing and
changed nothing: its arguments make no sense, or its action is refused.  Any other error is that of a
request which the call has sent.
-/

namespace BlogSearch.Tool

/-- An action is refused with an error that blames the call. -/
theorem blamesCall_of_refuses
    {b : Browser} {action : Action} {cause : ClientError} (h : b.Refuses action cause) :
    CallError.blamesCall cause = true := by
  cases h <;> rfl

/-- A request fails with an error that does not. -/
theorem blamesCall_of_failed
    {request : Request} {reply : Reply} {cause : ClientError} (h : request.Failed reply cause) :
    CallError.blamesCall cause = false := by
  cases h <;> rfl

namespace CallError

variable {e : CallError}

/-- The code of an error that blames the call. -/
def invalidParams : Int := -32602

/-- The code of any other error. -/
def internalError : Int := -32603

theorem code_of_blames (h : e.isInvalidParams = true) : e.code = invalidParams := by
  rw [code, if_pos h]
  rfl

theorem code_of_not_blames (h : e.isInvalidParams = false) : e.code = internalError := by
  rw [code, h]
  rfl

end CallError

/-- Arguments that cannot be decoded blame the call. -/
theorem Call.blames_of_arguments
    {α : Type} {decode : Json.Decoder α} {v : Json.Value} {f : α → Call} {e : CallError}
    (h : (arguments decode v).map f = .error e) : e.isInvalidParams = true := by
  rw [arguments] at h
  split at h
  · cases h
  · cases h
    rfl

theorem Call.blames_of_decode
    {tool : Name} {v : Json.Value} {e : CallError} (h : Call.decode tool v = .error e) :
    e.isInvalidParams = true := by
  cases tool with
  | login => exact blames_of_arguments h
  | openLocation => exact blames_of_arguments h
  | paginate => exact blames_of_arguments h
  | search => exact blames_of_arguments h
  | setPreferences => exact blames_of_arguments h
  | togglePreview => exact blames_of_arguments h
  | _ => cases h

/-- What the error of a call tells about what the call has sent and changed. -/
structure ErrorsTell
    (backend : Backend) (sent : List Request) (s : Service)
    (after : List Request × Service × Except CallError String) : Prop where
  /-- There are two codes. -/
  codes : ∀ e, after.2.2 = .error e →
    e.code = CallError.invalidParams ∨ e.code = CallError.internalError
  /-- A call that is blamed has sent nothing, and browser and disk are as they were. -/
  blamed : ∀ e, after.2.2 = .error e → e.code = CallError.invalidParams →
    after.1 = sent ∧ after.2.1 = s
  /-- Otherwise the last request of the call has failed, for the cause that the error gives. -/
  failed : ∀ e, after.2.2 = .error e → e.code = CallError.internalError →
    ∃ cause, e = .failed cause ∧ backend.FailedLast sent after.1 cause
  /-- A call that has sent or changed anything is not blamed. -/
  notBlamed : ∀ e, after.2.2 = .error e → after.1 ≠ sent ∨ after.2.1 ≠ s →
    e.code ≠ CallError.invalidParams

variable {backend : Backend} {sent sent' : List Request} {s s' : Service}

theorem errorsTell_of_ok {text : String} : ErrorsTell backend sent s (sent', s', .ok text) :=
  ⟨nofun, nofun, nofun, nofun⟩

/-- An error that blames a call is right if the call has sent nothing and changed nothing. -/
theorem errorsTell_of_blames {e : CallError} (h : e.isInvalidParams = true) :
    ErrorsTell backend sent s (sent, s, .error e) := by
  have hcode := CallError.code_of_blames h
  constructor
  · rintro e' he
    cases he
    exact Or.inl hcode
  · intro e' _ _
    exact ⟨rfl, rfl⟩
  · rintro e' he hinternal
    cases he
    rw [hcode] at hinternal
    cases hinternal
  · rintro e' _ (hsent | hs)
    · exact absurd rfl hsent
    · exact absurd rfl hs

/-- The error of a request that has failed is right. -/
theorem errorsTell_of_failedLast {cause : ClientError} (h : backend.FailedLast sent sent' cause) :
    ErrorsTell backend sent s (sent', s', .error (.failed cause)) := by
  obtain ⟨more, request, hsent, hfailed⟩ := id h
  have hcode : (CallError.failed cause).code = CallError.internalError :=
    CallError.code_of_not_blames (blamesCall_of_failed hfailed)
  have hdistinct : CallError.internalError ≠ CallError.invalidParams := by decide
  constructor
  · rintro e he
    cases he
    exact Or.inr hcode
  · rintro e he hblamed
    cases he
    exact absurd (hcode.symm.trans hblamed) hdistinct
  · rintro e he _
    cases he
    exact ⟨cause, rfl, h⟩
  · rintro e he _
    cases he
    rw [hcode]
    exact hdistinct

namespace Service

variable (backend sent s)

/-- Through a tool an action answers with its own error. -/
theorem errorsTell_act (action : Action) (present : Outcome → Json.Value) :
    ErrorsTell backend sent s (s.act backend.network sent action present) := by
  rcases hafter : backend.network.perform sent s.browser action with ⟨sent', b', cause | outcome⟩
  · have hact : s.act backend.network sent action present =
        (sent', { s with browser := b' }, .error (.failed cause)) := by
      simp only [act, hafter]
    have herror := backend.refused_or_failed_of_perform sent s.browser (e := cause)
      (by rw [hafter])
    rw [hafter] at herror
    rw [hact]
    rcases herror with ⟨hrefuses, rfl, rfl⟩ | hfailed
    · exact errorsTell_of_blames (blamesCall_of_refuses hrefuses)
    · exact errorsTell_of_failedLast hfailed
  · simp only [act, hafter]
    exact errorsTell_of_ok

theorem errorsTell_perform (call : Call) :
    ErrorsTell backend sent s (s.perform backend.network sent call) := by
  cases call with
  | configInfo => exact errorsTell_of_ok
  | setPreferences p => exact errorsTell_of_ok
  | _ => exact s.errorsTell_act backend sent _ _

theorem errorsTell_answerCall (call : Call) :
    ErrorsTell backend sent s (s.answerCall backend.network sent call) := by
  rw [answerCall]
  split
  · exact errorsTell_of_blames rfl
  · exact s.errorsTell_perform backend sent call

theorem errorsTell_call (tool : String) (v : Json.Value) :
    ErrorsTell backend sent s (s.call backend.network sent tool v) := by
  rw [call]
  split
  · exact errorsTell_of_blames rfl
  · split
    · next e hdecode => exact errorsTell_of_blames (Call.blames_of_decode hdecode)
    · next decoded _ => exact s.errorsTell_answerCall backend sent decoded

end Service

/-- Whatever the service and its disk are like, whatever the backend answers, the error of a call tells
what the call has done, for a call as it arrives as well as for one whose arguments are decoded. -/
theorem errors_tell_what_calls_did (backend : Backend) (sent : List Request) (s : Service) :
    (∀ call, ErrorsTell backend sent s (s.answerCall backend.network sent call)) ∧
      ∀ tool arguments, ErrorsTell backend sent s (s.callText backend.network sent tool arguments) := by
  refine ⟨s.errorsTell_answerCall backend sent, ?_⟩
  intro tool arguments
  rw [Service.callText]
  split
  · exact s.errorsTell_call backend sent tool _
  · exact errorsTell_of_blames rfl

end BlogSearch.Tool
