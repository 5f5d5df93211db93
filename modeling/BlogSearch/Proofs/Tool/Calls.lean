import BlogSearch.Proofs.Browser.Alone
import BlogSearch.Tool.Service

/-!
# Calls of tools as actions

A call is accepted if its tool is known and its arguments can be decoded and make sense.  An accepted
call performs one action of the browser, or only tells its state; any other call leaves the service as
it is.
-/

namespace BlogSearch.Tool

open Json

variable {σ : Type} (net : Network σ) (state : σ) (s : Service) {call : Call} {action : Action}
  {tool arguments : String}

namespace Call

/-- The action that a call performs, if it performs one. -/
def action? : Call → Option Action
  | .configInfo => none
  | .back => some .back
  | .forward => some .forward
  | .listBlogs => some .listBlogs
  | .login p => some (.login (Text.trim p.username) p.password)
  | .logout => some .logout
  | .openLocation p => some (.openPath (Text.trim p.path))
  | .paginate p => some (.paginate p.page)
  | .search p => some (.submit (Text.trim p.blog) (Text.trim p.query))
  | .setPreferences p => some (.prefer p.render p.sort)
  | .toggle p => some (.toggle p.index)

/-- The call of a tool with the text of its arguments, if it is accepted. -/
def accepted? (tool arguments : String) : Option Call :=
  match Value.read? arguments, Name.read? tool with
  | some v, some name =>
      match Call.decode name v with
      | .ok call => if call.problem? = none then some call else none
      | .error _ => none
  | _, _ => none

end Call

namespace Service

/-- An action of a tool is the action of the browser. -/
theorem act_eq (action : Action) (present : Outcome → Value) :
    let after := net.perform state s.browser action
    (s.act net state action present).1 = after.1 ∧
      (s.act net state action present).2.1 = { s with browser := after.2.1 } := by
  intro after
  rcases hafter : net.perform state s.browser action with ⟨state', b', e | outcome⟩ <;>
    simp [act, after, hafter]

/-- Setting preferences is the action of the browser, and saves them. -/
theorem browser_setPreferences (p : PreferenceParams) :
    (s.setPreferences p).1.browser =
      { s.browser with form := s.browser.form.prefer p.render p.sort } := by
  rw [setPreferences]
  split <;> rfl

theorem perform_of_action?_eq_none (h : call.action? = none) :
    (s.perform net state call).1 = state ∧
      (s.perform net state call).2.1.browser = s.browser := by
  cases call with
  | configInfo => exact ⟨rfl, rfl⟩
  | _ => cases h

/-- A call does to the browser what its action does. -/
theorem perform_of_action? (h : call.action? = some action) :
    (s.perform net state call).1 = (net.perform state s.browser action).1 ∧
      (s.perform net state call).2.1.browser = (net.perform state s.browser action).2.1 := by
  have hact (present : Outcome → Value) := s.act_eq net state action present
  cases call with
  | configInfo => cases h
  | setPreferences p =>
      cases h
      rw [Network.perform_prefer, perform]
      exact ⟨rfl, s.browser_setPreferences p⟩
  | _ =>
      cases h
      exact ⟨(hact _).1, congrArg Service.browser (hact _).2⟩

/-- An accepted call is performed. -/
theorem callText_of_accepted? (h : Call.accepted? tool arguments = some call) :
    s.callText net state tool arguments = s.perform net state call := by
  simp only [Call.accepted?] at h
  split at h
  · next v name hread hname =>
      split at h
      · next decoded hdecode =>
          split at h
          · next hproblem =>
              cases h
              simp only [callText, hread, Service.call, hname, hdecode, answerCall, hproblem]
          · cases h
      · cases h
  · cases h

/-- A call that is not accepted does nothing. -/
theorem callText_of_accepted?_eq_none (h : Call.accepted? tool arguments = none) :
    ∃ e, s.callText net state tool arguments = (state, s, .error e) := by
  simp only [callText]
  rcases hread : Value.read? arguments with _ | v
  · exact ⟨_, rfl⟩
  · rcases hname : Name.read? tool with _ | name
    · exact ⟨.unknownTool, by simp only [Service.call, hname]⟩
    · rcases hdecode : Call.decode name v with e | decoded
      · exact ⟨e, by simp only [Service.call, hname, hdecode]⟩
      · rcases hproblem : decoded.problem? with _ | problem
        · simp only [Call.accepted?, hread, hname, hdecode, hproblem, if_pos] at h
          cases h
        · exact ⟨.refused problem, by simp only [Service.call, hname, hdecode, answerCall, hproblem]⟩

/-- Answers calls one after another, as they arrive. -/
def callAll (net : Network σ) (state : σ) (s : Service) : List (String × String) → σ × Service
  | [] => (state, s)
  | (tool, arguments) :: rest =>
      let after := s.callText net state tool arguments
      after.2.1.callAll net after.1 rest

end Service

namespace Call

/-- The calls among those that arrive which are accepted. -/
def acceptedAll (calls : List (String × String)) : List Call :=
  calls.filterMap fun c => accepted? c.1 c.2

/-- The actions that are performed for calls as they arrive. -/
def actions (calls : List (String × String)) : List Action :=
  (acceptedAll calls).filterMap action?

variable {rest : List (String × String)}

theorem actions_cons_of_none (h : accepted? tool arguments = none) :
    actions ((tool, arguments) :: rest) = actions rest := by
  simp [actions, acceptedAll, h]

theorem actions_cons_of_action?_eq_none
    (h : accepted? tool arguments = some call) (haction : call.action? = none) :
    actions ((tool, arguments) :: rest) = actions rest := by
  simp [actions, acceptedAll, h, haction]

theorem actions_cons_of_action?
    (h : accepted? tool arguments = some call) (haction : call.action? = some action) :
    actions ((tool, arguments) :: rest) = action :: actions rest := by
  simp [actions, acceptedAll, h, haction]

end Call

/-- Calls one after another do to the browser what their actions do. -/
theorem Service.browser_callAll (calls : List (String × String)) :
    let after := net.performAll state s.browser (Call.actions calls)
    (s.callAll net state calls).1 = after.1 ∧
      (s.callAll net state calls).2.browser = after.2.1 := by
  induction calls generalizing state s with
  | nil => exact ⟨rfl, rfl⟩
  | cons c rest ih =>
      obtain ⟨tool, arguments⟩ := c
      rw [callAll]
      rcases haccepted : Call.accepted? tool arguments with _ | call
      · obtain ⟨e, hcall⟩ := s.callText_of_accepted?_eq_none net state haccepted
        rw [hcall, Call.actions_cons_of_none haccepted]
        exact ih state s
      · rw [s.callText_of_accepted? net state haccepted]
        have hrest := ih (s.perform net state call).1 (s.perform net state call).2.1
        rcases haction : call.action? with _ | action
        · obtain ⟨hstate, hbrowser⟩ := s.perform_of_action?_eq_none net state haction
          rw [hstate, hbrowser] at hrest
          rw [Call.actions_cons_of_action?_eq_none haccepted haction, hstate]
          exact hrest
        · obtain ⟨hstate, hbrowser⟩ := s.perform_of_action? net state haction
          rw [hstate, hbrowser] at hrest
          rw [Call.actions_cons_of_action? haccepted haction, hstate]
          exact hrest

end BlogSearch.Tool
