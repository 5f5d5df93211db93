import BlogSearch.Proofs.Browser.Opening
import BlogSearch.Proofs.Json.Records
import BlogSearch.Proofs.Text.Trim
import BlogSearch.Proofs.Tool.Choices

/-!
# Loading the page again with a tool

The path of an entry has no blanks and begins as the path of every search does, so a call that opens
the current entry can be refused for one reason only: its path is too long.  Otherwise the page is
loaded again.
-/

namespace BlogSearch

/-! ## The path of an entry has no blanks -/

namespace Text

/-- There is nothing to trim where there are no blanks. -/
theorem trim_eq_self {s : String} (h : ∀ c ∈ s.toList, isBlank c = false) : trim s = s := by
  have hself : trimBoth isBlank s.toList = s.toList := by
    apply trimBoth_eq_self
    · intro c hc
      exact h c (List.mem_of_mem_head? hc)
    · intro c hc
      exact h c (List.mem_of_getLast? hc)
  rw [trim, hself, String.ofList_toList]

end Text

open Text

namespace Location

theorem trim_path (l : Location) : trim l.path = l.path := by
  apply trim_eq_self
  intro c hc
  rw [path, String.toList_ofList] at hc
  rcases slash_or_isCodeChar_of_mem_pathChars hc with rfl | hcode
  · rfl
  · obtain ⟨hlow, hhigh⟩ := Percent.visible_of_isCodeChar hcode
    exact isBlank_of_visible hlow hhigh

theorem beginsWith_path (l : Location) : beginsWith "/search" l.path = true := by
  have hlead : "/search".toList = '/' :: searchSegment := by decide
  rw [beginsWith, hlead, path, String.toList_ofList, pathChars_eq_led]
  exact List.isPrefixOf_iff_prefix.mpr (List.prefix_append ('/' :: searchSegment) _)

theorem path_ne_empty (l : Location) : l.path ≠ "" := by
  intro hempty
  have hbegins := l.beginsWith_path
  rw [hempty] at hbegins
  exact Bool.noConfusion hbegins

end Location

namespace Tool

open Json

/-! ## The path of an entry as a parameter -/

namespace OpenParams

/-- The text of the arguments carries the parameters. -/
def CarriedBy (p : OpenParams) (arguments : String) : Prop :=
  ∃ v, Value.read? arguments = some v ∧ decode.ofValue v = .ok p

/-- An object with the path is one of the texts that carry it. -/
theorem carriedBy_compact (path : String) :
    CarriedBy ⟨path⟩ (Value.object [("path", .string path)]).compact := by
  have hwhole : (Value.object [("path", .string path)]).Whole := by
    apply Value.Whole.object
    intro m hm
    rw [List.mem_singleton.mp hm]
    exact .string path
  have hfits : (Value.object [("path", .string path)]).Fits Document.nestingLimit := by
    apply Value.Fits.object
    intro m hm
    rw [List.mem_singleton.mp hm]
    exact .string _ path
  exact ⟨_, Value.read?_compact hwhole hfits, rfl⟩

/-- Too many bytes are the only problem that the path of a search can have. -/
theorem problem?_path (l : Location) :
    problem? ⟨l.path⟩ = if 2048 < l.path.utf8ByteSize then some .pathTooLong else none := by
  simp [problem?, l.trim_path, l.path_ne_empty, l.beginsWith_path]

theorem read?_name : Name.read? "open_location" = some .openLocation := by
  decide

theorem decode_call {p : OpenParams} {v : Value} (h : decode.ofValue v = .ok p) :
    Call.decode .openLocation v = .ok (.openLocation p) := by
  simp [Call.decode, Call.arguments, h, Except.map]

/-- A call is accepted with the parameters that its arguments carry, if there is no problem with
them. -/
theorem CarriedBy.accepted?_eq_some_iff
    {p : OpenParams} {arguments : String} (h : p.CarriedBy arguments) {call : Call} :
    Call.accepted? "open_location" arguments = some call ↔
      p.problem? = none ∧ call = .openLocation p := by
  obtain ⟨v, hread, hdecode⟩ := h
  simp only [Call.accepted?, hread, read?_name, decode_call hdecode, Call.problem?]
  by_cases hproblem : p.problem? = none
  · simp [hproblem, eq_comm]
  · simp [hproblem]

theorem CarriedBy.callText_of_problem
    {σ : Type} (net : Network σ) (state : σ) (s : Service) {p : OpenParams} {arguments : String}
    (h : p.CarriedBy arguments) {problem : ParamProblem} (hproblem : p.problem? = some problem) :
    s.callText net state "open_location" arguments = (state, s, .error (.refused problem)) := by
  obtain ⟨v, hread, hdecode⟩ := h
  simp only [Service.callText, hread, Service.call, read?_name, decode_call hdecode,
    Service.answerCall, Call.problem?, hproblem]

end OpenParams

/-! ## Opening the current entry -/

/-- No call brings a form of its own. -/
theorem Call.not_direct_of_action? {call : Call} {action : Action} (h : call.action? = some action) :
    ¬action.Direct := by
  cases call with
  | configInfo => cases h
  | _ =>
      cases h
      exact id

theorem Call.not_direct_of_mem_actions {calls : List (String × String)} {action : Action}
    (h : action ∈ actions calls) : ¬action.Direct := by
  obtain ⟨call, -, hcall⟩ := List.mem_filterMap.mp h
  exact not_direct_of_action? hcall

namespace Service

variable (backend : Backend) (settings : Settings) (disk : Disk) (earlier : List (String × String))

theorem ticketsIssued_callAll :
    ((new settings disk).callAll backend.network [] earlier).2.browser.TicketsIssued := by
  rw [browser_callAll_new]
  exact Network.ticketsIssued_performAll _ _ _ (ticketsIssued_new settings)

theorem coherent_callAll :
    ((new settings disk).callAll backend.network [] earlier).2.browser.history.Coherent := by
  rw [browser_callAll_new]
  exact (backend.network.coherent_performAll [] (ticketsIssued_new settings) .empty _
    fun action => Call.not_direct_of_mem_actions).1

/-- After any calls one after another and whatever the backend answers, a call that opens the path of
the current entry is accepted unless the path is too long.  If it is accepted the page is loaded again,
and if it is refused nothing changes. -/
theorem open_current_location_reloads
    {e : HistoryEntry} {arguments : String}
    (hcurrent : ((new settings disk).callAll backend.network [] earlier).2.browser.history.current? =
      some e)
    (harguments : OpenParams.CarriedBy ⟨e.url⟩ arguments) :
    let before := (new settings disk).callAll backend.network [] earlier
    let after := before.2.callText backend.network before.1 "open_location" arguments
    (Call.accepted? "open_location" arguments = some (.openLocation ⟨e.url⟩) ↔
        e.url.utf8ByteSize ≤ 2048) ∧
      (e.url.utf8ByteSize ≤ 2048 →
        Reloads backend before.1 before.2.browser e after.1 after.2.1.browser) ∧
      (2048 < e.url.utf8ByteSize →
        after = (before.1, before.2, .error (.refused .pathTooLong))) := by
  intro before after
  have hcoherent : before.2.browser.history.Coherent :=
    coherent_callAll backend settings disk earlier
  obtain ⟨l, hl⟩ : ∃ l : Location, e.url = l.path :=
    ⟨_, (hcoherent.faithful_current hcurrent).url⟩
  have hproblem : OpenParams.problem? ⟨e.url⟩ =
      if 2048 < e.url.utf8ByteSize then some .pathTooLong else none := by
    rw [hl]
    exact OpenParams.problem?_path l
  have haccepted : Call.accepted? "open_location" arguments = some (.openLocation ⟨e.url⟩) ↔
      e.url.utf8ByteSize ≤ 2048 := by
    rw [harguments.accepted?_eq_some_iff, hproblem, ← not_lt]
    simp
  refine ⟨haccepted, ?_, ?_⟩
  · intro hle
    have hissued := ticketsIssued_callAll backend settings disk earlier
    have haction : (Call.openLocation ⟨e.url⟩).action? = some (.openPath e.url) := by
      rw [Call.action?, hl, l.trim_path]
    have hafter : after = before.2.perform backend.network before.1 (.openLocation ⟨e.url⟩) :=
      before.2.callText_of_accepted? _ _ (haccepted.mpr hle)
    obtain ⟨hsent, hbrowser⟩ :=
      before.2.perform_of_action? backend.network before.1 haction
    rw [hafter, hsent, hbrowser]
    exact backend.reloads_openPath before.1 before.2.browser hissued hcoherent hcurrent
  · intro hlong
    rw [if_pos hlong] at hproblem
    exact harguments.callText_of_problem backend.network before.1 before.2 hproblem

/-- After one search the current entry is that of its form. -/
theorem current?_callAll_search
    {tool arguments blog query : String}
    (hactions : Call.actions [(tool, arguments)] = [.submit blog query]) :
    ((new settings disk).callAll backend.network [] [(tool, arguments)]).2.browser.history.current? =
      some (.ofForm { defaults settings with blog := blog, query := query, page := 1 }) := by
  let start := Browser.new (defaults settings)
  let form := { defaults settings with blog := blog, query := query, page := 1 }
  have hperform : backend.network.perform [] start (.submit blog query) =
      backend.network.search [] { start with form := form } form true :=
    Network.perform_submit backend.network [] (ticketsIssued_new settings) blog query
  have hhistory := (backend.network.trail_search [] { start with form := form } form true).2.2.1
  rw [if_pos rfl] at hhistory
  rw [browser_callAll_new, hactions]
  simp only [Network.performAll, hperform, start, form]
  rw [hhistory, History.current?_push]

theorem actions_third : Call.actions [("search", third)] = [.submit "staff" "third"] := by
  have hblog : trim "staff" = "staff" := by decide +kernel
  have hquery : trim "third" = "third" := by decide +kernel
  rw [Call.actions_cons_of_action? accepted?_third rfl, hblog, hquery]
  rfl

/-- The page of a search that could not be sent is loaded again by opening its path. -/
theorem reload_after_search :
    ∃ (e : HistoryEntry) (arguments : String),
      let before := (new localSettings (Disk.fresh "/home")).callAll Backend.unreachable.network []
        [("search", third)]
      let after := before.2.callText Backend.unreachable.network before.1 "open_location" arguments
      before.2.browser.history.current? = some e ∧ e.url = "/search/staff/third" ∧
        OpenParams.CarriedBy ⟨e.url⟩ arguments ∧
        Call.accepted? "open_location" arguments = some (.openLocation ⟨e.url⟩) ∧
        Reloads .unreachable before.1 before.2.browser e after.1 after.2.1.browser := by
  let e := HistoryEntry.ofForm
    { defaults localSettings with blog := "staff", query := "third", page := 1 }
  have hcurrent :=
    current?_callAll_search .unreachable localSettings (Disk.fresh "/home") actions_third
  have hurl : e.url = "/search/staff/third" := by decide +kernel
  have harguments := OpenParams.carriedBy_compact e.url
  have hsize : e.url.utf8ByteSize ≤ 2048 := by
    rw [hurl]
    decide
  obtain ⟨haccepted, hreloads, -⟩ := open_current_location_reloads .unreachable localSettings
    (Disk.fresh "/home") [("search", third)] hcurrent harguments
  exact ⟨e, _, hcurrent, hurl, harguments, haccepted.mpr hsize, hreloads hsize⟩

end Service

end Tool

end BlogSearch
