import BlogSearch.Browser.Run
import BlogSearch.Network.Server

/-!
# Overlapping actions

Several actions are started one after another.  Each is let go on until it is finished or waits for a
response that is held back; when all have been started, those that wait go on one after another to
their ends.
-/

namespace BlogSearch

/-- An action under way: its stage, and the request it waits for. -/
structure Call where
  stage : Stage
  held : Option Server.Held

namespace Call

/-- What the call ends with; a call that has not ended has failed to get its reply. -/
def result (c : Call) : Result :=
  match c.stage with
  | .finished r => r
  | _ => .error .http

/-- Lets an action go on from a stage until it is finished or waits. -/
def advance (s : Server) (b : Browser) (stage : Stage) : Server × Browser × Call :=
  match _h : stage.next b with
  | .done result => (s, b, ⟨.finished result, none⟩)
  | .moved b' stage' => advance s b' stage'
  | .ask request resume =>
      match s.begin true request with
      | (s, .replied reply) => advance s b (resume reply)
      | (s, .held held) => (s, b, ⟨stage, some held⟩)
termination_by stage.rank
decreasing_by
  · exact Stage.rank_moved _h
  · exact Stage.rank_ask _h _

/-- Lets a call that waits go on to its end.  A round that was cancelled in the meantime gives up
and leaves its response. -/
def resume (s : Server) (b : Browser) (c : Call) : Server × Browser × Call :=
  match c.held, c.stage.next b with
  | some held, .ask _ next =>
      let (s, reply) := s.release held
      let (s, b, result) := Server.network.run s b (next reply)
      (s, b, ⟨.finished result, none⟩)
  | _, _ =>
      let (s, b, result) := Server.network.run s b c.stage
      (s, b, ⟨.finished result, none⟩)

/-- Starts actions one after another. -/
def startAll (s : Server) (b : Browser) : List Action → Server × Browser × List Call
  | [] => (s, b, [])
  | action :: rest =>
      let (s, b, call) := advance s b (.start action)
      let (s, b, calls) := startAll s b rest
      (s, b, call :: calls)

/-- Lets calls that wait go on one after another. -/
def resumeAll (s : Server) (b : Browser) : List Call → Server × Browser × List Call
  | [] => (s, b, [])
  | call :: rest =>
      let (s, b, call) := resume s b call
      let (s, b, calls) := resumeAll s b rest
      (s, b, call :: calls)

end Call

namespace Browser

/-- Performs actions that overlap. -/
def performTogether (s : Server) (b : Browser) (actions : List Action) :
    Server × Browser × List Result :=
  let (s, b, calls) := Call.startAll s b actions
  let (s, b, calls) := Call.resumeAll s b calls
  (s, b, calls.map Call.result)

end Browser

end BlogSearch
