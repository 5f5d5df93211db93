import BlogSearch.Browser.Stage

/-!
# Actions one after another

An action that runs alone takes its steps without a pause and gets the reply to each request before
it goes on.
-/

namespace BlogSearch

namespace Network

/-- Runs an action from a stage to its end. -/
def run (net : Network σ) (s : σ) (b : Browser) (stage : Stage) : σ × Browser × Result :=
  match _h : stage.next b with
  | .done result => (s, b, result)
  | .moved b' stage' => net.run s b' stage'
  | .ask request resume =>
      let told := net.ask s request
      net.run told.1 b (resume told.2)
termination_by stage.rank
decreasing_by
  · exact Stage.rank_moved _h
  · exact Stage.rank_ask _h _

def perform (net : Network σ) (s : σ) (b : Browser) (action : Action) : σ × Browser × Result :=
  net.run s b (.start action)

def performAll (net : Network σ) (s : σ) (b : Browser) : List Action → σ × Browser × List Result
  | [] => (s, b, [])
  | action :: rest =>
      let (s, b, result) := net.perform s b action
      let (s, b, results) := net.performAll s b rest
      (s, b, result :: results)

end Network

end BlogSearch
