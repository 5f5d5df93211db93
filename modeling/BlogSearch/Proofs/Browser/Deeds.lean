import BlogSearch.Browser.Run

/-!
# The deeds of a run

A deed is an action of a run together with what it sent and what it left behind.  The deeds of a run
tell which of its actions did something last, and what all actions keep of the deeds before them, a
run keeps.
-/

namespace BlogSearch

/-- What `f` finds in the last member of a list in which it finds something. -/
def latest? {α β : Type} (f : α → Option β) (l : List α) : Option β :=
  l.reverse.findSome? f

theorem latest?_concat {α β : Type} (f : α → Option β) (past : List α) (a : α) :
    latest? f (past ++ [a]) = (f a).or (latest? f past) := by
  have hone : [a].reverse.findSome? f = f a := by simp
  rw [latest?, List.reverse_append, List.findSome?_append, hone]
  rfl

/-- An action of a run, the requests that it sent, and the browsers before and after it. -/
structure Deed where
  action : Action
  before : Browser
  requests : List Request
  after : Browser

namespace Backend

/-- The deed of one action. -/
def deed (backend : Backend) (sent : List Request) (b : Browser) (action : Action) : Deed :=
  let after := backend.network.perform sent b action
  ⟨action, b, after.1.drop sent.length, after.2.1⟩

/-- The deeds of actions one after another. -/
def deeds (backend : Backend) (sent : List Request) (b : Browser) : List Action → List Deed
  | [] => []
  | action :: rest =>
      let after := backend.network.perform sent b action
      backend.deed sent b action :: backend.deeds after.1 after.2.1 rest

/-- What every action keeps of the deeds before it and of the browser, a run keeps. -/
theorem deeds_preserve
    {P : List Deed → Browser → Prop} (backend : Backend)
    (hperform : ∀ past sent b action, P past b →
      P (past ++ [backend.deed sent b action]) (backend.network.perform sent b action).2.1)
    (past : List Deed) (sent : List Request) (b : Browser) (actions : List Action)
    (h : P past b) :
    P (past ++ backend.deeds sent b actions) (backend.network.performAll sent b actions).2.1 := by
  induction actions generalizing past sent b with
  | nil =>
      rw [deeds, List.append_nil]
      exact h
  | cons action rest ih =>
      have hrest := ih (past ++ [backend.deed sent b action])
        (backend.network.perform sent b action).1 (backend.network.perform sent b action).2.1
        (hperform past sent b action h)
      rw [List.append_assoc] at hrest
      exact hrest

end Backend

end BlogSearch
