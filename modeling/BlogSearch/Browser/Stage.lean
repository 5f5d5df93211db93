import BlogSearch.Browser.Basic

/-!
# Stages of an action

An action goes through stages.  At each stage it either changes the browser in one indivisible step,
or waits for the reply to a request, or is finished.  Between two steps other actions may take theirs,
so the stages describe overlapping actions as well as actions one after another.

A search registers a round, waits for its answer, and shows it; when the answer lies behind the last
match it does so once more for the last page.
-/

namespace BlogSearch

/-- A round of a search before it is registered: its form, whether it goes into the history, and the
page to which an earlier round was corrected. -/
structure Attempt where
  form : SearchForm
  push : Bool
  corrected : Option UInt32
  deriving DecidableEq

/-- A request about the account or the blogs. -/
inductive Query where
  | login (form : Form)
  | logout
  | blogs
  | legacyBlogs
  deriving DecidableEq

/-- News for the page from such a request. -/
inductive News where
  | loggedIn (response : LoginResponse)
  | loggedOut
  | listed (blogs : List BlogSummary)
  deriving DecidableEq

/-- Where an action stands. -/
inductive Stage where
  | start (action : Action)
  /-- The history has moved to an entry, the page has not. -/
  | replay (entry : HistoryEntry)
  /-- A round is about to be registered. -/
  | attempt (round : Attempt)
  /-- A registered round waits for its answer. -/
  | awaiting (ticket : Nat) (round : Attempt)
  /-- A registered round has its answer and has not shown it. -/
  | answered (ticket : Nat) (round : Attempt) (response : SearchResponse)
  | asking (query : Query)
  | told (news : News)
  | finished (result : Result)

/-- What an action does next. -/
inductive Next where
  | done (result : Result)
  | moved (b : Browser) (stage : Stage)
  | ask (request : Request) (resume : Reply → Stage)

namespace Query

/-- The request of a query. -/
def request : Query → Request
  | .login form => .login form
  | .logout => .logout
  | .blogs => .blogs
  | .legacyBlogs => .legacyBlogs

/-- The stage that news from a reply lead to. -/
def tell : Except ClientError News → Stage
  | .ok news => .told news
  | .error e => .finished (.error e)

/-- Reads a listing of blogs. -/
def readBlogs (reply : Reply) : Except ClientError News :=
  (reply.read (Json.Decoder.stream BlogSummary.decodeList)).map News.listed

/-- What follows from the reply to a query.  A listing that is not found is looked for in its old
place. -/
def resume (q : Query) (reply : Reply) : Stage :=
  match q with
  | .login _ =>
      tell ((reply.read (Json.Decoder.stream LoginResponse.decode)).map News.loggedIn)
  | .logout => tell (reply.body.map fun _ => News.loggedOut)
  | .blogs =>
      match reply with
      | .answer 404 _ => .asking .legacyBlogs
      | reply => tell (readBlogs reply)
  | .legacyBlogs => tell (readBlogs reply)

end Query

namespace Attempt

/-- The first round of a search. -/
def first (form : SearchForm) (push : Bool) : Attempt :=
  ⟨form, push, none⟩

/-- The request of a round. -/
def request (a : Attempt) : Request :=
  .search a.form.request

/-- The round that follows an answer: one for the last page, if the answer lies behind it and no
round was corrected before. -/
def correction? (a : Attempt) (r : SearchResponse) : Option Attempt :=
  match a.corrected with
  | some _ => none
  | none =>
      r.info.correctedPage?.map fun page => ⟨{ a.form with page := page }, false, some page⟩

/-- The outcome of a search whose last round was this one. -/
def outcome (a : Attempt) (r : SearchResponse) : SearchOutcome :=
  .rendered r.info.panel r.results.length a.corrected

end Attempt

namespace Browser

/-- Puts news on the page. -/
def hear (b : Browser) : News → Browser
  | .loggedIn r =>
      let page := b.page.showLoginStatus (.ofResponse r)
      { b with page := if r.success then page.navigate resultsLocation else page }
  | .loggedOut => { b with page := b.page.clearLoginStatus.navigate indexLocation }
  | .listed blogs => { b with page := b.page.showBlogs blogs }

end Browser

/-- The outcome of an action that brought news. -/
def News.outcome : News → Outcome
  | .loggedIn r => .loggedIn r
  | .loggedOut => .loggedOut
  | .listed blogs => .blogs blogs

namespace Stage

/-- The first step of an action. -/
def begin (b : Browser) : Action → Next
  | .login username password => .moved b (.asking (.login (Form.login username password)))
  | .logout => .moved b (.asking .logout)
  | .listBlogs => .moved b (.asking .blogs)
  | .submit blog query =>
      let form := { b.form with blog := blog, query := query, page := 1 }
      .moved { b with form := form } (.attempt (.first form true))
  | .search form push => .moved b (.attempt (.first form push))
  | .paginate page =>
      match b.form.restore? b.last page with
      | some form => .moved { b with form := form } (.attempt (.first form false))
      | none => .moved b (.finished (.error .noActiveSearch))
  | .back =>
      match b.history.back with
      | (history, some entry) => .moved { b with history := history } (.replay entry)
      | (_, none) => .moved b (.finished (.ok .nowhere))
  | .forward =>
      match b.history.forward with
      | (history, some entry) => .moved { b with history := history } (.replay entry)
      | (_, none) => .moved b (.finished (.ok .nowhere))
  | .openPath path =>
      match Location.read? path with
      | some l =>
          let form := { b.form with blog := l.blog, query := l.query, page := l.page }
          let entry := HistoryEntry.ofForm form
          .moved
            { b with page := b.page.navigate entry.url, history := b.history.replace entry }
            (.attempt (.first form false))
      | none => .moved b (.finished (.error (.invalidLocation path)))
  | .toggle index =>
      match b.page.toggle index with
      | .ok (page, preview) => .moved { b with page := page } (.finished (.ok (.preview preview)))
      | .error e => .moved b (.finished (.error e))
  | .prefer render sort =>
      .moved { b with form := b.form.prefer render sort } (.finished (.ok .preferred))

/-- The answer to a round, or the failure of its search. -/
def receive (ticket : Nat) (round : Attempt) (reply : Reply) : Stage :=
  match reply.read SearchResponse.read with
  | .ok response => .answered ticket round response
  | .error e => .finished (.error e)

/-- The end of a search that another one has overtaken. -/
def superseded : Stage :=
  .finished (.ok (.searched .superseded))

/-- What an action at a stage does next.  A round that was cancelled while it waited gives up before
it looks at its answer, and an answer is shown only while its round is the newest. -/
def next (b : Browser) : Stage → Next
  | .start action => begin b action
  | .replay entry =>
      .moved { b with page := b.page.navigate entry.url } (.attempt (.first entry.state false))
  | .attempt round =>
      let registered := b.register round.form round.push
      .moved registered (.awaiting registered.generation round)
  | .awaiting ticket round =>
      if ticket ∈ b.cancelled then .moved b superseded
      else .ask round.request (receive ticket round)
  | .answered ticket round response =>
      if b.generation = ticket then
        let shown := b.display response
        match round.correction? response with
        | some again => .moved shown (.attempt again)
        | none => .moved shown (.finished (.ok (.searched (round.outcome response))))
      else .moved b superseded
  | .asking query => .ask query.request query.resume
  | .told news => .moved (b.hear news) (.finished (.ok news.outcome))
  | .finished result => .done result

/-- How many steps an action at a stage may still take. -/
def rank : Stage → Nat
  | .start _ => 8
  | .replay _ => 7
  | .attempt round => if round.corrected.isSome then 3 else 6
  | .awaiting _ round => if round.corrected.isSome then 2 else 5
  | .answered _ round _ => if round.corrected.isSome then 1 else 4
  | .asking .blogs => 3
  | .asking _ => 2
  | .told _ => 1
  | .finished _ => 0

/-- The first step of an action leaves fewer steps. -/
theorem rank_begin
    {b b' : Browser} {action : Action} {stage : Stage}
    (h : begin b action = .moved b' stage) : stage.rank < 8 := by
  cases action <;> simp only [begin] at h <;> (try split at h) <;> cases h <;>
    simp [rank, Attempt.first]

/-- A step of an action leaves fewer steps. -/
theorem rank_moved
    {b b' : Browser} {stage stage' : Stage}
    (h : stage.next b = .moved b' stage') : stage'.rank < stage.rank := by
  cases stage with
  | start action => exact rank_begin h
  | replay entry => simp only [next] at h; cases h; simp [rank, Attempt.first]
  | attempt round => simp only [next] at h; cases h; simp only [rank]; split <;> omega
  | awaiting ticket round =>
      simp only [next] at h
      split at h <;> cases h
      simp only [rank, superseded]
      split <;> omega
  | answered ticket round response =>
      simp only [next] at h
      split at h
      · split at h
        · next again hagain =>
            cases h
            simp only [Attempt.correction?] at hagain
            split at hagain
            · cases hagain
            · next hnone =>
                obtain ⟨page, -, rfl⟩ := Option.map_eq_some_iff.1 hagain
                simp [rank, hnone]
        · cases h
          simp only [rank]
          split <;> omega
      · cases h
        simp only [rank, superseded]
        split <;> omega
  | asking query => simp only [next] at h; cases h
  | told news => simp only [next] at h; cases h; simp [rank]
  | finished result => simp only [next] at h; cases h

/-- News leave at most one step. -/
theorem rank_tell (news : Except ClientError News) : (Query.tell news).rank ≤ 1 := by
  cases news <;> simp [Query.tell, rank]

/-- A reply leaves fewer steps. -/
theorem rank_ask
    {b : Browser} {stage : Stage} {request : Request} {resume : Reply → Stage}
    (h : stage.next b = .ask request resume) (reply : Reply) :
    (resume reply).rank < stage.rank := by
  cases stage with
  | start action =>
      exfalso
      cases action <;> simp only [next, begin] at h <;> (try split at h) <;> cases h
  | replay entry => simp only [next] at h; cases h
  | attempt round => simp only [next] at h; cases h
  | awaiting ticket round =>
      simp only [next] at h
      split at h <;> cases h
      simp only [receive]
      split <;> simp only [rank] <;> split <;> omega
  | answered ticket round response =>
      simp only [next] at h
      split at h
      · split at h <;> cases h
      · cases h
  | asking query =>
      simp only [next] at h
      cases h
      cases query with
      | login form => exact Nat.lt_of_le_of_lt (rank_tell _) (Nat.lt_succ_self 1)
      | logout => exact Nat.lt_of_le_of_lt (rank_tell _) (Nat.lt_succ_self 1)
      | blogs =>
          simp only [Query.resume]
          split
          · exact Nat.lt_succ_self 2
          · exact Nat.lt_of_le_of_lt (rank_tell _) (show 1 < 3 by omega)
      | legacyBlogs => exact Nat.lt_of_le_of_lt (rank_tell _) (Nat.lt_succ_self 1)
  | told news => simp only [next] at h; cases h
  | finished result => simp only [next] at h; cases h

end Stage

end BlogSearch
