import BlogSearch.Proofs.Browser.Alone
import BlogSearch.Proofs.Steps

/-!
# Errands beside the search

To log in, to log out and to list the blogs are errands beside the search.  An errand asks once, and a
listing that is not found is asked for once more in its old place.  If the last reply cannot be used,
nothing has changed at all.  Otherwise the errand has changed its own element of the page, and perhaps
the location, and never anything that belongs to a search.
-/

namespace BlogSearch

open Json

/-- An action about the account, or the listing of the blogs. -/
inductive Errand where
  | login (username password : String)
  | logout
  | listBlogs

namespace Errand

def action : Errand → Action
  | .login username password => .login username password
  | .logout => .logout
  | .listBlogs => .listBlogs

/-- The requests that an errand sends, after those that were sent before. -/
inductive Sends (backend : Backend) (sent : List Request) : Errand → List Request → Prop
  | login (username password : String) :
      Sends backend sent (.login username password)
        [⟨.post, "/login", some (Form.login username password).payload.compact⟩]
  | logout : Sends backend sent .logout [⟨.get, "/logout", none⟩]
  | listing (hfound : ∀ body, backend (sent ++ [⟨.get, "/diagnostics", none⟩]) ≠ .answer 404 body) :
      Sends backend sent .listBlogs [⟨.get, "/diagnostics", none⟩]
  | oldListing {body : String}
      (hnotFound : backend (sent ++ [⟨.get, "/diagnostics", none⟩]) = .answer 404 body) :
      Sends backend sent .listBlogs [⟨.get, "/diagnostics", none⟩, ⟨.get, "/list-blogs", none⟩]

/-- What an errand reads from the last reply. -/
def news : Errand → Reply → Except ClientError News
  | .login _ _, reply => (reply.read (Decoder.stream LoginResponse.decode)).map News.loggedIn
  | .logout, reply => reply.body.map fun _ => News.loggedOut
  | .listBlogs, reply => (reply.read (Decoder.stream BlogSummary.decodeList)).map News.listed

/-- What an errand that has ended well leaves of a page. -/
inductive Leaves (p : PageView) : Errand → Outcome → PageView → Prop
  | loggedIn {username password : String} {r : LoginResponse} (hsuccess : r.success = true) :
      Leaves p (.login username password) (.loggedIn r)
        { p with loginStatus := some ⟨r.message, true⟩, location := some "/search" }
  | refused {username password : String} {r : LoginResponse} (hrefused : r.success = false) :
      Leaves p (.login username password) (.loggedIn r)
        { p with loginStatus := some ⟨r.message, false⟩ }
  | loggedOut :
      Leaves p .logout .loggedOut { p with loginStatus := none, location := some "/" }
  | listed (list : List BlogSummary) :
      Leaves p .listBlogs (.blogs list) { p with blogs := list }

/-- An errand has sent its requests, and has changed its own element or nothing. -/
structure TouchesOwnElement
    (backend : Backend) (sent : List Request) (b : Browser) (errand : Errand)
    (after : List Request × Browser × Result) : Prop where
  requests : ∃ requests, errand.Sends backend sent requests ∧ after.1 = sent ++ requests
  /-- The reply to the last request tells how the errand ends. -/
  result : after.2.2 = (errand.news (backend after.1)).map News.outcome
  failed : ∀ e, after.2.2 = .error e → after.2.1 = b
  ended : ∀ outcome, after.2.2 = .ok outcome →
    ∃ page, errand.Leaves b.page outcome page ∧ after.2.1 = { b with page := page }
  kept : b.KeepsSearch after.2.1

variable {backend : Backend} {sent : List Request} {b : Browser} {errand : Errand}

/-- News are put on the page, and nowhere else. -/
theorem leaves_hear
    {reply : Reply} {news : News} (h : errand.news reply = .ok news) (b : Browser) :
    ∃ page, errand.Leaves b.page news.outcome page ∧ b.hear news = { b with page := page } := by
  cases errand with
  | login username password =>
      obtain ⟨r, -, rfl⟩ := map_eq_ok_iff.mp h
      by_cases hsuccess : r.success = true
      · refine ⟨_, .loggedIn hsuccess, ?_⟩
        simp [Browser.hear, hsuccess, PageView.showLoginStatus, PageView.navigate,
          LoginStatus.ofResponse, Browser.resultsLocation]
      · have hrefused : r.success = false := Bool.eq_false_iff.mpr hsuccess
        refine ⟨_, .refused hrefused, ?_⟩
        simp [Browser.hear, hrefused, PageView.showLoginStatus, LoginStatus.ofResponse]
  | logout =>
      obtain ⟨body, -, rfl⟩ := map_eq_ok_iff.mp h
      exact ⟨_, .loggedOut, rfl⟩
  | listBlogs =>
      obtain ⟨list, -, rfl⟩ := map_eq_ok_iff.mp h
      exact ⟨_, .listed list, rfl⟩

/-- An errand sends its requests and hears of what the last reply says. -/
theorem perform_errand (backend : Backend) (sent : List Request) (b : Browser) (errand : Errand) :
    ∃ requests, errand.Sends backend sent requests ∧
      backend.network.perform sent b errand.action =
        (sent ++ requests, b.told (errand.news (backend (sent ++ requests))),
          (errand.news (backend (sent ++ requests))).map News.outcome) := by
  cases errand with
  | login username password =>
      exact ⟨_, .login username password, Network.perform_login backend.network sent b username password⟩
  | logout => exact ⟨_, .logout, Network.perform_logout backend.network sent b⟩
  | listBlogs =>
      have hask : backend.network.ask sent .blogs =
          (sent ++ [.blogs], backend (sent ++ [.blogs])) := rfl
      rcases Network.notFound_or_found (backend (sent ++ [.blogs])) with ⟨body, hnotFound⟩ | hfound
      · have hboth : sent ++ [.blogs] ++ [.legacyBlogs] =
            sent ++ [⟨.get, "/diagnostics", none⟩, ⟨.get, "/list-blogs", none⟩] :=
          List.append_assoc sent _ _
        refine ⟨_, .oldListing hnotFound, ?_⟩
        rw [hnotFound] at hask
        rw [action, Network.perform_listBlogs, Network.listing_of_not_found hask, ← hboth]
        rfl
      · refine ⟨_, .listing hfound, ?_⟩
        rw [action, Network.perform_listBlogs, Network.listing_of_found hask hfound]
        rfl

theorem touchesOwnElement (backend : Backend) (sent : List Request) (b : Browser) (errand : Errand) :
    errand.TouchesOwnElement backend sent b (backend.network.perform sent b errand.action) := by
  obtain ⟨requests, hsends, hperform⟩ := perform_errand backend sent b errand
  rw [hperform]
  rcases hnews : errand.news (backend (sent ++ requests)) with e | news
  · have hresult : (Except.error e).map News.outcome =
        (errand.news (backend (sent ++ requests))).map News.outcome := by rw [hnews]
    refine ⟨⟨requests, hsends, rfl⟩, hresult, fun _ _ => rfl, ?_, .refl b⟩
    intro outcome h
    cases h
  · have hresult : (Except.ok news).map News.outcome =
        (errand.news (backend (sent ++ requests))).map News.outcome := by rw [hnews]
    obtain ⟨page, hleaves, hhear⟩ := leaves_hear hnews b
    refine ⟨⟨requests, hsends, rfl⟩, hresult, ?_, ?_, b.keepsSearch_hear news⟩
    · intro e h
      cases h
    · intro outcome h
      cases h
      exact ⟨page, hleaves, hhear⟩

theorem keepsSearch_performAll
    (backend : Backend) (sent : List Request) (b : Browser) (errands : List Errand) :
    b.KeepsSearch (backend.network.performAll sent b (errands.map action)).2.1 := by
  induction errands generalizing sent b with
  | nil => exact .refl b
  | cons errand errands ih => exact (touchesOwnElement backend sent b errand).kept.trans (ih _ _)

/-- In every state and with every backend an errand touches its own element only, and however many
errands are run, what belongs to searches stays as it was. -/
theorem errands_touch_own_element (backend : Backend) (sent : List Request) (b : Browser) :
    (∀ errand : Errand,
      errand.TouchesOwnElement backend sent b (backend.network.perform sent b errand.action)) ∧
      ∀ errands : List Errand,
        b.KeepsSearch (backend.network.performAll sent b (errands.map action)).2.1 :=
  ⟨touchesOwnElement backend sent b, keepsSearch_performAll backend sent b⟩

end Errand

end BlogSearch
