import BlogSearch.Proofs.Browser.Address
import BlogSearch.Proofs.Browser.Preference
import BlogSearch.Proofs.Browser.Repetition
import BlogSearch.Proofs.Tool.Calls

/-!
# With which preferences a tool searches

A search asks with the preferences on the page.  These are the ones of the settings until a call brings
others: by setting them, or by going to an entry of the history, which brings back those with which the
entry was written.  So preferences that were set do not stick: whoever then goes back searches on with
older ones.
-/

namespace BlogSearch.Tool

/-- The preferences that a call sets. -/
def Call.sets : Call → Option Renderer × Option SortOrder
  | .setPreferences p => (p.render, p.sort)
  | _ => (none, none)

namespace Service

/-- After earlier calls to a new service, a call first sends a search with the given preferences. -/
def SearchesWith
    (backend : Backend) (settings : Settings) (disk : Disk) (earlier : List (String × String))
    (tool arguments : String) (render : Renderer) (sort : SortOrder) : Prop :=
  let before := (new settings disk).callAll backend.network [] earlier
  let after := before.2.callText backend.network before.1 tool arguments
  ∃ q : SearchRequest, before.1 ++ [.search q] <+: after.1 ∧ q.render = render ∧ q.sort = sort

/-- Every accepted search asks with the preferences that an accepted call has set last, and with those
of the settings where none has. -/
def PreferencesStick : Prop :=
  ∀ (backend : Backend) (settings : Settings) (disk : Disk) (earlier : List (String × String))
    (tool arguments : String) (p : SearchParams),
    Call.accepted? tool arguments = some (.search p) →
      SearchesWith backend settings disk earlier tool arguments
        ((latest? (·.sets.1) (Call.acceptedAll earlier)).getD settings.render)
        ((latest? (·.sets.2) (Call.acceptedAll earlier)).getD settings.sort)

variable {backend : Backend} {settings : Settings} {disk : Disk}
  {earlier : List (String × String)} {tool arguments : String}

/-- The browser of a new service after calls is that of their actions. -/
theorem browser_callAll_new
    (backend : Backend) (settings : Settings) (disk : Disk) (calls : List (String × String)) :
    ((new settings disk).callAll backend.network [] calls).2.browser =
      (backend.network.performAll [] (Browser.new (defaults settings)) (Call.actions calls)).2.1 :=
  (Service.browser_callAll backend.network [] (new settings disk) calls).2

theorem ticketsIssued_new (settings : Settings) :
    (Browser.new (defaults settings)).TicketsIssued :=
  Browser.ticketsIssued_new (defaults settings) .empty

/-- An accepted search asks with the preferences on the page. -/
theorem searchesWith_of_prefers
    {render : Renderer} {sort : SortOrder}
    (hprefers : (backend.network.performAll [] (Browser.new (defaults settings))
      (Call.actions earlier)).2.1.form.Prefers render sort)
    {p : SearchParams} (haccepted : Call.accepted? tool arguments = some (.search p)) :
    SearchesWith backend settings disk earlier tool arguments render sort := by
  let before := (new settings disk).callAll backend.network [] earlier
  let action := Action.submit (Text.trim p.blog) (Text.trim p.query)
  let b := before.2.browser
  let form := { b.form with blog := Text.trim p.blog, query := Text.trim p.query, page := 1 }
  have hbrowser := browser_callAll_new backend settings disk earlier
  have hissued : b.TicketsIssued := by
    simp only [b, before, hbrowser]
    exact Network.ticketsIssued_performAll _ _ _ (ticketsIssued_new settings)
  have haction : (Call.search p).action? = some action := rfl
  have hperform : backend.network.perform before.1 b action =
      backend.network.search before.1 { b with form := form } form true :=
    Network.perform_submit _ before.1 hissued _ _
  have hsent : (before.2.callText backend.network before.1 tool arguments).1 =
      (backend.network.search before.1 { b with form := form } form true).1 := by
    rw [before.2.callText_of_accepted? _ _ haccepted,
      (before.2.perform_of_action? backend.network _ haction).1, ← hperform]
  rw [← hbrowser] at hprefers
  refine ⟨form.request, ?_, hprefers.1, hprefers.2⟩
  rw [hsent]
  exact backend.prefix_search before.1 form true

/-- A call sends one request first. -/
theorem SearchesWith.unique
    {render render' : Renderer} {sort sort' : SortOrder}
    (h : SearchesWith backend settings disk earlier tool arguments render sort)
    (h' : SearchesWith backend settings disk earlier tool arguments render' sort') :
    render = render' ∧ sort = sort' := by
  obtain ⟨q, hq, hrender, hsort⟩ := h
  obtain ⟨q', hq', hrender', hsort'⟩ := h'
  obtain ⟨more, hmore⟩ := hq
  obtain ⟨more', hmore'⟩ := hq'
  have hsame := hmore.trans hmore'.symm
  rw [List.append_assoc, List.append_assoc, List.append_cancel_left_eq] at hsame
  have hrequest : q = q' := Request.search_injective (List.cons.inj hsame).1
  rw [← hrender, ← hrender', ← hsort, ← hsort', hrequest]
  exact ⟨rfl, rfl⟩

/-- Whatever calls come one after another, and whatever the backend answers, an accepted search asks
with the preferences that were brought to the page last, by a call that set them or that went to an
entry of the history, and with those of the settings where none has. -/
theorem searches_with_preferences_brought_last
    (backend : Backend) (settings : Settings) (disk : Disk) (earlier : List (String × String))
    {tool arguments : String} {p : SearchParams}
    (haccepted : Call.accepted? tool arguments = some (.search p)) :
    let deeds := backend.deeds [] (Browser.new (defaults settings)) (Call.actions earlier)
    SearchesWith backend settings disk earlier tool arguments
      ((latest? (·.brings.1) deeds).getD settings.render)
      ((latest? (·.brings.2) deeds).getD settings.sort) := by
  intro deeds
  exact searchesWith_of_prefers
    (backend.prefers_performAll [] (ticketsIssued_new settings) (Call.actions earlier)) haccepted

/-- After two searches, other preferences and a way back, a search asks with the preferences of the
settings again. -/
theorem searchesWith_settings_after_return
    {first second p : SearchParams} {others : PreferenceParams}
    (hearlier : Call.acceptedAll earlier =
      [.search first, .search second, .setPreferences others, .back])
    (haccepted : Call.accepted? tool arguments = some (.search p)) :
    SearchesWith backend settings disk earlier tool arguments settings.render settings.sort := by
  have hactions : Call.actions earlier =
      [.submit (Text.trim first.blog) (Text.trim first.query),
        .submit (Text.trim second.blog) (Text.trim second.query),
        .prefer others.render others.sort, .back] := by
    rw [Call.actions, hearlier]
    rfl
  refine searchesWith_of_prefers ?_ haccepted
  rw [hactions]
  exact backend.prefers_after_return [] (ticketsIssued_new settings) _ _ _ _ _ _

/-- Two searches, other preferences, and back to the first search. -/
def returnTrip : List (String × String) :=
  [("search", "\x7b\"blog\":\"staff\",\"query\":\"first\"\x7d"),
    ("search", "\x7b\"blog\":\"staff\",\"query\":\"second\"\x7d"),
    ("set_preferences", "\x7b\"render\":\"plain\",\"sort\":\"oldest\"\x7d"),
    ("go_back", "\x7b\x7d")]

/-- The arguments of one more search. -/
def third : String := "\x7b\"blog\":\"staff\",\"query\":\"third\"\x7d"

theorem acceptedAll_returnTrip :
    Call.acceptedAll returnTrip =
      [.search ⟨"staff", "first"⟩, .search ⟨"staff", "second"⟩,
        .setPreferences ⟨some .plain, some .oldest⟩, .back] := by
  decide +kernel

theorem accepted?_third :
    Call.accepted? "search" third = some (.search ⟨"staff", "third"⟩) := by
  decide +kernel

/-- The settings of a backend on this machine. -/
def localSettings : Settings :=
  Settings.ofUrl "http://localhost"

/-- What the return trip brought last are the preferences of its first search, though others were set
after it. -/
theorem search_after_returnTrip :
    Call.accepted? "search" third = some (.search ⟨"staff", "third"⟩) ∧
      SearchesWith .unreachable localSettings (Disk.fresh "/home") returnTrip "search" third
        .html .newest ∧
      let deeds := Backend.unreachable.deeds [] (Browser.new (defaults localSettings))
        (Call.actions returnTrip)
      SearchesWith .unreachable localSettings (Disk.fresh "/home") returnTrip "search" third
        ((latest? (·.brings.1) deeds).getD localSettings.render)
        ((latest? (·.brings.2) deeds).getD localSettings.sort) := by
  refine ⟨accepted?_third, ?_, ?_⟩
  · exact searchesWith_settings_after_return acceptedAll_returnTrip accepted?_third
  · exact searches_with_preferences_brought_last Backend.unreachable localSettings
      (Disk.fresh "/home") returnTrip accepted?_third

/-- Preferences that were set are lost on the return trip. -/
theorem not_preferencesStick : ¬PreferencesStick := by
  intro hstick
  have hset := hstick Backend.unreachable localSettings (Disk.fresh "/home") returnTrip "search"
    third ⟨"staff", "third"⟩ accepted?_third
  have hsent : SearchesWith .unreachable localSettings (Disk.fresh "/home") returnTrip "search"
      third localSettings.render localSettings.sort :=
    searchesWith_settings_after_return acceptedAll_returnTrip accepted?_third
  have hrender := (hset.unique hsent).1
  rw [acceptedAll_returnTrip] at hrender
  have hplain : Renderer.plain = .html := hrender
  cases hplain

end Service

end BlogSearch.Tool
