import BlogSearch.Proofs.Json.Records
import BlogSearch.Proofs.Settings.Saving
import BlogSearch.Proofs.Tool.Calls

/-!
# What a tool tells about a save

Preferences that are set through a tool hold for the session whether or not they can be saved.  The
answer tells which of the two has happened: its status is "saved" exactly when the save has succeeded.
-/

namespace BlogSearch.Tool

open Json

/-- What a text tells under a key, if it is an object. -/
def told? (key text : String) : Option Value :=
  (Value.read? text).bind (Value.member? key)

/-- An answer made of texts tells each of them under its key. -/
theorem told?_answer
    {ms : List (String × Value)} (hdistinct : Distinct ms)
    (htexts : ∀ m ∈ ms, ∃ s, m.2 = .string s) (key : String) :
    told? key (Service.answer (.object ms)) = (Value.object ms).member? key := by
  have hsettled : ∀ m ∈ ms, m.2.Whole ∧ m.2.Settled (Document.nestingLimit - 1) := by
    intro m hm
    obtain ⟨s, hs⟩ := htexts m hm
    rw [hs]
    exact ⟨.string s, .string _ s, rfl⟩
  have hsorted : (Value.object ms).sorted = .object (sortMembers ms) := by
    rw [Value.sorted, Value.sortedMembers_of_forall fun m hm => (hsettled m hm).2.2]
  have hwhole : (Value.object (sortMembers ms)).Whole :=
    .object fun m hm => (hsettled m (mem_of_mem_sortMembers hm)).1
  have hmembers : (Value.object (sortMembers ms)).Settled Document.nestingLimit :=
    .object (ascending_sortMembers ms) fun m hm => (hsettled m (mem_of_mem_sortMembers hm)).2
  rw [told?, Service.answer, hsorted, Value.read?_pretty hwhole hmembers.1, hmembers.2,
    Option.bind_some, Value.member?, Value.member?, hdistinct.find?_perm (sortMembers_perm hdistinct)]

namespace Service

/-- The answer to a call that sets preferences tells its status. -/
theorem told?_status
    (status note : String) (render : Renderer) (sort : SortOrder) {key : String}
    (hkey : key ∉ ["status", "render", "sort"]) :
    told? "status" (answer (.object
        (("status", .string status) :: [("render", render.json), ("sort", sort.json)] ++
          [(key, .string note)]))) = some (.string status) := by
  rw [told?_answer]
  · rfl
  · have hkeys : ["status", "render", "sort"].Nodup := by decide
    exact hkeys.concat hkey
  · simp [Renderer.json, SortOrder.json]

/-- A call that sets preferences changes the form as they say and nothing else of the browser, whatever
becomes of the save, and tells what has become of it. -/
structure TellsSaving
    (s : Service) (p : PreferenceParams) (saved : Disk × Except ClientError Unit)
    (after : Service × Except CallError String) : Prop where
  disk : after.1.disk = saved.1
  browser : after.1.browser = { s.browser with
    form := { s.browser.form with
      render := p.render.getD s.browser.form.render
      sort := p.sort.getD s.browser.form.sort } }
  answer : ∃ text, after.2 = .ok text ∧
    (told? "status" text = some (.string "saved") ↔ saved.2 = .ok ()) ∧
    (told? "status" text = some (.string "applied") ↔ ∃ cause, saved.2 = .error cause)

theorem tellsSaving (s : Service) (p : PreferenceParams) :
    TellsSaving s p (Preferences.save s.disk p.render p.sort)
      ((s.setPreferences p).1, .ok (s.setPreferences p).2) := by
  refine ⟨?_, s.browser_setPreferences p, (s.setPreferences p).2, rfl, ?_⟩
  · rw [setPreferences]
    split <;> next hsave => rw [hsave]
  · rw [setPreferences]
    split <;> next hsave =>
      rw [hsave, told?_status _ _ _ _ (by decide)]
      simp

end Service

/-- Whatever has happened to the disk, a save leaves the new file or changes nothing; a call that sets
preferences tells which, and changes the form in either case. -/
theorem saves_all_or_nothing {d : Disk} (htidy : d.Tidy) (events : List DiskEvent) :
    (∀ render sort, Preferences.SavesWhole (d.afterAll events) render sort
      (Preferences.save (d.afterAll events) render sort)) ∧
    ∀ {σ : Type} (net : Network σ) (state : σ) (s : Service) (tool arguments : String)
      (p : PreferenceParams), s.disk = d.afterAll events →
      Call.accepted? tool arguments = some (.setPreferences p) →
        Service.TellsSaving s p (Preferences.save s.disk p.render p.sort)
          (s.callText net state tool arguments).2 := by
  refine ⟨Preferences.savesWhole (htidy.afterAll events), ?_⟩
  intro σ net state s tool arguments p _ haccepted
  rw [s.callText_of_accepted? net state haccepted]
  exact s.tellsSaving p

/-- A text that no save lays out, with an order and with a member that is no preference. -/
def darkTheme : String := "\x7b\"theme\":\"dark\",\"sort\":\"relevance\"\x7d"

/-- The text that is left when a renderer is saved over it. -/
def plainDarkTheme : String :=
  "\x7b\n  \"render\": \"plain\",\n  \"sort\": \"relevance\",\n  \"theme\": \"dark\"\n\x7d\n"

/-- The file is written with that text. -/
def themeWritten : List DiskEvent :=
  [.write (Text.Utf8.encode darkTheme)]

/-- An order is saved, and then a directory comes in the way of the file. -/
def blockedBehindSave : List DiskEvent :=
  [.save none (some .relevance), .blockFile]

theorem read?_save_themeWritten :
    (Preferences.save ((Disk.fresh "/home").afterAll themeWritten) (some .plain) none).1.read? =
      some (Text.Utf8.encode plainDarkTheme) := by
  decide +kernel

/-- The arguments of a call that sets one preference. -/
def plainOnly : String := "\x7b\"render\":\"plain\"\x7d"

/-- A service that sets a renderer saves it beside the theme of a file, and does not save it where a
directory is in the way of the file; it tells which. -/
theorem saving_over_theme_and_behind_blocked_file :
    let themed := (Disk.fresh "/home").afterAll themeWritten
    let blocked := (Disk.fresh "/home").afterAll blockedBehindSave
    let settings := Settings.ofUrl "http://localhost"
    let net := Backend.network fun _ => .failed
    (Disk.fresh "/home").Tidy ∧
      Call.accepted? "set_preferences" plainOnly = some (.setPreferences ⟨some .plain, none⟩) ∧
      (themed.Writable ∧
        Preferences.SavesWhole themed (some .plain) none (Preferences.save themed (some .plain) none) ∧
        (Preferences.save themed (some .plain) none).1.read? =
          some (Text.Utf8.encode plainDarkTheme) ∧
        Service.TellsSaving (.new settings themed) ⟨some .plain, none⟩
          (Preferences.save themed (some .plain) none)
          ((Service.new settings themed).callText net [] "set_preferences" plainOnly).2) ∧
      ¬blocked.Writable ∧
        Preferences.SavesWhole blocked (some .plain) none
          (Preferences.save blocked (some .plain) none) ∧
        Service.TellsSaving (.new settings blocked) ⟨some .plain, none⟩
          (Preferences.save blocked (some .plain) none)
          ((Service.new settings blocked).callText net [] "set_preferences" plainOnly).2 := by
  intro themed blocked settings net
  have htidy := Disk.tidy_fresh "/home"
  have haccepted : Call.accepted? "set_preferences" plainOnly =
      some (.setPreferences ⟨some .plain, none⟩) := by
    decide +kernel
  have hthemed : themed.Writable := ⟨rfl, Or.inr ⟨_, rfl, nofun⟩⟩
  have hblocked : ¬blocked.Writable := by
    rintro ⟨-, hplace | ⟨content, hplace, hfile⟩⟩
    · cases hplace
    · cases hplace
      exact hfile rfl
  obtain ⟨hsaves, htells⟩ := saves_all_or_nothing htidy themeWritten
  obtain ⟨hsaves', htells'⟩ := saves_all_or_nothing htidy blockedBehindSave
  refine ⟨htidy, haccepted, ⟨hthemed, hsaves (some .plain) none, read?_save_themeWritten, ?_⟩,
    hblocked, hsaves' (some .plain) none, ?_⟩
  · exact htells net [] (.new settings themed) "set_preferences" plainOnly _ rfl haccepted
  · exact htells' net [] (.new settings blocked) "set_preferences" plainOnly _ rfl haccepted

end BlogSearch.Tool
