import BlogSearch.Proofs.Settings.Preferences
import BlogSearch.Proofs.Steps
import BlogSearch.Settings.Basic
import BlogSearch.Tool.Service

/-!
# Where settings come from

Every setting comes from a variable of its own, but for a preference that the file holds: then its
variable is not so much as looked at.  The first setting that cannot be used is the one that is
reported.  So a preference that was saved survives a restart in whatever environment, and a preference
that never was saved is the one of its variable.
-/

namespace BlogSearch

/-- The setting that a failure is about, if it is about one. -/
def ClientError.setting? : ClientError → Option String
  | .settingMissing setting => some setting
  | .settingInvalid (.notHttp setting) => some setting
  | .settingInvalid (.outOfRange setting _ _) => some setting
  | .settingInvalid (.unknown setting _) => some setting
  | _ => none

namespace Settings

/-! ## One setting after another -/

/-- The address of the backend as its variable gives it. -/
def address (env : Environment) : Except ClientError String :=
  match lookup? env urlSetting with
  | none => .error (.settingMissing urlSetting)
  | some url => if isHttp url then .ok url else .error (.settingInvalid (.notHttp urlSetting))

/-- A preference as the file holds it, or else as its variable gives it. -/
def chosen {α : Type} [Inhabited α] (saved : Option α) (env : Environment) (name : String)
    (read : String → Except UnknownPreference α) : Except ClientError α :=
  match saved with
  | some a => .ok a
  | none => preference env name read

/-- What is logged. -/
def logLevelOf (env : Environment) : String :=
  Text.Case.upper ((lookup? env logSetting).getD "INFO")

theorem load_eq (env : Environment) (disk : Disk) :
    load env disk = do
      let url ← address env
      let render ← chosen (Preferences.load disk).render env renderSetting Renderer.read
      let sort ← chosen (Preferences.load disk).sort env sortSetting SortOrder.read
      let connect ← seconds env connectSetting 10 1 60
      let request ← seconds env requestSetting 30 1 300
      return ⟨Text.dropSlashes (Text.trim url), render, sort, connect, request, logLevelOf env⟩ := by
  rw [load, address]
  rcases lookup? env urlSetting with _ | url
  · simp only [throw_bind, error_bind]
  · rcases hhttp : isHttp url with _ | _
    · simp only [pure_bind, hhttp, Bool.not_false, Bool.false_eq_true, if_true, if_false,
        throw_bind, error_bind]
    · simp only [pure_bind, hhttp, Bool.not_true, Bool.false_eq_true, if_true, if_false, ok_bind]
      rcases (Preferences.load disk).render with _ | render <;>
        rcases (Preferences.load disk).sort with _ | sort <;>
        simp only [chosen, logLevelOf, ok_bind]

variable {env env' : Environment} {disk : Disk} {e : ClientError}

/-- The settings are loaded, each from where it comes from. -/
structure Loaded (env : Environment) (disk : Disk) (s : Settings) : Prop where
  url : ∃ url, address env = .ok url ∧ s.baseUrl = Text.dropSlashes (Text.trim url)
  render : chosen (Preferences.load disk).render env renderSetting Renderer.read = .ok s.render
  sort : chosen (Preferences.load disk).sort env sortSetting SortOrder.read = .ok s.sort
  connect : seconds env connectSetting 10 1 60 = .ok s.connectTimeout
  request : seconds env requestSetting 30 1 300 = .ok s.requestTimeout
  logLevel : s.logLevel = logLevelOf env

theorem load_eq_ok_iff {s : Settings} : load env disk = .ok s ↔ Loaded env disk s := by
  simp only [load_eq, bind_eq_ok_iff, pure_eq_ok, Except.ok.injEq]
  constructor
  · rintro ⟨url, hurl, render, hrender, sort, hsort, connect, hconnect, request, hrequest, rfl⟩
    exact ⟨⟨url, hurl, rfl⟩, hrender, hsort, hconnect, hrequest, rfl⟩
  · rintro ⟨⟨url, hurl, hbase⟩, hrender, hsort, hconnect, hrequest, hlog⟩
    refine ⟨url, hurl, _, hrender, _, hsort, _, hconnect, _, hrequest, ?_⟩
    rw [← hbase, ← hlog]

/-- Settings that are not loaded are reported for one of them. -/
theorem cases_of_load_eq_error (h : load env disk = .error e) :
    address env = .error e ∨
      chosen (Preferences.load disk).render env renderSetting Renderer.read = .error e ∨
      chosen (Preferences.load disk).sort env sortSetting SortOrder.read = .error e ∨
      seconds env connectSetting 10 1 60 = .error e ∨
      seconds env requestSetting 30 1 300 = .error e := by
  simp only [load_eq, bind_eq_error_iff, pure_eq_ok, reduceCtorEq, and_false, exists_false,
    or_false] at h
  rcases h with h | ⟨-, -, h | ⟨-, -, h | ⟨-, -, h | ⟨-, -, h⟩⟩⟩⟩
  · exact Or.inl h
  · exact Or.inr (Or.inl h)
  · exact Or.inr (Or.inr (Or.inl h))
  · exact Or.inr (Or.inr (Or.inr (Or.inl h)))
  · exact Or.inr (Or.inr (Or.inr (Or.inr h)))

theorem chosen_congr
    {α : Type} [Inhabited α] {name : String} (saved : Option α)
    (read : String → Except UnknownPreference α) (h : lookup? env' name = lookup? env name) :
    chosen saved env' name read = chosen saved env name read := by
  simp only [chosen, preference, h]

/-! ## What a failure is about -/

theorem setting?_of_address (h : address env = .error e) : e.setting? = some urlSetting := by
  rw [address] at h
  split at h
  · cases h
    rfl
  · split at h <;> cases h
    rfl

theorem setting?_of_chosen
    {α : Type} [Inhabited α] {saved : Option α} {name : String}
    {read : String → Except UnknownPreference α} (h : chosen saved env name read = .error e) :
    e.setting? = some name := by
  cases saved with
  | some a => cases h
  | none =>
      rw [chosen, preference] at h
      split at h
      · cases h
      · split at h <;> cases h
        rfl

theorem setting?_of_seconds
    {name : String} {usual least greatest : Nat}
    (h : seconds env name usual least greatest = .error e) : e.setting? = some name := by
  rw [seconds] at h
  split at h
  · cases h
  · split at h
    · split at h <;> cases h
      rfl
    · cases h
      rfl

/-- Every failure to load is about a setting. -/
theorem setting?_of_load (h : load env disk = .error e) : ∃ setting, e.setting? = some setting := by
  rcases cases_of_load_eq_error h with h | h | h | h | h
  · exact ⟨_, setting?_of_address h⟩
  · exact ⟨_, setting?_of_chosen h⟩
  · exact ⟨_, setting?_of_chosen h⟩
  · exact ⟨_, setting?_of_seconds h⟩
  · exact ⟨_, setting?_of_seconds h⟩

/-! ## Preferences of the file and of the environment -/

/-- A setting comes from a preference that the file may hold. -/
structure ComesFrom {α : Type} [Inhabited α]
    (disk : Disk) (setting : String) (field : Settings → α) (saved : Option α)
    (read : String → Except UnknownPreference α) : Prop where
  ok : ∀ env s, load env disk = .ok s → chosen saved env setting read = .ok (field s)
  error : ∀ env e, load env disk = .error e → e.setting? = some setting →
    chosen saved env setting read = .error e

/-- A setting is held by the file: it is the same in every environment, only other settings are
reported, and its variable does not matter. -/
structure Held {α : Type} (disk : Disk) (setting : String) (field : Settings → α) (a : α) :
    Prop where
  value : ∀ env s, load env disk = .ok s → field s = a
  unblamed : ∀ env e, load env disk = .error e →
    ∃ other, e.setting? = some other ∧ other ≠ setting
  unread : ∀ env env', (∀ name, name ≠ setting → env' name = env name) →
    load env' disk = load env disk

theorem lookup?_congr {name : String} (h : env' name = env name) :
    lookup? env' name = lookup? env name := by
  rw [lookup?, lookup?, h]

theorem lookup?_of_typed
    {name typed : String} (h : env name = some typed) (htyped : Text.isBlankText typed = false) :
    lookup? env name = some typed := by
  rw [lookup?, h]
  simp [htyped]

/-- A preference that the file does not hold is the usual one where its variable is unset. -/
theorem chosen_of_unset
    {α : Type} [Inhabited α] {name : String} {read : String → Except UnknownPreference α}
    (h : lookup? env name = none) : chosen none env name read = .ok default := by
  simp only [chosen, preference, h]

theorem ComesFrom.held
    {α : Type} [Inhabited α] {setting : String} {field : Settings → α} {a : α}
    {read : String → Except UnknownPreference α}
    (h : ComesFrom disk setting field (some a) read)
    (hunread : ∀ env env', (∀ name, name ≠ setting → env' name = env name) →
      load env' disk = load env disk) :
    Held disk setting field a := by
  refine ⟨?_, ?_, hunread⟩
  · intro env s hs
    exact (Except.ok.inj (h.ok env s hs)).symm
  · intro env e he
    obtain ⟨other, hother⟩ := setting?_of_load he
    refine ⟨other, hother, ?_⟩
    rintro rfl
    cases h.error env e he hother

end Settings

end BlogSearch
