import BlogSearch.Proofs.Settings.Loading
import BlogSearch.Proofs.Text.Trim
import Mathlib.Logic.Function.Basic

/-!
# The address that is loaded

An address is checked as it stands between its blanks, and stored without the slashes at its end.  To
take these away can lay open a blank, or can take away part of the scheme.  So what is stored need not
pass the check that it has passed before: it does exactly when the last character that is no slash stands
behind the scheme and is no blank.
-/

namespace BlogSearch.Settings

open Text

/-- The two schemes of an address. -/
def schemes : List String := ["http://", "https://"]

theorem isHttp_iff {url : String} :
    isHttp url = true ↔ ∃ scheme ∈ schemes, scheme.toList <+: (trim url).toList := by
  simp [isHttp, beginsWith, schemes, List.isPrefixOf_iff_prefix]

theorem endsInSlash_of_mem_schemes :
    ∀ scheme ∈ schemes, scheme.toList.getLast? = some '/' := by
  decide

theorem head?_of_mem_schemes : ∀ scheme ∈ schemes, scheme.toList.head? = some 'h' := by
  decide

/-- The last character of an address that is no slash stands behind its scheme and is no blank. -/
def NamesHost (url : String) : Prop :=
  ∃ scheme ∈ schemes, ∃ host c slashes,
    (trim url).toList = scheme.toList ++ host ++ c :: slashes ∧
      c ≠ '/' ∧ isBlank c = false ∧ ∀ x ∈ slashes, x = '/'

/-- What holds of all settings that are loaded. -/
structure Bounded (s : Settings) : Prop where
  noSlashAtEnd : ∀ c, s.baseUrl.toList.getLast? = some c → c ≠ '/'
  noBlankAtBeginning : BeginsOutside isBlank s.baseUrl.toList
  connect : 1 ≤ s.connectTimeout.toNat ∧ s.connectTimeout.toNat ≤ 60
  request : 1 ≤ s.requestTimeout.toNat ∧ s.requestTimeout.toNat ≤ 300

/-- Settings whose address is as an address should be, and stays as it is when it is loaded again. -/
structure Normal (env : Environment) (disk : Disk) (s : Settings) : Prop extends Bounded s where
  scheme : ∃ scheme ∈ schemes, scheme.toList <+: s.baseUrl.toList
  noBlankAtEnd : EndsOutside isBlank s.baseUrl.toList
  stable : ∃ s', load (Function.update env urlSetting (some s.baseUrl)) disk = .ok s' ∧
    s'.baseUrl = s.baseUrl

/-- All settings that are loaded are normal. -/
def LoadsNormal : Prop :=
  ∀ env disk s, load env disk = .ok s → Normal env disk s

variable {env : Environment} {disk : Disk} {s : Settings} {url : String}

/-! ## Seconds -/

theorem seconds_bounds
    {name : String} {usual least greatest : Nat} {n : UInt64}
    (husual : least ≤ usual ∧ usual ≤ greatest) (hgreatest : greatest < 2 ^ 64)
    (h : seconds env name usual least greatest = .ok n) :
    least ≤ n.toNat ∧ n.toNat ≤ greatest := by
  have hword {m : Nat} (hm : least ≤ m ∧ m ≤ greatest) :
      least ≤ (UInt64.ofNat m).toNat ∧ (UInt64.ofNat m).toNat ≤ greatest := by
    rw [UInt64.toNat_ofNat', Nat.mod_eq_of_lt (lt_of_le_of_lt hm.2 hgreatest)]
    exact hm
  rw [seconds] at h
  split at h
  · cases h
    exact hword husual
  · split at h
    · split at h
      · next hm =>
          cases h
          exact hword (by simpa using hm)
      · cases h
    · cases h

theorem seconds_of_unset {name : String} (h : lookup? env name = none) (usual least greatest : Nat) :
    seconds env name usual least greatest = .ok (UInt64.ofNat usual) := by
  rw [seconds, h]

/-! ## The address -/

theorem address_eq_ok_iff :
    address env = .ok url ↔ lookup? env urlSetting = some url ∧ isHttp url = true := by
  rw [address]
  rcases lookup? env urlSetting with _ | typed
  · simp
  · by_cases htyped : isHttp typed = true
    · simp only [htyped, if_true, Except.ok.injEq, Option.some.injEq]
      exact ⟨fun heq => ⟨heq, heq ▸ htyped⟩, And.left⟩
    · simp only [htyped, Bool.false_eq_true, if_false, reduceCtorEq, Option.some.injEq, false_iff]
      rintro ⟨rfl, hhttp⟩
      exact htyped hhttp

theorem eq_some_of_lookup? {name typed : String} (h : lookup? env name = some typed) :
    env name = some typed :=
  (Option.filter_eq_some_iff.mp h).1

/-- What is stored of an address. -/
def stored (url : String) : String :=
  dropSlashes (trim url)

theorem toList_stored (url : String) :
    (stored url).toList = dropEnd (· == '/') (trim url).toList := by
  rw [stored, dropSlashes, String.toList_ofList]

theorem ne_slash_of_getLast?_stored {c : Char} (h : (stored url).toList.getLast? = some c) :
    c ≠ '/' := by
  rw [toList_stored] at h
  simpa using endsOutside_dropEnd (· == '/') _ c h

theorem beginsOutside_stored (url : String) : BeginsOutside isBlank (stored url).toList := by
  rw [toList_stored, trim, String.toList_ofList]
  exact (beginsOutside_trimBoth isBlank _).dropEnd _

theorem bounded_of_loaded (h : Loaded env disk s) : s.Bounded := by
  obtain ⟨url, -, hbase⟩ := h.url
  have hstored : s.baseUrl = stored url := hbase
  refine ⟨?_, ?_, ?_, ?_⟩
  · intro c hc
    rw [hstored] at hc
    exact ne_slash_of_getLast?_stored hc
  · rw [hstored]
    exact beginsOutside_stored url
  · exact seconds_bounds (by decide) (by decide) h.connect
  · exact seconds_bounds (by decide) (by decide) h.request

/-- An address that begins with a scheme and is stored as it is. -/
theorem stored_eq_self
    {scheme : String} (hmem : scheme ∈ schemes) (hscheme : scheme.toList <+: url.toList)
    (hblank : EndsOutside isBlank url.toList) (hslash : EndsOutside (· == '/') url.toList) :
    isHttp url = true ∧ isBlankText url = false ∧ stored url = url := by
  obtain ⟨rest, hrest⟩ := hscheme
  have hhead : url.toList.head? = some 'h' := by
    rw [← hrest, List.head?_append, head?_of_mem_schemes scheme hmem]
    rfl
  have hbegins : BeginsOutside isBlank url.toList := by
    intro c hc
    rw [hhead] at hc
    cases hc
    decide
  have htrim : trim url = url := by
    rw [trim, trimBoth_eq_self hbegins hblank, String.ofList_toList]
  refine ⟨isHttp_iff.mpr ⟨scheme, hmem, rest, by rw [htrim, hrest]⟩, ?_, ?_⟩
  · obtain ⟨tail, htail⟩ := List.head?_eq_some_iff.mp hhead
    rw [isBlankText, htail]
    rfl
  · rw [stored, htrim, dropSlashes, dropEnd_eq_self_iff.mpr hslash, String.ofList_toList]

/-- What is stored begins with a scheme and does not end in a blank exactly if the address names a
host. -/
theorem namesHost_iff :
    NamesHost url ↔ (∃ scheme ∈ schemes, scheme.toList <+: (stored url).toList) ∧
      EndsOutside isBlank (stored url).toList := by
  rw [toList_stored]
  constructor
  · rintro ⟨scheme, hmem, host, c, slashes, hurl, hslash, hblank, hslashes⟩
    have hstored : dropEnd (· == '/') (trim url).toList = scheme.toList ++ host ++ [c] := by
      rw [hurl, List.append_cons, dropEnd_append_of_forall (by simpa using hslashes)]
      exact dropEnd_append_of_forall_not (List.cons_ne_nil c []) (by simpa using hslash) _
    rw [hstored]
    exact ⟨⟨scheme, hmem, host ++ [c], by rw [List.append_assoc]⟩, endsOutside_concat.mpr hblank⟩
  · rintro ⟨⟨scheme, hmem, more, hmore⟩, hblank⟩
    obtain ⟨slashes, hurl, hslashes⟩ := exists_append_dropEnd (· == '/') (trim url).toList
    have hslash := endsOutside_dropEnd (· == '/') (trim url).toList
    rw [← hmore] at hurl hblank hslash
    -- The scheme ends in a slash, so something stands behind it.
    rcases List.eq_nil_or_concat' more with rfl | ⟨host, c, rfl⟩
    · rw [List.append_nil] at hslash
      have hcontra := hslash '/' (endsInSlash_of_mem_schemes scheme hmem)
      simp at hcontra
    · rw [← List.append_assoc, endsOutside_concat] at hblank hslash
      refine ⟨scheme, hmem, host, c, slashes, ?_, by simpa using hslash, hblank, ?_⟩
      · rw [hurl]
        simp
      · simpa using hslashes

/-! ## Loading once more -/

theorem seconds_congr
    {env' : Environment} {name : String} (h : lookup? env' name = lookup? env name)
    (usual least greatest : Nat) :
    seconds env' name usual least greatest = seconds env name usual least greatest := by
  simp only [seconds, h]

/-- With what was stored in the place of the address the same settings are loaded again, if it is stored
as it is. -/
theorem Loaded.again
    (h : Loaded env disk s) (hhttp : isHttp s.baseUrl = true)
    (hnonblank : isBlankText s.baseUrl = false) (hstored : stored s.baseUrl = s.baseUrl) :
    Loaded (Function.update env urlSetting (some s.baseUrl)) disk s := by
  let env' : Environment := Function.update env urlSetting (some s.baseUrl)
  have hurl : lookup? env' urlSetting = some s.baseUrl :=
    lookup?_of_typed (Function.update_self _ _ _) hnonblank
  have hother {name : String} (hne : name ≠ urlSetting) : lookup? env' name = lookup? env name :=
    lookup?_congr (Function.update_of_ne hne _ _)
  constructor
  · exact ⟨s.baseUrl, address_eq_ok_iff.mpr ⟨hurl, hhttp⟩, hstored.symm⟩
  · rw [← h.render]
    exact chosen_congr _ _ (hother (by decide))
  · rw [← h.sort]
    exact chosen_congr _ _ (hother (by decide))
  · rw [← h.connect]
    exact seconds_congr (hother (by decide)) _ _ _
  · rw [← h.request]
    exact seconds_congr (hother (by decide)) _ _ _
  · have hlog : lookup? env' logSetting = lookup? env logSetting := hother (by decide)
    rw [h.logLevel, logLevelOf, logLevelOf, hlog]

/-- Whatever the environment and the disk are like, settings that are loaded have bounded times and an
address without a slash at its end, and they are normal exactly if the address of the environment names a
host. -/
theorem loaded_normal_iff (hload : load env disk = .ok s) :
    s.Bounded ∧ ∃ url, env urlSetting = some url ∧ (Normal env disk s ↔ NamesHost url) := by
  have hloaded := load_eq_ok_iff.mp hload
  have hbounded := bounded_of_loaded hloaded
  obtain ⟨url, haddress, hbase⟩ := hloaded.url
  have hstored : s.baseUrl = stored url := hbase
  refine ⟨hbounded, url, eq_some_of_lookup? (address_eq_ok_iff.mp haddress).1, ?_⟩
  rw [namesHost_iff, ← hstored]
  constructor
  · intro hnormal
    exact ⟨hnormal.scheme, hnormal.noBlankAtEnd⟩
  · rintro ⟨⟨scheme, hmem, hscheme⟩, hblank⟩
    have hslash : EndsOutside (· == '/') s.baseUrl.toList := by
      intro c hc
      simpa using hbounded.noSlashAtEnd c hc
    obtain ⟨hhttp, hnonblank, hself⟩ := stored_eq_self hmem hscheme hblank hslash
    exact ⟨hbounded, ⟨scheme, hmem, hscheme⟩, hblank, s,
      load_eq_ok_iff.mpr (hloaded.again hhttp hnonblank hself), rfl⟩

/-! ## An address that is nothing but a scheme -/

/-- An environment with an address and nothing else. -/
def onlyUrl (url : String) : Environment :=
  fun name => if name = urlSetting then some url else none

/-- Where there is only an address, all else is loaded as usual. -/
theorem load_onlyUrl
    (url home : String) (hhttp : isHttp url = true) (hnonblank : isBlankText url = false) :
    ∃ s, load (onlyUrl url) (Disk.fresh home) = .ok s ∧ s.baseUrl = stored url := by
  have hurl : lookup? (onlyUrl url) urlSetting = some url := lookup?_of_typed (if_pos rfl) hnonblank
  have hother {name : String} (hne : name ≠ urlSetting) : lookup? (onlyUrl url) name = none := by
    rw [lookup?, onlyUrl, if_neg hne]
    rfl
  have hpreferences : Preferences.load (Disk.fresh home) = Preferences.empty := rfl
  let s : Settings := ⟨stored url, .html, .newest, 10, 30, logLevelOf (onlyUrl url)⟩
  refine ⟨s, load_eq_ok_iff.mpr ?_, rfl⟩
  constructor
  · exact ⟨url, address_eq_ok_iff.mpr ⟨hurl, hhttp⟩, rfl⟩
  · rw [hpreferences]
    exact chosen_of_unset (hother (by decide))
  · rw [hpreferences]
    exact chosen_of_unset (hother (by decide))
  · exact seconds_of_unset (hother (by decide)) _ _ _
  · exact seconds_of_unset (hother (by decide)) _ _ _
  · rfl

/-- An address with blanks around it and slashes at its end is loaded as it should be. -/
theorem normal_of_spaced_url :
    ∃ s, load (onlyUrl " http://x:80// ") (Disk.fresh "/home") = .ok s ∧
      s.Bounded ∧ ∃ url, onlyUrl " http://x:80// " urlSetting = some url ∧
        (Normal (onlyUrl " http://x:80// ") (Disk.fresh "/home") s ↔ NamesHost url) ∧
        NamesHost url := by
  have hhttp : isHttp " http://x:80// " = true := by decide +kernel
  have htrim : (trim " http://x:80// ").toList =
      "http://".toList ++ "x:8".toList ++ ['0', '/', '/'] := by
    decide +kernel
  obtain ⟨s, hload, -⟩ := load_onlyUrl " http://x:80// " "/home" hhttp (by decide)
  obtain ⟨hbounded, url, hurl, hiff⟩ := loaded_normal_iff hload
  have hspaced : onlyUrl " http://x:80// " urlSetting = some " http://x:80// " := if_pos rfl
  obtain rfl := Option.some.inj (hspaced.symm.trans hurl)
  exact ⟨s, hload, hbounded, _, hurl, hiff, "http://", by decide, "x:8".toList, '0', ['/', '/'],
    htrim, by decide, by decide, by simp⟩

/-- An address that is nothing but a scheme is loaded, and what is stored of it is no address. -/
theorem not_loadsNormal : ¬LoadsNormal := by
  intro hnormal
  obtain ⟨s, hload, hbase⟩ := load_onlyUrl "http://" "/home" (by decide) (by decide)
  obtain ⟨scheme, hmem, hscheme⟩ := (hnormal _ _ s hload).scheme
  rw [hbase] at hscheme
  revert scheme
  decide

end BlogSearch.Settings
