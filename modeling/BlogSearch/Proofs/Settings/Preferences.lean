import BlogSearch.Proofs.Browser.Deeds
import BlogSearch.Proofs.Json.Spelling
import BlogSearch.Proofs.Network.Wire
import BlogSearch.Proofs.Settings.Disk
import BlogSearch.Proofs.Settings.Reading

/-!
# Saved preferences keep what else the file holds

A save reads the whole file and writes the whole file.  What it writes is read back as what it meant
to write, members that it knows nothing of included, as long as their numbers are whole.  So after any
saves the file holds what it held before, with the preferences that were saved last.
-/

namespace BlogSearch

open Json

namespace Text.Utf8

theorem decode?_encode (s : String) : decode? (encode s) = some s := by
  have hbytes : (encode s).toByteArray = s.toByteArray := by
    rw [encode, String.toUTF8_eq_toByteArray]
    ext1
    simp
  rw [decode?, hbytes, String.fromUTF8?, dif_pos s.isValidUTF8]
  rfl

end Text.Utf8

namespace Preferences

/-- The numbers of the other members are whole. -/
def Whole (p : Preferences) : Prop :=
  ∀ m ∈ p.extra, m.2.Whole

/-! ## What is written is read back -/

theorem ofMembers?_others
    (renderSeen sortSeen : Bool) {p : Preferences} {others : List (String × Value)}
    (hascending : Ascending (p.extra ++ others))
    (hothers : ∀ m ∈ others, m.1 ≠ "render" ∧ m.1 ≠ "sort")
    (hsettled : ∀ m ∈ others, m.2.Settled (Document.nestingLimit - 1)) :
    ofMembers? renderSeen sortSeen p (Value.memberDocuments others) =
      some { p with extra := p.extra ++ others } := by
  induction others generalizing p with
  | nil => simp [Value.memberDocuments, ofMembers?]
  | cons m others ih =>
      obtain ⟨hrender, hsort⟩ := hothers m List.mem_cons_self
      have hvalue := Document.value?_of_settled (hsettled m List.mem_cons_self)
      have hlast : insertMember m.1 m.2 p.extra = p.extra ++ [m] :=
        insertMember_of_forall_lt fun n hn =>
          (List.pairwise_append.mp hascending).2.2 n hn m List.mem_cons_self
      have hrest := ih (p := { p with extra := p.extra ++ [m] })
        (by simpa using hascending)
        (fun n hn => hothers n (List.mem_cons_of_mem m hn))
        (fun n hn => hsettled n (List.mem_cons_of_mem m hn))
      simp only [Value.memberDocuments, ofMembers?, hrender, hsort, if_false, hvalue, hlast, hrest]
      simp

theorem ofMembers?_render
    (sortSeen : Bool) (render : Option Renderer) (sort : Option SortOrder)
    (rest : List (String × Value)) :
    ofMembers? false sortSeen ⟨none, sort, []⟩
        (Value.memberDocuments (Value.optionalMember "render" Renderer.json render ++ rest)) =
      ofMembers? render.isSome sortSeen ⟨render, sort, []⟩ (Value.memberDocuments rest) := by
  rcases render with _ | r
  · rfl
  · cases r <;> rfl

theorem ofMembers?_sort
    (renderSeen : Bool) (render : Option Renderer) (sort : Option SortOrder)
    (rest : List (String × Value)) :
    ofMembers? renderSeen false ⟨render, none, []⟩
        (Value.memberDocuments (Value.optionalMember "sort" SortOrder.json sort ++ rest)) =
      ofMembers? renderSeen sort.isSome ⟨render, sort, []⟩ (Value.memberDocuments rest) := by
  rcases sort with _ | s
  · rfl
  · cases s <;> rfl

theorem whole_json {p : Preferences} (h : p.Whole) : p.json.Whole := by
  refine .object ?_
  simp only [List.forall_mem_append, Value.forall_mem_optionalMember]
  refine ⟨⟨?_, ?_⟩, h⟩
  · intro r _
    exact .string r.name
  · intro s _
    exact .string s.name

/-- The text of a file is read back as what it was written for. -/
theorem decode?_fileText {p : Preferences} (hkept : p.Kept) (hwhole : p.Whole) :
    decode? p.fileText = some p := by
  have htext : p.fileText.toList = p.json.prettyChars 0 ++ ['\n'] := by
    simp [fileText, Value.pretty]
  have hgap : IsGap ['\n'] := isGap_newline 0
  have hscan := scan_of_spells (Value.spells_prettyChars (whole_json hwhole) 0) hgap
  have hmembers : ofMembers? false false empty
      (Value.memberDocuments (Value.optionalMember "render" Renderer.json p.render ++
        Value.optionalMember "sort" SortOrder.json p.sort ++ p.extra)) = some p := by
    rw [List.append_assoc, empty, ofMembers?_render, ofMembers?_sort]
    exact ofMembers?_others _ _ hkept.ascending hkept.others hkept.settled
  rw [decode?, htext, hscan]
  exact hmembers

theorem held?_replaced
    {d : Disk} (hwritable : d.Writable) {p : Preferences} (hkept : p.Kept) (hwhole : p.Whole) :
    held? (d.replaced (Text.Utf8.encode p.fileText)) = some p := by
  rw [held?, Disk.read?_replaced _ hwritable, Option.bind_some, Text.Utf8.decode?_encode,
    Option.bind_some]
  exact decode?_fileText hkept hwhole

/-! ## Saves one after another -/

/-- Saves preferences one after another. -/
def saveAll (d : Disk) :
    List (Option Renderer × Option SortOrder) → Disk × List (Except ClientError Unit)
  | [] => (d, [])
  | (render, sort) :: rest =>
      let once := save d render sort
      let after := saveAll once.1 rest
      (after.1, once.2 :: after.2)

/-- The preferences after all changes of the saves. -/
def preferAll (p : Preferences) (saves : List (Option Renderer × Option SortOrder)) : Preferences :=
  saves.foldl (fun p s => p.prefer s.1 s.2) p

theorem preferAll_append
    (p : Preferences) (saves more : List (Option Renderer × Option SortOrder)) :
    p.preferAll (saves ++ more) = (p.preferAll saves).preferAll more :=
  List.foldl_append

/-- Of several saves the last one that names a preference counts. -/
theorem preferAll_eq
    (p : Preferences) (saves : List (Option Renderer × Option SortOrder)) :
    p.preferAll saves =
      ⟨(latest? Prod.fst saves).or p.render, (latest? Prod.snd saves).or p.sort, p.extra⟩ := by
  induction saves using List.reverseRecOn with
  | nil => rfl
  | append_singleton saves s ih =>
      rw [preferAll_append, ih, latest?_concat, latest?_concat, Option.or_assoc, Option.or_assoc]
      rfl

theorem extra_preferAll
    (p : Preferences) (saves : List (Option Renderer × Option SortOrder)) :
    (p.preferAll saves).extra = p.extra := by
  rw [preferAll_eq]

/-- To change the same again changes nothing. -/
theorem prefer_prefer_self
    (p : Preferences) (render : Option Renderer) (sort : Option SortOrder) :
    (p.prefer render sort).prefer render sort = p.prefer render sort := by
  cases render <;> cases sort <;> rfl

theorem save_of_writable
    {d : Disk} (hwritable : d.Writable) (render : Option Renderer) (sort : Option SortOrder) :
    save d render sort =
      (d.replaced (Text.Utf8.encode ((load d).prefer render sort).fileText), .ok ()) :=
  Disk.replaceFile_of_writable _ hwritable

variable {d : Disk}

theorem held?_save
    (hwritable : d.Writable) (hwhole : (load d).Whole)
    (render : Option Renderer) (sort : Option SortOrder) :
    held? (save d render sort).1 = some ((load d).prefer render sort) := by
  rw [save_of_writable hwritable]
  exact held?_replaced hwritable ((kept_load d).of_extra_eq rfl) hwhole

theorem load_save
    (hwritable : d.Writable) (hwhole : (load d).Whole)
    (render : Option Renderer) (sort : Option SortOrder) :
    load (save d render sort).1 = (load d).prefer render sort :=
  load_of_held?_eq_some (held?_save hwritable hwhole render sort)

/-- Saves one after another all succeed, and leave the file that one save of the preferences named last
would leave. -/
theorem saveAll_eq
    (hwritable : d.Writable) (hwhole : (load d).Whole)
    {saves : List (Option Renderer × Option SortOrder)} (hsaves : saves ≠ []) :
    saveAll d saves =
      (d.replaced (Text.Utf8.encode ((load d).preferAll saves).fileText),
        List.replicate saves.length (.ok ())) := by
  induction saves generalizing d with
  | nil => exact absurd rfl hsaves
  | cons s rest ih =>
      obtain ⟨render, sort⟩ := s
      have honce := save_of_writable hwritable render sort
      have hload := load_save hwritable hwhole render sort
      have hwritable' : (save d render sort).1.Writable := by
        rw [honce]
        exact hwritable.replaced _
      by_cases hrest : rest = []
      · rw [hrest, saveAll, honce]
        rfl
      · have hall := ih hwritable' (by rw [hload]; exact hwhole) hrest
        rw [hload] at hall
        rw [saveAll, hall, honce]
        rfl

theorem held?_preferAll_replaced
    (hwritable : d.Writable) (hwhole : (load d).Whole)
    (saves : List (Option Renderer × Option SortOrder)) :
    held? (d.replaced (Text.Utf8.encode ((load d).preferAll saves).fileText)) =
      some ((load d).preferAll saves) := by
  have hextra := (load d).extra_preferAll saves
  refine held?_replaced hwritable ((kept_load d).of_extra_eq hextra) ?_
  rw [Whole, hextra]
  exact hwhole

/-- What saves one after another make of a disk that lets them write. -/
structure KeepsOthers (d : Disk) (saves : List (Option Renderer × Option SortOrder)) : Prop where
  /-- Every save succeeds. -/
  succeeds : (saveAll d saves).2 = List.replicate saves.length (.ok ())
  /-- The file then holds the preferences that were named last, and all other members as they were. -/
  held : ∃ p, held? (saveAll d saves).1 = some p ∧
    p.render = (latest? Prod.fst saves).or (load d).render ∧
    p.sort = (latest? Prod.snd saves).or (load d).sort ∧
    p.extra = (load d).extra
  /-- The text that was in the file and the text that is left are objects with the same members under
  all other names. -/
  texts : ∀ s, text? d = some s → (decode? s).isSome → ∃ s' ms ms',
    text? (saveAll d saves).1 = some s' ∧
      Value.read? s = some (.object ms) ∧ Value.read? s' = some (.object ms') ∧
      others ms' = others ms
  /-- What the file holds determines its bytes. -/
  text : ∀ p, held? (saveAll d saves).1 = some p →
    (saveAll d saves).1.read? = some (Text.Utf8.encode p.fileText)
  /-- To save the same again changes nothing. -/
  again : ∀ earlier render sort, (saveAll d (earlier ++ [(render, sort), (render, sort)])).1 =
    (saveAll d (earlier ++ [(render, sort)])).1
  /-- It does not matter which of two preferences is saved first. -/
  commute : ∀ earlier render sort,
    (saveAll d (earlier ++ [(some render, none), (none, some sort)])).1 =
      (saveAll d (earlier ++ [(none, some sort), (some render, none)])).1
  /-- A file that is missing or cannot be decoded counts as one without members. -/
  missing : held? d = none → ∀ e : Disk, e.Writable → held? e = some empty →
    (saveAll e saves).1.read? = (saveAll d saves).1.read?

/-- Saves one after another keep everything else in the file, in whatever text it stood there, as long
as its numbers are whole and nothing is in the way of a write. -/
theorem saves_keep_other_members
    (hwritable : d.Writable) (hwhole : (load d).Whole)
    {saves : List (Option Renderer × Option SortOrder)} (hsaves : saves ≠ []) :
    KeepsOthers d saves := by
  have hall := saveAll_eq hwritable hwhole hsaves
  have hdisk {all : List (Option Renderer × Option SortOrder)} (hne : all ≠ []) :
      (saveAll d all).1 = d.replaced (Text.Utf8.encode ((load d).preferAll all).fileText) :=
    congrArg Prod.fst (saveAll_eq hwritable hwhole hne)
  have hheld : held? (saveAll d saves).1 = some ((load d).preferAll saves) := by
    rw [hall]
    exact held?_preferAll_replaced hwritable hwhole saves
  have hread : (saveAll d saves).1.read? =
      some (Text.Utf8.encode ((load d).preferAll saves).fileText) := by
    rw [hall]
    exact Disk.read?_replaced _ hwritable
  have hfinal := (load d).preferAll_eq saves
  refine ⟨congrArg Prod.snd hall, ⟨_, hheld, ?_, ?_, ?_⟩, ?_, ?_, ?_, ?_, ?_⟩
  · rw [hfinal]
  · rw [hfinal]
  · rw [hfinal]
  · intro s htext hsome
    obtain ⟨p, hdecode⟩ := Option.isSome_iff_exists.mp hsome
    have hload : load d = p :=
      load_of_held?_eq_some (Option.bind_eq_some_iff.mpr ⟨s, htext, hdecode⟩)
    have hextra : ((load d).preferAll saves).extra = p.extra := by rw [extra_preferAll, hload]
    obtain ⟨s', htext', hdecode'⟩ := Option.bind_eq_some_iff.mp hheld
    obtain ⟨ms, ms', hsame⟩ := exists_others_eq hdecode hdecode' hextra
    exact ⟨s', ms, ms', htext', hsame⟩
  · intro p hp
    obtain rfl : (load d).preferAll saves = p := Option.some.inj (hheld.symm.trans hp)
    exact hread
  · intro earlier render sort
    have hsame : (load d).preferAll (earlier ++ [(render, sort), (render, sort)]) =
        (load d).preferAll (earlier ++ [(render, sort)]) := by
      rw [preferAll_append, preferAll_append]
      exact prefer_prefer_self _ render sort
    rw [hdisk (by simp), hdisk (by simp), hsame]
  · intro earlier render sort
    have hsame : (load d).preferAll (earlier ++ [(some render, none), (none, some sort)]) =
        (load d).preferAll (earlier ++ [(none, some sort), (some render, none)]) := by
      rw [preferAll_append, preferAll_append]
      rfl
    rw [hdisk (by simp), hdisk (by simp), hsame]
  · intro hmissing e he hempty
    have hload := load_of_held?_eq_none hmissing
    have hload' := load_of_held?_eq_some hempty
    have hwhole' : (load e).Whole := by
      rw [hload', ← hload]
      exact hwhole
    rw [hread, saveAll_eq he hwhole' hsaves, Disk.read?_replaced _ he, hload, hload']

/-- A file with a preference and with nested members under other names. -/
def themed : Preferences :=
  ⟨some .plain, none, [
    ("aaa", .object []),
    ("theme", .object [
      ("dark", .bool true),
      ("sizes", .array [
        .number (.whole 18446744073709551615 (by decide)),
        .number (.whole (-3) (by decide)),
        .array []])])]⟩

theorem kept_themed : themed.Kept := by
  refine ⟨by unfold Ascending; decide, by decide, ?_⟩
  simp only [themed, List.forall_mem_cons]
  exact ⟨Document.settled_of_value? (d := (Value.object []).document) rfl,
    Document.settled_of_value? (d := themed.extra[1].2.document) rfl, List.forall_mem_nil _⟩

theorem whole_themed : themed.Whole := by
  have hsizes : (Value.array [
      .number (.whole 18446744073709551615 (by decide)),
      .number (.whole (-3) (by decide)),
      .array []]).Whole := by
    refine .array ?_
    simp only [List.forall_mem_cons]
    exact ⟨.number _, .number _, .array (List.forall_mem_nil _), List.forall_mem_nil _⟩
  simp only [Whole, themed, List.forall_mem_cons]
  refine ⟨.object (List.forall_mem_nil _), .object ?_, List.forall_mem_nil _⟩
  simp only [List.forall_mem_cons]
  exact ⟨.bool true, hsizes, List.forall_mem_nil _⟩

/-- A disk with that file. -/
def themedDisk : Disk :=
  (Disk.fresh "/home").replaced (Text.Utf8.encode themed.fileText)

theorem writable_themedDisk : themedDisk.Writable :=
  Disk.Writable.replaced _ ⟨rfl, Or.inl rfl⟩

theorem load_themedDisk : load themedDisk = themed :=
  load_of_held?_eq_some (held?_replaced ⟨rfl, Or.inl rfl⟩ kept_themed whole_themed)

/-- Saving another order and then another way of rendering keeps the members of that file. -/
theorem themedDisk_keeps_other_members :
    themedDisk.Writable ∧ (load themedDisk).Whole ∧
      KeepsOthers themedDisk [(none, some .oldest), (some .html, none)] ∧
      load themedDisk = themed ∧
      held? (saveAll themedDisk [(none, some .oldest), (some .html, none)]).1 =
        some ⟨some .html, some .oldest, themed.extra⟩ := by
  have hwhole : (load themedDisk).Whole := load_themedDisk ▸ whole_themed
  have hkeeps : KeepsOthers themedDisk [(none, some .oldest), (some .html, none)] :=
    saves_keep_other_members writable_themedDisk hwhole (List.cons_ne_nil _ _)
  refine ⟨writable_themedDisk, hwhole, hkeeps, load_themedDisk, ?_⟩
  obtain ⟨⟨render, sort, extra⟩, hheld, hrender, hsort, hextra⟩ := hkeeps.held
  rw [load_themedDisk] at hrender hsort hextra
  cases hrender
  cases hsort
  cases hextra
  exact hheld

end Preferences

end BlogSearch
