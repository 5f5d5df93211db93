import BlogSearch.Proofs.Page.View
import BlogSearch.Proofs.Text.Percent
import BlogSearch.Proofs.Text.Pieces
import Mathlib.Data.Bool.AllAny
import Mathlib.Data.List.Forall2

/-!
# Links of tags

The page has a link for each tag of each of its results, in order.  The address of a link has the blog
and the tag in segments of their own, whatever characters these are made of, so two links have the
same address only if they are links of the same tag of the same blog.
-/

namespace BlogSearch

open Text

/-- The tags of a post, each with the blog on which the post stands. -/
def ResultItem.targets (item : ResultItem) : List (String × String) :=
  item.tags.map fun tag => (item.blogName, tag)

namespace TagLink

/-- An ASCII character that is not white space and begins neither a query string nor a fragment. -/
def IsPlain (c : Char) : Prop :=
  c.toNat < 128 ∧ isBlank c = false ∧ c ≠ '?' ∧ c ≠ '#'

instance (c : Char) : Decidable (IsPlain c) :=
  inferInstanceAs (Decidable (_ ∧ _))

/-- The link shows the tag of a blog, and its address leads to it. -/
structure LeadsTo (link : TagLink) (target : String × String) : Prop where
  text : link.text = target.2
  /-- Behind the beginning that all addresses share stand three segments: blog and tag are read back
  from the outer ones. -/
  segments : ∃ path blog tag : List Char,
    link.href.toList = "https://tumblr.com/blog/view/".toList ++ path ∧
      pieces '/' path = [blog, "tagged".toList, tag] ∧
      Percent.decode (String.ofList blog) = some target.1 ∧
      Percent.decode (String.ofList tag) = some target.2
  plain : ∀ c ∈ link.href.toList, IsPlain c

theorem toList_href (blog tag : String) :
    (TagLink.of blog tag).href.toList =
      "https://tumblr.com/blog/view/".toList ++
        (Percent.encodeChars blog.toList ++
          led '/' ["tagged".toList, Percent.encodeChars tag.toList]) := by
  simp [TagLink.of, base, Percent.encode, led]

theorem isPlain_of_isCodeChar {c : Char} (h : Percent.isCodeChar c = true) : IsPlain c := by
  obtain ⟨hlow, hhigh⟩ := Percent.visible_of_isCodeChar h
  refine ⟨by omega, isBlank_of_visible hlow hhigh, ?_, ?_⟩
  · rintro rfl
    exact Bool.noConfusion h
  · rintro rfl
    exact Bool.noConfusion h

theorem isPlain_of_mem_href {blog tag : String} {c : Char}
    (h : c ∈ (TagLink.of blog tag).href.toList) : IsPlain c := by
  -- The quantifiers are run over the lists: there is no deciding of them over all characters.
  have hshared : ∀ c ∈ "https://tumblr.com/blog/view/".toList, IsPlain c :=
    List.all_iff_forall_prop.mp (by decide)
  have hmiddle : ∀ c ∈ "tagged".toList, IsPlain c := List.all_iff_forall_prop.mp (by decide)
  rw [toList_href, List.mem_append, List.mem_append] at h
  rcases h with h | h | h
  · exact hshared c h
  · exact isPlain_of_isCodeChar (Percent.isCodeChar_of_mem_encodeChars h)
  · obtain ⟨segment, hsegment, hc⟩ := List.mem_flatMap.mp h
    rcases List.mem_cons.mp hc with rfl | hc
    · decide
    · rcases List.mem_pair.mp hsegment with rfl | rfl
      · exact hmiddle c hc
      · exact isPlain_of_isCodeChar (Percent.isCodeChar_of_mem_encodeChars hc)

/-- Whatever its tag and its blog are, a link leads to them. -/
theorem leadsTo_of (blog tag : String) : (TagLink.of blog tag).LeadsTo (blog, tag) := by
  have hslash : ∀ segment ∈ ["tagged".toList, Percent.encodeChars tag.toList], '/' ∉ segment := by
    simp only [List.forall_mem_cons]
    exact ⟨by decide, Percent.slash_notMem_encodeChars _, nofun⟩
  have hpieces := pieces_append_led (Percent.slash_notMem_encodeChars blog.toList) hslash
  exact ⟨rfl, ⟨_, _, _, toList_href blog tag, hpieces, Percent.decode_encode blog,
    Percent.decode_encode tag⟩, fun _ => isPlain_of_mem_href⟩

/-- An address leads to one tag of one blog. -/
theorem LeadsTo.unique
    {link link' : TagLink} {target target' : String × String} (h : link.LeadsTo target)
    (h' : link'.LeadsTo target') (hhref : link.href = link'.href) : target = target' := by
  obtain ⟨path, blog, tag, hpath, hpieces, hblog, htag⟩ := h.segments
  obtain ⟨path', blog', tag', hpath', hpieces', hblog', htag'⟩ := h'.segments
  rw [hhref, hpath', List.append_cancel_left_eq] at hpath
  rw [← hpath, hpieces'] at hpieces
  cases hpieces
  exact Prod.ext (Option.some.inj (hblog.symm.trans hblog')) (Option.some.inj (htag.symm.trans htag'))

/-- Links of different tags, or of tags of different blogs, have different addresses. -/
theorem href_injective :
    Function.Injective fun target : String × String => (TagLink.of target.1 target.2).href := by
  intro target target' hhref
  exact (leadsTo_of target.1 target.2).unique (leadsTo_of target'.1 target'.2) hhref

end TagLink

namespace PageView

theorem tagLinks_render (p : PageView) (items : List ResultItem) :
    (p.render items).tagLinks =
      (items.flatMap ResultItem.targets).map fun target => TagLink.of target.1 target.2 := by
  rw [render_eq, tagLinks, List.flatMap_map, List.map_flatMap]
  apply List.flatMap_congr
  intro item _
  rw [ResultItem.targets, List.map_map]
  rfl

theorem href_tagLinks_render (p : PageView) (items : List ResultItem) (i : Nat) :
    (p.render items).tagLinks[i]?.map TagLink.href =
      (items.flatMap ResultItem.targets)[i]?.map fun target => (TagLink.of target.1 target.2).href := by
  rw [tagLinks_render, List.getElem?_map, Option.map_map]
  rfl

/-- The links of a page are those of the tags of its posts, all of them and in order, and their
addresses tell the tags apart, also from those of another page. -/
theorem tag_links_complete_and_unambiguous (p : PageView) (items : List ResultItem) :
    (p.render items).tagLinks.map TagLink.text = items.flatMap ResultItem.tags ∧
      List.Forall₂ TagLink.LeadsTo (p.render items).tagLinks (items.flatMap ResultItem.targets) ∧
      ∀ (q : PageView) (others : List ResultItem) (i j : Nat),
        (p.render items).tagLinks[i]?.map TagLink.href =
            (q.render others).tagLinks[j]?.map TagLink.href ↔
          (items.flatMap ResultItem.targets)[i]? = (others.flatMap ResultItem.targets)[j]? := by
  refine ⟨?_, ?_, ?_⟩
  · rw [tagLinks_render, List.map_map, List.map_flatMap]
    apply List.flatMap_congr
    intro item _
    rw [ResultItem.targets, List.map_map]
    exact List.map_id _
  · rw [tagLinks_render, List.forall₂_map_left_iff, List.forall₂_same]
    intro target _
    exact TagLink.leadsTo_of target.1 target.2
  · intro q others i j
    rw [href_tagLinks_render, href_tagLinks_render]
    exact (Option.map_injective TagLink.href_injective).eq_iff

/-- A slash in the name of a blog makes no segment of its own. -/
example : (TagLink.of "odd/blog" "a#b").href =
    "https://tumblr.com/blog/view/odd%2Fblog/tagged/a%23b" := by decide +kernel

end PageView

end BlogSearch
