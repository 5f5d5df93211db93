import BlogSearch.Search.Response
import BlogSearch.Text.Percent

/-!
# Results as they are shown

A result shows the post that the backend rendered, with a link for every tag, and its body is clipped
until it is expanded.
-/

namespace BlogSearch

open Json Text

/-- A tag of a post with the address of the posts that carry it. -/
structure TagLink where
  text : String
  href : String
  deriving DecidableEq

namespace TagLink

/-- The address under which the tags of all blogs lie. -/
def base : String := "https://tumblr.com/blog/view"

/-- The link of a tag of a blog. -/
def of (blog tag : String) : TagLink :=
  ⟨tag, base ++ "/" ++ Percent.encode blog ++ "/tagged/" ++ Percent.encode tag⟩

def json (l : TagLink) : Value :=
  .object [("text", .string l.text), ("href", .string l.href)]

end TagLink

/-- Whether the body of a result is cut at a height. -/
inductive Preview where
  | clipped
  | unclipped
  deriving DecidableEq

namespace Preview

instance : Inhabited Preview := ⟨.clipped⟩

/-- The other state. -/
def toggle : Preview → Preview
  | .clipped => .unclipped
  | .unclipped => .clipped

/-- The style of the body. -/
def style? : Preview → Option String
  | .clipped => some "max-height: 100px; overflow: hidden"
  | .unclipped => none

def name : Preview → String
  | .clipped => "clipped"
  | .unclipped => "unclipped"

def json (p : Preview) : Value :=
  .string p.name

end Preview

/-- A result on the page. -/
structure ResultView where
  html : String
  tags : List TagLink
  externalHref : String
  blogName : String
  date : Option String
  preview : Preview
  deriving DecidableEq

namespace ResultView

/-- The view of a post, clipped. -/
def ofItem (item : ResultItem) : ResultView :=
  { html := item.rendered
    tags := item.tags.map (TagLink.of item.blogName)
    externalHref := item.postUrl
    blogName := item.blogName
    date := item.displayDate?
    preview := default }

def json (r : ResultView) : Value :=
  .object
    ([("html", .string r.html), ("tags", .array (r.tags.map TagLink.json)),
        ("external_href", .string r.externalHref), ("blog_name", .string r.blogName)] ++
      Value.optionalMember "date" Value.string r.date ++ [("preview", r.preview.json)])

end ResultView

end BlogSearch
