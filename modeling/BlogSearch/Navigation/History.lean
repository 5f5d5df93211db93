import BlogSearch.Navigation.Location
import BlogSearch.Search.Form

/-!
# Navigation history

The history is a list of visited searches with a cursor on the one that is shown.  A new search
drops what lies ahead of the cursor.
-/

namespace BlogSearch

open Json

/-- The path of a search. -/
def searchPath (blog query : String) (page : UInt32) : String :=
  Location.path ⟨blog, query, page⟩

/-- A visited search: its path, and the form that was submitted. -/
structure HistoryEntry where
  url : String
  state : SearchForm
  deriving DecidableEq

namespace HistoryEntry

/-- The entry of a form. -/
def ofForm (f : SearchForm) : HistoryEntry :=
  ⟨searchPath f.blog f.query f.page, f⟩

def json (e : HistoryEntry) : Value :=
  .object [("url", .string e.url), ("state", e.state.json)]

end HistoryEntry

/-- The visited searches, and the index of the one that is shown. -/
structure History where
  entries : List HistoryEntry
  cursor : Option Nat
  deriving DecidableEq

namespace History

def empty : History :=
  ⟨[], none⟩

/-- Adds an entry behind the current one and drops what lay ahead. -/
def push (h : History) (e : HistoryEntry) : History :=
  let kept := match h.cursor with
    | none => []
    | some c => h.entries.take (c + 1)
  ⟨kept ++ [e], some kept.length⟩

/-- Puts an entry in the place of the current one. -/
def replace (h : History) (e : HistoryEntry) : History :=
  if h.entries.isEmpty then h.push e
  else { h with entries := h.entries.set (h.cursor.getD 0) e }

/-- The entry that is shown. -/
def current? (h : History) : Option HistoryEntry :=
  h.cursor.bind fun c => h.entries[c]?

/-- Moves to the entry before the current one, and returns it. -/
def back (h : History) : History × Option HistoryEntry :=
  match h.cursor with
  | some (c + 1) =>
      let moved := { h with cursor := some c }
      (moved, moved.current?)
  | _ => (h, none)

/-- Moves to the entry after the current one, and returns it. -/
def forward (h : History) : History × Option HistoryEntry :=
  match h.cursor with
  | some c =>
      if c + 1 < h.entries.length then
        let moved := { h with cursor := some (c + 1) }
        (moved, moved.current?)
      else (h, none)
  | none => (h, none)

def size (h : History) : Nat :=
  h.entries.length

def isEmpty (h : History) : Bool :=
  h.entries.isEmpty

end History

end BlogSearch
