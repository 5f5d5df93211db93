import BlogSearch.Decimal.Natural
import BlogSearch.Search.Response

/-!
# The panel above the results

The panel says which window of the matches is shown, or that all are, or why there are none.  A page
behind the last match is corrected to the last page.
-/

namespace BlogSearch

open Json

/-- What the panel above the results says. -/
inductive Panel where
  | failure (message : String)
  | window (first last total elapsedMs : UInt64)
  | complete (count elapsedMs : UInt64)
  deriving DecidableEq

/-- The sum of two words, or the greatest word where the sum exceeds it. -/
def saturatingAdd (a b : UInt64) : UInt64 :=
  UInt64.ofNat (min (a.toNat + b.toNat) 18446744073709551615)

/-- Nanoseconds in milliseconds, rounded to the nearest, a half upward. -/
def elapsedMs (timeNs : UInt64) : UInt64 :=
  timeNs / 1000000 + (if timeNs % 1000000 ≥ 500000 then 1 else 0)

/-- The number of pages that hold all matches; none of size zero do. -/
def pageCount (total pageSize : UInt64) : UInt64 :=
  if pageSize = 0 then 0
  else UInt64.ofNat ((total.toNat + pageSize.toNat - 1) / pageSize.toNat)

namespace SearchMeta

/-- The page to ask for instead, when the window lies behind the last match. -/
def correctedPage? (m : SearchMeta) : Option UInt32 :=
  if m.error.isSome || m.offset ≤ m.total then none
  else
    some (UInt32.ofNat (min 4294967295 (max 1 (pageCount m.total m.pageSize).toNat)))

/-- The panel for an answer with this window.  An error wins over every count. -/
def panel (m : SearchMeta) : Panel :=
  match m.error with
  | some message => .failure message
  | none =>
      if m.count < m.total then
        .window (saturatingAdd m.offset 1) (saturatingAdd m.offset m.count) m.total
          (elapsedMs m.timeNs)
      else .complete m.count (elapsedMs m.timeNs)

end SearchMeta

namespace Panel

def isFailure : Panel → Bool
  | .failure _ => true
  | _ => false

def summary : Panel → String
  | .failure message => "Error: " ++ message
  | .window first last total ms =>
      "Results " ++ Decimal.text first.toNat ++ "-" ++ Decimal.text last.toNat ++ " of " ++
        Decimal.text total.toNat ++ " (" ++ Decimal.text ms.toNat ++ " ms)"
  | .complete count ms =>
      Decimal.text count.toNat ++ " results (" ++ Decimal.text ms.toNat ++ " ms)"

def json : Panel → Value
  | .failure message => .object [("panel", .string "error"), ("message", .string message)]
  | .window first last total ms =>
      .object
        [("panel", .string "partial"), ("match_start", .word first), ("match_end", .word last),
          ("matches_total", .word total), ("elapsed_ms", .word ms)]
  | .complete count ms =>
      .object [("panel", .string "complete"), ("count", .word count), ("elapsed_ms", .word ms)]

end Panel

end BlogSearch
