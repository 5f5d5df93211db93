import BlogSearch.Text.CaseTable

/-!
# Letter case

The full case mappings of Unicode.  A mapping may lengthen a text, and lower case has one rule that
looks at the neighbours: a capital sigma at the end of a word becomes the final sigma.
-/

namespace BlogSearch.Text.Case

/-- Membership of a character in a table of ranges. -/
def inRanges (table : List (Nat × Nat)) (c : Char) : Bool :=
  table.any fun range => range.1 ≤ c.toNat && c.toNat ≤ range.2

/-- The characters with the property Cased. -/
def isCased (c : Char) : Bool :=
  inRanges casedRanges c

/-- The characters with the property Case_Ignorable. -/
def isCaseIgnorable (c : Char) : Bool :=
  inRanges caseIgnorableRanges c

/-- The image of a character under a table of runs, if some run holds it. -/
def throughRuns? (runs : List (Nat × Nat × Nat × Int)) (c : Char) : Option Char :=
  (runs.find? fun (first, last, step, _) =>
      first ≤ c.toNat && c.toNat ≤ last && (c.toNat - first) % step == 0).map
    fun (_, _, _, distance) => Char.ofNat (c.toNat + distance).toNat

/-- The image of a character: its expansion, else its simple mapping, else itself. -/
def mapChar
    (expansions : List (Nat × List Nat)) (runs : List (Nat × Nat × Nat × Int))
    (c : Char) : List Char :=
  match expansions.find? fun entry => entry.1 == c.toNat with
  | some entry => entry.2.map Char.ofNat
  | none => [(throughRuns? runs c).getD c]

/-- The lower-case form of one character without its neighbours. -/
def lowerChar (c : Char) : List Char :=
  mapChar lowerExpansions lowerRuns c

/-- The upper-case form of one character. -/
def upperChar (c : Char) : List Char :=
  mapChar upperExpansions upperRuns c

/-- The nearest character that case does not ignore is cased. -/
def nextIsCased (s : List Char) : Bool :=
  match s.dropWhile isCaseIgnorable with
  | [] => false
  | c :: _ => isCased c

/-- Capital sigma, the one letter whose lower case depends on where it stands. -/
def capitalSigma : Char := Char.ofNat 0x3A3

/-- The lower-case sigma between the reversed text `before` and the text `rest`. -/
def lowerSigma (before rest : List Char) : Char :=
  if nextIsCased before && !nextIsCased rest then Char.ofNat 0x3C2 else Char.ofNat 0x3C3

/-- The lower-case form of a text that follows the reversed text `before`. -/
def lowerFrom (before : List Char) : List Char → List Char
  | [] => []
  | c :: rest =>
      (if c == capitalSigma then [lowerSigma before rest] else lowerChar c) ++
        lowerFrom (c :: before) rest

def lower (s : String) : String :=
  String.ofList (lowerFrom [] s.toList)

def upper (s : String) : String :=
  String.ofList (s.toList.flatMap upperChar)

end BlogSearch.Text.Case
