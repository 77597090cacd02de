import InjectionLab.Text.CaseTable

/-!
Lower case of a whole text, by the rules for every language. One character depends on its
neighbours: a capital sigma at the end of a word takes the final form.
-/
namespace InjectionLab.Text

def inRuns (runs : List (Nat × Nat)) (c : Char) : Bool :=
  runs.any fun run => run.1 ≤ c.toNat && c.toNat ≤ run.2

def isCased (c : Char) : Bool := inRuns casedRuns c

def isIgnorable (c : Char) : Bool := inRuns ignorableRuns c

/-- Lower-case form of a character on its own. The dotted capital I keeps its dot. -/
def lowerForm (c : Char) : List Char :=
  if c.toNat < 128 then [c.toLower]
  else if c = '\u0130' then ['i', '\u0307']
  else [shifted lowerRuns c]

def startsCased (text : List Char) : Bool :=
  ((text.dropWhile isIgnorable).head?.map isCased).getD false

/-- Lower case of text that follows `before`, which is given with its last character first. -/
def lowercaseAfter (before : List Char) : List Char → List Char
  | [] => []
  | c :: rest =>
    let form :=
      if c = '\u03a3' then
        if startsCased before && !startsCased rest then ['\u03c2'] else ['\u03c3']
      else lowerForm c
    form ++ lowercaseAfter (c :: before) rest

def lowercase (text : List Char) : List Char := lowercaseAfter [] text

end InjectionLab.Text
