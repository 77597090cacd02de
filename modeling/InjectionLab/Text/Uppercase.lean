import InjectionLab.Text.CaseTable

/-!
Upper case of a whole text, by the rules for every language. Each character has a form of its own,
which no neighbour changes and which may hold more than one character.
-/
namespace InjectionLab.Text

def upperForm (c : Char) : List Char :=
  if c.toNat < 128 then [c.toUpper]
  else
    match upperExpansions.lookup c.toNat with
    | some form => form.map Char.ofNat
    | none => [shifted upperRuns c]

def uppercase (text : List Char) : List Char := text.flatMap upperForm

end InjectionLab.Text
