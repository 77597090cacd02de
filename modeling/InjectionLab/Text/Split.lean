/-!
Sequences cut at every occurrence of one element, which belongs to none of the parts.
-/
namespace InjectionLab.Text

/-- The parts between separators; a sequence without one is a single part. -/
def splitAt {α : Type} [DecidableEq α] (separator : α) : List α → List (List α)
  | [] => [[]]
  | c :: rest =>
    if c = separator then [] :: splitAt separator rest
    else
      match splitAt separator rest with
      | [] => [[c]]
      | part :: parts => (c :: part) :: parts

end InjectionLab.Text
