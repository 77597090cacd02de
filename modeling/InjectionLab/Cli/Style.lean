import InjectionLab.Config

/-!
Coloured output. A style is set before a text and reset after it; where the text itself holds a
reset, the style is set again.
-/
namespace InjectionLab.Cli

inductive Style where
  | cyan
  | boldCyan
  | green
  | yellow
  | brightWhite
  | dimmed
deriving DecidableEq, Repr

def Style.code : Style → List Char
  | cyan => ['3', '6']
  | boldCyan => ['1', ';', '3', '6']
  | green => ['3', '2']
  | yellow => ['3', '3']
  | brightWhite => ['9', '7']
  | dimmed => ['2']

def Style.start (style : Style) : List Char := '\x1b' :: '[' :: style.code ++ ['m']

def reset : List Char := ['\x1b', '[', '0', 'm']

def Style.resume (style : Style) : List Char → List Char
  | '\x1b' :: '[' :: '0' :: 'm' :: rest => reset ++ style.start ++ style.resume rest
  | c :: rest => c :: style.resume rest
  | [] => []

def paint (inColor : Bool) (style : Style) (text : String) : String :=
  if inColor then String.ofList (style.start ++ style.resume text.toList ++ reset) else text

/-- Colours are forced by one variable, refused by the next, and otherwise follow the terminal. -/
def usesColor (env : Environment) (terminal : Bool) : Bool :=
  if (env.text? "CLICOLOR_FORCE").any (· != "0") then true
  else if (env.text? "NO_COLOR").isSome then false
  else terminal && env.text? "CLICOLOR" != some "0"

end InjectionLab.Cli
