/-!
Variables and paths as the system gives them: bytes that need not be text.
-/
namespace InjectionLab

structure OsString where
  bytes : List UInt8
deriving DecidableEq, Repr

namespace OsString

def ofText (text : String) : OsString := ⟨text.toUTF8.data.toList⟩

instance : Coe String OsString := ⟨ofText⟩

def text? (s : OsString) : Option String := String.fromUTF8? ⟨⟨s.bytes⟩⟩

/-! Bytes shown as text -/

def followers (first : UInt8) : List (UInt8 × UInt8) :=
  if first < 0xC2 then []
  else if first < 0xE0 then [(0x80, 0xBF)]
  else if first = 0xE0 then [(0xA0, 0xBF), (0x80, 0xBF)]
  else if first = 0xED then [(0x80, 0x9F), (0x80, 0xBF)]
  else if first < 0xF0 then [(0x80, 0xBF), (0x80, 0xBF)]
  else if first = 0xF0 then [(0x90, 0xBF), (0x80, 0xBF), (0x80, 0xBF)]
  else if first < 0xF4 then [(0x80, 0xBF), (0x80, 0xBF), (0x80, 0xBF)]
  else if first = 0xF4 then [(0x80, 0x8F), (0x80, 0xBF), (0x80, 0xBF)]
  else []

def takeWithin : List (UInt8 × UInt8) → List UInt8 → List UInt8
  | (least, most) :: ranges, byte :: rest =>
    if least ≤ byte ∧ byte ≤ most then byte :: takeWithin ranges rest else []
  | _, _ => []

/-- One replacement character stands for each longest run of bytes that begins a character and does
    not complete it. -/
def shownCharacters : List UInt8 → List Char
  | [] => []
  | first :: rest =>
    let taken := takeWithin (followers first) rest
    let c := (String.fromUTF8? ⟨⟨first :: taken⟩⟩).bind fun text => text.toList.head?
    c.getD '\ufffd' :: shownCharacters (rest.drop taken.length)
termination_by bytes => bytes.length
decreasing_by simp only [List.length_drop, List.length_cons]; omega

def shown (s : OsString) : String := s.text?.getD (String.ofList (shownCharacters s.bytes))

end OsString

structure Environment where
  value? : String → Option OsString

namespace Environment

instance : CoeFun Environment fun _ => String → Option OsString := ⟨value?⟩

def ofTexts (texts : String → Option String) : Environment := ⟨fun name => (texts name).map .ofText⟩

instance : Coe (String → Option String) Environment := ⟨ofTexts⟩

def text? (env : Environment) (name : String) : Option String := (env name).bind OsString.text?

end Environment
end InjectionLab
