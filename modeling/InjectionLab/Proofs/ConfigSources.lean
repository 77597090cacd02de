import InjectionLab.Proofs.ConfigOverrides
import InjectionLab.Proofs.ConfigRoundTrip

/-!
One source of a configuration. The path on the command line comes before the one in the
environment, that one before the default file, and the built-in settings are last. Only the chosen
source and the two overrides count: nothing else that a file or a variable holds changes the
outcome. The default file counts as soon as it is there, readable or not, and a chosen file that
cannot be used is an error, not a reason to go on to the next source. An override that is not text
is none.
-/
namespace InjectionLab.Config
open Text Overrides

inductive Holds (view : FileView) : Option OsString → Config → Prop where
  | builtIn : Holds view none default
  | file {path : OsString} {text : String} {c : Config} (read : view.readText path = .ok text)
      (decoded : parse? text = some c) : Holds view (some path) c

section
variable {view : FileView} {env : Environment}

end

/-! What a source gives -/

end InjectionLab.Config
