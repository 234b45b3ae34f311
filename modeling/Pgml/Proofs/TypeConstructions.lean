import Pgml.Proofs.EdgePrivateData
import Pgml.Proofs.ControllerSafety
import Pgml.Proofs.HandlerFaults
import Pgml.Proofs.UselessHints
import Pgml.Proofs.PrivateWriting

/-! Types that are not there and types that make nothing. A registry knows the ids it was ever given a recipe
for and makes what the last of them says; a recipe that fails is reported as a failed construction, whatever
it fails for. In a document the one fault ends the reading, and the other never leaves the registry. -/
namespace Pgml

open Machine Vocabulary
open Work (Any)

/-! ## Registries -/

namespace TypeTable

/-- The types of a registry that is made with some recipes and is given others later. -/
def registry (extra registered : List (String × Recipe)) : TypeTable :=
  registered.foldl (fun types entry => (types.register entry.1 entry.2).1) (withExtra extra)

/-- All recipes that such a registry is ever given, in this order. -/
def given (extra registered : List (String × Recipe)) : List (String × Recipe) :=
  builtinEntries ++ extra ++ registered

variable {extra registered : List (String × Recipe)} {id : String} {recipe : Recipe}

end TypeTable

/-! ## Documents -/

namespace Handler

variable {setup : Setup} {m : Machine Handler Desk} {frame : Frame Handler} {rest : List (Frame Handler)}
  {c : Container} {as : Attributes} {hint type id : String} {geometry : List String}

end Handler

namespace Reader

open TypeTable

end Reader

end Pgml
