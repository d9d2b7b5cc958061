import Provisioning.Json.Parser
import Provisioning.Json.Printer
import Provisioning.Wire.Simulator

/-!
# Saving the simulated vendor

The vendor of one invocation is the vendor of the next: its state is written to
a file and read back for the kind of resource that is wanted then.
-/

namespace Provisioning

/-- What a file holds for a reader. -/
inductive FileContent where
  | missing
  | text (content : String)
  | unreadable (reason : String)
deriving DecidableEq, Repr

/-- What the bytes of a file hold. -/
def FileContent.ofBytes (bytes : ByteArray) : FileContent :=
  match String.fromUTF8? bytes with
  | some content => .text content
  | none => .unreadable "stream did not contain valid UTF-8"

namespace Simulator

/-- The text of the vendor's file. -/
def save (s : Simulator) : String :=
  (Wire.simulator.write s).pretty

/-- The vendor of a saved text, for a kind of resource. -/
def restore (text : String) (kind : ResourceKind) : Except Error Simulator :=
  match Json.parse? text with
  | none => .error (.serialization "the text is no JSON value")
  | some tree =>
    match Wire.simulator.read? tree with
    | none => .error (.serialization "the value is no saved vendor")
    | some s => .ok { s with kind := kind }

/-- The vendor of a file; without a file, one with the demonstration catalog. -/
def load (file : FileContent) (kind : ResourceKind) : Except Error Simulator :=
  match file with
  | .missing => .ok (withDemoCatalog kind)
  | .unreadable reason => .error (.io reason)
  | .text content => restore content kind

end Simulator

end Provisioning
