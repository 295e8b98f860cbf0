import Schemata.Access.Methods
import Schemata.Access.Printer

/-!
# Data-access modules

The whole module of a plan: its head, the structs of its selects, the methods of
every dialect, and a list of all exported signatures. Signatures are added to a
set that may hold those of earlier modules. A formatter that fails leaves the text
as it was written.
-/

namespace Schemata.Access

open Sql (Dialect DialectError)

/-- What formats the text of a module. -/
abbrev Formatter := String → Except RenderError String

/-- The formatter that changes nothing. -/
def verbatim : Formatter := .ok

/-- A formatter whose program is not there. -/
def missingFormatter (program : String) : Formatter := fun _ =>
  .error (.formatter ("cannot run " ++ program ++ ": No such file or directory (os error 2)"))

/-- A method together with the type it belongs to. -/
structure OwnedMethod where
  receiver : String
  method : Method
  deriving DecidableEq, Repr

/-- The signature of a method with an owner. -/
def OwnedMethod.signature (owned : OwnedMethod) : String :=
  signatureText owned.method

/-- Everything a module consists of. -/
structure Outline where
  header : Header
  structs : List Struct
  methods : List OwnedMethod
  deriving DecidableEq, Repr

/-- The methods of a dialect with their owner. -/
def ownedMethods (plan : Plan) (dialect : Dialect) : Except DialectError (List OwnedMethod) :=
  (methods dialect plan).map fun found => found.map (OwnedMethod.mk (receiverName dialect.name))

/-- The outline of the module of a plan; all dialects must be known before any is looked at. -/
def outline (module : String) (plan : Plan) (dialects : List Dialect) :
    Except DialectError Outline := do
  let header ← headerFor module plan dialects
  let owned ← dialects.mapM (ownedMethods plan)
  return ⟨header, resultStructs plan.toCatalog [] plan.selects, owned.flatten⟩

/-- The signatures of a module, added to a set. -/
def Outline.record (outline : Outline) (signatures : SignatureSet) : SignatureSet :=
  signatures.recordAll (outline.methods.map OwnedMethod.signature)

/-- The text of a method with an owner. -/
def OwnedMethod.text (owned : OwnedMethod) : Except RenderError String :=
  (bodyText owned.method).map (declarationText owned.receiver owned.signature)

/-- The text of a module, and all signatures there are after it. -/
structure Artifact where
  source : String
  signatures : SignatureSet
  formatted : Bool
  deriving DecidableEq, Repr

/-- The unformatted text of a module whose foot lists some signatures. -/
def Outline.text (outline : Outline) (signatures : SignatureSet) : Except RenderError String := do
  let texts ← outline.methods.mapM OwnedMethod.text
  return headerText outline.header ++ String.join (outline.structs.map structText) ++
    String.join texts ++ footerText signatures.signatures

/-- Format a text, or leave it as it is. -/
def formatOrKeep (formatter : Formatter) (text : String) : String × Bool :=
  match formatter text with
  | .ok formatted => (formatted, true)
  | .error _ => (text, false)

/-- The module of a plan. -/
def render (module : String) (plan : Plan) (dialects : List Dialect) (formatter : Formatter)
    (signatures : SignatureSet) : Except RenderError Artifact := do
  let outline ← (outline module plan dialects).mapError RenderError.dialect
  let signatures := outline.record signatures
  let text ← outline.text signatures
  let (source, formatted) := formatOrKeep formatter text
  return { source, signatures, formatted }

end Schemata.Access
