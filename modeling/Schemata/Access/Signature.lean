/-!
# Sets of signatures

The signatures that a module exports, each once, in the order of their bytes. A
signature is exported if it says so; others are not taken in.
-/

namespace Schemata.Access

/-- The word that exported signatures start with. -/
def exportMark : List Char := ['p', 'u', 'b', ' ']

/-- Whether a signature can be seen outside of its module. -/
def isExported (signature : String) : Bool :=
  exportMark.isPrefixOf signature.toList

/-- A signature without its export mark. -/
def withoutExportMark (signature : String) : String :=
  if isExported signature then String.ofList (signature.toList.drop exportMark.length)
  else signature

/-- Exported signatures. -/
structure SignatureSet where
  signatures : List String := []
  deriving DecidableEq, Repr

namespace SignatureSet

/-- Put a signature in its place, unless it is there. -/
def insertInOrder (signature : String) : List String → List String
  | [] => [signature]
  | other :: others =>
    if signature = other then other :: others
    else if signature < other then signature :: other :: others
    else other :: insertInOrder signature others

/-- Whether a signature is in a set. -/
def contains (set : SignatureSet) (signature : String) : Bool :=
  set.signatures.contains signature

/-- Take a signature in, if it is exported. -/
def record (set : SignatureSet) (signature : String) : SignatureSet :=
  if isExported signature then ⟨insertInOrder signature set.signatures⟩ else set

/-- Whether recording a signature would add it. -/
def isNew (set : SignatureSet) (signature : String) : Bool :=
  isExported signature && !set.contains signature

/-- Take signatures in, one after the other. -/
def recordAll (set : SignatureSet) (signatures : List String) : SignatureSet :=
  signatures.foldl record set

end SignatureSet

end Schemata.Access
