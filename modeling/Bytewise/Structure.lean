/-! What is reported about the inside of an executable image. -/

namespace Bytewise

structure Section where
  name : String
  size : Nat
  description : String
deriving DecidableEq, Repr

/-- A named value from a file header. -/
structure HeaderField where
  name : String
  value : String
deriving DecidableEq, Repr

/-- The structure of an image. An absent field does not apply to the format, or was not found;
a list that is present and empty was found to have no entries.
-/
structure Structure where
  sections : Option (List Section) := none
  headers : Option (List HeaderField) := none
  architecture : Option String := none
  entryPoint : Option String := none
  imports : Option (List String) := none
deriving DecidableEq, Repr

/-- The structure of a buffer that is no image. -/
def Structure.empty : Structure := {}

def Structure.isEmpty (image : Structure) : Bool :=
  image.sections.isNone && image.headers.isNone && image.architecture.isNone
    && image.entryPoint.isNone && image.imports.isNone

end Bytewise
