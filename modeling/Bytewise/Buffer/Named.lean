import Bytewise.Buffer.Basic

/-! Buffers with a name. -/

namespace Bytewise

/-- A buffer and the name of the file it was read from. -/
structure NamedBuffer where
  name : String
  content : Buffer
deriving DecidableEq, Repr

end Bytewise
