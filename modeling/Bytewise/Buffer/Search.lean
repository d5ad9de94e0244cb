import Bytewise.Buffer.Basic

/-! Search for a pattern of bytes at every offset of a buffer. -/

namespace Bytewise

/-- Whether `pattern` stands somewhere in `bytes`, without gaps; the empty pattern does. -/
def occursIn (pattern : List UInt8) : List UInt8 → Bool
  | [] => pattern.isEmpty
  | byte :: rest => pattern.isPrefixOf (byte :: rest) || occursIn pattern rest

/-- A pattern occurs exactly where it is an infix; witness: it is one of a list if it is a prefix
or an infix of the list's tail.
-/
theorem occursIn_iff (pattern bytes : List UInt8)
    : occursIn pattern bytes ↔ pattern <:+: bytes := by
  induction bytes with
  | nil => simp [occursIn]
  | cons byte rest ih =>
      simp only [occursIn, Bool.or_eq_true, List.isPrefixOf_iff_prefix, ih, List.infix_cons_iff]

namespace Buffer

/-- Whether the buffer holds `pattern` at some offset. -/
def hasInfix (buffer : Buffer) (pattern : List UInt8) : Bool :=
  occursIn pattern buffer.toList

/-- Whether the buffer holds the UTF-8 bytes of `text` at some offset. -/
def hasText (buffer : Buffer) (text : String) : Bool :=
  buffer.hasInfix (Buffer.ofText text).toList

end Buffer

end Bytewise
