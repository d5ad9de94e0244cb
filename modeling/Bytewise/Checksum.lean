import Bytewise.Buffer.Basic
import Bytewise.Text.Hex

/-! A rolling checksum of 32 bits. It tells accidental changes, not malicious ones. -/

namespace Bytewise.Checksum

/-- The accumulator after one more byte, modulo `2 ^ 32`. -/
def step (accumulator : UInt32) (byte : UInt8) : UInt32 :=
  accumulator * 31 + byte.toUInt32

def accumulate (buffer : Buffer) : UInt32 :=
  buffer.foldl step 0

/-- The magnitude of an accumulator that is read as a signed number. -/
def magnitude (accumulator : UInt32) : Nat :=
  accumulator.toInt32.toInt.natAbs

/-- The checksum as eight hexadecimal digits. -/
def digest (buffer : Buffer) : String :=
  Text.hex 8 (magnitude (accumulate buffer))

end Bytewise.Checksum
