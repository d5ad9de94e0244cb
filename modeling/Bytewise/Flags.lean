/-! Flag words. A word may be any integer; a negative one stands for its two's complement, in
which every high bit is set.
-/

namespace Bytewise.Flags

/-- Whether a flag of the word is set. A flag is a power of two. -/
def isSet (word : Int) (flag : Nat) : Bool :=
  word / flag % 2 == 1

/-- The label of the first listed flag that is set. -/
def firstLabel? (labels : List (Nat × String)) (word : Int) : Option String :=
  (labels.find? (fun entry => isSet word entry.1)).map Prod.snd

end Bytewise.Flags
