import Bytewise.Pe.Image

/-! Thunk tables: the lists of what an image imports from one library. A table that looks made up is
taken as empty.
-/

namespace Bytewise.Pe

/-- The addresses that a table has named so far, those of 32 bits apart from the longer ones, and
how often one was named again.
-/
structure NamedAddresses where
  low : List Nat := []
  high : List Nat := []
  repeats : Nat := 0

namespace NamedAddresses

/-- The first address that takes more than 32 bits. -/
def longFrom : Nat := 0x100000000

def note (named : NamedAddresses) (address : Nat) : NamedAddresses :=
  if address < longFrom then
    { named with
      low := address :: named.low
      repeats := named.repeats + if named.low.contains address then 1 else 0 }
  else
    { named with
      high := address :: named.high
      repeats := named.repeats + if named.high.contains address then 1 else 0 }

def spread (addresses : List Nat) : Nat :=
  addresses.max?.getD 0 - addresses.min?.getD 0

/-- How many repeats a table is no longer believed with. -/
def tooManyRepeats : Nat := 15

/-- The widest spread in a table that is believed. -/
def widestSpread : Nat := 0x8000000

/-- Whether the addresses cannot be those of a real table. -/
def areBogus (named : NamedAddresses) : Bool :=
  tooManyRepeats ≤ named.repeats || widestSpread < spread named.low
    || widestSpread < spread named.high

end NamedAddresses

namespace Image

/-- The entry of a thunk table at an address. -/
def thunk? (image : Image) (address : Nat) : Walk (Option Nat) := do
  return (← image.fetchAll? address image.wordSize).map ByteOrder.little.value

/-- The rest of the thunk table at `first` from an address on, behind the entries read so far, and
what is left of the budget. The table ends at a zero entry, after `length` bytes, with the
budget, and at an entry that points into the part of the table already read.
-/
def thunksFrom (image : Image) (first length : Nat)
    : (budget address : Nat) → NamedAddresses → (entries : List Nat) → Walk (List Nat × Nat)
  | 0, _, _, entries => return (entries.reverse, 0)
  | budget + 1, address, named, entries => do
      if first + length ≤ address then
        return (entries.reverse, budget + 1)
      else if named.areBogus then
        return ([], budget)
      else
        match ← image.thunk? address with
        | none => return ([], budget)
        | some entry =>
            let next := address + image.wordSize
            if first ≤ entry ∧ entry ≤ address ∨ entry = 0 then
              return (entries.reverse, budget)
            else if !image.isOrdinal entry then
              image.thunksFrom first length budget next (named.note entry) (entry :: entries)
            else if 0xFFFF < entry % 0x80000000 then
              return ([], budget)
            else
              image.thunksFrom first length budget next named (entry :: entries)

/-- The thunk table at an address, at most `length` bytes long; there is none at address zero. -/
def thunks (image : Image) (first length : Nat) : Walk (List Nat) := do
  if first = 0 then
    return []
  else
    let (entries, budget) ←
      image.thunksFrom first length (← get).budget first {} []
    modify (fun cursor => { cursor with budget })
    return entries

end Image

end Bytewise.Pe
