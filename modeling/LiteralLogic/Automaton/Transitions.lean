import LiteralLogic.Automaton

/-!
# Transitions in rows

The transitions of a state, in the order of their bytes, stand here in a row.  A binary search
finds the transition over a byte, and a new transition is put where a second binary search finds
its place.
-/

namespace LiteralLogic

namespace Automaton

/-- The transitions of a state: bytes and states, in the order of the bytes. -/
def transitions (automaton : Automaton) (state : Nat) : List (UInt8 × Nat) :=
  (automaton.trie.edges state).toList

end Automaton

/-- Transitions in a row. -/
structure TransitionRow where
  entries : Array (UInt8 × Nat)

namespace TransitionRow

/-- Binary search for the transition over a byte among those with numbers from `low` on and
below `high`. -/
def search (entries : Array (UInt8 × Nat)) (byte : UInt8) (low high : Nat) : Option Nat :=
  if low < high then
    let middle := (low + high) / 2
    match entries[middle]? with
    | some (label, next) =>
      if label < byte then search entries byte (middle + 1) high
      else if byte < label then search entries byte low middle
      else some next
    | none => none
  else none
termination_by high - low

/-- Binary search for the number of transitions over smaller bytes.  Those with numbers below
`low` are known to be over smaller bytes, and those from `high` on are known not to be. -/
def partitionPoint (entries : Array (UInt8 × Nat)) (byte : UInt8) (low high : Nat) : Nat :=
  if low < high then
    let middle := (low + high) / 2
    match entries[middle]? with
    | some (label, _) =>
      if label < byte then partitionPoint entries byte (middle + 1) high
      else partitionPoint entries byte low middle
    | none => low
  else low
termination_by high - low

/-- The state that a byte leads to. -/
def goto (row : TransitionRow) (byte : UInt8) : Option Nat :=
  search row.entries byte 0 row.entries.size

/-- The place of a new transition, behind those over smaller bytes. -/
def place (row : TransitionRow) (byte : UInt8) : Nat :=
  partitionPoint row.entries byte 0 row.entries.size

/-- The row with one transition more. -/
def insert (row : TransitionRow) (byte : UInt8) (next : Nat) : TransitionRow :=
  let place := row.place byte
  { entries := (row.entries.toList.take place ++
      (byte, next) :: row.entries.toList.drop place).toArray }

end TransitionRow

instance : Trie.Edges TransitionRow UInt8 where
  none := { entries := #[] }
  child? := TransitionRow.goto
  add := TransitionRow.insert

end LiteralLogic
