import LiteralLogic.DecisionTree
import LiteralLogic.NormalForm.Term

/-!
# Numbering literals

A registry gives each literal a number when it is first seen; literals are the same
if text and case flag agree.  The numbers are positions in the order of first sight.
-/

namespace LiteralLogic

/-- The literals seen so far in the order of first sight, and their numbers. -/
structure Registry where
  literals : Array Literal
  ids : Std.HashMap Literal Nat

namespace Registry

/-- The registry without literals. -/
def empty : Registry :=
  { literals := #[], ids := {} }

/-- The number of literals seen. -/
def size (registry : Registry) : Nat :=
  registry.literals.size

/-- The number of a literal, which is the next one if it was not seen before. -/
def intern (registry : Registry) (literal : Literal) : Registry × Nat :=
  match registry.ids[literal]? with
  | some id => (registry, id)
  | none =>
    match registry with
    | { literals, ids } =>
      let id := literals.size
      ({ literals := literals.push literal, ids := ids.insert literal id }, id)

/-- Numbers the literals of a list. -/
def internAll (registry : Registry) (literals : List Literal) : Registry :=
  literals.foldl (fun registry literal => (registry.intern literal).1) registry

/-- The atom with its literal numbered. -/
def signedKey (registry : Registry) (atom : Atom) : Registry × SignedKey :=
  let (registry, id) := registry.intern atom.literal
  let key : LiteralKey := { id, caseInsensitive := atom.literal.caseInsensitive }
  (registry, { key, negated := atom.negated })

/-- The term with its literals numbered. -/
def signedKeys (registry : Registry) : Term → Registry × List SignedKey
  | [] => (registry, [])
  | atom :: term =>
    let (registry, key) := registry.signedKey atom
    let (registry, keys) := registry.signedKeys term
    (registry, key :: keys)

end Registry

end LiteralLogic
