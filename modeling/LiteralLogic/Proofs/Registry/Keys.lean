import LiteralLogic.Proofs.Registry
import Mathlib.Data.Finset.Card

/-!
# The keys of known literals

In a consistent registry every literal that it knows has one key, and no two literals
share one.  `Registry.names_iff` says that a signed key names an atom exactly if it is the
one the atom has, so a row of keys can be read as its term under other labels.

Numbering what is known already changes nothing (`Consistent.signedKeys_of_mem`).
-/

namespace LiteralLogic

namespace Numbered

variable {α : Type} [BEq α] [Hashable α] {ids : Std.HashMap α Nat} {items : Array α}

/-- The numbered items are distinct. -/
theorem nodup (h : Numbered ids items) : items.toList.Nodup := by
  rw [List.nodup_iff_getElem?_ne_getElem?]
  intro i j before bound same
  rw [Array.getElem?_toList, Array.getElem?_toList] at same
  rw [Array.length_toList] at bound
  have atJ := Array.getElem?_eq_getElem bound
  exact Nat.ne_of_lt before (h.inj (same.trans atJ) atJ)

/-- There are as many numbers as distinct items. -/
theorem size_eq_card [DecidableEq α] (h : Numbered ids items) {listed : List α}
    (members : ∀ item, item ∈ items ↔ item ∈ listed) : items.size = listed.toFinset.card := by
  have same : items.toList.toFinset = listed.toFinset := by
    ext item
    rw [List.mem_toFinset, List.mem_toFinset, Array.mem_toList_iff, members]
  rw [← same, List.toFinset_card_of_nodup h.nodup, Array.length_toList]

end Numbered

namespace Registry

variable {registry : Registry}

/-- The key of a literal that the registry knows. -/
def keyOf (registry : Registry) (literal : Literal) : LiteralKey :=
  { id := registry.ids.getD literal 0, caseInsensitive := literal.caseInsensitive }

/-- The signed key of an atom whose literal the registry knows. -/
def signedKeyOf (registry : Registry) (atom : Atom) : SignedKey :=
  { key := registry.keyOf atom.literal, negated := atom.negated }

/-- The literals that the registry knows are found under their keys. -/
theorem Consistent.getElem?_keyOf (h : registry.Consistent) {literal : Literal}
    (known : literal ∈ registry.literals) :
    registry.literals[(registry.keyOf literal).id]? = some literal := by
  rcases Array.mem_iff_getElem?.mp known with ⟨id, place⟩
  have number : registry.ids[literal]? = some id := (h literal id).mpr place
  have same : (registry.keyOf literal).id = id := by
    rw [keyOf, Std.HashMap.getD_eq_getD_getElem?, number, Option.getD_some]
  rw [same, place]

/-- A key under which a literal is found is the key of the literal, if the case flag is. -/
theorem Consistent.eq_keyOf (h : registry.Consistent) {literal : Literal} {key : LiteralKey}
    (place : registry.literals[key.id]? = some literal)
    (flag : key.caseInsensitive = literal.caseInsensitive) : key = registry.keyOf literal := by
  have number : registry.ids[literal]? = some key.id := (h literal key.id).mpr place
  rw [keyOf, Std.HashMap.getD_eq_getD_getElem?, number, Option.getD_some, ← flag]

theorem Consistent.injOn_keyOf (h : registry.Consistent) :
    Set.InjOn registry.keyOf {literal | literal ∈ registry.literals} := by
  intro literal known other known' same
  have place := h.getElem?_keyOf known
  rw [same, h.getElem?_keyOf known'] at place
  exact (Option.some.inj place).symm

theorem Consistent.injOn_signedKeyOf (h : registry.Consistent) :
    Set.InjOn registry.signedKeyOf {atom | atom.literal ∈ registry.literals} := by
  intro atom known other known' same
  rcases SignedKey.mk.inj same with ⟨sameKey, sameSign⟩
  have sameLiteral := h.injOn_keyOf known known' sameKey
  exact (Atom.mk.injEq ..).mpr ⟨sameLiteral, sameSign⟩

/-- A signed key names an atom exactly if it is the one that the atom has. -/
theorem Consistent.names_iff (h : registry.Consistent) {atom : Atom} {signed : SignedKey} :
    registry.Names atom signed ↔
      atom.literal ∈ registry.literals ∧ signed = registry.signedKeyOf atom := by
  constructor
  · intro names
    have sameKey := h.eq_keyOf names.literal names.case_eq
    refine ⟨Array.mem_of_getElem? names.literal, ?_⟩
    rw [signedKeyOf, ← sameKey, ← names.sign_eq]
  · intro named
    rcases named with ⟨known, rfl⟩
    exact ⟨h.getElem?_keyOf known, rfl, rfl⟩

/-- A row of keys names a term exactly if it is the term with its atoms' keys. -/
theorem Consistent.forall₂_names_iff (h : registry.Consistent) {term : Term}
    {keys : List SignedKey} :
    List.Forall₂ registry.Names term keys ↔
      (∀ atom ∈ term, atom.literal ∈ registry.literals) ∧
        keys = term.map registry.signedKeyOf := by
  induction term generalizing keys with
  | nil => simp
  | cons atom term ih =>
    cases keys with
    | nil => simp
    | cons signed keys =>
      rw [List.forall₂_cons, h.names_iff, ih, List.forall_mem_cons, List.map_cons,
        List.cons.injEq]
      exact and_and_and_comm

/-! ## Literals that are known already -/

theorem Consistent.intern_of_mem (h : registry.Consistent) {literal : Literal}
    (known : literal ∈ registry.literals) : (registry.intern literal).1 = registry := by
  rcases registry.intern_cases literal with ⟨id, -, result⟩ | ⟨fresh, -⟩
  · rw [result]
  · have number := (h literal _).mpr (h.getElem?_keyOf known)
    rw [fresh] at number
    cases number

/-- The keys of known literals take no further number. -/
theorem Consistent.signedKeys_of_mem (h : registry.Consistent) {term : Term}
    (known : ∀ atom ∈ term, atom.literal ∈ registry.literals) :
    (registry.signedKeys term).1 = registry := by
  induction term with
  | nil => rfl
  | cons atom term ih =>
    rcases List.forall_mem_cons.mp known with ⟨ofFirst, ofRest⟩
    have first : (registry.signedKey atom).1 = registry := h.intern_of_mem ofFirst
    show ((registry.signedKey atom).1.signedKeys term).1 = registry
    rw [first, ih ofRest]

theorem internAll_append (registry : Registry) (literals further : List Literal) :
    registry.internAll (literals ++ further) =
      (registry.internAll literals).internAll further :=
  List.foldl_append

end Registry

end LiteralLogic
