import LiteralLogic.Registry
import Mathlib.Data.List.Forall2

/-!
# Numbers of literals

The numbers in a registry are the places of the literals, and a literal keeps its number
when others are seen.  So the keys of a term go on naming its atoms while further
conditions are compiled.
-/

namespace LiteralLogic

/-- The numbers of items are their places in an array. -/
def Numbered {α : Type} [BEq α] [Hashable α] (ids : Std.HashMap α Nat) (items : Array α) : Prop :=
  ∀ (item : α) (id : Nat), ids[item]? = some id ↔ items[id]? = some item

namespace Numbered

variable {α : Type} [BEq α] [Hashable α] {ids : Std.HashMap α Nat} {items : Array α}

theorem empty : Numbered (∅ : Std.HashMap α Nat) #[] := by
  intro item id
  simp

theorem inj (h : Numbered ids items) {i j : Nat} {item : α} (atI : items[i]? = some item)
    (atJ : items[j]? = some item) : i = j := by
  have known := (h item i).mpr atI
  rw [(h item j).mpr atJ] at known
  exact (Option.some.inj known).symm

/-- An item without a number gets the next place. -/
theorem push [LawfulBEq α] (h : Numbered ids items) {item : α} (fresh : ids[item]? = none) :
    Numbered (ids.insert item items.size) (items.push item) := by
  intro other id
  rw [Std.HashMap.getElem?_insert, Array.getElem?_push]
  by_cases same : item = other
  · subst same
    by_cases last : id = items.size
    · simp [last]
    · have absent : items[id]? ≠ some item := by
        intro present
        rw [(h item id).mpr present] at fresh
        cases fresh
      simp [last, Ne.symm last, absent]
  · have ne : (item == other) = false := by simpa using same
    rw [ne, if_neg Bool.false_ne_true, h other id]
    by_cases last : id = items.size
    · simp [last, same]
    · simp [last]

end Numbered

namespace Registry

/-- The numbers in the registry are the places of the literals. -/
def Consistent (registry : Registry) : Prop :=
  Numbered registry.ids registry.literals

/-- The literals of a registry have the same numbers in a larger one. -/
def Extends (registry larger : Registry) : Prop :=
  ∀ (id : Nat) (literal : Literal),
    registry.literals[id]? = some literal → larger.literals[id]? = some literal

theorem Extends.refl (registry : Registry) : registry.Extends registry :=
  fun _ _ known => known

theorem Extends.trans {registry larger largest : Registry} (h : registry.Extends larger)
    (h' : larger.Extends largest) : registry.Extends largest :=
  fun id literal known => h' id literal (h id literal known)

theorem consistent_empty : empty.Consistent :=
  Numbered.empty

/-- A literal is known by its number, or it is new and gets the next one. -/
theorem intern_cases (registry : Registry) (literal : Literal) :
    (∃ id, registry.ids[literal]? = some id ∧ registry.intern literal = (registry, id)) ∨
      registry.ids[literal]? = none ∧ registry.intern literal =
        (⟨registry.literals.push literal,
          registry.ids.insert literal registry.literals.size⟩, registry.literals.size) := by
  unfold intern
  cases known : registry.ids[literal]? with
  | some id => exact .inl ⟨id, rfl, rfl⟩
  | none => exact .inr ⟨rfl, rfl⟩

/-- What numbering a literal preserves, and where the literal is then. -/
theorem Consistent.intern {registry : Registry} (h : registry.Consistent) (literal : Literal) :
    (registry.intern literal).1.Consistent ∧ registry.Extends (registry.intern literal).1 ∧
      (registry.intern literal).1.literals[(registry.intern literal).2]? = some literal := by
  rcases registry.intern_cases literal with ⟨id, known, result⟩ | ⟨fresh, result⟩
  · rw [result]
    exact ⟨h, .refl registry, (h literal id).mp known⟩
  · rw [result]
    refine ⟨Numbered.push h fresh, ?_, by simp⟩
    intro id other known
    obtain ⟨bound, -⟩ := Array.getElem?_eq_some_iff.mp known
    show (registry.literals.push literal)[id]? = some other
    rw [Array.getElem?_push, if_neg (Nat.ne_of_lt bound), known]

theorem Consistent.internAll {registry : Registry} (h : registry.Consistent)
    (literals : List Literal) :
    (registry.internAll literals).Consistent ∧
      registry.Extends (registry.internAll literals) := by
  induction literals generalizing registry with
  | nil => exact ⟨h, .refl registry⟩
  | cons literal literals ih =>
    obtain ⟨consistent, kept, -⟩ := h.intern literal
    obtain ⟨consistent', kept'⟩ := ih consistent
    exact ⟨consistent', kept.trans kept'⟩

/-- The signed key says the same as the atom. -/
structure Names (registry : Registry) (atom : Atom) (signed : SignedKey) : Prop where
  literal : registry.literals[signed.key.id]? = some atom.literal
  case_eq : signed.key.caseInsensitive = atom.literal.caseInsensitive
  sign_eq : signed.negated = atom.negated

theorem Names.mono {registry larger : Registry} {atom : Atom} {signed : SignedKey}
    (h : registry.Names atom signed) (kept : registry.Extends larger) :
    larger.Names atom signed :=
  ⟨kept _ _ h.literal, h.case_eq, h.sign_eq⟩

theorem Consistent.signedKey {registry : Registry} (h : registry.Consistent) (atom : Atom) :
    (registry.signedKey atom).1.Consistent ∧ registry.Extends (registry.signedKey atom).1 ∧
      (registry.signedKey atom).1.Names atom (registry.signedKey atom).2 := by
  obtain ⟨consistent, kept, place⟩ := h.intern atom.literal
  exact ⟨consistent, kept, ⟨place, rfl, rfl⟩⟩

/-- The keys of a term name its atoms, and whatever was named keeps its name. -/
theorem Consistent.signedKeys {registry : Registry} (h : registry.Consistent) (term : Term) :
    (registry.signedKeys term).1.Consistent ∧ registry.Extends (registry.signedKeys term).1 ∧
      List.Forall₂ (registry.signedKeys term).1.Names term (registry.signedKeys term).2 := by
  induction term generalizing registry with
  | nil => exact ⟨h, .refl registry, .nil⟩
  | cons atom term ih =>
    obtain ⟨consistent, kept, names⟩ := h.signedKey atom
    obtain ⟨consistent', kept', names'⟩ := ih consistent
    exact ⟨consistent', kept.trans kept', .cons (names.mono kept') names'⟩

end Registry

end LiteralLogic
