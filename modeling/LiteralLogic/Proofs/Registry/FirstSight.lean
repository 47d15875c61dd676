import LiteralLogic.Proofs.Registry
import Mathlib.Data.List.Basic

/-!
# Numbers in the order of first sight

A registry lists the literals it was given without repetition, each where it was first
seen.  Every time a literal is given, it gets the place of its first sight.
-/

namespace LiteralLogic.Registry

/-- The numbers that the literals of a list get one after another. -/
def internIds (registry : Registry) : List Literal → List Nat
  | [] => []
  | literal :: literals =>
    let (registry, id) := registry.intern literal
    id :: registry.internIds literals

/-- A registry that lists what was seen lists one literal more after it is numbered. -/
theorem Consistent.toList_intern {registry : Registry} (h : registry.Consistent)
    {seen : List Literal} (listed : registry.literals.toList = seen.eraseDups)
    (literal : Literal) :
    (registry.intern literal).1.literals.toList = (seen ++ [literal]).eraseDups := by
  rw [List.eraseDups_append, ← listed]
  rcases registry.intern_cases literal with ⟨id, known, result⟩ | ⟨fresh, result⟩
  · have present : literal ∈ registry.literals.toList :=
      Array.mem_toList_iff.mpr (Array.mem_of_getElem? ((h literal id).mp known))
    rw [listed, List.mem_eraseDups] at present
    simp [result, List.removeAll, present]
  · have absent : literal ∉ seen := by
      intro present
      rw [← List.mem_eraseDups, ← listed, Array.mem_toList_iff] at present
      obtain ⟨id, place⟩ := Array.mem_iff_getElem?.mp present
      rw [(h literal id).mpr place] at fresh
      cases fresh
    simp [result, List.removeAll, absent, List.eraseDups_cons]

theorem Consistent.toList_internAll {registry : Registry} (h : registry.Consistent)
    {seen : List Literal} (listed : registry.literals.toList = seen.eraseDups)
    (literals : List Literal) :
    (registry.internAll literals).literals.toList = (seen ++ literals).eraseDups := by
  induction literals generalizing registry seen with
  | nil => rw [List.append_nil]; exact listed
  | cons literal literals ih =>
    obtain ⟨consistent, -, -⟩ := h.intern literal
    rw [List.append_cons]
    exact ih consistent (h.toList_intern listed literal)

/-- A literal is found under each number it got, also when all others have theirs. -/
theorem Consistent.forall₂_internIds {registry : Registry} (h : registry.Consistent)
    (literals : List Literal) :
    List.Forall₂ (fun literal id => (registry.internAll literals).literals[id]? = some literal)
      literals (registry.internIds literals) := by
  induction literals generalizing registry with
  | nil => exact .nil
  | cons literal literals ih =>
    obtain ⟨consistent, -, place⟩ := h.intern literal
    obtain ⟨-, kept⟩ := consistent.internAll literals
    exact .cons (kept _ _ place) (ih consistent)

section

variable (literals : List Literal)

/-- A new registry lists the literals in the order of first sight. -/
theorem toList_internAll_empty :
    (empty.internAll literals).literals.toList = literals.eraseDups := by
  have listed : empty.literals.toList = ([] : List Literal).eraseDups := rfl
  exact consistent_empty.toList_internAll listed literals

/-- A new registry knows the literals that it was given. -/
theorem mem_internAll_empty {literal : Literal} :
    literal ∈ (empty.internAll literals).literals ↔ literal ∈ literals := by
  rw [← Array.mem_toList_iff, toList_internAll_empty, List.mem_eraseDups]

/-- The literal with a number is the one first seen in that place. -/
theorem getElem?_internAll_empty {literal : Literal} {id : Nat} :
    (empty.internAll literals).literals[id]? = some literal ↔
      literal ∈ literals ∧ literals.eraseDups.idxOf literal = id := by
  have first : literal ∈ literals →
      (empty.internAll literals).literals[literals.eraseDups.idxOf literal]? = some literal := by
    intro mem
    rw [← Array.getElem?_toList, toList_internAll_empty]
    exact List.getElem?_idxOf (List.mem_eraseDups.mpr mem)
  constructor
  · intro known
    have mem : literal ∈ literals :=
      (mem_internAll_empty literals).mp (Array.mem_of_getElem? known)
    obtain ⟨consistent, -⟩ := consistent_empty.internAll literals
    exact ⟨mem, consistent.inj (first mem) known⟩
  · intro h
    obtain ⟨mem, rfl⟩ := h
    exact first mem

/-- Every literal gets the place of its first sight. -/
theorem internIds_empty :
    empty.internIds literals = literals.map literals.eraseDups.idxOf := by
  have places := (consistent_empty.forall₂_internIds literals).imp fun literal id known =>
    ((getElem?_internAll_empty literals).mp known).2
  rw [← List.forall₂_map_left_iff (R := Eq), List.forall₂_eq_eq_eq] at places
  exact places.symm

/-- The literals and their numbers are what the registry lists. -/
theorem mem_zip_internIds_empty {literal : Literal} {id : Nat} :
    (literal, id) ∈ literals.zip (empty.internIds literals) ↔
      (empty.internAll literals).literals[id]? = some literal := by
  rw [internIds_empty, ← List.map_prod_left_eq_zip, getElem?_internAll_empty, List.mem_map]
  constructor
  · intro h
    obtain ⟨_, mem, rfl, rfl⟩ := h
    exact ⟨mem, rfl⟩
  · intro h
    obtain ⟨mem, rfl⟩ := h
    exact ⟨literal, mem, rfl⟩

theorem mem_internIds_empty {id : Nat} :
    id ∈ empty.internIds literals ↔ id < (empty.internAll literals).size := by
  rw [internIds_empty, List.mem_map]
  constructor
  · intro h
    obtain ⟨literal, place⟩ := h
    have known := (getElem?_internAll_empty literals).mpr place
    exact (Array.getElem?_eq_some_iff.mp known).1
  · intro bound
    have known := Array.getElem?_eq_getElem bound
    exact ⟨_, (getElem?_internAll_empty literals).mp known⟩

/-- Two literals have one number exactly if they are the same. -/
theorem getElem?_internIds_empty_inj (i j : Fin literals.length) :
    (empty.internIds literals)[i]? = (empty.internIds literals)[j]? ↔
      literals[i] = literals[j] := by
  have mem : literals[i] ∈ literals.eraseDups := List.mem_eraseDups.mpr (List.getElem_mem _)
  rw [← List.idxOf_inj mem, internIds_empty]
  simp

end

/-- The literals are numbered without gaps in the order of first sight, and two of them
have one number exactly if text and case flag agree. -/
structure FirstSight (literals : List Literal) (registry : Registry) (ids : List Nat) : Prop where
  listed : registry.literals.toList = literals.eraseDups
  ids_eq : ids = literals.map literals.eraseDups.idxOf
  dense : ∀ id, id ∈ ids ↔ id < registry.size
  shared : ∀ i j : Fin literals.length, ids[i]? = ids[j]? ↔
    literals[i].text = literals[j].text ∧
      literals[i].caseInsensitive = literals[j].caseInsensitive

theorem firstSight_internAll (literals : List Literal) :
    FirstSight literals (empty.internAll literals) (empty.internIds literals) where
  listed := toList_internAll_empty literals
  ids_eq := internIds_empty literals
  dense _ := mem_internIds_empty literals
  shared i j := by rw [getElem?_internIds_empty_inj, Literal.mk.injEq]

end LiteralLogic.Registry
