import LiteralLogic.Query
import Mathlib.Logic.Function.Basic

/-!
# What wildcard patterns accept

The pattern for a literal accepts exactly the documents that contain the text of the literal.
Each character of the text stands for itself in the pattern, after a backslash where it would
mean something else (`accepts_spelled_iff`), so the pattern of a text accepts that text and
nothing else in its place (`accepts_escape_append_iff`); the asterisks at both ends accept
what stands before and after it.
-/

namespace LiteralLogic

namespace Wildcard

variable {pattern document : List Char}

/-- An asterisk accepts any beginning of a document. -/
theorem accepts_asterisk_iff :
    Accepts ('*' :: pattern) document ↔
      ∃ before rest, document = before ++ rest ∧ Accepts pattern rest := by
  constructor
  · intro accepted
    induction document with
    | nil =>
      cases accepted with
      | skip inner => exact ⟨[], [], rfl, inner⟩
    | cons c document ih =>
      cases accepted with
      | skip inner => exact ⟨[], c :: document, rfl, inner⟩
      | more inner =>
        rcases ih inner with ⟨before, rest, rfl, accepted⟩
        exact ⟨c :: before, rest, rfl, accepted⟩
      | plain ordinary => cases ordinary
  · intro split
    rcases split with ⟨before, rest, rfl, accepted⟩
    induction before with
    | nil => exact .skip accepted
    | cons c before ih => exact .more ih

/-- A character is accepted where it stands for itself, and no other one is. -/
theorem accepts_spelled_iff {c : Char} :
    Accepts ((if isSpecial c then ['\\', c] else [c]) ++ pattern) document ↔
      ∃ rest, document = c :: rest ∧ Accepts pattern rest := by
  split
  · constructor
    · intro accepted
      cases accepted with
      | escaped inner => exact ⟨_, rfl, inner⟩
      | plain ordinary => cases ordinary
    · intro split
      rcases split with ⟨rest, rfl, accepted⟩
      exact .escaped accepted
  · rename_i ordinary
    rw [Bool.not_eq_true] at ordinary
    constructor
    · intro accepted
      cases accepted with
      | plain _ inner => exact ⟨_, rfl, inner⟩
      | skip | more | any | escaped => cases ordinary
    · intro split
      rcases split with ⟨rest, rfl, accepted⟩
      exact .plain ordinary accepted

theorem accepts_escape_append_iff {text : List Char} :
    Accepts (escape text ++ pattern) document ↔
      ∃ rest, document = text ++ rest ∧ Accepts pattern rest := by
  induction text generalizing document with
  | nil => simp [escape]
  | cons c text ih =>
    rw [escape, List.flatMap_cons, List.append_assoc, accepts_spelled_iff, ← escape]
    constructor
    · intro split
      rcases split with ⟨behind, rfl, accepted⟩
      rcases ih.mp accepted with ⟨rest, rfl, inner⟩
      exact ⟨rest, rfl, inner⟩
    · intro split
      rcases split with ⟨rest, rfl, accepted⟩
      exact ⟨text ++ rest, rfl, ih.mpr ⟨rest, rfl, accepted⟩⟩

/-- An asterisk at the end accepts any rest of a document. -/
theorem accepts_asterisk (document : List Char) : Accepts ['*'] document :=
  accepts_asterisk_iff.mpr ⟨document, [], (List.append_nil _).symm, .nil⟩

/-- The pattern of a text accepts exactly the documents that contain the text. -/
theorem accepts_containing_iff {text : List Char} :
    Accepts (containing text) document ↔ text <:+: document := by
  rw [containing, List.cons_append, accepts_asterisk_iff]
  simp only [accepts_escape_append_iff]
  constructor
  · intro split
    rcases split with ⟨before, -, rfl, after, rfl, -⟩
    exact ⟨before, after, List.append_assoc _ _ _⟩
  · intro part
    rcases part with ⟨before, after, rfl⟩
    exact ⟨before, text ++ after, List.append_assoc _ _ _, after, rfl, accepts_asterisk after⟩

theorem containing_injective : Function.Injective containing :=
  Function.LeftInverse.injective contained_containing

end Wildcard

namespace Query

/-- A literal is searched for by a pattern that accepts exactly the documents that contain its
text, whatever characters the text is made of; and literals with other texts are searched for
by other patterns. -/
theorem exists_pattern_ofLiteral (field : String) (literal : Literal) :
    ∃ pattern : String,
      ofLiteral ⟨field, .wildcard⟩ literal =
        .leaf (.wildcard field pattern literal.caseInsensitive) ∧
      (∀ document : String, Wildcard.Accepts pattern.toList document.toList ↔
        literal.text.toList <:+: document.toList) ∧
      ∀ other : Literal,
        ofLiteral ⟨field, .wildcard⟩ other =
            .leaf (.wildcard field pattern other.caseInsensitive) ↔
          other.text = literal.text := by
  refine ⟨String.ofList (Wildcard.containing literal.text.toList), rfl, ?_, ?_⟩
  · intro document
    rw [String.toList_ofList, Wildcard.accepts_containing_iff]
  · intro other
    constructor
    · intro same
      injection same with leaf
      injection leaf with _ pattern _
      have patterns := String.ofList_injective pattern
      exact String.toList_injective (Wildcard.containing_injective patterns)
    · intro same
      rw [ofLiteral, same]

end Query

end LiteralLogic
