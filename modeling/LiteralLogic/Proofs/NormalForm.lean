import LiteralLogic.NormalForm.Path

/-!
# The truth of normal forms

Neither the normal form of a condition nor its AND-paths change its truth: the terms of
the condition keep it, and so do the chains of operators that are built from them, the
canonical order of a term and the removal of repeated atoms.
-/

namespace LiteralLogic

theorem Atom.holds_condition (truth : Literal → Bool) (atom : Atom) :
    atom.condition.holds truth = atom.holds truth := by
  obtain ⟨literal, negated⟩ := atom
  cases negated <;> simp [Atom.condition, Atom.holds, Condition.holds]

/-- A value that `op` combines at one operator is combined by `whole` along a chain. -/
theorem Condition.value_chain {α : Type} {join : Condition → Condition → Condition}
    {op : α → α → α} (value : Condition → α) (whole : List Condition → α)
    (apply : ∀ left right, value (join left right) = op (value left) (value right))
    (assoc : ∀ a b c, op (op a b) c = op a (op b c)) (unit : ∀ a, op a (whole []) = a)
    (cons : ∀ first rest, whole (first :: rest) = op (value first) (whole rest))
    {conditions : List Condition} {condition : Condition}
    (h : chain join conditions = some condition) : value condition = whole conditions := by
  have folded : ∀ (rest : List Condition) (first : Condition),
      value (rest.foldl join first) = op (value first) (whole rest) := by
    intro rest
    induction rest with
    | nil =>
      intro first
      exact (unit _).symm
    | cons next rest ih =>
      intro first
      rw [List.foldl_cons, ih, apply, assoc, cons]
  cases conditions with
  | nil => cases h
  | cons first rest =>
    cases h
    rw [folded, cons]

/-- What every link of a chain has, and what an operator keeps when a link comes on its
right, the chain has. -/
theorem Condition.of_chain_links {join : Condition → Condition → Condition}
    {P link : Condition → Prop} (first : ∀ {condition}, link condition → P condition)
    (apply : ∀ {left right}, P left → link right → P (join left right))
    {conditions : List Condition} (links : ∀ condition ∈ conditions, link condition)
    {condition : Condition} (h : chain join conditions = some condition) : P condition := by
  cases conditions with
  | nil => cases h
  | cons start rest =>
    cases h
    rcases List.forall_mem_cons.mp links with ⟨ofStart, ofRest⟩
    exact List.foldlRecOn rest join (first ofStart)
      fun _ before next mem => apply before (ofRest next mem)

/-- What an operator keeps and all links of a chain have, the chain has. -/
theorem Condition.of_chain {join : Condition → Condition → Condition} {P : Condition → Prop}
    (apply : ∀ {left right}, P left → P right → P (join left right))
    {conditions : List Condition} (links : ∀ link ∈ conditions, P link) {condition : Condition}
    (h : chain join conditions = some condition) : P condition :=
  of_chain_links (fun ofLink => ofLink) apply links h

theorem Condition.holds_chain_and {conditions : List Condition} {condition : Condition}
    (h : chain .and conditions = some condition) (truth : Literal → Bool) :
    condition.holds truth = conditions.all (holds truth) :=
  value_chain (holds truth) (List.all · (holds truth)) (fun _ _ => rfl) Bool.and_assoc
    Bool.and_true (fun _ _ => rfl) h

theorem Condition.holds_chain_or {conditions : List Condition} {condition : Condition}
    (h : chain .or conditions = some condition) (truth : Literal → Bool) :
    condition.holds truth = conditions.any (holds truth) :=
  value_chain (holds truth) (List.any · (holds truth)) (fun _ _ => rfl) Bool.or_assoc
    Bool.or_false (fun _ _ => rfl) h

theorem Term.exists_condition {term : Term} (nonempty : term ≠ []) :
    ∃ condition, term.condition = some condition ∧
      ∀ truth, condition.holds truth = term.holds truth := by
  obtain ⟨atom, atoms, rfl⟩ := List.exists_cons_of_ne_nil nonempty
  have built : Term.condition (atom :: atoms) =
      some ((atoms.map Atom.condition).foldl .and atom.condition) := rfl
  refine ⟨_, built, fun truth => ?_⟩
  rw [Condition.holds_chain_and built truth, List.all_map, Term.holds]
  congr 1
  funext atom
  exact atom.holds_condition truth

theorem Term.any_filterMap_condition {terms : List Term} (nonempty : ∀ term ∈ terms, term ≠ [])
    (truth : Literal → Bool) :
    (terms.filterMap Term.condition).any (Condition.holds truth) =
      terms.any (Term.holds truth) := by
  induction terms with
  | nil => rfl
  | cons term terms ih =>
    obtain ⟨condition, built, same⟩ := Term.exists_condition (nonempty term List.mem_cons_self)
    rw [List.filterMap_cons_some built, List.any_cons, List.any_cons, same,
      ih fun term mem => nonempty term (List.mem_cons_of_mem _ mem)]

namespace Condition

theorem exists_ofTerms {terms : List Term} (nonempty : terms ≠ [])
    (nonemptyTerms : ∀ term ∈ terms, term ≠ []) : ∃ condition, ofTerms terms = some condition := by
  obtain ⟨term, terms, rfl⟩ := List.exists_cons_of_ne_nil nonempty
  obtain ⟨first, built, -⟩ := Term.exists_condition (nonemptyTerms term List.mem_cons_self)
  rw [ofTerms, List.filterMap_cons_some built]
  exact ⟨_, rfl⟩

/-- Every condition has terms, and its normal form is their disjunction. -/
theorem ofTerms_eq_some_normalize (condition : Condition) :
    ofTerms (condition.terms true) = some condition.normalize := by
  rcases condition.terms_ne_nil true with ⟨nonempty, nonemptyTerms⟩
  rcases exists_ofTerms nonempty nonemptyTerms with ⟨normal, built⟩
  rw [normalize, expand_eq, built, Option.getD_some]

/-- The normal form of a condition has its truth. -/
theorem holds_normalize (condition : Condition) (truth : Literal → Bool) :
    condition.normalize.holds truth = condition.holds truth := by
  obtain ⟨-, nonempty⟩ := condition.terms_ne_nil true
  have any := condition.any_terms truth true
  rw [beq_true] at any
  rw [holds_chain_or condition.ofTerms_eq_some_normalize truth,
    Term.any_filterMap_condition nonempty, any]

end Condition

/-- A term in canonical order has its truth. -/
theorem Term.holds_canonical (truth : Literal → Bool) (term : Term) :
    term.canonical.holds truth = term.holds truth := by
  rw [Bool.eq_iff_iff]
  simp only [Term.holds, Term.canonical, List.all_eq_true, mem_ascending]

namespace Condition

theorem andPaths_eq_ok_iff {condition : Condition} {paths : List Term} :
    condition.andPaths = .ok paths ↔
      condition.negatesCompound = false ∧ paths = (condition.terms true).map Term.canonical := by
  rw [andPaths, expand_eq]
  cases condition.negatesCompound <;> simp [eq_comm]

/-- A condition is true exactly if one of its AND-paths is. -/
theorem any_andPaths {condition : Condition} {paths : List Term}
    (h : condition.andPaths = .ok paths) (truth : Literal → Bool) :
    paths.any (Term.holds truth) = condition.holds truth := by
  obtain ⟨-, rfl⟩ := andPaths_eq_ok_iff.mp h
  have any := condition.any_terms truth true
  rw [beq_true] at any
  rw [List.any_map, ← any]
  congr 1
  funext term
  exact term.holds_canonical truth

/-! ## Negations in normal forms -/

theorem negatesCompound_ofTerms {terms : List Term} {condition : Condition}
    (h : ofTerms terms = some condition) : condition.negatesCompound = false := by
  refine of_chain (fun left right => Bool.or_eq_false_iff.mpr ⟨left, right⟩) ?_ h
  intro conjunction mem
  obtain ⟨term, -, built⟩ := List.mem_filterMap.mp mem
  refine of_chain (fun left right => Bool.or_eq_false_iff.mpr ⟨left, right⟩) ?_ built
  intro operand mem
  obtain ⟨⟨literal, negated⟩, -, rfl⟩ := List.mem_map.mp mem
  cases negated <;> rfl

/-- Normal forms have negations above literals only. -/
theorem negatesCompound_normalize (condition : Condition) :
    condition.normalize.negatesCompound = false :=
  negatesCompound_ofTerms condition.ofTerms_eq_some_normalize

/-- The AND-paths of the normal form of a condition. -/
def normalPaths (condition : Condition) : List Term :=
  (condition.normalize.terms true).map Term.canonical

/-- A normal form is never refused. -/
theorem andPaths_normalize (condition : Condition) :
    condition.normalize.andPaths = .ok condition.normalPaths :=
  andPaths_eq_ok_iff.mpr ⟨condition.negatesCompound_normalize, rfl⟩

theorem exists_normalPath_iff (condition : Condition) (truth : Literal → Bool) :
    (∃ path ∈ condition.normalPaths, path.holds truth = true) ↔
      condition.holds truth = true := by
  rw [← List.any_eq_true, any_andPaths condition.andPaths_normalize, holds_normalize]

end Condition

end LiteralLogic
