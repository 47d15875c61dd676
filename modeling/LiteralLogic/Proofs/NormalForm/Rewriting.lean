import LiteralLogic.Proofs.NormalForm.Regrouping
import Mathlib.Logic.Relation
import Mathlib.Tactic.Linarith

/-!
# Normal forms by rewriting

The rules of `Rewrites` keep the terms of the condition that they are applied to, in their
order, and a rule applied to a part under an even number of negations keeps those of the
whole condition.  So no such step changes the normal form.

Every step makes `Condition.weight` smaller, so rewriting comes to an end, whichever rules
are applied and wherever.  A condition to which no rule applies is normalized already, and
grouped to the left it is the normal form of the condition that rewriting began with.
`RewritesFully` is the rewriting that tries the rules in their order of priority; it leads
to a result for every condition (`RewritesFully.exists_result`).
-/

namespace LiteralLogic

/-! ## What a step keeps -/

/-- A disjunction of two terms or more is an OR. -/
theorem Condition.isDisjunction_ofTerms {first second : Term} {rest : List Term}
    (nonempty : ∀ term ∈ first :: second :: rest, term ≠ []) {condition : Condition}
    (built : ofTerms (first :: second :: rest) = some condition) :
    condition.isDisjunction = true := by
  rcases Term.exists_condition (nonempty first (by simp)) with ⟨a, builtFirst, -⟩
  rcases Term.exists_condition (nonempty second (by simp)) with ⟨b, builtSecond, -⟩
  rw [ofTerms, List.filterMap_cons_some builtFirst, List.filterMap_cons_some builtSecond,
    chain, List.foldl_cons] at built
  cases built
  exact List.foldlRecOn (motive := fun disjunction => Condition.isDisjunction disjunction = true)
    _ _ rfl fun _ _ _ _ => rfl

/-- A condition whose normal form is no OR has a single term. -/
theorem Condition.exists_single_term {condition : Condition}
    (single : condition.normalize.isDisjunction = false) :
    ∃ term, condition.terms true = [term] := by
  have built := condition.ofTerms_eq_some_normalize
  rcases condition.terms_ne_nil true with ⟨nonempty, nonemptyTerms⟩
  cases terms : condition.terms true with
  | nil => exact (nonempty terms).elim
  | cons first rest =>
    cases rest with
    | nil => exact ⟨first, rfl⟩
    | cons second rest =>
      rw [terms] at built nonemptyTerms
      rw [isDisjunction_ofTerms nonemptyTerms built] at single
      cases single

theorem Term.product_single (term : Term) (b c : List Term) :
    product [term] (b ++ c) = product [term] b ++ product [term] c := by
  simp [product]

/-- A rule keeps the terms of a condition and their order. -/
theorem Rewrites.terms_eq {a b : Condition} (h : Rewrites a b) : a.terms true = b.terms true := by
  cases h with
  | notAnd | notOr | notNot => rfl
  | orAnd x y b => exact Term.product_append (x.terms true) (y.terms true) (b.terms true)
  | @andOr a x y single =>
    rcases Condition.exists_single_term single with ⟨term, terms⟩
    show Term.product (a.terms true) (x.terms true ++ y.terms true) =
      Term.product (a.terms true) (x.terms true) ++ Term.product (a.terms true) (y.terms true)
    rw [terms, Term.product_single]

/-- A rule applied to a part keeps the terms of the condition, or those of its negation if the
part stands under an odd number of negations. -/
theorem RewritesBelow.terms_eq {positive : Bool} {a b : Condition}
    (h : RewritesBelow positive a b) : a.terms positive = b.terms positive := by
  induction h with
  | here step => exact step.terms_eq
  | not _ ih => simpa only [Condition.terms, Bool.not_not] using ih
  | _ => simp only [Condition.terms, *]

theorem RewritesBelow.normalize_eq {a b : Condition} (h : RewritesBelow true a b) :
    a.normalize = b.normalize :=
  Condition.normalize_congr h.terms_eq

/-- Any number of rules applied to parts under even numbers of negations. -/
abbrev RewritesMany : Condition → Condition → Prop :=
  Relation.ReflTransGen (RewritesBelow true)

theorem RewritesMany.normalize_eq {a b : Condition} (h : RewritesMany a b) :
    a.normalize = b.normalize := by
  induction h with
  | refl => rfl
  | tail _ step ih => exact ih.trans step.normalize_eq

/-! ## The end of rewriting -/

/-- A number that every step makes smaller.  AND multiplies and OR adds one more than the sum,
so distributing takes weight away; a negation is a power, so that it goes down to the operands
of an OR as a product, and to those of an AND as less than that. -/
def Condition.weight : Condition → Nat
  | .leaf _ => 2
  | .not operand => 2 ^ operand.weight
  | .and left right => left.weight * right.weight
  | .or left right => left.weight + right.weight + 1

theorem Condition.two_le_weight (condition : Condition) : 2 ≤ condition.weight := by
  induction condition with
  | leaf literal => exact Nat.le_refl 2
  | not operand ih =>
    calc 2 ≤ 2 ^ 2 := by decide
      _ ≤ 2 ^ operand.weight := Nat.pow_le_pow_right (by decide) ih
  | and left right ihl ihr =>
    calc 2 ≤ 2 * 2 := by decide
      _ ≤ left.weight * right.weight := Nat.mul_le_mul ihl ihr
  | or left right ihl ihr =>
    rw [weight]
    omega

/-- The operands of an OR weigh less than the OR. -/
theorem Condition.weight_lt_or (left right : Condition) :
    left.weight < (Condition.or left right).weight ∧
      right.weight < (Condition.or left right).weight := by
  simp only [weight]
  omega

/-- The operands of an AND weigh less than the AND. -/
theorem Condition.weight_lt_and (left right : Condition) :
    left.weight < (Condition.and left right).weight ∧
      right.weight < (Condition.and left right).weight := by
  have l := left.two_le_weight
  have r := right.two_le_weight
  simp only [weight]
  constructor <;> nlinarith only [l, r]

theorem Rewrites.weight_lt {a b : Condition} (h : Rewrites a b) : b.weight < a.weight := by
  cases h with
  | notAnd a b =>
    have u : 2 ^ 2 ≤ 2 ^ a.weight := Nat.pow_le_pow_right (by decide) a.two_le_weight
    have v : 2 ^ 2 ≤ 2 ^ b.weight := Nat.pow_le_pow_right (by decide) b.two_le_weight
    have sum : a.weight + b.weight ≤ a.weight * b.weight :=
      Nat.add_le_mul a.two_le_weight b.two_le_weight
    calc 2 ^ a.weight + 2 ^ b.weight + 1 < 2 ^ a.weight * 2 ^ b.weight := by nlinarith only [u, v]
      _ = 2 ^ (a.weight + b.weight) := (Nat.pow_add 2 a.weight b.weight).symm
      _ ≤ 2 ^ (a.weight * b.weight) := Nat.pow_le_pow_right (by decide) sum
  | notOr a b =>
    calc 2 ^ a.weight * 2 ^ b.weight = 2 ^ (a.weight + b.weight) :=
          (Nat.pow_add 2 a.weight b.weight).symm
      _ < 2 ^ (a.weight + b.weight + 1) := Nat.pow_lt_pow_right (by decide) (Nat.lt_succ_self _)
  | notNot =>
    calc b.weight < 2 ^ b.weight := Nat.lt_two_pow_self
      _ < 2 ^ 2 ^ b.weight := Nat.lt_two_pow_self
  | orAnd x y b =>
    have two := b.two_le_weight
    simp only [Condition.weight]
    nlinarith only [two]
  | @andOr a x y =>
    have two := a.two_le_weight
    simp only [Condition.weight]
    nlinarith only [two]

theorem RewritesBelow.weight_lt {positive : Bool} {a b : Condition}
    (h : RewritesBelow positive a b) : b.weight < a.weight := by
  induction h with
  | here step => exact step.weight_lt
  | not _ ih => exact Nat.pow_lt_pow_right (by decide) ih
  | andLeft right _ ih =>
    exact Nat.mul_lt_mul_of_pos_right ih (Nat.lt_of_lt_of_le (by decide) right.two_le_weight)
  | andRight left _ ih =>
    exact Nat.mul_lt_mul_of_pos_left ih (Nat.lt_of_lt_of_le (by decide) left.two_le_weight)
  | orLeft right _ ih =>
    simp only [Condition.weight]
    omega
  | orRight left _ ih =>
    simp only [Condition.weight]
    omega

theorem RewritesMany.weight_le {a b : Condition} (h : RewritesMany a b) : b.weight ≤ a.weight := by
  induction h with
  | refl => exact Nat.le_refl _
  | tail _ step ih => exact Nat.le_trans (Nat.le_of_lt step.weight_lt) ih

/-- There is no endless rewriting. -/
theorem wellFounded_rewritesBelow (positive : Bool) :
    WellFounded fun next before => RewritesBelow positive before next :=
  Subrelation.wf RewritesBelow.weight_lt (measure Condition.weight).wf

/-! ## Conditions to which no rule applies -/

/-- Normalizing a normalized condition makes an OR of an OR and of nothing else. -/
theorem Condition.isDisjunction_normalize {condition : Condition}
    (normal : condition.isNormalized = true) :
    condition.normalize.isDisjunction = condition.isDisjunction := by
  rw [normalize_eq_groupLeft normal, isDisjunction_eq, operator?_groupLeft, isDisjunction_eq]

theorem Condition.isDisjunction_cases (condition : Condition) :
    (∃ a b, condition = .or a b) ∨ condition.isDisjunction = false := by
  cases condition with
  | or a b => exact .inl ⟨a, b, rfl⟩
  | and | not | leaf => exact .inr rfl

theorem Condition.operator?_ne_or {condition : Condition}
    (single : condition.isDisjunction = false) : condition.operator? ≠ some .or := by
  rw [isDisjunction_eq] at single
  exact of_decide_eq_false single

/-- A conjunction of two normalized conditions that are no ORs is normalized. -/
theorem Condition.isNormalized_and {left right : Condition} (normalLeft : left.isNormalized = true)
    (normalRight : right.isNormalized = true) (singleLeft : left.isDisjunction = false)
    (singleRight : right.isDisjunction = false) :
    (Condition.and left right).isNormalized = true :=
  Bool.and_eq_true_iff.mpr
    ⟨isNormalBelow_of_isNormalized normalRight (operator?_ne_or singleRight),
      isNormalBelow_of_isNormalized normalLeft (operator?_ne_or singleLeft)⟩

/-- A condition to which no rule applies is normalized. -/
theorem Condition.isNormalized_of_stuck {condition : Condition}
    (stuck : ∀ next, ¬RewritesBelow true condition next) : condition.isNormalized = true := by
  induction condition with
  | leaf literal => rfl
  | not operand =>
    cases operand with
    | leaf literal => rfl
    | and a b => exact (stuck _ (.here (.notAnd a b))).elim
    | or a b => exact (stuck _ (.here (.notOr a b))).elim
    | not a => exact (stuck _ (.here (.notNot a))).elim
  | or left right ihl ihr =>
    have normalLeft := ihl fun next step => stuck _ (.orLeft right step)
    have normalRight := ihr fun next step => stuck _ (.orRight left step)
    exact Bool.and_eq_true_iff.mpr ⟨normalRight, normalLeft⟩
  | and left right ihl ihr =>
    have normalLeft := ihl fun next step => stuck _ (.andLeft right step)
    have normalRight := ihr fun next step => stuck _ (.andRight left step)
    rcases left.isDisjunction_cases with ⟨x, y, rfl⟩ | singleLeft
    · exact (stuck _ (.here (.orAnd x y right))).elim
    rcases right.isDisjunction_cases with ⟨x, y, rfl⟩ | singleRight
    · have single := (isDisjunction_normalize normalLeft).trans singleLeft
      exact (stuck _ (.here (.andOr x y single))).elim
    · exact isNormalized_and normalLeft normalRight singleLeft singleRight

/-- If rewriting ends in an OR, the normal form is one as well. -/
theorem RewritesMany.isDisjunction_normalize {condition last : Condition}
    (run : RewritesMany condition last) (normal : last.isNormalized = true) :
    condition.normalize.isDisjunction = last.isDisjunction := by
  rw [run.normalize_eq, Condition.isDisjunction_normalize normal]

/-- Rewriting leads to the normal form, up to grouping. -/
theorem RewritesMany.groupLeft_eq {condition last : Condition} (run : RewritesMany condition last)
    (normal : last.isNormalized = true) : last.groupLeft = condition.normalize := by
  rw [run.normalize_eq, Condition.normalize_eq_groupLeft normal]

/-! ## Rewriting in the order of priority -/

/-- The rules applied until none applies, and in their order of priority: an AND is distributed
over its operands when they have been rewritten, over the left one if that is an OR, and only
else over the right one. -/
inductive RewritesFully : Condition → Condition → Prop
  | leaf (literal : Literal) : RewritesFully (.leaf literal) (.leaf literal)
  | notLeaf (literal : Literal) : RewritesFully (.not (.leaf literal)) (.not (.leaf literal))
  | notAnd {a b last : Condition} :
    RewritesFully (.or (.not a) (.not b)) last → RewritesFully (.not (.and a b)) last
  | notOr {a b last : Condition} :
    RewritesFully (.and (.not a) (.not b)) last → RewritesFully (.not (.or a b)) last
  | notNot {a last : Condition} : RewritesFully a last → RewritesFully (.not (.not a)) last
  | orAnd {a b x y last : Condition} :
    RewritesFully a (.or x y) → RewritesFully (.or (.and x b) (.and y b)) last →
    RewritesFully (.and a b) last
  | andOr {a b left x y last : Condition} :
    RewritesFully a left → left.isDisjunction = false → RewritesFully b (.or x y) →
    RewritesFully (.or (.and a x) (.and a y)) last → RewritesFully (.and a b) last
  | and {a b left right : Condition} :
    RewritesFully a left → left.isDisjunction = false →
    RewritesFully b right → right.isDisjunction = false →
    RewritesFully (.and a b) (.and left right)
  | or {a b left right : Condition} :
    RewritesFully a left → RewritesFully b right → RewritesFully (.or a b) (.or left right)

namespace RewritesMany

variable {a b : Condition}

theorem andLeft (h : RewritesMany a b) (right : Condition) :
    RewritesMany (.and a right) (.and b right) :=
  h.lift (Condition.and · right) fun _ _ step => .andLeft right step

theorem andRight (h : RewritesMany a b) (left : Condition) :
    RewritesMany (.and left a) (.and left b) :=
  h.lift (Condition.and left) fun _ _ step => .andRight left step

theorem orLeft (h : RewritesMany a b) (right : Condition) :
    RewritesMany (.or a right) (.or b right) :=
  h.lift (Condition.or · right) fun _ _ step => .orLeft right step

theorem orRight (h : RewritesMany a b) (left : Condition) :
    RewritesMany (.or left a) (.or left b) :=
  h.lift (Condition.or left) fun _ _ step => .orRight left step

end RewritesMany

namespace RewritesFully

/-- Full rewriting is rewriting step by step, and ends in a normalized condition. -/
theorem rewritesMany {condition last : Condition} (h : RewritesFully condition last) :
    RewritesMany condition last ∧ last.isNormalized = true := by
  induction h with
  | leaf literal => exact ⟨.refl, rfl⟩
  | notLeaf literal => exact ⟨.refl, rfl⟩
  | notAnd _ ih => exact ⟨.head (.here (.notAnd _ _)) ih.1, ih.2⟩
  | notOr _ ih => exact ⟨.head (.here (.notOr _ _)) ih.1, ih.2⟩
  | notNot _ ih => exact ⟨.head (.here (.notNot _)) ih.1, ih.2⟩
  | @orAnd a b x y last _ _ iha ihLast =>
    have distributed : RewritesBelow true (.and (.or x y) b) (.or (.and x b) (.and y b)) :=
      .here (.orAnd x y b)
    exact ⟨(iha.1.andLeft b).trans (.head distributed ihLast.1), ihLast.2⟩
  | @andOr a b left x y last _ single _ _ iha ihb ihLast =>
    -- The rule asks for the normal form of the left operand, which its rewriting has led to.
    have singleNormal := (iha.1.isDisjunction_normalize iha.2).trans single
    have distributed : RewritesBelow true (.and a (.or x y)) (.or (.and a x) (.and a y)) :=
      .here (.andOr x y singleNormal)
    exact ⟨(ihb.1.andRight a).trans (.head distributed ihLast.1), ihLast.2⟩
  | @and a b left right _ singleLeft _ singleRight iha ihb =>
    exact ⟨(iha.1.andLeft b).trans (ihb.1.andRight left),
      Condition.isNormalized_and iha.2 ihb.2 singleLeft singleRight⟩
  | @or a b left right _ _ iha ihb =>
    exact ⟨(iha.1.orLeft b).trans (ihb.1.orRight left),
      Bool.and_eq_true_iff.mpr ⟨ihb.2, iha.2⟩⟩

/-- Every condition is rewritten fully to some result. -/
theorem exists_result (condition : Condition) : ∃ last, RewritesFully condition last := by
  -- By induction on the weight: the condition that a rule leaves behind is no part of the old one.
  induction condition using (measure Condition.weight).wf.induction with
  | _ condition ih =>
    cases condition with
    | leaf literal => exact ⟨_, .leaf literal⟩
    | not operand =>
      cases operand with
      | leaf literal => exact ⟨_, .notLeaf literal⟩
      | and a b =>
        rcases ih _ (Rewrites.notAnd a b).weight_lt with ⟨last, run⟩
        exact ⟨last, .notAnd run⟩
      | or a b =>
        rcases ih _ (Rewrites.notOr a b).weight_lt with ⟨last, run⟩
        exact ⟨last, .notOr run⟩
      | not a =>
        rcases ih _ (Rewrites.notNot a).weight_lt with ⟨last, run⟩
        exact ⟨last, .notNot run⟩
    | or a b =>
      rcases ih a (Condition.weight_lt_or a b).1 with ⟨left, runLeft⟩
      rcases ih b (Condition.weight_lt_or a b).2 with ⟨right, runRight⟩
      exact ⟨_, .or runLeft runRight⟩
    | and a b =>
      rcases ih a (Condition.weight_lt_and a b).1 with ⟨left, runLeft⟩
      rcases ih b (Condition.weight_lt_and a b).2 with ⟨right, runRight⟩
      rcases runLeft.rewritesMany with ⟨stepsLeft, normalLeft⟩
      rcases runRight.rewritesMany with ⟨stepsRight, -⟩
      rcases left.isDisjunction_cases with ⟨x, y, rfl⟩ | singleLeft
      · have lighter := Nat.lt_of_lt_of_le (Rewrites.orAnd x y b).weight_lt
          (stepsLeft.andLeft b).weight_le
        rcases ih _ lighter with ⟨last, run⟩
        exact ⟨last, .orAnd runLeft run⟩
      rcases right.isDisjunction_cases with ⟨x, y, rfl⟩ | singleRight
      · have single := (stepsLeft.isDisjunction_normalize normalLeft).trans singleLeft
        have lighter := Nat.lt_of_lt_of_le (Rewrites.andOr x y single).weight_lt
          (stepsRight.andRight a).weight_le
        rcases ih _ lighter with ⟨last, run⟩
        exact ⟨last, .andOr runLeft singleLeft runRight run⟩
      · exact ⟨_, .and runLeft singleLeft runRight singleRight⟩

end RewritesFully

/-! ## Rewriting and normalizing -/

/-- A rule applied to a part under an even number of negations does not change the normal form.
Rewriting by such steps comes to an end, and wherever it ends, grouping the result to the left
gives the normal form.  So does rewriting in the order of priority, which has a result. -/
theorem Condition.groupLeft_of_rewriting (condition : Condition) :
    (∀ next, RewritesBelow true condition next → next.normalize = condition.normalize) ∧
      Acc (fun next before => RewritesBelow true before next) condition ∧
      (∀ last, Relation.ReflTransGen (RewritesBelow true) condition last →
        (∀ next, ¬RewritesBelow true last next) → last.groupLeft = condition.normalize) ∧
      (∃ last, RewritesFully condition last) ∧
      ∀ last, RewritesFully condition last → last.groupLeft = condition.normalize := by
  refine ⟨?_, (wellFounded_rewritesBelow true).apply condition, ?_,
    RewritesFully.exists_result condition, ?_⟩
  · intro next step
    exact step.normalize_eq.symm
  · intro last run stuck
    exact RewritesMany.groupLeft_eq run (isNormalized_of_stuck stuck)
  · intro last run
    rcases run.rewritesMany with ⟨steps, normal⟩
    exact steps.groupLeft_eq normal

/-- De Morgan's rules below a negation, and AND over an OR on its right twice: rewriting ends in
chains that are grouped to the right, and the normal form has the same grouped to the left. -/
theorem Condition.normalize_of_negated_disjunction :
    RewritesFully
        (.not (.or (.leaf ⟨"a", false⟩)
          (.not (.and (.leaf ⟨"b", true⟩) (.or (.leaf ⟨"c", false⟩) (.leaf ⟨"d", false⟩))))))
        (.or (.and (.not (.leaf ⟨"a", false⟩)) (.and (.leaf ⟨"b", true⟩) (.leaf ⟨"c", false⟩)))
          (.and (.not (.leaf ⟨"a", false⟩)) (.and (.leaf ⟨"b", true⟩) (.leaf ⟨"d", false⟩)))) ∧
      (Condition.not (.or (.leaf ⟨"a", false⟩)
          (.not (.and (.leaf ⟨"b", true⟩)
            (.or (.leaf ⟨"c", false⟩) (.leaf ⟨"d", false⟩)))))).normalize =
        .or (.and (.and (.not (.leaf ⟨"a", false⟩)) (.leaf ⟨"b", true⟩)) (.leaf ⟨"c", false⟩))
          (.and (.and (.not (.leaf ⟨"a", false⟩)) (.leaf ⟨"b", true⟩)) (.leaf ⟨"d", false⟩)) := by
  have conjunction : ∀ left right : Literal,
      RewritesFully (.and (.leaf left) (.leaf right)) (.and (.leaf left) (.leaf right)) :=
    fun left right => .and (.leaf left) rfl (.leaf right) rfl
  have inner : RewritesFully
      (.and (.leaf ⟨"b", true⟩) (.or (.leaf ⟨"c", false⟩) (.leaf ⟨"d", false⟩)))
      (.or (.and (.leaf ⟨"b", true⟩) (.leaf ⟨"c", false⟩))
        (.and (.leaf ⟨"b", true⟩) (.leaf ⟨"d", false⟩))) :=
    .andOr (.leaf _) rfl (.or (.leaf _) (.leaf _)) (.or (conjunction _ _) (conjunction _ _))
  have outer := RewritesFully.notOr (.andOr (.notLeaf ⟨"a", false⟩) rfl (.notNot inner)
    (.or (.and (.notLeaf _) rfl (conjunction _ _) rfl)
      (.and (.notLeaf _) rfl (conjunction _ _) rfl)))
  exact ⟨outer, ((Condition.groupLeft_of_rewriting _).2.2.2.2 _ outer).symm⟩

end LiteralLogic
