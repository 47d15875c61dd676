import LiteralLogic.Prefilter
import LiteralLogic.Proofs.Automaton
import LiteralLogic.Proofs.Registry.FirstSight
import LiteralLogic.Proofs.Utf8

/-!
# What the prefilter finds

`PatternTable.Lists` ties a table to the pairs of patterns and literals that were put
into it; sharing a pattern loses none of them.  A scan then finds a literal exactly if
its pattern is part of the text of its case class, and leaving out a scan for which no
literal is registered changes nothing.
-/

namespace LiteralLogic

namespace PatternTable

/-- The table holds these patterns, each with the literals that stand for it. -/
structure Lists (table : PatternTable) (entries : List (String × LiteralKey)) : Prop where
  numbered : Numbered table.ids table.patterns
  size_eq : table.targets.size = table.patterns.size
  mem_iff : ∀ pattern key, (pattern, key) ∈ entries ↔
    ∃ id, table.patterns[id]? = some pattern ∧ key ∈ table.targets.getD id []

theorem lists_empty : empty.Lists [] where
  numbered := Numbered.empty
  size_eq := rfl
  mem_iff := by simp [empty]

/-- A literal more for a pattern of the table. -/
theorem Lists.share {table : PatternTable} {entries : List (String × LiteralKey)}
    (h : table.Lists entries) {pattern : String} {id : Nat}
    (known : table.ids[pattern]? = some id) (key : LiteralKey) :
    Lists ⟨table.ids, table.patterns, table.targets.modify id (key :: ·)⟩
      (entries ++ [(pattern, key)]) where
  numbered := h.numbered
  size_eq := by rw [Array.size_modify, h.size_eq]
  mem_iff := by
    intro other key'
    have place := (h.numbered pattern id).mp known
    obtain ⟨bound, -⟩ := Array.getElem?_eq_some_iff.mp place
    rw [← h.size_eq] at bound
    have target : ∀ id', key' ∈ (table.targets.modify id (key :: ·)).getD id' [] ↔
        key' ∈ table.targets.getD id' [] ∨ id = id' ∧ key' = key := by
      intro id'
      simp only [Array.getD_eq_getD_getElem?, Array.getElem?_modify]
      by_cases same : id = id'
      · subst same
        simp [bound, or_comm]
      · simp [same]
    have shared : other = pattern ∧ key' = key ↔
        ∃ id', table.patterns[id']? = some other ∧ id = id' ∧ key' = key := by
      constructor
      · intro h
        obtain ⟨rfl, rfl⟩ := h
        exact ⟨id, place, rfl, rfl⟩
      · intro h
        obtain ⟨id', place', rfl, rfl⟩ := h
        rw [place] at place'
        exact ⟨(Option.some.inj place').symm, rfl⟩
    simp only [target, List.mem_append, h.mem_iff, List.mem_singleton, Prod.mk.injEq, shared,
      and_or_left, exists_or]

/-- A pattern more, for one literal. -/
theorem Lists.push {table : PatternTable} {entries : List (String × LiteralKey)}
    (h : table.Lists entries) {pattern : String} (fresh : table.ids[pattern]? = none)
    (key : LiteralKey) :
    Lists ⟨table.ids.insert pattern table.patterns.size, table.patterns.push pattern,
      table.targets.push [key]⟩ (entries ++ [(pattern, key)]) where
  numbered := h.numbered.push fresh
  size_eq := by rw [Array.size_push, Array.size_push, h.size_eq]
  mem_iff := by
    intro other key'
    simp only [List.mem_append, h.mem_iff, List.mem_singleton, Prod.mk.injEq,
      Array.getD_eq_getD_getElem?, Array.getElem?_push, h.size_eq]
    constructor
    · intro listed
      rcases listed with ⟨id, at', target⟩ | ⟨rfl, rfl⟩
      · obtain ⟨bound, -⟩ := Array.getElem?_eq_some_iff.mp at'
        have old : id ≠ table.patterns.size := Nat.ne_of_lt bound
        exact ⟨id, by rw [if_neg old, at'], by rw [if_neg old]; exact target⟩
      · exact ⟨table.patterns.size, by rw [if_pos rfl], by simp⟩
    · intro listed
      obtain ⟨id, at', target⟩ := listed
      by_cases new : id = table.patterns.size
      · rw [if_pos new] at at' target
        cases at'
        exact .inr ⟨rfl, List.mem_singleton.mp target⟩
      · rw [if_neg new] at at' target
        exact .inl ⟨id, at', target⟩

theorem Lists.add {table : PatternTable} {entries : List (String × LiteralKey)}
    (h : table.Lists entries) (pattern : String) (key : LiteralKey) :
    (table.add pattern key).Lists (entries ++ [(pattern, key)]) := by
  obtain ⟨ids, patterns, targets⟩ := table
  unfold PatternTable.add
  cases known : ids[pattern]? with
  | some id =>
    simp only [known]
    exact h.share known key
  | none =>
    simp only [known]
    exact h.push known key

/-- The pairs of patterns and literals that the literals numbered from `id` on make. -/
def entriesOf (folding : Folding) (id : Nat) (literals : List Literal) :
    List (String × LiteralKey) :=
  (literals.zipIdx id).map fun (literal, id) =>
    (literal.pattern folding, ⟨id, literal.caseInsensitive⟩)

theorem Lists.addLiterals {table : PatternTable} {entries : List (String × LiteralKey)}
    (h : table.Lists entries) (folding : Folding) (id : Nat) (literals : List Literal) :
    (table.addLiterals folding id literals).Lists
      (entries ++ entriesOf folding id literals) := by
  induction literals generalizing table entries id with
  | nil => simpa [entriesOf, PatternTable.addLiterals] using h
  | cons literal literals ih =>
    have next := ih (h.add (literal.pattern folding) ⟨id, literal.caseInsensitive⟩) (id + 1)
    rw [List.append_assoc] at next
    exact next

theorem mem_entriesOf {folding : Folding} {literals : List Literal} {pattern : String}
    {key : LiteralKey} :
    (pattern, key) ∈ entriesOf folding 0 literals ↔
      ∃ literal, literals[key.id]? = some literal ∧ pattern = literal.pattern folding ∧
        key.caseInsensitive = literal.caseInsensitive := by
  simp only [entriesOf, List.mem_map, Prod.exists, List.mem_zipIdx_iff_getElem?]
  constructor
  · intro h
    obtain ⟨literal, id, known, same⟩ := h
    cases same
    exact ⟨literal, known, rfl, rfl⟩
  · intro h
    obtain ⟨literal, known, rfl, flag⟩ := h
    exact ⟨literal, key.id, known, by rw [← flag]⟩

end PatternTable

namespace Prefilter

theorem mem_addTargets {prefilter : Prefilter} {flag : Bool} {present : Presence}
    {pattern : Nat} {key : LiteralKey} :
    key ∈ prefilter.addTargets flag present pattern ↔
      key ∈ present ∨ key ∈ prefilter.targets.getD pattern [] ∧ key.caseInsensitive = flag := by
  have fold : ∀ (keys : List LiteralKey) (present : Presence),
      key ∈ keys.foldl (fun present key =>
        if key.caseInsensitive = flag then present.insert key else present) present ↔
          key ∈ present ∨ key ∈ keys ∧ key.caseInsensitive = flag := by
    intro keys
    induction keys with
    | nil => simp
    | cons first keys ih =>
      intro present
      rw [List.foldl_cons, ih, List.mem_cons]
      by_cases sameClass : first.caseInsensitive = flag
      · rw [if_pos sameClass, Std.HashSet.mem_insert, beq_iff_eq]
        grind
      · rw [if_neg sameClass]
        grind
  exact fold _ present

theorem mem_foldl_addTargets {prefilter : Prefilter} {flag : Bool} {ids : List Nat}
    {present : Presence} {key : LiteralKey} :
    key ∈ ids.foldl (prefilter.addTargets flag) present ↔
      key ∈ present ∨ key.caseInsensitive = flag ∧
        ∃ id ∈ ids, key ∈ prefilter.targets.getD id [] := by
  induction ids generalizing present with
  | nil => simp
  | cons id ids ih =>
    rw [List.foldl_cons, ih, mem_addTargets]
    simp only [List.mem_cons, exists_eq_or_imp]
    grind

/-- A scan for one case class finds the literals whose patterns are part of the text. -/
theorem mem_scanClass {table : PatternTable} {entries : List (String × LiteralKey)}
    (lists : table.Lists entries) {prefilter : Prefilter}
    (targets : prefilter.targets = table.targets) {flag : Bool} {present : Presence}
    {text : List Char} {key : LiteralKey} :
    key ∈ prefilter.scanClass
        (Automaton.ofPatterns (table.patterns.toList.map fun pattern => Text.utf8 pattern.toList))
        flag present text ↔
      key ∈ present ∨ key.caseInsensitive = flag ∧
        ∃ pattern, (pattern, key) ∈ entries ∧ pattern.toList <:+: text := by
  rw [scanClass, Automaton.fold_eq, mem_foldl_addTargets, targets]
  have listed : (∃ id ∈ Automaton.occurrences
        (table.patterns.toList.map fun pattern => Text.utf8 pattern.toList) (Text.utf8 text),
        key ∈ table.targets.getD id []) ↔
      ∃ pattern, (pattern, key) ∈ entries ∧ pattern.toList <:+: text := by
    simp only [Automaton.mem_occurrences, List.getElem?_map, Array.getElem?_toList,
      Option.map_eq_some_iff, lists.mem_iff]
    constructor
    · intro h
      obtain ⟨id, ⟨_, ⟨pattern, known, rfl⟩, occurs⟩, target⟩ := h
      exact ⟨pattern, ⟨id, known, target⟩, Text.utf8_infix_iff.mp occurs⟩
    · intro h
      obtain ⟨pattern, ⟨id, known, target⟩, occurs⟩ := h
      exact ⟨id, ⟨_, ⟨pattern, known, rfl⟩, Text.utf8_infix_iff.mpr occurs⟩, target⟩
  rw [listed]

/-- A scan may be left out if no literal of its class is registered. -/
theorem mem_scanClass_if {table : PatternTable} {entries : List (String × LiteralKey)}
    (lists : table.Lists entries) {prefilter : Prefilter}
    (targets : prefilter.targets = table.targets) {flag registered : Bool}
    (absent : registered = false → ∀ pattern key, (pattern, key) ∈ entries →
      key.caseInsensitive ≠ flag) {present : Presence} {text : List Char} {key : LiteralKey} :
    key ∈ (if registered then prefilter.scanClass
        (Automaton.ofPatterns (table.patterns.toList.map fun pattern => Text.utf8 pattern.toList))
        flag present text else present) ↔
      key ∈ present ∨ key.caseInsensitive = flag ∧
        ∃ pattern, (pattern, key) ∈ entries ∧ pattern.toList <:+: text := by
  cases registered with
  | true => exact mem_scanClass lists targets
  | false =>
    have none : ¬ (key.caseInsensitive = flag ∧
        ∃ pattern, (pattern, key) ∈ entries ∧ pattern.toList <:+: text) := by
      intro h
      obtain ⟨sameClass, pattern, listed, -⟩ := h
      exact absent rfl pattern key listed sameClass
    rw [or_iff_left none]
    rfl

theorem mem_scan_iff_mem_entries {folding : Folding} {registry : Registry} {input : String}
    {key : LiteralKey} :
    key ∈ (ofRegistry folding registry).scan input ↔
      ∃ pattern, (pattern, key) ∈ PatternTable.entriesOf folding 0 registry.literals.toList ∧
        pattern.toList <:+:
          if key.caseInsensitive then folding.foldChars input.toList else input.toList := by
  have lists := PatternTable.lists_empty.addLiterals folding 0 registry.literals.toList
  rw [List.nil_append] at lists
  have absent : ∀ (flag : Bool) (ofClass : Literal → Bool),
      (∀ literal, ofClass literal = true ↔ literal.caseInsensitive = flag) →
      registry.literals.toList.any ofClass = false → ∀ pattern key,
      (pattern, key) ∈ PatternTable.entriesOf folding 0 registry.literals.toList →
        key.caseInsensitive ≠ flag := by
    intro flag ofClass class_iff unregistered pattern key listed sameClass
    obtain ⟨literal, known, -, sameFlag⟩ := PatternTable.mem_entriesOf.mp listed
    refine List.any_eq_false.mp unregistered literal (List.mem_of_getElem? known) ?_
    rw [class_iff, ← sameFlag, sameClass]
  rw [scan, ofRegistry]
  generalize PatternTable.empty.addLiterals folding 0 registry.literals.toList = table at lists ⊢
  by_cases empty : table.patterns = #[]
  · have none : ∀ pattern,
        (pattern, key) ∉ PatternTable.entriesOf folding 0 registry.literals.toList := by
      intro pattern listed
      obtain ⟨id, known, -⟩ := (lists.mem_iff pattern key).mp listed
      rw [empty] at known
      cases known
    simp [empty, none]
  · have some : (table.patterns.toList.map fun pattern =>
        Text.utf8 pattern.toList).isEmpty = false := by
      simpa using empty
    simp only [some, Bool.false_eq_true, if_false]
    rw [mem_scanClass_if lists rfl (absent true _ fun _ => Iff.rfl),
      mem_scanClass_if lists rfl (absent false _ fun _ => by simp)]
    cases key.caseInsensitive <;> simp

/-- A scan finds the registered literals that are true of the input. -/
theorem mem_scan {folding : Folding} {registry : Registry} {input : String} {key : LiteralKey} :
    key ∈ (ofRegistry folding registry).scan input ↔
      ∃ literal, registry.literals[key.id]? = some literal ∧
        key.caseInsensitive = literal.caseInsensitive ∧
        (Haystack.ofText folding input).contains literal = true := by
  simp only [mem_scan_iff_mem_entries, PatternTable.mem_entriesOf, Haystack.contains_iff,
    Array.getElem?_toList]
  constructor
  · intro h
    obtain ⟨pattern, ⟨literal, known, rfl, flag⟩, occurs⟩ := h
    rw [flag] at occurs
    exact ⟨literal, known, flag, occurs⟩
  · intro h
    obtain ⟨literal, known, flag, occurs⟩ := h
    refine ⟨_, ⟨literal, known, rfl, flag⟩, ?_⟩
    rw [flag]
    exact occurs

/-- A scan finds the keys that the literals true of the input got when they were numbered. -/
theorem mem_scan_internAll {folding : Folding} {literals : List Literal} {input : String}
    {key : LiteralKey} :
    key ∈ (ofRegistry folding (Registry.empty.internAll literals)).scan input ↔
      ∃ literal id, (literal, id) ∈ literals.zip (Registry.empty.internIds literals) ∧
        key = ⟨id, literal.caseInsensitive⟩ ∧
        (Haystack.ofText folding input).contains literal = true := by
  simp only [mem_scan, Registry.mem_zip_internIds_empty]
  constructor
  · intro h
    obtain ⟨literal, known, flag, found⟩ := h
    exact ⟨literal, key.id, known, by rw [← flag], found⟩
  · intro h
    obtain ⟨literal, id, known, rfl, found⟩ := h
    exact ⟨literal, known, rfl, found⟩

/-- Literals are numbered in the order of first sight, and a scan finds exactly the keys of
those whose text is part of the input or, without case, whose folded text is part of the
folded input. -/
theorem firstSight_and_mem_scan (folding : Folding) (literals : List Literal) (input : String) :
    Registry.FirstSight literals (Registry.empty.internAll literals)
        (Registry.empty.internIds literals) ∧
      (∀ key, key ∈ (ofRegistry folding (Registry.empty.internAll literals)).scan input ↔
        ∃ literal id, (literal, id) ∈ literals.zip (Registry.empty.internIds literals) ∧
          key = ⟨id, literal.caseInsensitive⟩ ∧
          (Haystack.ofText folding input).contains literal = true) ∧
      (∀ text, (Haystack.ofText folding input).contains ⟨text, false⟩ = true ↔
        text.toList <:+: input.toList) ∧
      ∀ text, (Haystack.ofText folding input).contains ⟨text, true⟩ = true ↔
        (folding.fold text).toList <:+: (folding.fold input).toList := by
  refine ⟨Registry.firstSight_internAll literals, fun key => mem_scan_internAll, ?_, ?_⟩
  · intro text
    exact Haystack.contains_iff
  · intro text
    rw [Haystack.contains_iff, folding.toList_fold input]
    rfl

end Prefilter

end LiteralLogic
