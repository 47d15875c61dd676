import LiteralLogic.Proofs.Automaton.Patterns

/-!
# The states of suffixes

`suffixStates trie text` lists the states of those suffixes of a text that are paths of the
trie, the longest first.  A byte that is read leads to the first state of the longer
text (`follow_suffixStates`), so the states of a path's proper suffixes are all that a
state needs to know.

`linked_ofPatterns` says that the links do hold these states, and with them the patterns that
end at a state, for every state.  The levels of the trie are linked one after the other,
and a link reads only links of earlier levels.
-/

namespace LiteralLogic.Automaton

/-- The states of the suffixes of a text that are paths of the trie, the longest first. -/
def suffixStates (trie : PatternTrie) : List UInt8 → List Nat
  | [] => [Trie.root]
  | byte :: text =>
    match trie.find? (byte :: text) with
    | some state => state :: suffixStates trie text
    | none => suffixStates trie text

/-- The states of the proper suffixes of a path, the longest first. -/
def properSuffixStates (trie : PatternTrie) : List UInt8 → List Nat
  | [] => []
  | _ :: path => suffixStates trie path

/-- The path is the longest suffix of the text that the trie has. -/
structure LongestSuffix (trie : PatternTrie) (text path : List UInt8) : Prop where
  suffix : path <:+ text
  longest : ∀ longer, longer <:+ text → (∃ state, trie.find? longer = some state) →
    longer <:+ path

/-- The first of the states belongs to the longest suffix, and the further ones to the
proper suffixes of that. -/
theorem exists_suffixStates (trie : PatternTrie) (text : List UInt8) :
    ∃ path state, LongestSuffix trie text path ∧ trie.find? path = some state ∧
      suffixStates trie text = state :: properSuffixStates trie path := by
  induction text with
  | nil =>
    exact ⟨[], Trie.root, ⟨List.suffix_refl [], fun longer h _ => h⟩, rfl, rfl⟩
  | cons byte text ih =>
    cases found : trie.find? (byte :: text) with
    | some state =>
      refine ⟨byte :: text, state, ⟨List.suffix_refl _, fun longer h _ => h⟩, found, ?_⟩
      simp [suffixStates, found, properSuffixStates]
    | none =>
      obtain ⟨path, state, maximal, reached, states⟩ := ih
      refine ⟨path, state, ⟨?_, fun longer h known => ?_⟩, reached, ?_⟩
      · exact maximal.suffix.trans (List.suffix_cons byte text)
      · rcases List.suffix_cons_iff.mp h with rfl | h
        · obtain ⟨other, known⟩ := known
          rw [found] at known
          cases known
        · exact maximal.longest longer h known
      · simpa [suffixStates, found] using states

/-- Among the states of a text's suffixes, the first that has an edge for a byte leads to
the first state of the longer text. -/
theorem follow_suffixStates (trie : PatternTrie) (byte : UInt8) (text : List UInt8) :
    ∃ rest, suffixStates trie (text ++ [byte]) =
      SuffixLinks.follow trie byte (suffixStates trie text) :: rest := by
  induction text with
  | nil =>
    have edge := Trie.find?_concat trie [] byte
    rw [Trie.find?_nil, Option.bind_some, List.nil_append] at edge
    cases child : trie.child? Trie.root byte with
    | some state =>
      rw [child] at edge
      exact ⟨[Trie.root], by simp [suffixStates, edge, SuffixLinks.follow, child]⟩
    | none =>
      rw [child] at edge
      exact ⟨[], by simp [suffixStates, edge, SuffixLinks.follow, child]⟩
  | cons first text ih =>
    have edge := Trie.find?_concat trie (first :: text) byte
    rw [List.cons_append] at edge ⊢
    cases found : trie.find? (first :: text) with
    | none =>
      rw [found, Option.bind_none] at edge
      simp only [suffixStates, edge, found]
      exact ih
    | some state =>
      rw [found, Option.bind_some] at edge
      cases child : trie.child? state byte with
      | some next =>
        rw [child] at edge
        exact ⟨suffixStates trie (text ++ [byte]), by
          simp [suffixStates, edge, found, SuffixLinks.follow, child]⟩
      | none =>
        rw [child] at edge
        obtain ⟨rest, states⟩ := ih
        refine ⟨rest, ?_⟩
        simp only [suffixStates, edge, found, states]
        simp [SuffixLinks.follow, child]

/-- No pattern at the end of a text is longer than the longest suffix that the trie has. -/
theorem patternsEnding_eq {patterns : List (List UInt8)} {trie : PatternTrie}
    (holds : HoldsPatterns patterns trie) {text path : List UInt8}
    (maximal : LongestSuffix trie text path) :
    patternsEnding patterns text = patternsEnding patterns path := by
  induction text with
  | nil =>
    have nil := maximal.suffix
    rw [List.suffix_nil] at nil
    rw [nil]
  | cons byte text ih =>
    rcases List.suffix_cons_iff.mp maximal.suffix with rfl | suffix
    · rfl
    · have absent : byte :: text ∉ patterns := by
        intro listed
        have longer := maximal.longest _ (List.suffix_refl _) (holds.complete _ listed)
        have bound := (longer.trans suffix).length_le
        rw [List.length_cons] at bound
        omega
      rw [patternsEnding, numbersOf_eq_nil absent, List.nil_append]
      exact ih ⟨suffix, fun longer h => maximal.longest longer
        (h.trans (List.suffix_cons byte text))⟩

/-! ## Linking -/

/-- The links of a state, which is at the end of the path, are what its path demands. -/
structure Linked (patterns : List (List UInt8)) (trie : PatternTrie) (links : SuffixLinks)
    (path : List UInt8) (state : Nat) : Prop where
  suffixes : links.suffixesOf state = properSuffixStates trie path
  outputs : links.outputsOf state = patternsEnding patterns path

/-- The states of the paths with at most `depth` bytes are linked. -/
structure LinkedTo (patterns : List (List UInt8)) (trie : PatternTrie) (links : SuffixLinks)
    (depth : Nat) : Prop where
  suffixesSize : links.suffixes.size = trie.size
  outputsSize : links.outputs.size = trie.size
  linked : ∀ path state, trie.find? path = some state → path.length ≤ depth →
    Linked patterns trie links path state

theorem suffixesOf_link {trie : PatternTrie} {links : SuffixLinks} {parent child : Nat}
    {byte : UInt8} (inside : child < links.suffixes.size) (other : Nat) :
    (SuffixLinks.link trie links parent byte child).suffixesOf other =
      if other = child then
        SuffixLinks.follow trie byte (links.suffixesOf parent) ::
          links.suffixesOf (SuffixLinks.follow trie byte (links.suffixesOf parent))
      else links.suffixesOf other := by
  by_cases same : child = other
  · subst same
    simp [SuffixLinks.link, SuffixLinks.suffixesOf, Array.getD_eq_getD_getElem?, inside]
  · simp [SuffixLinks.link, SuffixLinks.suffixesOf, Array.getD_eq_getD_getElem?, same,
      Ne.symm same]

theorem outputsOf_link {trie : PatternTrie} {links : SuffixLinks} {parent child : Nat}
    {byte : UInt8} (inside : child < links.outputs.size) (other : Nat) :
    (SuffixLinks.link trie links parent byte child).outputsOf other =
      if other = child then
        trie.mark child ++
          links.outputsOf (SuffixLinks.follow trie byte (links.suffixesOf parent))
      else links.outputsOf other := by
  by_cases same : child = other
  · subst same
    simp [SuffixLinks.link, SuffixLinks.outputsOf, Array.getD_eq_getD_getElem?, inside]
  · simp [SuffixLinks.link, SuffixLinks.outputsOf, Array.getD_eq_getD_getElem?, same,
      Ne.symm same]

/-- The first state that a byte leads to from the proper suffixes of a path belongs to the
longest proper suffix of the longer path. -/
theorem follow_properSuffixStates (trie : PatternTrie) (path : List UInt8) (byte : UInt8) :
    ∃ longest, LongestSuffix trie (path ++ [byte]).tail longest ∧
      trie.find? longest =
        some (SuffixLinks.follow trie byte (properSuffixStates trie path)) ∧
      properSuffixStates trie (path ++ [byte]) =
        SuffixLinks.follow trie byte (properSuffixStates trie path) ::
          properSuffixStates trie longest := by
  cases path with
  | nil => exact ⟨[], ⟨List.suffix_refl [], fun longer h _ => h⟩, rfl, rfl⟩
  | cons first path =>
    obtain ⟨rest, states⟩ := follow_suffixStates trie byte path
    obtain ⟨longest, state, maximal, found, states'⟩ := exists_suffixStates trie (path ++ [byte])
    have head : state = SuffixLinks.follow trie byte (suffixStates trie path) := by
      rw [states] at states'
      exact (List.cons.inj states').1.symm
    subst head
    exact ⟨longest, maximal, found, states'⟩

/-- An edge is linked once the states that are less deep than its child are linked, and
what was linked stays so. -/
theorem LinkedTo.link {patterns : List (List UInt8)} {trie : PatternTrie} {links : SuffixLinks}
    {depth : Nat} (holds : HoldsPatterns patterns trie)
    (before : LinkedTo patterns trie links depth) {path : List UInt8} {parent child : Nat}
    {byte : UInt8} (found : trie.find? path = some parent) (deep : path.length = depth)
    (edge : trie.child? parent byte = some child) :
    LinkedTo patterns trie (SuffixLinks.link trie links parent byte child) depth ∧
      Linked patterns trie (SuffixLinks.link trie links parent byte child) (path ++ [byte]) child ∧
      ∀ other state, trie.find? other = some state → Linked patterns trie links other state →
        Linked patterns trie (SuffixLinks.link trie links parent byte child) other state := by
  obtain ⟨paths, spelled⟩ := holds.spelled
  have reached := (Trie.Spelled.child?_iff found byte child).mp edge
  have inside := spelled.lt_size reached
  have parentLinks := (before.linked path parent found (Nat.le_of_eq deep)).suffixes
  obtain ⟨longest, maximal, target, states⟩ := follow_properSuffixStates trie path byte
  rw [← parentLinks] at target states
  have shallow : longest.length ≤ depth := by
    have bound := maximal.suffix.length_le
    rw [List.length_tail, List.length_append, List.length_singleton] at bound
    omega
  have targetLinks := before.linked longest _ target shallow
  have childLinks : Linked patterns trie (SuffixLinks.link trie links parent byte child)
      (path ++ [byte]) child := by
    constructor
    · rw [suffixesOf_link (before.suffixesSize ▸ inside), if_pos rfl, states,
        targetLinks.suffixes]
    · have ends : patternsEnding patterns (path ++ [byte]) =
          numbersOf patterns (path ++ [byte]) ++
            patternsEnding patterns (path ++ [byte]).tail := by
        cases path <;> rfl
      rw [outputsOf_link (before.outputsSize ▸ inside), if_pos rfl, ends,
        holds.marked _ _ (by simp) reached, targetLinks.outputs, patternsEnding_eq holds maximal]
  have kept : ∀ other state, trie.find? other = some state →
      Linked patterns trie links other state →
        Linked patterns trie (SuffixLinks.link trie links parent byte child) other state := by
    intro other state known linked
    by_cases same : state = child
    · subst same
      rw [spelled.find?_inj known reached]
      exact childLinks
    · constructor
      · rw [suffixesOf_link (before.suffixesSize ▸ inside), if_neg same, linked.suffixes]
      · rw [outputsOf_link (before.outputsSize ▸ inside), if_neg same, linked.outputs]
  refine ⟨⟨?_, ?_, ?_⟩, childLinks, kept⟩
  · simp [SuffixLinks.link, before.suffixesSize]
  · simp [SuffixLinks.link, before.outputsSize]
  · intro other state known bound
    exact kept other state known (before.linked other state known bound)

theorem mem_toList_edges {trie : PatternTrie} {node : Nat} {byte : UInt8} {child : Nat} :
    (byte, child) ∈ (trie.edges node).toList ↔ trie.child? node byte = some child :=
  Std.TreeMap.mem_toList_iff_getElem?_eq_some

theorem mem_edgesOf {trie : PatternTrie} {level : List Nat} {parent child : Nat} {byte : UInt8} :
    (parent, byte, child) ∈ SuffixLinks.edgesOf trie level ↔
      parent ∈ level ∧ trie.child? parent byte = some child := by
  simp only [SuffixLinks.edgesOf, List.mem_flatMap, List.mem_map, Prod.exists, Prod.mk.injEq]
  constructor
  · intro h
    obtain ⟨node, listed, byte', child', mem, hnode, hbyte, hchild⟩ := h
    subst hnode hbyte hchild
    exact ⟨listed, mem_toList_edges.mp mem⟩
  · intro h
    obtain ⟨listed, known⟩ := h
    exact ⟨parent, listed, byte, child, mem_toList_edges.mpr known, rfl, rfl, rfl⟩

/-- Linking the edges below one level, in any order. -/
theorem LinkedTo.foldl_link {patterns : List (List UInt8)} {trie : PatternTrie} {depth : Nat}
    (holds : HoldsPatterns patterns trie) {edges : List (Nat × UInt8 × Nat)}
    (genuine : ∀ parent byte child, (parent, byte, child) ∈ edges →
      ∃ path, trie.find? path = some parent ∧ path.length = depth ∧
        trie.child? parent byte = some child)
    {links : SuffixLinks} (before : LinkedTo patterns trie links depth) {after : SuffixLinks}
    (result : after = edges.foldl (fun links (parent, byte, child) =>
      SuffixLinks.link trie links parent byte child) links) :
    LinkedTo patterns trie after depth ∧
      (∀ other state, trie.find? other = some state → Linked patterns trie links other state →
        Linked patterns trie after other state) ∧
      ∀ parent byte child, (parent, byte, child) ∈ edges → ∀ path,
        trie.find? path = some parent → Linked patterns trie after (path ++ [byte]) child := by
  induction edges generalizing links with
  | nil =>
    subst result
    exact ⟨before, fun other state _ linked => linked, by simp⟩
  | cons first edges ih =>
    obtain ⟨parent, byte, child⟩ := first
    obtain ⟨path, found, deep, edge⟩ := genuine parent byte child (by simp)
    obtain ⟨between, childLinks, kept⟩ := before.link holds found deep edge
    obtain ⟨final, kept', linked⟩ := ih (fun parent byte child mem =>
      genuine parent byte child (List.mem_cons_of_mem _ mem)) between result
    refine ⟨final, fun other state known old => ?_, fun parent' byte' child' mem path' found' => ?_⟩
    · exact kept' other state known (kept other state known old)
    · rcases List.mem_cons.mp mem with same | mem
      · cases same
        obtain ⟨paths, spelled⟩ := holds.spelled
        rw [spelled.find?_inj found' found]
        exact kept' _ _ ((Trie.Spelled.child?_iff found byte child).mp edge) childLinks
      · exact linked parent' byte' child' mem path' found'

/-- The last byte of a path is an edge out of a state one level up. -/
theorem exists_edge_of_length {trie : PatternTrie} {path : List UInt8} {state depth : Nat}
    (found : trie.find? path = some state) (deep : path.length = depth + 1) :
    ∃ front byte parent, path = front ++ [byte] ∧ front.length = depth ∧
      trie.find? front = some parent ∧ trie.child? parent byte = some state := by
  obtain rfl | ⟨front, byte, rfl⟩ := List.eq_nil_or_concat' path
  · cases deep
  · rw [Trie.find?_concat, Option.bind_eq_some_iff] at found
    obtain ⟨parent, reached, edge⟩ := found
    rw [List.length_append, List.length_singleton, Nat.add_right_cancel_iff] at deep
    exact ⟨front, byte, parent, rfl, deep, reached, edge⟩

/-- The edges below a level go out of its states. -/
theorem exists_path_of_mem_edgesOf {trie : PatternTrie} {depth : Nat} {level : List Nat}
    (members : ∀ state, state ∈ level ↔
      ∃ path, trie.find? path = some state ∧ path.length = depth)
    (parent : Nat) (byte : UInt8) (child : Nat)
    (mem : (parent, byte, child) ∈ SuffixLinks.edgesOf trie level) :
    ∃ path, trie.find? path = some parent ∧ path.length = depth ∧
      trie.child? parent byte = some child := by
  obtain ⟨listed, edge⟩ := mem_edgesOf.mp mem
  obtain ⟨path, found, deep⟩ := (members parent).mp listed
  exact ⟨path, found, deep, edge⟩

/-- The states behind the edges below a level are the next level. -/
theorem mem_map_edgesOf_iff {trie : PatternTrie} {depth : Nat} {level : List Nat}
    (members : ∀ state, state ∈ level ↔
      ∃ path, trie.find? path = some state ∧ path.length = depth) (state : Nat) :
    state ∈ (SuffixLinks.edgesOf trie level).map (fun (_, _, child) => child) ↔
      ∃ path, trie.find? path = some state ∧ path.length = depth + 1 := by
  rw [List.mem_map]
  constructor
  · intro h
    obtain ⟨⟨parent, byte, child⟩, mem, same⟩ := h
    subst same
    obtain ⟨path, found, deep, edge⟩ := exists_path_of_mem_edgesOf members parent byte child mem
    refine ⟨path ++ [byte], (Trie.Spelled.child?_iff found byte child).mp edge, ?_⟩
    rw [List.length_append, List.length_singleton, deep]
  · intro h
    obtain ⟨path, found, deep⟩ := h
    obtain ⟨front, byte, parent, -, deep, reached, edge⟩ := exists_edge_of_length found deep
    have listed : parent ∈ level := (members parent).mpr ⟨front, reached, deep⟩
    exact ⟨(parent, byte, state), mem_edgesOf.mpr ⟨listed, edge⟩, rfl⟩

/-- Linking the edges below a level links the next level. -/
theorem LinkedTo.level {patterns : List (List UInt8)} {trie : PatternTrie}
    (holds : HoldsPatterns patterns trie) {links : SuffixLinks} {depth : Nat}
    (before : LinkedTo patterns trie links depth) {level : List Nat}
    (members : ∀ state, state ∈ level ↔
      ∃ path, trie.find? path = some state ∧ path.length = depth) :
    LinkedTo patterns trie ((SuffixLinks.edgesOf trie level).foldl
      (fun links (parent, byte, child) => SuffixLinks.link trie links parent byte child) links)
      (depth + 1) := by
  obtain ⟨between, -, linked⟩ :=
    before.foldl_link holds (exists_path_of_mem_edgesOf members) rfl
  refine ⟨between.suffixesSize, between.outputsSize, fun path state found bound => ?_⟩
  by_cases shallow : path.length ≤ depth
  · exact between.linked path state found shallow
  · -- a path of the next level ends with an edge out of a state of this level
    have next : path.length = depth + 1 := by omega
    obtain ⟨front, byte, parent, rfl, deep, reached, edge⟩ := exists_edge_of_length found next
    have listed : parent ∈ level := (members parent).mpr ⟨front, reached, deep⟩
    exact linked parent byte state (mem_edgesOf.mpr ⟨listed, edge⟩) front reached

theorem linkedTo_linkLevels {patterns : List (List UInt8)} {trie : PatternTrie}
    (holds : HoldsPatterns patterns trie) {links : SuffixLinks} {depth : Nat}
    (before : LinkedTo patterns trie links depth) (height : Nat) {level : List Nat}
    (members : ∀ state, state ∈ level ↔
      ∃ path, trie.find? path = some state ∧ path.length = depth) :
    LinkedTo patterns trie (SuffixLinks.linkLevels trie links height level) (depth + height) := by
  induction height generalizing links depth level with
  | zero => exact before
  | succ height ih =>
    rw [SuffixLinks.linkLevels, ← Nat.add_assoc, Nat.add_right_comm]
    exact ih (before.level holds members) (mem_map_edgesOf_iff members)

/-- Before anything is linked the root has all the links it needs. -/
theorem linkedTo_zero (patterns : List (List UInt8)) :
    LinkedTo patterns (ofPatterns patterns).trie
      { suffixes := Array.replicate (ofPatterns patterns).trie.size []
        outputs := Array.replicate (ofPatterns patterns).trie.size [] } 0 := by
  obtain ⟨paths, spelled, -⟩ := exists_spelled_ofPatterns patterns
  refine ⟨by simp, by simp, fun path state found bound => ?_⟩
  have inside := spelled.lt_size found
  rw [Nat.le_zero, List.length_eq_zero_iff] at bound
  subst bound
  constructor
  · simp [SuffixLinks.suffixesOf, properSuffixStates, Array.getD_eq_getD_getElem?, inside]
  · simp [SuffixLinks.outputsOf, patternsEnding, Array.getD_eq_getD_getElem?, inside]

/-- The root is the first level. -/
theorem mem_root_iff (trie : PatternTrie) (state : Nat) :
    state ∈ [Trie.root] ↔ ∃ path, trie.find? path = some state ∧ path.length = 0 := by
  rw [List.mem_singleton]
  constructor
  · intro same
    subst same
    exact ⟨[], rfl, rfl⟩
  · intro h
    obtain ⟨path, found, deep⟩ := h
    rw [List.length_eq_zero_iff] at deep
    subst deep
    exact (Option.some.inj found).symm

/-- Every state of the automaton is linked. -/
theorem linked_ofPatterns (patterns : List (List UInt8)) {path : List UInt8} {state : Nat}
    (found : (ofPatterns patterns).trie.find? path = some state) :
    Linked patterns (ofPatterns patterns).trie (ofPatterns patterns).links path state := by
  obtain ⟨paths, spelled, members⟩ := exists_spelled_ofPatterns patterns
  have all := linkedTo_linkLevels (holdsPatterns_ofPatterns patterns) (linkedTo_zero patterns)
    (patterns.foldl (fun height pattern => max height pattern.length) 0) (mem_root_iff _)
  apply all.linked path state found
  have listed := spelled.mem_iff.mpr ⟨state, found⟩
  rw [members, Trie.mem_beginnings] at listed
  rw [Nat.zero_add]
  rcases listed with rfl | ⟨-, whole, mem, beginning⟩
  · exact Nat.zero_le _
  · exact Nat.le_trans beginning.length_le ((length_le_foldl_max patterns 0).2 whole mem)

end LiteralLogic.Automaton
