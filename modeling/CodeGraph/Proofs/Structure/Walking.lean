import CodeGraph.Structure.Extraction
import Mathlib.Data.List.Basic
import Mathlib.Order.Basic

namespace CodeGraph

namespace Symbol

/-- The symbol at an address. -/
def at? : List Nat → List Symbol → Option Symbol
  | [], _ => none
  | [i], symbols => symbols[i]?
  | i :: j :: inner, symbols => symbols[i]?.bind fun symbol => at? (j :: inner) symbol.children

/-- All addresses of symbols in a list, each once and in their order. -/
structure Visits (symbols : List Symbol) (addresses : List (List Nat)) : Prop where
  ordered : addresses.Pairwise (· < ·)
  complete : ∀ address, address ∈ addresses ↔ (at? address symbols).isSome = true

section

variable {symbol : Symbol} {symbols rest : List Symbol} {inner outer : List (List Nat)} {address : List Nat}

theorem preorder_eq (symbol : Symbol) : symbol.preorder = symbol :: preorderAll symbol.children := by
  cases symbol
  rw [preorder]

/-- What holds of symbols if it holds of the children of the first one and of those after it holds at any depth. -/
theorem forest_induction {motive : List Symbol → Prop} (nil : motive [])
    (cons : ∀ symbol rest, motive symbol.children → motive rest → motive (symbol :: rest)) :
    (symbols : List Symbol) → motive symbols
  | [] => nil
  | .mk type name qualifiedName parameters returnType startLine endLine children baseType interfaces :: rest =>
    cons _ rest (forest_induction nil cons children) (forest_induction nil cons rest)

theorem ne_nil_of_at? (found : (at? address symbols).isSome = true) : address ≠ [] := by
  rintro rfl
  nomatch found

theorem at?_child (inside : address ≠ []) : at? (0 :: address) (symbol :: rest) = at? address symbol.children := by
  cases address with
  | nil => exact absurd rfl inside
  | cons i address => rfl

theorem at?_next (i : Nat) (address : List Nat) :
    at? ((i + 1) :: address) (symbol :: rest) = at? (i :: address) rest := by
  cases address <;> rfl

/-- The address with its first place moved on by one. -/
def shift (address : List Nat) : List Nat :=
  address.modifyHead (· + 1)

theorem at?_shift (some : address ≠ []) : at? (shift address) (symbol :: rest) = at? address rest := by
  cases address with
  | nil => exact absurd rfl some
  | cons i address => exact at?_next i address

theorem shift_lt_shift {first second : List Nat} (some : first ≠ []) (less : first < second) :
    shift first < shift second := by
  cases first with
  | nil => exact absurd rfl some
  | cons i first =>
    cases second with
    | nil => exact absurd less (List.not_lt_nil _)
    | cons j second =>
      rw [List.cons_lt_cons_iff] at less
      exact List.cons_lt_cons_iff.mpr (less.imp Nat.succ_lt_succ fun ⟨same, later⟩ => ⟨congrArg _ same, later⟩)

/-- The addresses in a list of symbols: that of the first one, those in it, and those of the symbols after it. -/
def addressesFrom (inner outer : List (List Nat)) : List (List Nat) :=
  [0] :: (inner.map (0 :: ·) ++ outer.map shift)

theorem Visits.ne_nil (visits : Visits symbols inner) (member : address ∈ inner) : address ≠ [] :=
  ne_nil_of_at? ((visits.complete address).mp member)

theorem Visits.cons (within : Visits symbol.children inner) (after : Visits rest outer) :
    Visits (symbol :: rest) (addressesFrom inner outer) where
  ordered := by
    refine List.pairwise_cons.mpr ⟨fun address member => ?_, List.pairwise_append.mpr ⟨?_, ?_, ?_⟩⟩
    · rcases List.mem_append.mp member with child | later
      · obtain ⟨address, among, rfl⟩ := List.mem_map.mp child
        obtain ⟨i, more, rfl⟩ := List.exists_cons_of_ne_nil (within.ne_nil among)
        exact List.cons_lt_cons_iff.mpr (.inr ⟨rfl, List.nil_lt_cons i more⟩)
      · obtain ⟨address, among, rfl⟩ := List.mem_map.mp later
        obtain ⟨i, more, rfl⟩ := List.exists_cons_of_ne_nil (after.ne_nil among)
        exact List.cons_lt_cons_iff.mpr (.inl i.succ_pos)
    · exact List.pairwise_map.mpr (within.ordered.imp fun less => List.cons_lt_cons_iff.mpr (.inr ⟨rfl, less⟩))
    · refine List.pairwise_map.mpr (after.ordered.imp_of_mem fun among _ less => ?_)
      exact shift_lt_shift (after.ne_nil among) less
    · intro child member later member'
      obtain ⟨address, -, rfl⟩ := List.mem_map.mp member
      obtain ⟨address', among, rfl⟩ := List.mem_map.mp member'
      obtain ⟨i, more, rfl⟩ := List.exists_cons_of_ne_nil (after.ne_nil among)
      exact List.cons_lt_cons_iff.mpr (.inl i.succ_pos)
  complete := by
    intro address
    constructor
    · intro member
      rcases List.mem_cons.mp member with rfl | member
      · rfl
      rcases List.mem_append.mp member with child | later
      · obtain ⟨address, among, rfl⟩ := List.mem_map.mp child
        rw [at?_child (within.ne_nil among)]
        exact (within.complete address).mp among
      · obtain ⟨address, among, rfl⟩ := List.mem_map.mp later
        rw [at?_shift (after.ne_nil among)]
        exact (after.complete address).mp among
    · intro found
      obtain ⟨i, address, rfl⟩ := List.exists_cons_of_ne_nil (ne_nil_of_at? found)
      -- the first place tells the first symbol and what lies in it from the symbols after it
      cases i with
      | zero =>
        by_cases inside : address = []
        · rw [inside]
          exact List.mem_cons_self
        · rw [at?_child inside, ← within.complete] at found
          exact List.mem_cons_of_mem _ (List.mem_append_left _ (List.mem_map_of_mem found))
      | succ i =>
        rw [at?_next, ← after.complete] at found
        exact List.mem_cons_of_mem _ (List.mem_append_right _ (List.mem_map_of_mem (f := shift) found))

theorem Visits.filterMap_cons (within : Visits symbol.children inner) (after : Visits rest outer) :
    (addressesFrom inner outer).filterMap (at? · (symbol :: rest)) =
      symbol :: (inner.filterMap (at? · symbol.children) ++ outer.filterMap (at? · rest)) := by
  have children :
      (inner.map (0 :: ·)).filterMap (at? · (symbol :: rest)) = inner.filterMap (at? · symbol.children) := by
    rw [List.filterMap_map]
    exact List.filterMap_congr fun address among => at?_child (within.ne_nil among)
  have others : (outer.map shift).filterMap (at? · (symbol :: rest)) = outer.filterMap (at? · rest) := by
    rw [List.filterMap_map]
    exact List.filterMap_congr fun address among => at?_shift (after.ne_nil among)
  rw [addressesFrom, List.filterMap_cons, List.filterMap_append, children, others]
  rfl

/-- The walk lists the symbols at all addresses, in the order of the addresses. -/
theorem exists_visits (symbols : List Symbol) :
    ∃ addresses, Visits symbols addresses ∧ preorderAll symbols = addresses.filterMap (at? · symbols) := by
  induction symbols using forest_induction with
  | nil =>
    refine ⟨[], ⟨.nil, fun address => iff_of_false nofun fun found => ?_⟩, rfl⟩
    obtain ⟨i, address, rfl⟩ := List.exists_cons_of_ne_nil (ne_nil_of_at? found)
    cases address <;> nomatch found
  | cons symbol rest inner outer =>
    obtain ⟨addresses, within, same⟩ := inner
    obtain ⟨addresses', after, same'⟩ := outer
    refine ⟨addressesFrom addresses addresses', within.cons after, ?_⟩
    rw [within.filterMap_cons after, ← same, ← same', preorderAll, preorder_eq, List.cons_append]

end

end Symbol

namespace Structure

section

variable {table : TypeTable} {result : ParseResult} {symbol : Symbol} {edge : ExtractedRelationship}
  {edges : List ExtractedRelationship} {kinds wanted : List RelationshipType}

/-- The edge from a symbol to one of its children. -/
def containment (parent child : Symbol) : ExtractedRelationship where
  source := parent.effectiveName
  sourceType := typeOr "unknown" parent.type
  target := child.effectiveName
  targetType := if child.type == "" then none else some child.type
  type := .contains
  weight := containsWeight

/-- The edge from a function to a type that its signature names. -/
def usage (symbol : Symbol) (target : String) : ExtractedRelationship where
  source := symbol.effectiveName
  sourceType := symbol.type
  target := target
  targetType := some "type"
  type := .usesType
  weight := typeUsageWeight

/-- The types that a signature is written with, its result last. -/
def annotations (symbol : Symbol) : List (Option String) :=
  symbol.parameters.map (·.type) ++ [symbol.returnType]

/-- The types that the signature of a symbol names, if the symbol is a function with a name. -/
def usedTypes (table : TypeTable) (symbol : Symbol) : List String :=
  if symbol.type ∈ table.functionTypes ∧ symbol.effectiveName ≠ "" then
    (annotations symbol).filterMap fun written => written.bind table.normalize?
  else []

/-- Every symbol with each of its children. -/
def families (symbols : List Symbol) : List (Symbol × Symbol) :=
  symbols.flatMap fun parent => parent.children.map fun child => (parent, child)

/-- The pairs of symbols that both have a name. -/
def named (pairs : List (Symbol × Symbol)) : List (Symbol × Symbol) :=
  pairs.filter fun pair => pair.1.effectiveName ≠ "" ∧ pair.2.effectiveName ≠ ""

/-- The edges of some kinds, in their order. -/
def ofKinds (kinds : List RelationshipType) (edges : List ExtractedRelationship) : List ExtractedRelationship :=
  edges.filter (·.type ∈ kinds)

def importKinds : List RelationshipType := [.imports, .references]

def hierarchyKinds : List RelationshipType := [.contains, .extends_, .implements]

theorem imports_kinds (among : edge ∈ imports table result) : edge.type ∈ importKinds := by
  rw [imports] at among
  split at among
  · nomatch among
  obtain ⟨record, -, given⟩ := List.mem_flatMap.mp among
  rw [ofImport] at given
  split at given
  · nomatch given
  rcases List.mem_cons.mp given with rfl | named
  · exact List.mem_cons_self
  · obtain ⟨specifier, -, rfl⟩ := List.mem_map.mp named
    exact List.mem_cons_of_mem _ List.mem_cons_self

theorem hierarchy_kinds (among : edge ∈ hierarchy result) : edge.type ∈ hierarchyKinds := by
  obtain ⟨symbol, -, given⟩ := List.mem_flatMap.mp among
  rw [ofSymbol] at given
  split at given
  · nomatch given
  rcases List.mem_append.mp given with given | given
  · rcases List.mem_append.mp given with given | given
    · obtain ⟨child, -, rfl⟩ := List.mem_map.mp given
      exact List.mem_cons_self
    · obtain ⟨base, -, rfl⟩ := List.mem_map.mp given
      exact List.mem_cons_of_mem _ List.mem_cons_self
  · obtain ⟨interface, -, rfl⟩ := List.mem_map.mp given
    exact List.mem_cons_of_mem _ (List.mem_cons_of_mem _ List.mem_cons_self)

theorem typeUsage_kinds (among : edge ∈ typeUsage table result) : edge.type ∈ [RelationshipType.usesType] := by
  rw [typeUsage] at among
  split at among
  · obtain ⟨symbol, -, given⟩ := List.mem_flatMap.mp among
    rw [ofSignature] at given
    split at given
    · nomatch given
    · obtain ⟨written, -, named⟩ := List.mem_filterMap.mp given
      obtain ⟨target, -, rfl⟩ := Option.map_eq_some_iff.mp named
      exact List.mem_cons_self
  · nomatch among

/-- A file in which nothing was found has no edges of any kind. -/
theorem relationships_eq (table : TypeTable) (result : ParseResult) :
    relationships table result = imports table result ++ hierarchy result ++ typeUsage table result := by
  rw [relationships]
  split
  · rename_i nothing
    simp only [ParseResult.isEmpty, Bool.and_eq_true, List.isEmpty_iff] at nothing
    obtain ⟨⟨noSymbols, noImports⟩, -⟩ := nothing
    simp [imports, hierarchy, typeUsage, noSymbols, noImports, Symbol.preorderAll]
  · rfl

theorem ofKinds_eq_nil (all : ∀ edge ∈ edges, edge.type ∈ kinds) (apart : ∀ kind ∈ kinds, kind ∉ wanted) :
    ofKinds wanted edges = [] :=
  List.filter_eq_nil_iff.mpr fun edge among keeps => apart _ (all edge among) (of_decide_eq_true keeps)

theorem ofKinds_eq_self (all : ∀ edge ∈ edges, edge.type ∈ kinds) (same : ∀ kind ∈ kinds, kind ∈ wanted) :
    ofKinds wanted edges = edges :=
  List.filter_eq_self.mpr fun edge among => decide_eq_true (same _ (all edge among))

theorem ofKinds_relationships (wanted : List RelationshipType) (table : TypeTable) (result : ParseResult) :
    ofKinds wanted (relationships table result) = ofKinds wanted (imports table result) ++
      ofKinds wanted (hierarchy result) ++ ofKinds wanted (typeUsage table result) := by
  rw [relationships_eq, ofKinds, List.filter_append, List.filter_append]
  rfl

theorem ofKinds_importKinds (table : TypeTable) (result : ParseResult) :
    ofKinds importKinds (relationships table result) = imports table result := by
  rw [ofKinds_relationships, ofKinds_eq_self (fun _ => imports_kinds) (by decide),
    ofKinds_eq_nil (fun _ => hierarchy_kinds) (by decide), ofKinds_eq_nil (fun _ => typeUsage_kinds) (by decide),
    List.append_nil, List.append_nil]

theorem ofKinds_hierarchyKinds (table : TypeTable) (result : ParseResult) :
    ofKinds hierarchyKinds (relationships table result) = hierarchy result := by
  rw [ofKinds_relationships, ofKinds_eq_nil (fun _ => imports_kinds) (by decide),
    ofKinds_eq_self (fun _ => hierarchy_kinds) (by decide), ofKinds_eq_nil (fun _ => typeUsage_kinds) (by decide),
    List.nil_append, List.append_nil]

theorem ofKinds_usesType (table : TypeTable) (result : ParseResult) :
    ofKinds [.usesType] (relationships table result) = typeUsage table result := by
  rw [ofKinds_relationships, ofKinds_eq_nil (fun _ => imports_kinds) (by decide),
    ofKinds_eq_nil (fun _ => hierarchy_kinds) (by decide), ofKinds_eq_self (fun _ => typeUsage_kinds) (by decide),
    List.nil_append, List.nil_append]

/-- A symbol with a name contains its children that have one, and no others. -/
theorem ofKinds_ofSymbol (symbol : Symbol) :
    ofKinds [.contains] (ofSymbol symbol) =
      (named (symbol.children.map fun child => (symbol, child))).map fun pair => containment pair.1 pair.2 := by
  by_cases nameless : symbol.effectiveName = ""
  · simp [ofKinds, ofSymbol, named, nameless]
  · simp [ofKinds, ofSymbol, named, nameless, List.filter_map, Function.comp_def, containment, bne, beq_eq_decide]

theorem ofKinds_contains (table : TypeTable) (result : ParseResult) :
    ofKinds [.contains] (relationships table result) =
      (named (families (Symbol.preorderAll result.symbols))).map fun pair => containment pair.1 pair.2 := by
  rw [ofKinds_relationships, ofKinds_eq_nil (fun _ => imports_kinds) (by decide),
    ofKinds_eq_nil (fun _ => typeUsage_kinds) (by decide), List.nil_append, List.append_nil, hierarchy, families,
    ofKinds, named, List.filter_flatMap, List.filter_flatMap, List.map_flatMap]
  exact List.flatMap_congr fun symbol _ => ofKinds_ofSymbol symbol

theorem ofSignature_eq (table : TypeTable) (symbol : Symbol) :
    ofSignature table symbol = (usedTypes table symbol).map (usage symbol) := by
  rw [ofSignature, usedTypes]
  by_cases function : symbol.type ∈ table.functionTypes ∧ symbol.effectiveName ≠ ""
  · rw [if_pos function, if_neg (by simp [function]), List.map_filterMap]
    rfl
  · rw [if_neg function, if_pos (by simpa [imp_iff_not_or] using function), List.map_nil]

theorem typeUsage_eq (table : TypeTable) (result : ParseResult) :
    typeUsage table result =
      if table.emitTypeUsage then
        (Symbol.preorderAll result.symbols).flatMap fun symbol => (usedTypes table symbol).map (usage symbol)
      else [] :=
  ite_congr rfl (fun _ => List.flatMap_congr fun symbol _ => ofSignature_eq table symbol) fun _ => rfl

/-- Whatever is found in a file, its symbols are gone through in the order of their addresses, each once. The edges to
children are those of all pairs of a named symbol and a named child of it, in this order; the edges to types are those
of all names that signatures of named functions refer to, in this order, if the language has any. Imports come first,
then what symbols contain and extend, then types. -/
theorem relationships_walk (table : TypeTable) (result : ParseResult) :
    let edges := relationships table result
    (∃ addresses, Symbol.Visits result.symbols addresses ∧
      let symbols := addresses.filterMap (Symbol.at? · result.symbols)
      ofKinds [.contains] edges = (named (families symbols)).map (fun pair => containment pair.1 pair.2) ∧
      ofKinds [.usesType] edges =
        if table.emitTypeUsage then
          symbols.flatMap fun symbol => (usedTypes table symbol).map (usage symbol)
        else []) ∧
    edges = ofKinds importKinds edges ++ ofKinds hierarchyKinds edges ++ ofKinds [.usesType] edges := by
  intro edges
  obtain ⟨addresses, visits, walk⟩ := Symbol.exists_visits result.symbols
  refine ⟨⟨addresses, visits, ?_, ?_⟩, ?_⟩
  · rw [← walk]
    exact ofKinds_contains table result
  · rw [← walk, ← typeUsage_eq]
    exact ofKinds_usesType table result
  · rw [ofKinds_importKinds, ofKinds_hierarchyKinds, ofKinds_usesType]
    exact relationships_eq table result

end

end Structure

end CodeGraph
