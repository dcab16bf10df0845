import CodeGraph.Files.Tree
import CodeGraph.Proofs.Files.NormalForm

namespace CodeGraph

namespace Path

/-- A name that may stand in any directory. -/
structure IsName (name : String) : Prop where
  part : IsPart name
  noUp : name ≠ ".."
  short : name.utf8ByteSize ≤ nameLimit
  noNull : '\x00' ∉ name.toList

variable {path name : String}

theorem partsOf_name (isPart : IsPart name) : (split name).2 = [name] := by
  have whole : name.toList = charsOf [name] := by simp [charsOf]
  rw [split_snd, whole, partsOf_charsOf (by simpa using isPart)]

theorem isAbsolute_name (isPart : IsPart name) : isAbsolute name = false := by
  rw [Bool.eq_false_iff]
  intro absolute
  obtain ⟨rest, chars⟩ := isAbsolute_iff.mp absolute
  exact isPart.noSlash (by rw [chars]; exact List.mem_cons_self)

theorem join_build {parts : List String} (all : ∀ part ∈ parts, IsPart part) (isPart : IsPart name) :
    join (build "/" parts) name = build "/" (parts ++ [name]) := by
  unfold join
  rw [isAbsolute_name isPart, split_build (.inr (.inl rfl)) all, partsOf_name isPart]
  rfl

theorem IsPlace.join (place : IsPlace path) (isName : IsName name) : IsPlace (join path name) := by
  obtain ⟨parts, rfl, all, noUp⟩ := place
  refine ⟨parts ++ [name], join_build all isName.part, ?_, ?_⟩
  · simpa [or_imp, forall_and] using ⟨all, isName.part⟩
  · simpa using ⟨noUp, isName.noUp.symm⟩

theorem charsOf_concat {parts : List String} (some : parts ≠ []) (name : String) :
    charsOf (parts ++ [name]) = charsOf parts ++ '/' :: name.toList := by
  induction parts with
  | nil => exact absurd rfl some
  | cons part parts ih =>
    cases parts with
    | nil => simp [charsOf, List.intercalate_cons_cons]
    | cons next parts =>
      have rest := ih (List.cons_ne_nil _ _)
      simp only [charsOf, List.cons_append, List.map_cons, List.intercalate_cons_cons] at rest ⊢
      rw [rest]
      simp

/-- A name below a place stands after it, with a slash between them unless the place is the root. -/
theorem join_eq_append (place : IsPlace path) (isName : IsName name) : ∃ separator : String,
    (separator = "" ∨ separator = "/") ∧ join path name = path ++ separator ++ name := by
  obtain ⟨parts, rfl, all, noUp⟩ := place
  rw [join_build all isName.part]
  have built : (build "/" (parts ++ [name])).toList = '/' :: charsOf (parts ++ [name]) :=
    toList_build (.inl (by decide))
  have base : (build "/" parts).toList = '/' :: charsOf parts := toList_build (.inl (by decide))
  by_cases root : parts = []
  · refine ⟨"", .inl rfl, String.toList_inj.mp ?_⟩
    rw [built, String.toList_append, String.toList_append, base, root]
    simp [charsOf]
  · refine ⟨"/", .inr rfl, String.toList_inj.mp ?_⟩
    rw [built, charsOf_concat root, String.toList_append, String.toList_append, base]
    simp

theorem utf8ByteSize_lt_join (place : IsPlace path) (isName : IsName name) :
    path.utf8ByteSize < (join path name).utf8ByteSize := by
  obtain ⟨separator, -, same⟩ := join_eq_append place isName
  have some : name.utf8ByteSize ≠ 0 := fun none =>
    isName.part.nonempty (String.utf8ByteSize_eq_zero_iff.mp none)
  rw [same, String.utf8ByteSize_append, String.utf8ByteSize_append]
  omega

theorem noNull_join (place : IsPlace path) (isName : IsName name) (noNull : '\x00' ∉ path.toList) :
    '\x00' ∉ (join path name).toList := by
  obtain ⟨separator, plain, same⟩ := join_eq_append place isName
  have between : '\x00' ∉ separator.toList := by
    rcases plain with rfl | rfl <;> decide
  rw [same, String.toList_append, String.toList_append]
  simp [noNull, between, isName.noNull]

end Path

namespace FileTree

/-- A tree in which every directory of another one still is a directory. -/
def Keeps (tree after : FileTree) : Prop :=
  ∀ path, tree.nodeAt? path = some .directory → after.nodeAt? path = some .directory

variable {tree after : FileTree}

theorem Keeps.refl (tree : FileTree) : tree.Keeps tree :=
  fun _ stands => stands

theorem Keeps.trans {last : FileTree} (first : tree.Keeps after) (second : after.Keeps last) : tree.Keeps last :=
  fun path stands => second path (first path stands)

theorem lookup_cons (entry : String × FileNode) (nodes : List (String × FileNode)) (path : String) :
    (entry :: nodes).lookup path = if path = entry.1 then some entry.2 else nodes.lookup path := by
  rw [List.lookup_cons]
  by_cases same : path = entry.1
  · simp [same]
  · rw [beq_eq_false_iff_ne.mpr same, if_neg same]

theorem lookup_replace (nodes : List (String × FileNode)) (path other : String) (node : FileNode) :
    (nodes.map fun entry => if entry.1 == path then (path, node) else entry).lookup other =
      if other = path then (nodes.lookup path).map fun _ => node else nodes.lookup other := by
  induction nodes with
  | nil => simp
  | cons entry nodes ih =>
    rw [List.map_cons, lookup_cons, lookup_cons, lookup_cons, ih]
    by_cases here : entry.1 = path
    · by_cases same : other = path <;> simp [here, same]
    · by_cases same : other = path
      · simp [here, same, Ne.symm here]
      · simp [here, same]

theorem nodeAt?_put (tree : FileTree) (path other : String) (node : FileNode) :
    (tree.put path node).nodeAt? other =
      if other = "/" then some .directory else if other = path then some node else tree.nodeAt? other := by
  unfold nodeAt?
  by_cases root : other = "/"
  · simp [root]
  simp only [beq_iff_eq, root, if_false]
  unfold put
  dsimp only
  split
  · rename_i present
    obtain ⟨old, found⟩ := Option.isSome_iff_exists.mp present
    rw [lookup_replace, found]
    rfl
  · rename_i absent
    rw [Option.not_isSome_iff_eq_none] at absent
    rw [List.lookup_append]
    by_cases same : other = path
    · rw [if_pos same, same, absent]
      simp
    · rw [lookup_cons, if_neg same, if_neg same]
      simp

theorem keeps_put {path : String} {node : FileNode}
    (free : tree.nodeAt? path = some .directory → node = .directory) : tree.Keeps (tree.put path node) := by
  intro other stands
  rw [nodeAt?_put]
  split
  · rfl
  split
  · rename_i same
    rw [free (same ▸ stands)]
  · exact stands

theorem walk?_append (tree : FileTree) (place parts more : List String) :
    tree.walk? place (parts ++ more) = (tree.walk? place parts).bind (tree.walk? · more) := by
  induction parts generalizing place with
  | nil => rfl
  | cons part parts ih =>
    rw [List.cons_append, walk?, walk?]
    split
    · exact ih _
    · rfl

theorem Keeps.walk? (keeps : tree.Keeps after) {place parts found : List String}
    (walks : tree.walk? place parts = some found) : after.walk? place parts = some found := by
  induction parts generalizing place with
  | nil => exact walks
  | cons part parts ih =>
    rw [FileTree.walk?] at walks ⊢
    split at walks
    · rename_i stands
      rw [if_pos (beq_iff_eq.mpr (keeps _ (beq_iff_eq.mp stands)))]
      exact ih walks
    · cases walks

theorem walk?_noUp {place parts found : List String} (noUp : ".." ∉ parts)
    (walks : tree.walk? place parts = some found) : found = place ++ parts := by
  induction parts generalizing place with
  | nil =>
    cases walks
    simp
  | cons part parts ih =>
    rw [List.mem_cons, not_or] at noUp
    rw [walk?] at walks
    split at walks
    · rw [ih noUp.2 walks, Path.climb, if_neg (by simpa using Ne.symm noUp.1)]
      simp
    · cases walks

/-- On a way of short names no long name is met. -/
theorem meetsLongName_of_short {place parts : List String} (short : ∀ part ∈ parts, part.utf8ByteSize ≤ nameLimit) :
    tree.meetsLongName place parts = false := by
  induction parts generalizing place with
  | nil => rfl
  | cons part parts ih =>
    obtain ⟨first, others⟩ := List.forall_mem_cons.mp short
    rw [meetsLongName, ih others]
    simp
    omega

/-- A way that is walked to its end without meeting a long name has short names. -/
theorem short_of_walk? {place parts found : List String} (walks : tree.walk? place parts = some found)
    (short : tree.meetsLongName place parts = false) : ∀ part ∈ parts, part.utf8ByteSize ≤ nameLimit := by
  induction parts generalizing place with
  | nil => exact fun _ none => absurd none List.not_mem_nil
  | cons part parts ih =>
    rw [walk?] at walks
    split at walks
    · rename_i stands
      rw [meetsLongName, stands] at short
      simp only [Bool.true_and, Bool.or_eq_false_iff, decide_eq_false_iff_not, Nat.not_lt] at short
      exact List.forall_mem_cons.mpr ⟨short.1, ih walks short.2⟩
    · cases walks

theorem locate?_build (tree : FileTree) {parts : List String} (all : ∀ part ∈ parts, Path.IsPart part) :
    tree.locate? (Path.build "/" parts) = (tree.walk? [] parts).map (Path.build "/") := by
  have absolute : Path.isAbsolute (Path.build "/" parts) = true :=
    Path.isAbsolute_iff.mpr ⟨_, Path.toList_build (.inl (by decide))⟩
  unfold locate? Path.join
  rw [if_pos absolute, Path.normalize_build (.inr (.inl rfl)) all, Path.split_build (.inr (.inl rfl)) all]

theorem isTooLong_build (tree : FileTree) {parts : List String} (all : ∀ part ∈ parts, Path.IsPart part) :
    tree.isTooLong (Path.build "/" parts) =
      (decide (pathLimit < (Path.build "/" parts).utf8ByteSize) || tree.meetsLongName [] parts) := by
  have absolute : Path.isAbsolute (Path.build "/" parts) = true :=
    Path.isAbsolute_iff.mpr ⟨_, Path.toList_build (.inl (by decide))⟩
  unfold isTooLong Path.join
  rw [if_pos absolute, Path.normalize_build (.inr (.inl rfl)) all, Path.split_build (.inr (.inl rfl)) all]

/-- A place that can be followed to a directory. -/
structure Leads (tree : FileTree) (path : String) : Prop where
  place : Path.IsPlace path
  looks : tree.look path = .ok (some .directory)

/-- What it takes to follow a place to a directory. -/
structure Follows (tree : FileTree) (parts : List String) : Prop where
  all : ∀ part ∈ parts, Path.IsPart part
  noUp : ".." ∉ parts
  walks : tree.walk? [] parts = some parts
  stands : tree.nodeAt? (Path.build "/" parts) = some .directory
  names : ∀ part ∈ parts, part.utf8ByteSize ≤ nameLimit
  short : (Path.build "/" parts).utf8ByteSize ≤ pathLimit
  noNull : '\x00' ∉ (Path.build "/" parts).toList

theorem Follows.leads {parts : List String} (follows : tree.Follows parts) : tree.Leads (Path.build "/" parts) := by
  refine ⟨⟨parts, rfl, follows.all, follows.noUp⟩, ?_⟩
  have short : ¬ pathLimit < (Path.build "/" parts).utf8ByteSize := Nat.not_lt.mpr follows.short
  unfold look find?
  rw [isTooLong_build tree follows.all, meetsLongName_of_short follows.names, locate?_build tree follows.all,
    follows.walks]
  simp [follows.noNull, follows.stands, short]

theorem Leads.follows {path : String} (leads : tree.Leads path) :
    ∃ parts, path = Path.build "/" parts ∧ tree.Follows parts := by
  obtain ⟨⟨parts, rfl, all, noUp⟩, looks⟩ := leads
  refine ⟨parts, rfl, ?_⟩
  unfold look at looks
  split at looks
  · cases looks
  rename_i noNull
  split at looks
  · cases looks
  rename_i fits
  rw [isTooLong_build tree all, Bool.not_eq_true, Bool.or_eq_false_iff] at fits
  unfold find? at looks
  rw [locate?_build tree all] at looks
  cases walks : tree.walk? [] parts with
  | none => simp [walks] at looks
  | some found =>
    have whole : found = parts := by simpa using walk?_noUp noUp walks
    rw [whole] at walks
    rw [walks] at looks
    exact ⟨all, noUp, walks, by simpa using looks, short_of_walk? walks fits.2, by simpa using fits.1,
      by simpa using noNull⟩

/-- A place can still be followed when the directories are still there. -/
theorem Leads.keeps {path : String} (leads : tree.Leads path) (keeps : tree.Keeps after) : after.Leads path := by
  obtain ⟨parts, rfl, follows⟩ := leads.follows
  exact Follows.leads { follows with
    walks := keeps.walk? follows.walks
    stands := keeps _ follows.stands }

section Below

variable {path name : String}

theorem Leads.locate?_join (leads : tree.Leads path) (isName : Path.IsName name) :
    tree.locate? (Path.join path name) = some (Path.join path name) ∧
      tree.isTooLong (Path.join path name) = decide (pathLimit < (Path.join path name).utf8ByteSize) := by
  obtain ⟨parts, rfl, follows⟩ := leads.follows
  have all : ∀ part ∈ parts ++ [name], Path.IsPart part := by
    simpa [or_imp, forall_and] using ⟨follows.all, isName.part⟩
  have names : ∀ part ∈ parts ++ [name], part.utf8ByteSize ≤ nameLimit := by
    simpa [or_imp, forall_and] using ⟨follows.names, isName.short⟩
  have last : tree.walk? parts [name] = some (parts ++ [name]) := by
    rw [walk?, follows.stands, if_pos BEq.rfl, Path.climb, if_neg (by simpa using isName.noUp)]
    rfl
  rw [Path.join_build follows.all isName.part]
  constructor
  · rw [locate?_build tree all, walk?_append, follows.walks, Option.bind_some, last]
    rfl
  · rw [isTooLong_build tree all, meetsLongName_of_short names, Bool.or_false]

theorem Leads.noNull_join (leads : tree.Leads path) (isName : Path.IsName name) :
    (Path.join path name).toList.contains '\x00' = false := by
  obtain ⟨parts, rfl, follows⟩ := leads.follows
  simpa using Path.noNull_join leads.place isName follows.noNull

theorem Leads.look_join (leads : tree.Leads path) (isName : Path.IsName name)
    (short : (Path.join path name).utf8ByteSize ≤ pathLimit) :
    tree.look (Path.join path name) = .ok (tree.nodeAt? (Path.join path name)) := by
  obtain ⟨located, fits⟩ := leads.locate?_join isName
  unfold look find?
  rw [leads.noNull_join isName, fits, located]
  simp [short]

theorem Leads.join (leads : tree.Leads path) (isName : Path.IsName name)
    (short : (Path.join path name).utf8ByteSize ≤ pathLimit)
    (stands : tree.nodeAt? (Path.join path name) = some .directory) : tree.Leads (Path.join path name) :=
  ⟨leads.place.join isName, by rw [leads.look_join isName short, stands]⟩

theorem Leads.placeFor_join (leads : tree.Leads path) (isName : Path.IsName name) :
    tree.placeFor (Path.join path name) =
      if pathLimit < (Path.join path name).utf8ByteSize then .error (.nameTooLong (Path.join path name))
      else .ok (Path.join path name) := by
  obtain ⟨located, fits⟩ := leads.locate?_join isName
  unfold placeFor
  rw [located, fits]
  simp

/-- A directory is made, or is there already, unless its path is too long or a file is in its place. -/
theorem Leads.makeDirectory_cases (leads : tree.Leads path) (isName : Path.IsName name) :
    (((Path.join path name).utf8ByteSize ≤ pathLimit ∧
        ∀ bytes executable, tree.nodeAt? (Path.join path name) ≠ some (.file bytes executable)) ∧
      ∃ after, tree.makeDirectory (Path.join path name) = .ok after ∧ tree.Keeps after ∧
        after.Leads (Path.join path name) ∧
        ∀ other ≠ Path.join path name, after.nodeAt? other = tree.nodeAt? other) ∨
    ((pathLimit < (Path.join path name).utf8ByteSize ∨
        ∃ bytes executable, tree.nodeAt? (Path.join path name) = some (.file bytes executable)) ∧
      ∃ cause, tree.makeDirectory (Path.join path name) = .error cause) := by
  unfold makeDirectory
  rw [leads.noNull_join isName, leads.placeFor_join isName, if_neg Bool.false_ne_true]
  by_cases long : pathLimit < (Path.join path name).utf8ByteSize
  · rw [if_pos long]
    exact .inr ⟨.inl long, _, rfl⟩
  have short := Nat.le_of_not_lt long
  rw [if_neg long]
  dsimp only
  cases held : tree.nodeAt? (Path.join path name) with
  | none =>
    have keeps : tree.Keeps (tree.put (Path.join path name) .directory) := keeps_put fun _ => rfl
    refine .inl ⟨⟨short, nofun⟩, _, rfl, keeps, (leads.keeps keeps).join isName short ?_, fun other away => ?_⟩
    · rw [nodeAt?_put, if_pos rfl]
      split <;> rfl
    · rw [nodeAt?_put, if_neg away]
      unfold nodeAt?
      split <;> simp_all
  | some node =>
    cases node with
    | directory => exact .inl ⟨⟨short, nofun⟩, _, rfl, .refl tree, leads.join isName short held, fun _ _ => rfl⟩
    | file bytes executable => exact .inr ⟨.inr ⟨bytes, executable, rfl⟩, _, rfl⟩

/-- A file is written unless its path is too long or a directory is in its place. -/
theorem Leads.writeBytes_cases (leads : tree.Leads path) (isName : Path.IsName name) (bytes : ByteArray) :
    (((Path.join path name).utf8ByteSize ≤ pathLimit ∧ tree.nodeAt? (Path.join path name) ≠ some .directory) ∧
      ∃ after, tree.writeBytes (Path.join path name) bytes = .ok after ∧ tree.Keeps after ∧
        ∃ executable, after.look (Path.join path name) = .ok (some (.file bytes executable))) ∨
    ((pathLimit < (Path.join path name).utf8ByteSize ∨ tree.nodeAt? (Path.join path name) = some .directory) ∧
      ∃ cause, tree.writeBytes (Path.join path name) bytes = .error cause) := by
  unfold writeBytes
  rw [leads.noNull_join isName, leads.placeFor_join isName, if_neg Bool.false_ne_true]
  by_cases long : pathLimit < (Path.join path name).utf8ByteSize
  · rw [if_pos long]
    exact .inr ⟨.inl long, _, rfl⟩
  have short := Nat.le_of_not_lt long
  have written (executable : Bool) (other : tree.nodeAt? (Path.join path name) ≠ some .directory) :
      tree.Keeps (tree.put (Path.join path name) (.file bytes executable)) ∧
        (tree.put (Path.join path name) (.file bytes executable)).look (Path.join path name) =
          .ok (some (.file bytes executable)) := by
    have keeps : tree.Keeps (tree.put (Path.join path name) (.file bytes executable)) :=
      keeps_put fun stands => absurd stands other
    have below : Path.join path name ≠ "/" := fun root => other (by rw [root]; rfl)
    refine ⟨keeps, ?_⟩
    rw [(leads.keeps keeps).look_join isName short, nodeAt?_put, if_neg below, if_pos rfl]
  rw [if_neg long]
  dsimp only
  cases held : tree.nodeAt? (Path.join path name) with
  | none =>
    obtain ⟨keeps, stands⟩ := written false (by simp [held])
    exact .inl ⟨⟨short, nofun⟩, _, rfl, keeps, false, stands⟩
  | some node =>
    cases node with
    | directory => exact .inr ⟨.inr rfl, _, rfl⟩
    | file old executable =>
      obtain ⟨keeps, stands⟩ := written executable (by simp [held])
      exact .inl ⟨⟨short, nofun⟩, _, rfl, keeps, executable, stands⟩

end Below

end FileTree

end CodeGraph
