import CodeGraph.Config.Logging
import CodeGraph.Proofs.Files.Changing

namespace CodeGraph

theorem exists_of_bind_ok {ε α β : Type} {first : Except ε α} {further : α → Except ε β} {b : β}
    (done : first >>= further = .ok b) : ∃ a, first = .ok a ∧ further a = .ok b := by
  cases first with
  | error => cases done
  | ok a => exact ⟨a, rfl, done⟩

namespace Path

variable {name : String}

theorem parts_join (base path : String) :
    (split (join base path)).2 = if isAbsolute path then (split path).2 else (split base).2 ++ (split path).2 := by
  unfold join
  split
  · rw [split_normalize]
  · rw [split_build (split_isRoot base)]
    exact List.forall_mem_append.mpr ⟨parts_of_split base, parts_of_split path⟩

theorem split_join_name (path : String) (isPart : IsPart name) :
    split (join path name) = ((split path).1, (split path).2 ++ [name]) := by
  rw [join, if_neg (by simp [isAbsolute_name isPart]), partsOf_name isPart]
  refine split_build (split_isRoot path) (List.forall_mem_append.mpr ⟨parts_of_split path, ?_⟩)
  exact List.forall_mem_singleton.mpr isPart

/-- A name below a path comes last, from wherever the path is seen. -/
theorem parts_join_join (base path : String) (isPart : IsPart name) :
    (split (join base (join path name))).2 = (split (join base path)).2 ++ [name] := by
  have whole := split_join_name path isPart
  have absolute : isAbsolute (join path name) = isAbsolute path := by
    rw [Bool.eq_iff_iff, ← not_iff_not, Bool.not_eq_true, Bool.not_eq_true, ← split_fst_eq_empty, ← split_fst_eq_empty,
      whole]
  rw [parts_join base (join path name), parts_join base path, absolute, whole]
  split
  · rfl
  · exact (List.append_assoc ..).symm

end Path

namespace FileTree

variable {tree middle after : FileTree} {path place name : String} {bytes : ByteArray}

/-- All that stands in a tree stands in another one, too. -/
structure Grows (tree after : FileTree) : Prop where
  working : after.workingDirectory = tree.workingDirectory
  nodes : ∀ place node, tree.nodeAt? place = some node → after.nodeAt? place = some node

theorem Grows.refl (tree : FileTree) : tree.Grows tree :=
  ⟨rfl, fun _ _ stands => stands⟩

theorem Grows.trans (first : tree.Grows middle) (second : middle.Grows after) : tree.Grows after :=
  ⟨second.working.trans first.working, fun place node stands => second.nodes place node (first.nodes place node stands)⟩

theorem Grows.keeps (grows : tree.Grows after) : tree.Keeps after :=
  fun place => grows.nodes place .directory

theorem Grows.find? {node : FileNode} (grows : tree.Grows after) (found : tree.find? path = some node) :
    after.find? path = some node := by
  obtain ⟨place, located, stands⟩ := Option.bind_eq_some_iff.mp found
  rw [FileTree.find?, grows.keeps.locate? grows.working located, Option.bind_some]
  exact grows.nodes place node stands

theorem bytes?_eq_some_iff :
    tree.bytes? path = some bytes ↔ ∃ executable, tree.find? path = some (.file bytes executable) := by
  unfold bytes?
  rcases tree.find? path with _ | _ | ⟨held, executable⟩ <;> simp

theorem Grows.bytes? (grows : tree.Grows after) (holds : tree.bytes? path = some bytes) :
    after.bytes? path = some bytes := by
  rw [bytes?_eq_some_iff] at holds ⊢
  exact holds.imp fun _ found => grows.find? found

theorem grows_put {node : FileNode} (free : ∀ held, tree.nodeAt? place = some held → held = node) :
    tree.Grows (tree.put place node) := by
  refine ⟨rfl, fun other held stands => ?_⟩
  rw [nodeAt?_put]
  split
  · rename_i root
    rwa [root, nodeAt?, if_pos (by decide)] at stands
  split
  · rename_i same
    rw [free held (same ▸ stands)]
  · exact stands

theorem locate?_of_placeFor (placed : tree.placeFor path = .ok place) : tree.locate? path = some place := by
  unfold placeFor at placed
  split at placed
  · rename_i found located
    split at placed
    · cases placed
    · rw [located, Except.ok.inj placed]
  · cases placed

theorem makeDirectory_grows (made : tree.makeDirectory path = .ok after) :
    tree.Grows after ∧ after.find? path = some .directory := by
  unfold makeDirectory at made
  split at made
  · cases made
  split at made
  · cases made
  rename_i place placed
  have located := locate?_of_placeFor placed
  split at made
  · rename_i stands
    cases made
    refine ⟨.refl tree, ?_⟩
    rw [find?, located, Option.bind_some, stands]
  · cases made
  · rename_i free
    cases made
    have grows : tree.Grows (tree.put place .directory) := grows_put (by simp [free])
    refine ⟨grows, ?_⟩
    rw [find?, grows.keeps.locate? grows.working located, Option.bind_some, nodeAt?_put]
    split
    · rfl
    · rw [if_pos rfl]

theorem foldlM_makeDirectory_grows {paths : List String} (made : paths.foldlM makeDirectory tree = .ok after) :
    tree.Grows after := by
  induction paths generalizing tree with
  | nil =>
    cases made
    exact .refl _
  | cons path paths ih =>
    rw [List.foldlM_cons] at made
    obtain ⟨next, first, made⟩ := exists_of_bind_ok made
    exact (makeDirectory_grows first).1.trans (ih made)

theorem makeDirectories_grows (made : tree.makeDirectories path = .ok after) :
    tree.Grows after ∧ after.find? path = some .directory := by
  unfold makeDirectories at made
  split at made
  · obtain ⟨next, above, made⟩ := exists_of_bind_ok made
    obtain ⟨grows, stands⟩ := makeDirectory_grows made
    exact ⟨(foldlM_makeDirectory_grows above).trans grows, stands⟩
  · exact makeDirectory_grows made

theorem walk?_climb {place parts found : List String} (walks : tree.walk? place parts = some found) :
    found = parts.foldl Path.climb place := by
  induction parts generalizing place with
  | nil => exact (Option.some.inj walks).symm
  | cons part parts ih =>
    rw [walk?] at walks
    split at walks
    · exact ih walks
    · cases walks

/-- A path that leads anywhere leads where it is resolved to. -/
theorem locate?_resolve (located : tree.locate? path = some place) :
    place = Path.resolve tree.workingDirectory path := by
  obtain ⟨found, walks, rfl⟩ := Option.map_eq_some_iff.mp located
  rw [walk?_climb walks]
  rfl

/-- A name in a directory leads somewhere, whether something stands there or not. -/
theorem locate?_join_of_directory (stands : tree.find? path = some .directory) (isPart : Path.IsPart name) :
    ∃ place, tree.locate? (Path.join path name) = some place := by
  obtain ⟨place, located, directory⟩ := Option.bind_eq_some_iff.mp stands
  obtain ⟨found, walks, rfl⟩ := Option.map_eq_some_iff.mp located
  have last : tree.walk? found [name] = some (Path.climb found name) := by
    rw [walk?, directory]
    rfl
  rw [locate?, Path.parts_join_join _ _ isPart, walk?_append, walks, Option.bind_some, last]
  exact ⟨_, rfl⟩

/-- Bytes that a file has already are written without a change to any file. -/
theorem writeBytes_grows (leads : tree.locate? path = some place)
    (written : tree.writeBytes (Path.resolve tree.workingDirectory path) ((tree.bytes? path).getD .empty) = .ok after) :
    tree.Grows after := by
  unfold writeBytes at written
  split at written
  · cases written
  split at written
  · cases written
  rename_i target placed
  have same : target = place := by
    rw [locate?_place (Path.isPlace_resolve _ _) (locate?_of_placeFor placed), locate?_resolve leads]
  subst same
  split at written
  · cases written
  · rename_i held executable stands
    cases written
    have holds : tree.bytes? path = some held :=
      bytes?_eq_some_iff.mpr ⟨executable, by rw [find?, leads, Option.bind_some, stands]⟩
    rw [holds]
    exact grows_put (by simp [stands])
  · rename_i free
    cases written
    exact grows_put (by simp [free])

end FileTree

/-- Where the log is opened, every file that there was can be read as before. -/
theorem Logging.openFile_bytes? {settings : GlobalSettings} {tree after : FileTree} {log : Option String}
    {path : String} {bytes : ByteArray} (opened : Logging.openFile settings tree = .ok (log, after))
    (holds : tree.bytes? path = some bytes) : after.bytes? path = some bytes := by
  unfold openFile at opened
  split at opened
  · cases opened
    exact holds
  · obtain ⟨next, made, opened⟩ := exists_of_bind_ok opened
    obtain ⟨last, written, opened⟩ := exists_of_bind_ok opened
    obtain ⟨-, rfl⟩ := Prod.mk.inj (Except.ok.inj opened)
    obtain ⟨grows, stands⟩ := FileTree.makeDirectories_grows made
    have isPart : Path.IsPart "repo-graph.log" := ⟨by decide, by decide, by decide⟩
    obtain ⟨place, leads⟩ := FileTree.locate?_join_of_directory stands isPart
    exact (grows.trans (FileTree.writeBytes_grows leads written)).bytes? holds

end CodeGraph
