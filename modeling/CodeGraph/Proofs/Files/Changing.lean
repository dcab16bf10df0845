import CodeGraph.Proofs.Files.Below
import Mathlib.Data.List.Induction

namespace CodeGraph

namespace Path

variable {path other name last : String}

/-- Names below two places tell them apart. -/
theorem join_ne (place : IsPlace path) (otherPlace : IsPlace other) (isName : IsName name)
    (isLast : IsName last) (away : name ≠ last) : join path name ≠ join other last := by
  obtain ⟨parts, rfl, all, -⟩ := place
  obtain ⟨others, rfl, allOthers, -⟩ := otherPlace
  rw [join_build all isName.part, join_build allOthers isLast.part]
  have whole (parts : List String) (name : String) (all : ∀ part ∈ parts, IsPart part) (isName : IsName name) :
      (split (build "/" (parts ++ [name]))).2 = parts ++ [name] := by
    rw [split_build (.inr (.inl rfl)) (List.forall_mem_append.mpr ⟨all, by simpa using isName.part⟩)]
  intro same
  have lists := congrArg (fun path => (split path).2) same
  simp only [whole parts name all isName, whole others last allOthers isLast] at lists
  exact away (by simpa using (List.append_inj' lists rfl).2)

theorem join_ne_self (place : IsPlace path) (isName : IsName name) : join path name ≠ path := fun same =>
  (Nat.ne_of_lt (utf8ByteSize_lt_join place isName)) (congrArg String.utf8ByteSize same).symm

/-- The text of a path begins with the texts of the paths above it. -/
theorem build_append (parts more : List String) : ∃ rest : String,
    build "/" (parts ++ more) = build "/" parts ++ rest := by
  induction more using List.reverseRecOn with
  | nil => exact ⟨"", by simp⟩
  | append_singleton more name ih =>
    obtain ⟨rest, same⟩ := ih
    have chars (parts : List String) : (build "/" parts).toList = '/' :: charsOf parts :=
      toList_build (.inl (by decide))
    by_cases none : parts ++ more = []
    · obtain ⟨rfl, rfl⟩ := List.append_eq_nil_iff.mp none
      refine ⟨name, String.toList_inj.mp ?_⟩
      rw [String.toList_append, chars, chars]
      simp [charsOf]
    · refine ⟨rest ++ "/" ++ name, String.toList_inj.mp ?_⟩
      rw [← List.append_assoc, chars, charsOf_concat none, ← List.cons_append, ← chars, same]
      simp

theorem IsPlace.above (place : IsPlace path) : ∀ other ∈ path :: ancestors path, IsPlace other := by
  refine List.forall_mem_cons.mpr ⟨place, fun other member => ?_⟩
  obtain ⟨parts, rfl, all, noUp⟩ := place
  rw [ancestors, split_build (.inr (.inl rfl)) all] at member
  obtain ⟨n, -, rfl⟩ := List.mem_map.mp member
  exact ⟨parts.take n, rfl, fun part among => all part (List.mem_of_mem_take among),
    fun among => noUp (List.mem_of_mem_take among)⟩

end Path

namespace FileTree

variable {tree after : FileTree} {path name : String}

/-- Where paths lead depends on directories only. -/
theorem walk?_congr
    (same : ∀ place, after.nodeAt? place = some .directory ↔ tree.nodeAt? place = some .directory)
    (place parts : List String) : after.walk? place parts = tree.walk? place parts := by
  induction parts generalizing place with
  | nil => rfl
  | cons part parts ih =>
    rw [walk?, walk?, ih]
    by_cases stands : tree.nodeAt? (Path.build "/" place) = some .directory
    · rw [stands, (same _).mpr stands]
    · have gone : ¬ after.nodeAt? (Path.build "/" place) = some .directory := fun there =>
        stands ((same _).mp there)
      rw [if_neg (by simpa using gone), if_neg (by simpa using stands)]

theorem locate?_congr (working : after.workingDirectory = tree.workingDirectory)
    (same : ∀ place, after.nodeAt? place = some .directory ↔ tree.nodeAt? place = some .directory)
    (path : String) : after.locate? path = tree.locate? path := by
  rw [locate?, locate?, working, walk?_congr same]

theorem Keeps.locate? (keeps : tree.Keeps after) (working : after.workingDirectory = tree.workingDirectory)
    {place : String} (located : tree.locate? path = some place) : after.locate? path = some place := by
  rw [FileTree.locate?] at located ⊢
  obtain ⟨parts, walks, rfl⟩ := Option.map_eq_some_iff.mp located
  rw [working, keeps.walk? walks, Option.map_some]

theorem lookup_erase (nodes : List (String × FileNode)) (path other : String) :
    (nodes.filter fun entry => entry.1 != path).lookup other =
      if other = path then none else nodes.lookup other := by
  induction nodes with
  | nil => simp
  | cons entry nodes ih =>
    rw [lookup_cons]
    by_cases here : entry.1 = path
    · rw [List.filter_cons_of_neg (by simpa using here), ih, here]
      split <;> rfl
    · rw [List.filter_cons_of_pos (by simpa using here), lookup_cons, ih]
      by_cases same : other = path
      · rw [if_neg (same ▸ Ne.symm here), if_pos same, if_pos same]
      · rw [if_neg same, if_neg same]

theorem nodeAt?_remove {place : String} (located : tree.locate? path = some place) (other : String) :
    (tree.remove path).nodeAt? other =
      if other = "/" then some .directory else if other = place then none else tree.nodeAt? other := by
  unfold remove nodeAt?
  rw [located]
  dsimp only
  rw [lookup_erase]
  by_cases root : other = "/"
  · simp [root]
  · simp [root]

/-- Directories on the way to one that can be followed can be followed, too. -/
theorem Follows.front {parts more : List String} (follows : tree.Follows (parts ++ more)) :
    tree.Follows parts := by
  obtain ⟨rest, longer⟩ := Path.build_append parts more
  have walks := follows.walks
  have noNull := follows.noNull
  have short := follows.short
  have noUp : ".." ∉ parts := fun member => follows.noUp (List.mem_append_left _ member)
  rw [walk?_append] at walks
  obtain ⟨found, walksTo, last⟩ := Option.bind_eq_some_iff.mp walks
  obtain rfl : found = parts := walk?_noUp noUp walksTo
  rw [longer, String.toList_append, List.mem_append, not_or] at noNull
  rw [longer, String.utf8ByteSize_append] at short
  refine ⟨fun part member => follows.all part (List.mem_append_left _ member), noUp, walksTo, ?_,
    fun part member => follows.names part (List.mem_append_left _ member), by omega, noNull.1⟩
  cases more with
  | nil => exact List.append_nil found ▸ follows.stands
  | cons part more =>
    rw [walk?] at last
    split at last
    · rename_i stands
      exact beq_iff_eq.mp stands
    · contradiction

/-- A place leads to itself, if it leads anywhere. -/
theorem locate?_place {place : String} (isPlace : Path.IsPlace path)
    (located : tree.locate? path = some place) : place = path := by
  obtain ⟨parts, rfl, all, noUp⟩ := isPlace
  rw [locate?_build tree all] at located
  obtain ⟨found, walks, rfl⟩ := Option.map_eq_some_iff.mp located
  rw [walk?_noUp noUp walks, List.nil_append]

/-- All directories above one that can be followed can be followed. -/
theorem Leads.above (leads : tree.Leads path) : ∀ other ∈ path :: Path.ancestors path, tree.Leads other := by
  refine List.forall_mem_cons.mpr ⟨leads, fun other member => ?_⟩
  obtain ⟨parts, rfl, follows⟩ := leads.follows
  rw [Path.ancestors, Path.split_build (.inr (.inl rfl)) follows.all] at member
  obtain ⟨n, -, rfl⟩ := List.mem_map.mp member
  have whole : tree.Follows (parts.take n ++ parts.drop n) := by rwa [List.take_append_drop]
  exact whole.front.leads

theorem Leads.look_join_eq (leads : tree.Leads path) (isName : Path.IsName name) :
    tree.look (Path.join path name) =
      if pathLimit < (Path.join path name).utf8ByteSize then .error (.nameTooLong (Path.join path name))
      else .ok (tree.nodeAt? (Path.join path name)) := by
  obtain ⟨located, fits⟩ := leads.locate?_join isName
  unfold look find?
  rw [leads.noNull_join isName, fits, located]
  simp

/-- There is nothing above a name in a directory that would have to be made. -/
theorem Leads.makeDirectories_join (leads : tree.Leads path) (isName : Path.IsName name) :
    tree.makeDirectories (Path.join path name) = tree.makeDirectory (Path.join path name) := by
  unfold makeDirectories
  split
  · rename_i missing
    unfold makeDirectory at missing
    rw [leads.noNull_join isName, leads.placeFor_join isName, if_neg Bool.false_ne_true] at missing
    by_cases long : pathLimit < (Path.join path name).utf8ByteSize
    · rw [if_pos long] at missing
      cases missing
    · rw [if_neg long] at missing
      dsimp only at missing
      split at missing <;> cases missing
  · rfl

theorem firstDirectory?_congr {paths : List String} (same : ∀ path ∈ paths, after.look path = tree.look path) :
    after.firstDirectory? paths = tree.firstDirectory? paths := by
  induction paths with
  | nil => rfl
  | cons path rest ih =>
    obtain ⟨first, others⟩ := List.forall_mem_cons.mp same
    rw [firstDirectory?, firstDirectory?, first, ih others]

theorem firstDirectory?_some {paths : List String} {found : String}
    (first : tree.firstDirectory? paths = .ok (some found)) :
    found ∈ paths ∧ tree.look found = .ok (some .directory) := by
  induction paths with
  | nil => cases first
  | cons path rest ih =>
    rw [firstDirectory?] at first
    cases looks : tree.look path with
    | error cause =>
      rw [looks] at first
      cases first
    | ok node =>
      rw [looks] at first
      by_cases directory : node = some .directory
      · subst directory
        cases first
        exact ⟨List.mem_cons_self, looks⟩
      · have later : tree.firstDirectory? rest = .ok (some found) := by
          rcases node with _ | _ | _
          · exact first
          · exact absurd rfl directory
          · exact first
        obtain ⟨member, stands⟩ := ih later
        exact ⟨List.mem_cons_of_mem _ member, stands⟩

end FileTree

end CodeGraph
