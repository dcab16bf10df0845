import CodeGraph.Files.Path
import Mathlib.Logic.Basic

namespace CodeGraph

namespace Text

theorem splitAt_eq_splitOn (c : Char) (chars : List Char) : splitAt c chars = chars.splitOn c := by
  induction chars with
  | nil => rfl
  | cons d rest ih =>
    rw [splitAt, ih, List.splitOn_cons_eq_if_modifyHead]
    split
    · rfl
    · cases pieces : rest.splitOn c with
      | nil => exact absurd pieces (List.splitOn_ne_nil c rest)
      | cons piece more => rfl

theorem not_mem_of_mem_splitOn {c : Char} {chars piece : List Char} (member : piece ∈ chars.splitOn c) :
    c ∉ piece := by
  induction chars generalizing piece with
  | nil =>
    rw [List.splitOn_nil, List.mem_singleton] at member
    simp [member]
  | cons d rest ih =>
    rw [List.splitOn_cons_eq_if_modifyHead] at member
    split at member
    · rcases List.mem_cons.mp member with rfl | later
      · exact List.not_mem_nil
      · exact ih later
    · rename_i other
      cases pieces : rest.splitOn c with
      | nil => exact absurd pieces (List.splitOn_ne_nil c rest)
      | cons first more =>
        rw [pieces] at member ih
        rcases List.mem_cons.mp member with rfl | later
        · have fresh := ih List.mem_cons_self
          rw [List.mem_cons]
          rintro (rfl | inFirst)
          · exact other BEq.rfl
          · exact fresh inFirst
        · exact ih (List.mem_cons_of_mem _ later)

/-- Leaving out pieces leaves out characters. -/
theorem intercalate_sublist (separator : List Char) {pieces kept : List (List Char)}
    (sub : kept.Sublist pieces) :
    (separator.intercalate kept).Sublist (separator.intercalate pieces) := by
  induction sub with
  | slnil => exact .slnil
  | @cons kept pieces piece sub ih =>
    cases pieces with
    | nil =>
      cases sub
      exact List.nil_sublist _
    | cons next more =>
      rw [List.intercalate_cons_cons]
      exact ih.trans (List.sublist_append_right _ _)
  | @cons_cons kept pieces piece sub ih =>
    cases kept with
    | nil =>
      cases pieces with
      | nil => exact List.Sublist.refl _
      | cons next more =>
        rw [List.intercalate_cons_cons, List.intercalate_singleton, List.append_assoc]
        exact List.sublist_append_left _ _
    | cons first others =>
      cases pieces with
      | nil => cases sub
      | cons next more =>
        rw [List.intercalate_cons_cons, List.intercalate_cons_cons]
        exact List.Sublist.append (List.Sublist.refl _) ih

end Text

namespace Path

/-- A part of a path in normal form. -/
structure IsPart (part : String) : Prop where
  nonempty : part ≠ ""
  noDot : part ≠ "."
  noSlash : '/' ∉ part.toList

/-- What a path in normal form begins with. -/
def IsRoot (root : String) : Prop :=
  root = "" ∨ root = "/" ∨ root = "//"

/-- The parts that characters of a path stand for. -/
def partsOf (chars : List Char) : List String :=
  ((chars.splitOn '/').map String.ofList).filter fun part => part != "" && part != "."

/-- The characters of parts with a slash between them. -/
def charsOf (parts : List String) : List Char :=
  ['/'].intercalate (parts.map String.toList)

theorem split_snd (path : String) : (split path).2 = partsOf path.toList := by
  simp only [split, partsOf, Text.splitAt_eq_splitOn]

theorem split_isRoot (path : String) : IsRoot (split path).1 := by
  unfold split IsRoot
  dsimp only
  repeat' split
  all_goals simp

theorem isAbsolute_iff {path : String} : isAbsolute path = true ↔ ∃ rest, path.toList = '/' :: rest := by
  unfold isAbsolute
  cases path.toList with
  | nil => simp
  | cons c rest => simp

theorem split_fst_eq_empty {path : String} : (split path).1 = "" ↔ isAbsolute path = false := by
  unfold split isAbsolute
  dsimp only
  cases chars : path.toList with
  | nil => simp
  | cons c rest =>
    by_cases slash : c = '/'
    · subst slash
      simp only [List.takeWhile_cons_of_pos, BEq.rfl, List.length_cons]
      rw [if_neg (by omega)]
      split <;> simp
    · simp [slash]

theorem isPart_of_mem_partsOf {chars : List Char} {part : String} (member : part ∈ partsOf chars) :
    IsPart part := by
  obtain ⟨among, kept⟩ := List.mem_filter.mp member
  obtain ⟨piece, inPieces, rfl⟩ := List.mem_map.mp among
  obtain ⟨nonempty, noDot⟩ : String.ofList piece ≠ "" ∧ String.ofList piece ≠ "." := by
    simpa [-String.ofList_eq_empty_iff] using kept
  refine ⟨nonempty, noDot, ?_⟩
  rw [String.toList_ofList]
  exact Text.not_mem_of_mem_splitOn inPieces

theorem partsOf_slash (chars : List Char) : partsOf ('/' :: chars) = partsOf chars := by
  unfold partsOf
  rw [List.splitOn_cons_eq_if_modifyHead]
  simp

theorem partsOf_slashes (slashes rest : List Char) (all : ∀ c ∈ slashes, c = '/') :
    partsOf (slashes ++ rest) = partsOf rest := by
  induction slashes with
  | nil => rfl
  | cons c more ih =>
    obtain ⟨rfl, others⟩ := List.forall_mem_cons.mp all
    rw [List.cons_append, partsOf_slash, ih others]

theorem partsOf_charsOf {parts : List String} (all : ∀ part ∈ parts, IsPart part) :
    partsOf (charsOf parts) = parts := by
  by_cases none : parts = []
  · subst none
    decide
  · unfold partsOf charsOf
    rw [List.splitOn_intercalate]
    · simp only [List.map_map, Function.comp_def, String.ofList_toList, List.map_id']
      exact List.filter_eq_self.mpr fun part member => by
        simp [(all part member).nonempty, (all part member).noDot]
    · intro piece member
      obtain ⟨part, among, rfl⟩ := List.mem_map.mp member
      exact (all part among).noSlash
    · simpa using none

theorem charsOf_partsOf_sublist (chars : List Char) : (charsOf (partsOf chars)).Sublist chars := by
  have pieces : ((partsOf chars).map String.toList).Sublist (chars.splitOn '/') := by
    have sub := (List.filter_sublist (p := fun part => part != "" && part != ".")
      (l := (chars.splitOn '/').map String.ofList)).map String.toList
    simp only [List.map_map, Function.comp_def, String.toList_ofList, List.map_id'] at sub
    exact sub
  have whole := Text.intercalate_sublist ['/'] pieces
  rwa [List.intercalate_splitOn] at whole

theorem toList_build {root : String} {parts : List String} (some : root ≠ "" ∨ parts ≠ []) :
    (build root parts).toList = root.toList ++ charsOf parts := by
  unfold build
  rw [if_neg]
  · rw [String.toList_append, String.toList_intercalate]
    rfl
  · simp only [Bool.and_eq_true, beq_iff_eq, List.isEmpty_iff]
    rintro ⟨noRoot, noPart⟩
    exact some.elim (· noRoot) (· noPart)

theorem takeWhile_charsOf {parts : List String} (all : ∀ part ∈ parts, IsPart part) :
    (charsOf parts).takeWhile (· == '/') = [] := by
  cases parts with
  | nil => rfl
  | cons part more =>
    obtain ⟨c, rest, chars⟩ := List.exists_cons_of_ne_nil
      (fun none => (all part List.mem_cons_self).nonempty (String.toList_eq_nil_iff.mp none))
    have first : c ≠ '/' := by
      rintro rfl
      exact (all part List.mem_cons_self).noSlash (by rw [chars]; exact List.mem_cons_self)
    have start : ∃ others, charsOf (part :: more) = c :: others := by
      unfold charsOf
      cases more with
      | nil => exact ⟨rest, by simp [chars]⟩
      | cons next others => exact ⟨_, by simp [chars, List.intercalate_cons_cons]; rfl⟩
    obtain ⟨others, same⟩ := start
    rw [same, List.takeWhile_cons_of_neg (by simpa using first)]

/-- A path in normal form gives back its root and parts. -/
theorem split_build {root : String} {parts : List String} (isRoot : IsRoot root)
    (all : ∀ part ∈ parts, IsPart part) : split (build root parts) = (root, parts) := by
  by_cases dot : root = "" ∧ parts = []
  · obtain ⟨rfl, rfl⟩ := dot
    decide
  have some : root ≠ "" ∨ parts ≠ [] := not_and_or.mp dot
  have slashes : ∀ c ∈ root.toList, c = '/' := by
    rcases isRoot with rfl | rfl | rfl <;> simp
  have second : (split (build root parts)).2 = parts := by
    rw [split_snd, toList_build some, partsOf_slashes _ _ slashes, partsOf_charsOf all]
  have first : (split (build root parts)).1 = root := by
    have counted : ((build root parts).toList.takeWhile (· == '/')).length = root.toList.length := by
      rw [toList_build some, List.takeWhile_append_of_pos (by simpa using slashes),
        takeWhile_charsOf all, List.append_nil]
    unfold split
    dsimp only
    rw [counted]
    rcases isRoot with rfl | rfl | rfl <;> rfl
  exact Prod.ext first second

theorem normalize_eq (path : String) : normalize path = build (split path).1 (split path).2 :=
  rfl

theorem parts_of_split (path : String) : ∀ part ∈ (split path).2, IsPart part := by
  rw [split_snd]
  exact fun part member => isPart_of_mem_partsOf member

theorem split_normalize (path : String) : split (normalize path) = split path :=
  split_build (split_isRoot path) (parts_of_split path)

theorem normalize_build {root : String} {parts : List String} (isRoot : IsRoot root)
    (all : ∀ part ∈ parts, IsPart part) : normalize (build root parts) = build root parts := by
  rw [normalize_eq, split_build isRoot all]

theorem normalize_normalize (path : String) : normalize (normalize path) = normalize path := by
  rw [normalize_eq, split_normalize, ← normalize_eq]

theorem isAbsolute_normalize (path : String) : isAbsolute (normalize path) = isAbsolute path := by
  rw [Bool.eq_iff_iff, ← not_iff_not, Bool.not_eq_true, Bool.not_eq_true, ← split_fst_eq_empty,
    ← split_fst_eq_empty, split_normalize]

theorem length_root_le (path : String) :
    (split path).1.toList.length ≤ (path.toList.takeWhile (· == '/')).length := by
  unfold split
  dsimp only
  repeat' split
  · simp
  · rename_i two
    rw [two]
    decide
  · rename_i some _
    exact Nat.pos_of_ne_zero some

/-- Only the empty path gets longer in its normal form. -/
theorem length_normalize_le {path : String} (nonempty : path ≠ "") :
    (normalize path).toList.length ≤ path.toList.length := by
  rw [normalize_eq]
  by_cases dot : (split path).1 = "" ∧ (split path).2 = []
  · rw [dot.1, dot.2]
    exact List.length_pos_iff.mpr fun none => nonempty (String.toList_eq_nil_iff.mp none)
  have kept : (charsOf (split path).2).length ≤ (path.toList.dropWhile (· == '/')).length := by
    have whole : partsOf path.toList = partsOf (path.toList.dropWhile (· == '/')) := by
      have slashes : ∀ c ∈ path.toList.takeWhile (· == '/'), c = '/' := fun c member => by
        simpa using List.all_eq_true.mp List.all_takeWhile c member
      have dropped := partsOf_slashes _ (path.toList.dropWhile (· == '/')) slashes
      rwa [List.takeWhile_append_dropWhile] at dropped
    rw [split_snd, whole]
    exact (charsOf_partsOf_sublist _).length_le
  have sum := congrArg List.length (List.takeWhile_append_dropWhile (l := path.toList) (p := (· == '/')))
  have root := length_root_le path
  rw [List.length_append] at sum
  rw [toList_build (not_and_or.mp dot), List.length_append]
  omega

/-- Following ".." only takes parts away. -/
theorem foldl_climb_sublist (parts above : List String) :
    (parts.foldl climb above).Sublist (above ++ parts) := by
  induction parts generalizing above with
  | nil => simp
  | cons part rest ih =>
    refine (ih (climb above part)).trans ?_
    unfold climb
    split
    · exact ((List.dropLast_sublist above).append (.refl rest)).trans
        ((List.Sublist.refl above).append (List.sublist_cons_self part rest))
    · simp only [List.append_assoc, List.singleton_append, List.Sublist.refl]

theorem foldl_climb_noUp (parts above : List String) (noUp : ".." ∉ above) :
    ".." ∉ parts.foldl climb above := by
  induction parts generalizing above with
  | nil => exact noUp
  | cons part rest ih =>
    refine ih _ ?_
    unfold climb
    split
    · exact fun member => noUp ((List.dropLast_sublist above).subset member)
    · rename_i other
      simp only [List.mem_append, List.mem_singleton, not_or]
      exact ⟨noUp, fun same => other (by simp [← same])⟩

theorem foldl_climb_of_noUp (parts above : List String) (noUp : ".." ∉ parts) :
    parts.foldl climb above = above ++ parts := by
  induction parts generalizing above with
  | nil => simp
  | cons part rest ih =>
    rw [List.mem_cons, not_or] at noUp
    rw [List.foldl_cons, ih _ noUp.2, climb, if_neg (by simpa using Ne.symm noUp.1)]
    simp

/-- An absolute path in normal form without "..", which stands for itself. -/
def IsPlace (path : String) : Prop :=
  ∃ parts, path = build "/" parts ∧ (∀ part ∈ parts, IsPart part) ∧ ".." ∉ parts

theorem isPlace_resolve (directory path : String) : IsPlace (resolve directory path) := by
  have all := parts_of_split (join directory path)
  have sub := foldl_climb_sublist (split (join directory path)).2 []
  exact ⟨_, rfl, fun part member => all part (sub.subset member), foldl_climb_noUp _ _ (by simp)⟩

namespace IsPlace

variable {path : String}

theorem toList (place : IsPlace path) : ∃ rest, path.toList = '/' :: rest := by
  obtain ⟨parts, rfl, all, _⟩ := place
  exact ⟨_, toList_build (.inl (by decide))⟩

theorem isAbsolute (place : IsPlace path) : isAbsolute path = true :=
  isAbsolute_iff.mpr place.toList

theorem normalize_eq (place : IsPlace path) : normalize path = path := by
  obtain ⟨parts, rfl, all, _⟩ := place
  exact normalize_build (.inr (.inl rfl)) all

theorem resolve_eq (place : IsPlace path) (directory : String) : resolve directory path = path := by
  have absolute := place.isAbsolute
  have normal := place.normalize_eq
  obtain ⟨parts, rfl, all, noUp⟩ := place
  unfold resolve join
  rw [if_pos absolute, normal, split_build (.inr (.inl rfl)) all]
  dsimp only
  rw [foldl_climb_of_noUp _ _ noUp, List.nil_append]

end IsPlace

/-- No absolute path gets longer when it is resolved. -/
theorem length_resolve_le {path : String} (absolute : isAbsolute path = true) (directory : String) :
    (resolve directory path).toList.length ≤ path.toList.length := by
  have rooted : (split path).1 ≠ "" := fun none => by
    rw [split_fst_eq_empty, absolute] at none
    cases none
  have nonempty : path ≠ "" := by
    rintro rfl
    simp [isAbsolute] at absolute
  have climbed := Text.intercalate_sublist ['/']
    ((foldl_climb_sublist (split path).2 []).map String.toList)
  have root : 0 < (split path).1.toList.length :=
    List.length_pos_iff.mpr fun none => rooted (String.toList_eq_nil_iff.mp none)
  have normal := length_normalize_le nonempty
  rw [normalize_eq, toList_build (.inl rooted), List.length_append] at normal
  unfold resolve join
  rw [if_pos absolute, split_normalize]
  dsimp only
  rw [toList_build (.inl (by decide)), List.length_append]
  have shorter := climbed.length_le
  change (charsOf _).length ≤ (charsOf _).length at shorter
  rw [List.nil_append] at shorter
  have one : ("/" : String).toList.length = 1 := rfl
  omega

end Path

end CodeGraph
