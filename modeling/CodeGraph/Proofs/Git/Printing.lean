import CodeGraph.Proofs.Git.Joining
import CodeGraph.Proofs.Text.Trimming
import Mathlib.Data.List.DropRight

namespace CodeGraph.ChangedFiles

open Text

/-- A path as it can be printed: not empty, without tabs and line feeds. -/
structure ListedPath where
  text : String
  some : text ≠ ""
  tabless : '\t' ∉ text.toList
  feedless : '\n' ∉ text.toList

/-- How alike two files are, in digits or any characters other than blanks. -/
abbrev Score := { score : List Char // ∀ c ∈ score, isBlank c = false }

/-- What can happen to a file that keeps its path. -/
inductive Status where
  | added
  | modified
  | retyped
  | deleted

def Status.letter : Status → Char
  | .added => 'A'
  | .modified => 'M'
  | .retyped => 'T'
  | .deleted => 'D'

/-- A changed file. -/
inductive Change where
  | plain (status : Status) (path : ListedPath)
  | renamed (score : Score) (old new : ListedPath)
  | copied (score : Score) (old new : ListedPath)

namespace Change

def status : Change → List Char
  | plain status _ => [status.letter]
  | renamed score _ _ => 'R' :: score.val
  | copied score _ _ => 'C' :: score.val

def paths : Change → List ListedPath
  | plain _ path => [path]
  | renamed _ old new | copied _ old new => [old, new]

/-- The fields that are printed for a change. -/
def fields (change : Change) : List (List Char) :=
  change.status :: change.paths.map (·.text.toList)

def line (change : Change) : List Char :=
  ['\t'].intercalate change.fields

def addedPath? : Change → Option String
  | plain .added path | renamed _ _ path | copied _ _ path => some path.text
  | _ => none

def modifiedPath? : Change → Option String
  | plain .modified path | plain .retyped path => some path.text
  | _ => none

def deletedPath? : Change → Option String
  | plain .deleted path | renamed _ path _ => some path.text
  | _ => none

/-- The paths that a change counts for. -/
def files (change : Change) : ChangedFiles :=
  ⟨change.addedPath?.toList, change.modifiedPath?.toList, change.deletedPath?.toList⟩

end Change

/-- The output for changed files, a line for each. -/
def print (changes : List Change) : String :=
  String.ofList (changes.flatMap fun change => change.line ++ ['\n'])

/-- What printed changes should be read as. -/
def listed (changes : List Change) : ChangedFiles :=
  ⟨changes.filterMap (·.addedPath?), changes.filterMap (·.modifiedPath?), changes.filterMap (·.deletedPath?)⟩

def isWhole (path : String) : Bool :=
  path.toList.all (!isLineEnd ·)

/-- What stands behind the last line end of a text. -/
def lastLine (text : List Char) : List Char :=
  text.rtakeWhile (!isLineEnd ·)

/-- Whether a printed change is read as what it is. For a copy only the new path counts, and the end of a broken old
path can pass for the status of an added file. -/
def Change.isKept : Change → Bool
  | plain _ path => isWhole path.text
  | renamed _ old new => isWhole old.text && isWhole new.text
  | copied _ old new => isWhole new.text &&
      (isWhole old.text || (trimChars isBlank (lastLine old.text.toList)).head? == some 'A')

section

variable {line text status score path new rest : List Char} {more lines : List (List Char)} {c : Char} {file : String}
  {change : Change} {changes : List Change}

theorem isBlank_of_isLineEnd (ends : isLineEnd c = true) : isBlank c = true := by
  simp only [isLineEnd, isBlank, isWhiteSpace, Bool.or_eq_true, Bool.and_eq_true, decide_eq_true_eq,
    beq_iff_eq] at ends ⊢
  omega

theorem isWhole_iff : isWhole file = true ↔ ∀ c ∈ file.toList, isLineEnd c = false := by
  simp [isWhole]

theorem listed_cons (change : Change) (changes : List Change) :
    listed (change :: changes) = change.files ++ listed changes := by
  have each : ∀ get : Change → Option String,
      (change :: changes).filterMap get = (get change).toList ++ changes.filterMap get := by
    intro get
    rw [List.filterMap_cons]
    cases get change <;> rfl
  apply ext_fields <;> exact each _

theorem ofNameStatus_print_cons (change : Change) (changes : List Change) :
    ofNameStatus (print (change :: changes)) = ofChars change.line ++ ofNameStatus (print changes) := by
  rw [ofNameStatus_eq, ofNameStatus_eq, print, print, String.toList_ofList, String.toList_ofList, List.flatMap_cons,
    List.append_assoc, List.singleton_append, ofChars_feed]

/-- A path that is read stands in one of the lines. -/
theorem exists_line_of_mem (member : file ∈ (ofLines lines).all) : ∃ line ∈ lines, file ∈ (ofLine line).all := by
  induction lines with
  | nil => nomatch member
  | cons line lines ih =>
    rw [ofLines_cons, mem_all_append] at member
    rcases member with here | later
    · exact ⟨line, List.mem_cons_self, here⟩
    · obtain ⟨other, among, read⟩ := ih later
      exact ⟨other, List.mem_cons_of_mem _ among, read⟩

theorem toList_mem_of_mem (member : file ∈ (ofFields status path more).all) : file.toList ∈ path :: more := by
  have here : file = String.ofList path → file.toList ∈ path :: more := by
    rintro rfl
    rw [String.toList_ofList]
    exact List.mem_cons_self
  have later : file ∈ (more.head?.filter (!·.isEmpty)).toList.map String.ofList → file.toList ∈ path :: more := by
    intro among
    obtain ⟨new, given, rfl⟩ := List.mem_map.mp among
    rw [String.toList_ofList]
    exact List.mem_cons_of_mem _ (List.mem_of_head? (Option.mem_filter_iff.mp (Option.mem_toList.mp given)).1)
  rw [ofFields] at member
  split at member
  · cases member
  · split at member <;> simp only [all, List.nil_append, List.append_nil, List.mem_append, List.mem_singleton] at member
    · exact here member
    · exact here member
    · exact here member
    · exact here member
    · exact member.elim later here
    · exact later member
    · cases member

theorem toList_subset_of_mem (member : file ∈ (ofLine line).all) : file.toList ⊆ line := by
  have field : ∀ piece ∈ line.splitOn '\t', piece ⊆ line := by
    intro piece among
    have sub := intercalate_sublist ['\t'] (List.singleton_sublist.mpr among)
    rw [List.intercalate_splitOn, List.intercalate_singleton] at sub
    exact sub.subset
  cases fields : line.splitOn '\t' with
  | nil => exact absurd fields (List.splitOn_ne_nil '\t' line)
  | cons status others =>
    cases others with
    | nil =>
      rw [ofLine, splitAt_eq_splitOn, fields] at member
      cases member
    | cons path more =>
      rw [ofLine_fields fields] at member
      exact field _ (fields ▸ List.mem_cons_of_mem _ (toList_mem_of_mem member))

/-- No path is read that holds a line end. -/
theorem isWhole_of_mem (member : file ∈ (ofChars text).all) : isWhole file = true := by
  obtain ⟨line, among, read⟩ := exists_line_of_mem member
  have inner := whole_of_mem_linesFrom (List.forall_mem_nil _) among
  exact isWhole_iff.mpr fun c within => inner c (toList_subset_of_mem read within)

/-- Trimming keeps the letter of a status. -/
theorem head?_trimChars (bare : isBlank c = false) : (trimChars isBlank (c :: score)).head? = some c := by
  obtain ⟨more, trimmed⟩ := exists_trimChars_cons bare score
  rw [trimmed]
  rfl

theorem isLineEnd_eq_false (bare : isBlank c = false) : isLineEnd c = false :=
  Bool.eq_false_iff.mpr fun ends => Bool.false_ne_true (bare.symm.trans (isBlank_of_isLineEnd ends))

theorem tab_not_mem (bare : ∀ c ∈ status, isBlank c = false) : '\t' ∉ status := fun tab =>
  Bool.false_ne_true (bare _ tab).symm

theorem Status.bare_letter (status : Status) : isBlank status.letter = false := by
  cases status <;> rfl

theorem Change.bare_status (change : Change) : ∀ c ∈ change.status, isBlank c = false := by
  cases change with
  | plain status path => exact List.forall_mem_singleton.mpr status.bare_letter
  | renamed score old new => exact List.forall_mem_cons.mpr ⟨rfl, score.property⟩
  | copied score old new => exact List.forall_mem_cons.mpr ⟨rfl, score.property⟩

theorem Change.tab_not_mem_fields (change : Change) : ∀ field ∈ change.fields, '\t' ∉ field :=
  List.forall_mem_cons.mpr ⟨tab_not_mem change.bare_status, List.forall_mem_map.mpr fun path _ => path.tabless⟩

theorem Change.splitOn_line (change : Change) : change.line.splitOn '\t' = change.fields := by
  exact List.splitOn_intercalate '\t' change.tab_not_mem_fields (List.cons_ne_nil _ _)

theorem ListedPath.toList_ne_nil (path : ListedPath) : path.text.toList ≠ [] := by
  simpa using path.some

/-- The line of a change, taken as a whole, tells what the change is. -/
theorem Change.ofLine_line (change : Change) : ofLine change.line = change.files := by
  have fields := change.splitOn_line
  cases change with
  | plain status path =>
    change _ = [[status.letter], path.text.toList] at fields
    rw [ofLine_fields fields, ofFields, head?_trimChars status.bare_letter]
    cases status <;> simp [path.toList_ne_nil, Status.letter, Change.files, addedPath?, modifiedPath?, deletedPath?]
  | renamed score old new =>
    change _ = ['R' :: score.val, old.text.toList, new.text.toList] at fields
    rw [ofLine_fields fields, ofFields, head?_trimChars rfl]
    simp [old.toList_ne_nil, new.toList_ne_nil, Change.files, addedPath?, modifiedPath?, deletedPath?]
  | copied score old new =>
    change _ = ['C' :: score.val, old.text.toList, new.text.toList] at fields
    rw [ofLine_fields fields, ofFields, head?_trimChars rfl]
    simp [old.toList_ne_nil, new.toList_ne_nil, Change.files, addedPath?, modifiedPath?, deletedPath?]

theorem exists_break (broken : ¬ ∀ c ∈ text, isLineEnd c = false) :
    ∃ front c, isLineEnd c = true ∧ text = front ++ c :: lastLine text := by
  have parts := List.rdropWhile_append_rtakeWhile (p := fun c => !isLineEnd c) (l := text)
  have some : text.rdropWhile (!isLineEnd ·) ≠ [] := fun none =>
    broken fun c member => by simpa using List.rdropWhile_eq_nil_iff.mp none c member
  refine ⟨(text.rdropWhile (!isLineEnd ·)).dropLast, (text.rdropWhile (!isLineEnd ·)).getLast some, ?_, ?_⟩
  · simpa using List.rdropWhile_last_not (!isLineEnd ·) text some
  · rw [List.append_cons, List.dropLast_append_getLast some, lastLine, parts]

theorem whole_lastLine : ∀ c ∈ lastLine text, isLineEnd c = false := fun c member => by
  simpa using List.mem_rtakeWhile_imp member

/-- A copy that is cut within its old path tells nothing up to there. -/
theorem ofChars_cut_copy (score : Score) (tabless : '\t' ∉ text) :
    ofChars ('C' :: score.val ++ '\t' :: text) = {} := by
  have bare : ∀ c ∈ 'C' :: score.val, isBlank c = false := List.forall_mem_cons.mpr ⟨rfl, score.property⟩
  have whole : ∀ c ∈ 'C' :: score.val ++ ['\t'], isLineEnd c = false :=
    List.forall_mem_append.mpr ⟨fun c inside => isLineEnd_eq_false (bare c inside), List.forall_mem_singleton.mpr rfl⟩
  have start : linesFrom [] false ('C' :: score.val ++ '\t' :: text) =
      linesFrom ('C' :: score.val ++ ['\t']).reverse false text := by
    rw [List.append_cons, linesFrom_append whole (by simp), List.append_nil]
  refine ofLines_eq_empty fun line among => ?_
  rw [start] at among
  rcases subset_of_mem_linesFrom among with ⟨more, within, rfl⟩ | within
  · rw [List.reverse_reverse, List.append_assoc, List.singleton_append]
    have single : more.splitOn '\t' = [more] := List.splitOn_eq_singleton fun tab => tabless (within tab)
    have fields : ('C' :: score.val ++ '\t' :: more).splitOn '\t' = ['C' :: score.val, more] := by
      rw [List.splitOn_append_cons_self_of_not_mem (tab_not_mem bare), single]
    rw [ofLine_fields fields]
    exact ofFields_eq_empty_iff.mpr (.inr (.inr ⟨head?_trimChars rfl, nofun⟩))
  · exact ofLine_untabbed fun tab => tabless (within tab)

/-- Of a copy with a broken old path, what stands behind the last line end in it is read on its own. -/
theorem ofChars_broken_copy (score : Score) {old new : ListedPath} (broken : isWhole old.text = false)
    (whole : isWhole new.text = true) :
    ofChars (Change.copied score old new).line =
      ofFields (lastLine old.text.toList) new.text.toList [] := by
  have clear := @whole_lastLine old.text.toList
  obtain ⟨front, c, ends, same⟩ := exists_break fun all => Bool.false_ne_true (broken.symm.trans (isWhole_iff.mpr all))
  generalize lastLine old.text.toList = last at clear same ⊢
  have tabless : '\t' ∉ front ++ c :: last := same ▸ old.tabless
  have cut : '\t' ∉ front ++ [c] := fun tab => tabless (by
    rw [List.append_cons]
    exact List.mem_append_left _ tab)
  have lastless : '\t' ∉ last := fun tab => tabless (List.mem_append_right _ (List.mem_cons_of_mem _ tab))
  have behind : ∀ d ∈ last ++ '\t' :: new.text.toList, isLineEnd d = false :=
    List.forall_mem_append.mpr ⟨clear, List.forall_mem_cons.mpr ⟨rfl, isWhole_iff.mp whole⟩⟩
  -- the line end within the path is not one half of a longer one, since what follows holds none
  have apart : c = '\x0d' → (last ++ '\t' :: new.text.toList).head? ≠ some '\n' := fun _ feed =>
    Bool.false_ne_true (behind _ (List.mem_of_head? feed)).symm
  have fields : (last ++ '\t' :: new.text.toList).splitOn '\t' = [last, new.text.toList] := by
    rw [List.splitOn_append_cons_self_of_not_mem lastless, List.splitOn_eq_singleton new.tabless]
  have line : (Change.copied score old new).line =
      ('C' :: score.val ++ '\t' :: front) ++ c :: (last ++ '\t' :: new.text.toList) := by
    simp [Change.line, Change.fields, Change.status, Change.paths, List.intercalate_cons_cons, same]
  have ahead : 'C' :: score.val ++ '\t' :: front ++ [c] = 'C' :: score.val ++ '\t' :: (front ++ [c]) := by simp
  rw [line, ofChars_break ends apart, ofChars_whole behind, ofLine_fields fields, ahead, ofChars_cut_copy score cut,
    empty_append]

theorem mem_intercalate {separator : Char} {pieces : List (List Char)} (member : c ∈ [separator].intercalate pieces) :
    c = separator ∨ ∃ piece ∈ pieces, c ∈ piece := by
  induction pieces with
  | nil => nomatch member
  | cons piece pieces ih =>
    cases pieces with
    | nil =>
      rw [List.intercalate_singleton] at member
      exact .inr ⟨piece, List.mem_cons_self, member⟩
    | cons next others =>
      rw [List.intercalate_cons_cons, List.append_assoc, List.singleton_append, List.mem_append,
        List.mem_cons] at member
      rcases member with inside | same | later
      · exact .inr ⟨piece, List.mem_cons_self, inside⟩
      · exact .inl same
      · exact (ih later).imp_right fun ⟨other, among, inside⟩ => ⟨other, List.mem_cons_of_mem _ among, inside⟩

/-- A change with whole paths is printed on one line. -/
theorem Change.ofChars_line (whole : ∀ path ∈ change.paths, isWhole path.text = true) :
    ofChars change.line = change.files := by
  have single : ∀ c ∈ change.line, isLineEnd c = false := by
    intro c member
    rcases mem_intercalate member with rfl | ⟨field, among, inside⟩
    · rfl
    rcases List.mem_cons.mp among with rfl | among
    · exact isLineEnd_eq_false (change.bare_status c inside)
    · obtain ⟨path, listed, rfl⟩ := List.mem_map.mp among
      exact isWhole_iff.mp (whole path listed) c inside
  rw [ofChars_whole single, change.ofLine_line]

theorem Change.ofChars_kept (kept : change.isKept = true) : ofChars change.line = change.files := by
  cases change with
  | plain status path => exact ofChars_line (List.forall_mem_singleton.mpr kept)
  | renamed score old new =>
    obtain ⟨first, second⟩ := Bool.and_eq_true_iff.mp kept
    exact ofChars_line (List.forall_mem_cons.mpr ⟨first, List.forall_mem_singleton.mpr second⟩)
  | copied score old new =>
    simp only [isKept, Bool.and_eq_true, Bool.or_eq_true, beq_iff_eq] at kept
    obtain ⟨whole, kept⟩ := kept
    cases broken : isWhole old.text with
    | true =>
      exact ofChars_line (List.forall_mem_cons.mpr ⟨broken, List.forall_mem_singleton.mpr whole⟩)
    | false =>
      have added := kept.resolve_left (by simp [broken])
      rw [ofChars_broken_copy score broken whole, ofFields, added]
      simp [new.toList_ne_nil, Change.files, addedPath?, modifiedPath?, deletedPath?]

/-- Where all paths that count are whole, only a copy can fail to be read as what it is. Then no file is added. -/
theorem Change.added_of_not_kept (whole : ∀ file ∈ change.files.all, isWhole file = true)
    (lost : change.isKept = false) : (ofChars change.line).added = [] ∧ change.files.added.length = 1 := by
  cases change with
  | plain status path =>
    have kept : isWhole path.text = true := whole _ (by cases status <;> exact List.mem_singleton_self _)
    exact absurd (lost.symm.trans kept) Bool.false_ne_true
  | renamed score old new =>
    have kept : isWhole old.text = true ∧ isWhole new.text = true :=
      ⟨whole _ (List.mem_cons_of_mem _ List.mem_cons_self), whole _ List.mem_cons_self⟩
    simp [isKept, kept] at lost
  | copied score old new =>
    have kept : isWhole new.text = true := whole _ (List.mem_singleton_self _)
    simp only [isKept, kept, Bool.true_and, Bool.or_eq_false_iff, beq_eq_false_iff_ne] at lost
    obtain ⟨broken, other⟩ := lost
    refine ⟨?_, rfl⟩
    rw [ofChars_broken_copy score broken kept, ofFields, if_neg (by simpa using new.some)]
    split
    · rename_i letter
      exact absurd letter other
    all_goals rfl

/-- Lost copies are all that is missing from the added files. -/
theorem length_added_print (whole : ∀ file ∈ (listed changes).all, isWhole file = true) :
    (ofNameStatus (print changes)).added.length + changes.countP (!·.isKept) = (listed changes).added.length := by
  induction changes with
  | nil => rfl
  | cons change changes ih =>
    have here : ∀ file ∈ change.files.all, isWhole file = true := fun file member =>
      whole file (by rw [listed_cons]; exact mem_all_append.mpr (.inl member))
    have later : ∀ file ∈ (listed changes).all, isWhole file = true := fun file member =>
      whole file (by rw [listed_cons]; exact mem_all_append.mpr (.inr member))
    rw [ofNameStatus_print_cons, listed_cons, added_append, added_append, List.length_append, List.length_append,
      List.countP_cons, ← ih later]
    cases kept : change.isKept with
    | true =>
      rw [Change.ofChars_kept kept]
      simp only [Bool.not_true, Bool.false_eq_true, if_false]
      omega
    | false =>
      obtain ⟨none, one⟩ := Change.added_of_not_kept here kept
      rw [none, one]
      simp only [Bool.not_false, if_true, List.length_nil]
      omega

end

/-- Printed changes are read back as they are, each in its place and nothing else, exactly if no path that counts holds
a line end other than a line feed, and neither does the old path of a copy, unless its end passes for an added file. -/
theorem ofNameStatus_print_iff (changes : List Change) :
    ofNameStatus (print changes) =
        { added := changes.filterMap (·.addedPath?), modified := changes.filterMap (·.modifiedPath?)
          deleted := changes.filterMap (·.deletedPath?) } ↔
      ∀ change ∈ changes, change.isKept = true := by
  show ofNameStatus (print changes) = listed changes ↔ _
  constructor
  · -- only whole paths are read, so only copies can be lost, and every lost copy is one added file too few
    intro same
    have whole : ∀ file ∈ (listed changes).all, isWhole file = true := by
      rw [← same]
      exact fun file member => isWhole_of_mem member
    have none : changes.countP (!·.isKept) = 0 := by
      have total := length_added_print whole
      rw [same] at total
      omega
    exact fun change member => by simpa using List.countP_eq_zero.mp none change member
  · intro kept
    induction changes with
    | nil => rfl
    | cons change changes ih =>
      obtain ⟨here, later⟩ := List.forall_mem_cons.mp kept
      rw [ofNameStatus_print_cons, listed_cons, Change.ofChars_kept here, ih later]

/-- A path with a line separator in it is cut there. -/
theorem print_separator_cut :
    let path : ListedPath := ⟨"a\u2028b.py", by decide +kernel, by decide +kernel, by decide +kernel⟩
    print [.plain .added path] = "A\ta\u2028b.py\n" ∧
      ofNameStatus (print [.plain .added path]) = { added := ["a"] } ∧
      listed [.plain .added path] = { added := ["a\u2028b.py"] } ∧
      ofNameStatus (print [.plain .added path]) ≠ listed [.plain .added path] := by
  decide +kernel

end CodeGraph.ChangedFiles
