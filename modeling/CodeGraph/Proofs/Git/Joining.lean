import CodeGraph.Git.NameStatus
import CodeGraph.Proofs.Files.NormalForm
import CodeGraph.Proofs.Text.Lines

namespace CodeGraph.ChangedFiles

open Text

section

variable (a b c : ChangedFiles)

@[simp]
theorem added_append : (a ++ b).added = a.added ++ b.added := rfl

@[simp]
theorem modified_append : (a ++ b).modified = a.modified ++ b.modified := rfl

@[simp]
theorem deleted_append : (a ++ b).deleted = a.deleted ++ b.deleted := rfl

theorem mem_all_append {a b : ChangedFiles} {file : String} : file ∈ (a ++ b).all ↔ file ∈ a.all ∨ file ∈ b.all := by
  simp only [all, added_append, modified_append, deleted_append, List.mem_append]
  tauto

theorem ext_fields {a b : ChangedFiles} (added : a.added = b.added) (modified : a.modified = b.modified)
    (deleted : a.deleted = b.deleted) : a = b := by
  cases a
  cases b
  cases added
  cases modified
  cases deleted
  rfl

theorem append_assoc : a ++ b ++ c = a ++ (b ++ c) := by
  apply ext_fields <;> exact List.append_assoc _ _ _

@[simp]
theorem empty_append : {} ++ a = a := rfl

@[simp]
theorem append_empty : a ++ {} = a := by
  apply ext_fields <;> exact List.append_nil _

/-- What stands between two parts adds something unless it is empty. -/
theorem between_eq_iff {a b c : ChangedFiles} : a ++ b ++ c = a ++ c ↔ b = {} := by
  have none : ∀ {x y z : List String}, x ++ y ++ z = x ++ z → y = [] := fun same => by
    rwa [List.append_assoc, List.append_right_inj, List.append_left_eq_self] at same
  constructor
  · intro same
    apply ext_fields
    · exact none (congrArg added same)
    · exact none (congrArg modified same)
    · exact none (congrArg deleted same)
  · rintro rfl
    rw [append_empty]

end

section

variable {line status path text rest : List Char} {more : List (List Char)} {lines : List (List Char)}

/-- What lines tell, one after the other. -/
def ofLines (lines : List (List Char)) : ChangedFiles :=
  lines.foldl (fun found line => found ++ ofLine line) {}

/-- What the lines of a text tell. -/
def ofChars (text : List Char) : ChangedFiles :=
  ofLines (linesFrom [] false text)

theorem ofNameStatus_eq (text : String) : ofNameStatus text = ofChars text.toList := rfl

theorem foldl_ofLine (found : ChangedFiles) (lines : List (List Char)) :
    lines.foldl (fun found line => found ++ ofLine line) found = found ++ ofLines lines := by
  induction lines generalizing found with
  | nil => exact (append_empty found).symm
  | cons line lines ih =>
    rw [ofLines, List.foldl_cons, List.foldl_cons, ih, ih, empty_append, append_assoc]

@[simp]
theorem ofLines_nil : ofLines [] = {} := rfl

@[simp]
theorem ofLines_cons (line : List Char) (lines : List (List Char)) :
    ofLines (line :: lines) = ofLine line ++ ofLines lines := by
  rw [ofLines, List.foldl_cons, empty_append, foldl_ofLine]

theorem ofLines_append (first second : List (List Char)) :
    ofLines (first ++ second) = ofLines first ++ ofLines second := by
  rw [ofLines, List.foldl_append, foldl_ofLine]
  rfl

theorem ofLines_eq_empty (silent : ∀ line ∈ lines, ofLine line = {}) : ofLines lines = {} := by
  induction lines with
  | nil => rfl
  | cons line lines ih =>
    obtain ⟨first, others⟩ := List.forall_mem_cons.mp silent
    rw [ofLines_cons, first, ih others, empty_append]

/-- What is cut at a line end, other than between a carriage return and its line feed, tells what both parts tell. -/
theorem ofChars_break {c : Char} (ends : isLineEnd c = true) (apart : c = '\x0d' → rest.head? ≠ some '\n') :
    ofChars (text ++ c :: rest) = ofChars (text ++ [c]) ++ ofChars rest := by
  rw [ofChars, linesFrom_break ends apart, ofLines_append, ofChars, ofChars]

/-- A carriage return right before the line feed is part of the same line end. -/
theorem ofChars_feed (first second : List Char) :
    ofChars (first ++ '\n' :: second) = ofChars first ++ ofChars second := by
  have alone : ofChars (first ++ ['\n']) = ofChars first := by
    rcases @linesFrom_concat_feed [] first false nofun with same | blank
    · rw [ofChars, same, ofChars]
    · rw [ofChars, blank, ofLines_append, ofChars]
      exact append_empty _
  rw [ofChars_break rfl fun same => absurd same (by decide), alone]

theorem ofChars_whole (whole : ∀ c ∈ line, isLineEnd c = false) : ofChars line = ofLine line := by
  by_cases some : line = []
  · subst some
    rfl
  · rw [ofChars, linesFrom_whole whole some, ofLines_cons, ofLines_nil, append_empty]

/-- What the fields of a line tell: its status, a path, and further paths. -/
def ofFields (status path : List Char) (more : List (List Char)) : ChangedFiles :=
  let newPath := (more.head?.filter (!·.isEmpty)).toList.map String.ofList
  let path' := String.ofList path
  if path.isEmpty then {}
  else match (trimChars isBlank status).head? with
    | some 'A' => { added := [path'] }
    | some 'M' | some 'T' => { modified := [path'] }
    | some 'D' => { deleted := [path'] }
    | some 'R' => { deleted := [path'], added := newPath }
    | some 'C' => { added := newPath }
    | _ => {}

theorem ofLine_fields (fields : line.splitOn '\t' = status :: path :: more) :
    ofLine line = ofFields status path more := by
  rw [ofLine, splitAt_eq_splitOn, fields]
  rfl

theorem ofLine_untabbed (absent : '\t' ∉ line) : ofLine line = {} := by
  rw [ofLine, splitAt_eq_splitOn, List.splitOn_eq_singleton absent]

/-- Fields that name no changed file: there is no path, the status letter is unknown, or a copy has no new path. -/
def Pointless (status path : List Char) (more : List (List Char)) : Prop :=
  path = [] ∨ (∀ c ∈ (trimChars isBlank status).head?, c ∉ ['A', 'M', 'T', 'D', 'R', 'C']) ∨
    ((trimChars isBlank status).head? = some 'C' ∧ ∀ new ∈ more.head?, new = [])

/-- A line that names no changed file. -/
def Unread (line : List Char) : Prop :=
  ∀ status path more, line.splitOn '\t' = status :: path :: more → Pointless status path more

theorem ofFields_eq_empty_iff : ofFields status path more = {} ↔ Pointless status path more := by
  rw [ofFields, Pointless]
  by_cases none : path = []
  · simp [none]
  generalize (trimChars isBlank status).head? = letter
  simp only [none, List.isEmpty_iff, if_false, false_or]
  split
  · simp
  · simp
  · simp
  · simp
  · simp
  · cases more with
    | nil => simp
    | cons new more => cases new <;> simp
  · rename_i a m t d r c
    refine iff_of_true rfl (.inl fun other same among => ?_)
    obtain rfl := Option.mem_def.mp same
    simp only [Option.some.injEq, imp_false] at a m t d r c
    simp [a, m, t, d, r, c] at among

/-- A line tells nothing exactly if it names no changed file. -/
theorem ofLine_eq_empty_iff : ofLine line = {} ↔ Unread line := by
  cases fields : line.splitOn '\t' with
  | nil => exact absurd fields (List.splitOn_ne_nil '\t' line)
  | cons status others =>
    cases others with
    | nil =>
      refine iff_of_true ?_ fun _ _ _ two => by rw [fields] at two; nomatch two
      rw [ofLine, splitAt_eq_splitOn, fields]
    | cons path more =>
      rw [ofLine_fields fields, ofFields_eq_empty_iff, Unread]
      refine ⟨fun pointless status' path' more' same => ?_, fun unread => unread status path more fields⟩
      rw [fields] at same
      cases same
      exact pointless

end

theorem ofNameStatus_feed (first second : String) :
    ofNameStatus (first ++ "\n" ++ second) = ofNameStatus first ++ ofNameStatus second := by
  rw [ofNameStatus_eq, String.toList_append, String.toList_append, List.append_assoc]
  exact ofChars_feed first.toList second.toList

/-- Whatever two texts are, with a line feed between them they tell what the first tells and then what the second tells.
So a line between them leaves what stands around it as it is, and adds something exactly if it names a changed file. -/
theorem ofNameStatus_joined (first second : String) :
    ((ofNameStatus (first ++ "\n" ++ second)).added = (ofNameStatus first).added ++ (ofNameStatus second).added ∧
      (ofNameStatus (first ++ "\n" ++ second)).modified =
        (ofNameStatus first).modified ++ (ofNameStatus second).modified ∧
      (ofNameStatus (first ++ "\n" ++ second)).deleted =
        (ofNameStatus first).deleted ++ (ofNameStatus second).deleted) ∧
    ∀ line : String,
      ofNameStatus (first ++ "\n" ++ line ++ "\n" ++ second) =
        ofNameStatus first ++ ofNameStatus line ++ ofNameStatus second ∧
      ((∀ c ∈ line.toList, isLineEnd c = false) →
        (ofNameStatus (first ++ "\n" ++ line ++ "\n" ++ second) = ofNameStatus (first ++ "\n" ++ second) ↔
          Unread line.toList)) := by
  refine ⟨?_, fun line => ?_⟩
  · rw [ofNameStatus_feed]
    exact ⟨rfl, rfl, rfl⟩
  · have parts : ofNameStatus (first ++ "\n" ++ line ++ "\n" ++ second) =
        ofNameStatus first ++ ofNameStatus line ++ ofNameStatus second := by
      rw [ofNameStatus_feed, ofNameStatus_feed]
    refine ⟨parts, fun whole => ?_⟩
    rw [parts, ofNameStatus_feed, ← ofLine_eq_empty_iff, ← ofChars_whole whole, ← ofNameStatus_eq]
    exact between_eq_iff

/-- A copied file without its new path, after a line that ends in a carriage return. -/
theorem ofNameStatus_joined_truncated :
    (∀ c ∈ "C75\told".toList, isLineEnd c = false) ∧ Unread "C75\told".toList ∧
      ofNameStatus ("A\ta\r" ++ "\n" ++ "C75\told" ++ "\n" ++ "M\tb") = { added := ["a"], modified := ["b"] } := by
  have single : "C75\told".toList.all (!isLineEnd ·) = true := by decide +kernel
  have whole : ∀ c ∈ "C75\told".toList, isLineEnd c = false := fun c member => by
    simpa using List.all_eq_true.mp single c member
  have unread : Unread "C75\told".toList := ofLine_eq_empty_iff.mp (by decide +kernel)
  have around : ofNameStatus ("A\ta\r" ++ "\n" ++ "M\tb") = { added := ["a"], modified := ["b"] } := by decide +kernel
  exact ⟨whole, unread, (((ofNameStatus_joined "A\ta\r" "M\tb").2 "C75\told").2 whole |>.mpr unread).trans around⟩

end CodeGraph.ChangedFiles
