import CodeGraph.Proofs.Git.Commands
import CodeGraph.Proofs.Text.Decoding

namespace CodeGraph.Git

open Text

/-- The bytes that are printed for a text. -/
def bytesOf (text : String) : List UInt8 :=
  text.toUTF8.toList

/-- A line of a listing of remote branches, with names as bytes. -/
inductive RemoteRef where
  | branch (name : List UInt8)
  /-- A name that stands for a branch, as that of the remote's own branch does. -/
  | pointer (name target : List UInt8)

namespace RemoteRef

def name : RemoteRef → List UInt8
  | branch name | pointer name _ => name

/-- The names in the line. -/
def names : RemoteRef → List (List UInt8)
  | branch name => [name]
  | pointer name target => [name, target]

def line (ref : RemoteRef) : List UInt8 :=
  bytesOf "  " ++ (bytesOf " -> ").intercalate ref.names

end RemoteRef

/-- What git prints for remote branches, a line for each. -/
def listing (refs : List RemoteRef) : List UInt8 :=
  refs.flatMap fun ref => ref.line ++ bytesOf "\n"

/-- A name in a listing holds a piece. -/
def Shows (refs : List RemoteRef) (piece : String) : Prop :=
  ∃ ref ∈ refs, ∃ name ∈ ref.names, bytesOf piece <:+: name

instance (refs : List RemoteRef) (piece : String) : Decidable (Shows refs piece) :=
  inferInstanceAs (Decidable (∃ ref ∈ refs, ∃ name ∈ ref.names, bytesOf piece <:+: name))

/-- The name of a branch, as it is printed in a line of its own. -/
def Lists (refs : List RemoteRef) (name : String) : Prop :=
  bytesOf name ∈ refs.map (·.name)

instance (refs : List RemoteRef) (name : String) : Decidable (Lists refs name) :=
  inferInstanceAs (Decidable (bytesOf name ∈ refs.map (·.name)))

/-- The main branch, by the branches that there are. -/
def mainBranch (refs : List RemoteRef) : String :=
  if Lists refs "origin/master" ∧ ¬ Lists refs "origin/main" then "master" else "main"

/-- A listing in which a longer name is taken for one of the two that count. -/
inductive Misleads (refs : List RemoteRef) : Prop
  | hides : Lists refs "origin/master" → ¬ Lists refs "origin/main" → Shows refs "origin/main" → Misleads refs
  | feigns : ¬ Lists refs "origin/master" → Shows refs "origin/master" → ¬ Shows refs "origin/main" → Misleads refs

/-- A name in basic characters, and in none of those that stand between names. -/
structure IsPlain (name : String) : Prop where
  some : bytesOf name ≠ []
  basic : ∀ b ∈ bytesOf name, 0 < b.toNat ∧ b.toNat < 0x80
  same : name.toList = (bytesOf name).map fun b => Char.ofNat b.toNat
  indent : ∀ b ∈ bytesOf "  ", b ∉ bytesOf name
  arrow : ∀ b ∈ bytesOf " -> ", b ∉ bytesOf name
  feed : ∀ b ∈ bytesOf "\n", b ∉ bytesOf name

theorem isPlain_main : IsPlain "origin/main" := by
  constructor <;> decide +kernel

theorem isPlain_master : IsPlain "origin/master" := by
  constructor <;> decide +kernel

section

variable {refs : List RemoteRef} {ref : RemoteRef} {name : String}

theorem Lists.shows (listed : Lists refs name) : Shows refs name := by
  obtain ⟨ref, among, same⟩ := List.mem_map.mp listed
  refine ⟨ref, among, ref.name, ?_, same ▸ List.infix_rfl⟩
  cases ref <;> exact List.mem_cons_self

theorem IsPlain.line_iff (plain : IsPlain name) :
    bytesOf name <:+: ref.line ↔ ∃ other ∈ ref.names, bytesOf name <:+: other := by
  have indented : bytesOf name <:+: ref.line ↔ bytesOf name <:+: (bytesOf " -> ").intercalate ref.names :=
    ⟨infix_of_infix_append plain.some plain.indent, List.infix_append_of_infix_right⟩
  rw [indented]
  cases ref with
  | branch other => simp [RemoteRef.names]
  | pointer other target =>
    have parts : (bytesOf " -> ").intercalate [other, target] = other ++ (bytesOf " -> " ++ target) := by
      simp [List.intercalate]
    rw [RemoteRef.names, parts, infix_separated_iff plain.some (by decide +kernel) plain.arrow]
    simp

theorem IsPlain.listing_iff (plain : IsPlain name) : bytesOf name <:+: listing refs ↔ Shows refs name := by
  induction refs with
  | nil => simpa [listing, Shows] using plain.some
  | cons ref refs ih =>
    have parts : listing (ref :: refs) = ref.line ++ (bytesOf "\n" ++ listing refs) := by
      simp [listing]
    rw [parts, infix_separated_iff plain.some (by decide +kernel) plain.feed, ih, plain.line_iff]
    simp [Shows]

theorem IsPlain.contains_iff (plain : IsPlain name) :
    contains (decodeUtf8 (listing refs)) name = true ↔ Shows refs name := by
  rw [contains_decodeUtf8_iff plain.basic plain.same, plain.listing_iff]

/-- What is taken for the main branch of a listing. -/
theorem baseBranchOf_listing (refs : List RemoteRef) : baseBranchOf (decodeUtf8 (listing refs)) =
    if Shows refs "origin/master" ∧ ¬ Shows refs "origin/main" then "master" else "main" := by
  unfold baseBranchOf
  simp only [isPlain_main.contains_iff, isPlain_master.contains_iff]
  by_cases main : Shows refs "origin/main" <;> simp [main]

/-- The names in a listing tell the main branch unless they mislead. -/
theorem baseBranchOf_listing_iff (refs : List RemoteRef) :
    baseBranchOf (decodeUtf8 (listing refs)) = mainBranch refs ↔ ¬ Misleads refs := by
  have misleads : Misleads refs ↔ (Lists refs "origin/master" ∧ ¬ Lists refs "origin/main" ∧ Shows refs "origin/main") ∨
      (¬ Lists refs "origin/master" ∧ Shows refs "origin/master" ∧ ¬ Shows refs "origin/main") := by
    constructor
    · rintro (⟨listed, unlisted, shown⟩ | ⟨unlisted, shown, hidden⟩)
      · exact .inl ⟨listed, unlisted, shown⟩
      · exact .inr ⟨unlisted, shown, hidden⟩
    · rintro (⟨listed, unlisted, shown⟩ | ⟨unlisted, shown, hidden⟩)
      · exact .hides listed unlisted shown
      · exact .feigns unlisted shown hidden
  have different : "main" ≠ "master" := by decide
  have main : Lists refs "origin/main" → Shows refs "origin/main" := Lists.shows
  have master : Lists refs "origin/master" → Shows refs "origin/master" := Lists.shows
  rw [baseBranchOf_listing, mainBranch, misleads]
  by_cases shown : Shows refs "origin/main" <;> by_cases found : Shows refs "origin/master" <;>
    simp [shown, found, different, mt main, mt master]

/-- Where git lists the remote branches, `master` is answered if and only if some name in the listing holds
`origin/master` and none holds `origin/main`, and the answer is right if and only if no longer name misleads. Where git
fails, `main` is answered. There is no answer only where no process can be given the command. -/
theorem baseBranch_listed {σ : Type} (respond : (request : LookupRequest) → σ → request.Reply × σ) (state : σ) :
    let reply := (respond (.git ["branch", "-r"]) state).1
    let answer := (baseBranch.run.run respond state).1
    (∀ refs errors, reply = .exited 0 (listing refs) errors →
      answer = .ok (if Shows refs "origin/master" ∧ ¬ Shows refs "origin/main" then "master" else "main") ∧
        (answer = .ok (mainBranch refs) ↔ ¬ Misleads refs)) ∧
    ((∀ reason, reply ≠ .refused reason) → (∀ out errors, reply ≠ .exited 0 out errors) → answer = .ok "main") ∧
    ∀ reason, reply = .refused reason → answer = .error ⟨reason⟩ := by
  intro reply answer
  have made : answer = outcome baseBranchOf "main" reply := baseBranch_reads.run respond state
  rw [made]
  refine ⟨?_, outcome_failed, fun reason => outcome_error_iff.mpr⟩
  intro refs errors listed
  rw [listed, outcome, Except.ok.injEq, Except.ok.injEq]
  exact ⟨baseBranchOf_listing refs, baseBranchOf_listing_iff refs⟩

end

/-- Git in a repository that follows a remote, and no tools. -/
def answering (reply : GitReply) : LookupSource where
  git _ := reply
  tool _ _ := .error ""

/-- The default branch, a topic and `master`. -/
def masterRefs : List RemoteRef :=
  [.pointer (bytesOf "origin/HEAD") (bytesOf "origin/master"), .branch (bytesOf "origin/fix/main"),
    .branch (bytesOf "origin/master")]

/-- `master` is found beside a topic named after `main`, and `main` is answered outside a repository. In a directory
whose name holds a zero character there is no answer. -/
theorem baseBranch_listed_masterRefs :
    ¬ Misleads masterRefs ∧
      (baseBranch.run.run (answering (.exited 0 (listing masterRefs) [])).respond {}).1 = .ok "master" ∧
      (baseBranch.run.run (answering (.exited 128 [] [])).respond {}).1 = .ok "main" ∧
      (baseBranch.run.run (answering (.refused "embedded null byte")).respond {}).1 =
        .error ⟨"embedded null byte"⟩ := by
  obtain ⟨listed, -, -⟩ := baseBranch_listed (answering (.exited 0 (listing masterRefs) [])).respond {}
  obtain ⟨-, failed, -⟩ := baseBranch_listed (answering (.exited 128 [] [])).respond {}
  obtain ⟨-, -, refused⟩ := baseBranch_listed (answering (.refused "embedded null byte")).respond {}
  obtain ⟨answer, right⟩ := listed masterRefs [] rfl
  have found : (if Shows masterRefs "origin/master" ∧ ¬ Shows masterRefs "origin/main" then "master" else "main") =
      mainBranch masterRefs := by decide +kernel
  have master : mainBranch masterRefs = "master" := by decide +kernel
  rw [found] at answer
  refine ⟨right.mp answer, answer.trans (congrArg Except.ok master), failed nofun ?_, refused _ rfl⟩
  exact fun out errors same => by cases same

/-- A branch `maintenance` hides that there is no `main`, so that `master` is not found. -/
theorem baseBranch_maintenance_misled :
    let refs : List RemoteRef := [.pointer (bytesOf "origin/HEAD") (bytesOf "origin/master"),
      .branch (bytesOf "origin/maintenance"), .branch (bytesOf "origin/master")]
    mainBranch refs = "master" ∧
      (baseBranch.run.run (answering (.exited 0 (listing refs) [])).respond {}).1 = .ok "main" := by
  constructor <;> decide +kernel

end CodeGraph.Git
