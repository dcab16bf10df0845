import CodeGraph.Impact.Risk
import Mathlib.Algebra.GroupWithZero.Nat
import Mathlib.Data.List.Forall2
import Mathlib.Data.List.Perm.Subperm

namespace CodeGraph

/-- The place of a level from the lowest risk to the highest. -/
def RiskLevel.rank : RiskLevel → Nat
  | .low => 0
  | .medium => 1
  | .high => 2

namespace Impact

/-- All that the risk of a change is assessed by. -/
structure Findings where
  files : ChangedFiles := {}
  entities : List AffectedEntity := []
  decisions : List AffectedDecision := []

/-- Items of one list are among those of another, each as it is or with more weight. -/
def Outgrows {α : Type} (raised : α → α → Prop) (more less : List α) : Prop :=
  ∃ kept, List.Forall₂ raised less kept ∧ kept.Subperm more

namespace Findings

def risk (found : Findings) : Risk :=
  assess found.files found.entities found.decisions

/-- How many entities are widely used. -/
def used (found : Findings) : Nat :=
  found.entities.countP fun e => highUsage < e.usages

/-- How many decisions might no longer hold. -/
def invalidated (found : Findings) : Nat :=
  found.decisions.countP (·.mightBeInvalidated)

/-- The same in any order. -/
structure Permuted (first second : Findings) : Prop where
  added : first.files.added.Perm second.files.added
  modified : first.files.modified.Perm second.files.modified
  deleted : first.files.deleted.Perm second.files.deleted
  entities : first.entities.Perm second.entities
  decisions : first.decisions.Perm second.decisions

/-- More files, entities and decisions, where entities may be used more often and decisions may have become
doubtful, in any order. -/
structure Grown (less more : Findings) : Prop where
  added : less.files.added.Subperm more.files.added
  modified : less.files.modified.Subperm more.files.modified
  deleted : less.files.deleted.Subperm more.files.deleted
  entities : Outgrows (fun e raised => e.usages ≤ raised.usages) more.entities less.entities
  decisions : Outgrows (fun d raised => d.mightBeInvalidated = true → raised.mightBeInvalidated = true)
    more.decisions less.decisions

variable {first second less more : Findings}

/-- What modified files add to the score. -/
def modifiedWeight (modified : Nat) : Nat :=
  if 10 < modified then modified / 5 else 0

theorem modifiedWeight_mono {few many : Nat} (le : few ≤ many) : modifiedWeight few ≤ modifiedWeight many := by
  unfold modifiedWeight
  split_ifs <;> omega

/-- A factor that adds nothing when there is nothing to count may be left out. -/
theorem sum_factor (count each : Nat) (reason : String) :
    ((if 0 < count then [(count * each, reason)] else []).map (·.1)).sum = count * each := by
  split
  · rfl
  · rename_i none
    rw [Nat.eq_zero_of_not_pos none, Nat.zero_mul]
    rfl

theorem risk_score (found : Findings) : found.risk.score = found.files.deleted.length * 2 +
    modifiedWeight found.files.modified.length + found.used * 3 + found.invalidated * 2 := by
  have modified : ((if 10 < found.files.modified.length then [(found.files.modified.length / 5,
      s!"{found.files.modified.length} files modified")] else []).map (·.1)).sum =
      modifiedWeight found.files.modified.length := by
    unfold modifiedWeight
    split <;> rfl
  change ((factors found.files found.entities found.decisions).map (·.1)).sum = _
  unfold factors
  simp only [List.map_append, List.sum_append, sum_factor]
  rw [modified, used, invalidated, List.countP_eq_length_filter, List.countP_eq_length_filter]

theorem rank_levelOf_mono {low high : Nat} (le : low ≤ high) : (levelOf low).rank ≤ (levelOf high).rank := by
  unfold levelOf
  split_ifs <;> first | decide | omega

theorem Permuted.risk_eq (permuted : Permuted first second) : first.risk = second.risk := by
  have same : factors first.files first.entities first.decisions =
      factors second.files second.entities second.decisions := by
    unfold factors
    rw [permuted.deleted.length_eq, permuted.modified.length_eq, (permuted.entities.filter _).length_eq,
      (permuted.decisions.filter _).length_eq]
  unfold risk assess
  rw [same]

theorem countP_le_of_outgrows {α : Type} {raised : α → α → Prop} {p : α → Bool} {more less : List α}
    (outgrows : Outgrows raised more less) (kept : ∀ a b, raised a b → p a = true → p b = true) :
    less.countP p ≤ more.countP p := by
  obtain ⟨same, pairs, among⟩ := outgrows
  have paired : less.countP p ≤ same.countP p := by
    clear among
    induction pairs with
    | nil => exact Nat.le_refl _
    | @cons a b less same pair _ ih =>
      rw [List.countP_cons, List.countP_cons]
      by_cases holds : p a = true
      · rw [if_pos holds, if_pos (kept a b pair holds)]
        exact Nat.add_le_add_right ih 1
      · rw [if_neg holds]
        exact Nat.le_add_right_of_le ih
  exact Nat.le_trans paired (among.countP_le p)

theorem Grown.used_le (grown : Grown less more) : less.used ≤ more.used := by
  refine countP_le_of_outgrows grown.entities fun e raised rises wide => ?_
  rw [decide_eq_true_eq] at wide ⊢
  omega

theorem Grown.invalidated_le (grown : Grown less more) : less.invalidated ≤ more.invalidated :=
  countP_le_of_outgrows grown.decisions fun _ _ turns => turns

/-- The order of what was found makes no difference to its risk, and more never lowers the score or the level. A further
deleted file, widely used entity or doubtful decision raises the score. -/
theorem risk_grows :
    (∀ first second : Findings, first.Permuted second → first.risk = second.risk) ∧
    ∀ less more : Findings, less.Grown more → less.risk.score ≤ more.risk.score ∧
      less.risk.level.rank ≤ more.risk.level.rank ∧
      (less.files.deleted.length < more.files.deleted.length ∨ less.used < more.used ∨
        less.invalidated < more.invalidated → less.risk.score < more.risk.score) := by
  refine ⟨fun first second permuted => permuted.risk_eq, fun less more grown => ?_⟩
  have deleted := grown.deleted.length_le
  have modified := modifiedWeight_mono grown.modified.length_le
  have used := grown.used_le
  have invalidated := grown.invalidated_le
  have score : less.risk.score ≤ more.risk.score := by
    rw [risk_score, risk_score]
    omega
  refine ⟨score, rank_levelOf_mono score, fun strictly => ?_⟩
  rw [risk_score, risk_score]
  omega

/-- Ten modified files, an entity that is used up to the threshold, and a decision that holds. -/
def harmless : Findings where
  files := { modified := List.replicate 10 "src/app.py" }
  entities := [{ id := "e", name := "run", type := "function", filePath := "src/app.py", usages := 5 }]
  decisions := [{ id := "d", summary := "Keep app.py small" }]

/-- One more modified file, another entity found first, one more use, and a doubt about the decision. -/
def doubtful : Findings where
  files := { modified := List.replicate 11 "src/app.py" }
  entities := [{ id := "f", name := "stop", type := "function", filePath := "src/app.py" },
    { id := "e", name := "run", type := "function", filePath := "src/app.py", usages := 6 }]
  decisions := [{ id := "d", summary := "Keep app.py small", mightBeInvalidated := true }]

theorem doubtful_grown : harmless.Grown doubtful where
  added := List.Subperm.refl _
  modified := (List.replicate_sublist_replicate "src/app.py").mpr (by decide) |>.subperm
  deleted := List.Subperm.refl _
  entities := ⟨_, .cons (by decide) .nil, (List.sublist_cons_self _ _).subperm⟩
  decisions := ⟨_, .cons (by decide) .nil, List.Subperm.refl _⟩

/-- Each of the small steps past a threshold counts, and the order of the entities does not. -/
theorem risk_grows_doubtful :
    harmless.Grown doubtful ∧ harmless.risk.score < doubtful.risk.score ∧
      harmless.risk.level.rank ≤ doubtful.risk.level.rank ∧ doubtful.risk.score = 7 ∧ doubtful.risk.level = .medium ∧
      { doubtful with entities := doubtful.entities.reverse }.risk = doubtful.risk := by
  obtain ⟨_, level, strictly⟩ := risk_grows.2 harmless doubtful doubtful_grown
  refine ⟨doubtful_grown, strictly (.inr (.inl (by decide))), level, by decide, by decide, risk_grows.1 _ _ ?_⟩
  exact ⟨.refl _, .refl _, .refl _, List.reverse_perm _, .refl _⟩

end Findings

end Impact

end CodeGraph
