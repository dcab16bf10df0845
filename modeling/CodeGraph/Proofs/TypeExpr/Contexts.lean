import CodeGraph.Proofs.TypeExpr.Meaning

namespace CodeGraph

open Text

namespace TypeExpr

def Expr.isName : Expr → Bool
  | .name _ => true
  | _ => false

/-- An expression of names, generics and unions with a gap in it. -/
inductive Context where
  | gap
  | argument (outer : List Char) (front : List Expr) (inner : Context) (back : List Expr)
  | member (front : List Expr) (inner : Context) (back : List Expr)

namespace Context

/-- The expression with another one in the gap. -/
def fill (e : Expr) : Context → Expr
  | gap => e
  | argument outer front inner back => .generic outer (front ++ inner.fill e :: back)
  | member front inner back => .union (front ++ inner.fill e :: back)

@[simp]
def isGap : Context → Bool
  | gap => true
  | argument .. => false
  | member .. => false

theorem ne_gap {context : Context} (other : context.isGap = false) : context ≠ gap := by
  rintro rfl
  exact Bool.false_ne_true other.symm

theorem levels_le_fill (e : Expr) (context : Context) : e.levels ≤ (context.fill e).levels := by
  have among : ∀ {filled : Expr} {front back : List Expr}, e.levels ≤ filled.levels →
      e.levels ≤ mostLevels (front ++ filled :: back) + 1 := fun below =>
    Nat.le_succ_of_le (Nat.le_trans below (levels_le (List.mem_append_right _ List.mem_cons_self)))
  induction context with
  | gap => exact Nat.le_refl _
  | argument outer front inner back ih => exact among ih
  | member front inner back ih => exact among ih

end Context

/-- What stands before and behind the gap in a text, and how tightly an expression in the gap has to hold together. -/
inductive Surrounds : Grade → Context → Grade → List Char → List Char → Prop
  | gap {grade : Grade} : Surrounds grade .gap grade [] []
  | argument {grade innerGrade : Grade} {outer gap before after left right ahead behind : List Char} {inner : Context}
      {front back : List (Expr × List Char)} :
      IsName outer → Blanks gap → Blanks before → Blanks after →
      (∀ entry ∈ front ++ back, TypeTable.python.Spells .whole entry.1 entry.2) →
      Leads ',' (front.map Prod.snd) left → Trails ',' (back.map Prod.snd) right →
      Surrounds .whole inner innerGrade ahead behind →
      Surrounds grade (.argument outer (front.map Prod.fst) inner (back.map Prod.fst)) innerGrade
        (outer ++ (gap ++ '[' :: (before ++ (left ++ ahead)))) (behind ++ (right ++ (after ++ [']'])))
  | member {innerGrade : Grade} {left right ahead behind : List Char} {inner : Context}
      {front back : List (Expr × List Char)} :
      front ++ back ≠ [] → (∀ entry ∈ front ++ back, TypeTable.python.Spells .member entry.1 entry.2) →
      Leads '|' (front.map Prod.snd) left → Trails '|' (back.map Prod.snd) right →
      Surrounds .member inner innerGrade ahead behind →
      Surrounds .whole (.member (front.map Prod.fst) inner (back.map Prod.fst)) innerGrade (left ++ ahead)
        (behind ++ right)

variable {grade innerGrade : Grade} {context : Context} {e : Expr} {text ahead behind : List Char}

theorem forall_mem_around {α : Type} {p : α → Prop} {front back : List α} {a : α} (others : ∀ b ∈ front ++ back, p b)
    (here : p a) : ∀ b ∈ front ++ a :: back, p b := by
  intro b among
  rcases List.mem_append.mp among with before | after
  · exact others b (List.mem_append_left back before)
  · rcases List.mem_cons.mp after with rfl | after
    · exact here
    · exact others b (List.mem_append_right front after)

theorem mem_around_of_mem {α : Type} {front back : List α} {a b : α} (among : b ∈ front ++ back) :
    b ∈ front ++ a :: back :=
  (List.mem_append.mp among).elim (List.mem_append_left _) fun after =>
    List.mem_append_right _ (List.mem_cons_of_mem a after)

theorem two_le_length_around {α : Type} {front back : List α} (some : front ++ back ≠ []) (a : α) :
    2 ≤ (front ++ a :: back).length := by
  have positive := List.length_pos_of_ne_nil some
  rw [List.length_append] at positive
  rw [List.length_append, List.length_cons]
  omega

theorem Surrounds.argument_text (outer gap before left ahead text behind right after : List Char) :
    outer ++ (gap ++ '[' :: (before ++ (left ++ ahead))) ++ (text ++ (behind ++ (right ++ (after ++ [']'])))) =
      outer ++ gap ++ '[' :: (before ++ (left ++ (ahead ++ (text ++ behind) ++ right) ++ after) ++ [']']) := by
  simp

theorem Surrounds.member_text (left ahead text behind right : List Char) :
    left ++ ahead ++ (text ++ (behind ++ right)) = left ++ (ahead ++ (text ++ behind) ++ right) := by
  simp

/-- With an expression in the gap, the text around the gap is one of the filled expression. -/
theorem Surrounds.spells (surrounds : Surrounds grade context innerGrade ahead behind)
    (part : TypeTable.python.Spells innerGrade e text) :
    TypeTable.python.Spells grade (context.fill e) (ahead ++ (text ++ behind)) := by
  induction surrounds with
  | gap => rwa [List.nil_append, List.append_nil]
  | @argument grade innerGrade outer gap before after left right ahead behind inner front back name bare bare' bare''
      others leads trails _ ih =>
    let entries := front ++ (inner.fill e, ahead ++ (text ++ behind)) :: back
    have each : ∀ entry ∈ entries, TypeTable.python.Spells .whole entry.1 entry.2 := forall_mem_around others (ih part)
    have links : Links ',' (entries.map Prod.snd) (left ++ (ahead ++ (text ++ behind) ++ right)) := by
      rw [List.map_append, List.map_cons]
      exact .around leads trails _
    have generic : TypeTable.python.Spells grade (.generic outer (entries.map Prod.fst)) _ :=
      .generic name bare bare' bare'' each links
    rw [List.map_append, List.map_cons, TypeTable.punctuated_python.generic_text] at generic
    rw [argument_text]
    exact generic
  | @member innerGrade left right ahead behind inner front back others each leads trails _ ih =>
    let entries := front ++ (inner.fill e, ahead ++ (text ++ behind)) :: back
    have each : ∀ entry ∈ entries, TypeTable.python.Spells .member entry.1 entry.2 := forall_mem_around each (ih part)
    have links : Links '|' (entries.map Prod.snd) (left ++ (ahead ++ (text ++ behind) ++ right)) := by
      rw [List.map_append, List.map_cons]
      exact .around leads trails _
    have union : TypeTable.python.Spells .whole (.union (entries.map Prod.fst)) _ :=
      .union (two_le_length_around others _) each links
    rw [List.map_append, List.map_cons] at union
    rw [member_text]
    exact union

theorem exists_entry {entries : List (Expr × List Char)} {front back : List Expr}
    (same : front ++ e :: back = entries.map Prod.fst) : ∃ before part after,
      entries = before ++ (e, part) :: after ∧ before.map Prod.fst = front ∧ after.map Prod.fst = back := by
  obtain ⟨before, rest, rfl, same', split⟩ := List.map_eq_append_iff.mp same.symm
  obtain ⟨entry, after, rfl, here, there⟩ := List.map_eq_cons_iff.mp split
  exact ⟨before, entry.2, after, by rw [← here], same', there⟩

/-- Every expression within another one stands in a gap of its text. -/
theorem Surrounds.of_spells (spells : TypeTable.python.Spells grade (context.fill e) text) :
    ∃ innerGrade ahead part behind, Surrounds grade context innerGrade ahead behind ∧
      TypeTable.python.Spells innerGrade e part ∧ text = ahead ++ (part ++ behind) := by
  induction context generalizing grade text with
  | gap => exact ⟨grade, [], text, [], .gap, spells, (List.append_nil text).symm⟩
  | argument outer front inner back ih =>
    generalize filled : (Context.argument outer front inner back).fill e = whole at spells
    cases spells with
    | name | suffixed | intersection | union => nomatch filled
    | @generic _ outer gap before inside after entries name bare bare' bare'' each links =>
      obtain ⟨rfl, same⟩ := Expr.generic.inj filled
      obtain ⟨front, piece, back, rfl, rfl, rfl⟩ := exists_entry same
      rw [List.map_append, List.map_cons] at links
      obtain ⟨left, right, leads, trails, rfl⟩ := links.part
      obtain ⟨innerGrade, ahead, part, behind, surrounds, spells, rfl⟩ :=
        ih (each _ (List.mem_append_right _ List.mem_cons_self))
      have others : ∀ entry ∈ front ++ back, TypeTable.python.Spells .whole entry.1 entry.2 :=
        fun entry among => each entry (mem_around_of_mem among)
      refine ⟨innerGrade, _, part, _, .argument name bare bare' bare'' others leads trails surrounds, spells, ?_⟩
      rw [argument_text, TypeTable.punctuated_python.generic_text]
  | member front inner back ih =>
    generalize filled : (Context.member front inner back).fill e = whole at spells
    cases spells with
    | name | generic | suffixed | intersection => nomatch filled
    | @union text entries several each links =>
      obtain ⟨front, piece, back, rfl, rfl, rfl⟩ := exists_entry (Expr.union.inj filled)
      rw [List.map_append, List.map_cons] at links
      obtain ⟨left, right, leads, trails, rfl⟩ := links.part
      obtain ⟨innerGrade, ahead, part, behind, surrounds, spells, rfl⟩ :=
        ih (each _ (List.mem_append_right _ List.mem_cons_self))
      have others : ∀ entry ∈ front ++ back, TypeTable.python.Spells .member entry.1 entry.2 :=
        fun entry among => each entry (mem_around_of_mem among)
      have some : front ++ back ≠ [] := by
        rintro none
        obtain ⟨rfl, rfl⟩ := List.append_eq_nil_iff.mp none
        exact Nat.lt_irrefl 1 several
      exact ⟨innerGrade, _, part, _, .member some others leads trails surrounds, spells, (member_text ..).symm⟩

namespace Context

open TypeTable (python)

/-- Whether the name of the filled expression is read from the gap, when the expression in it is quoted. -/
def reads (e : Expr) : Context → Bool
  | gap => true
  | argument outer front inner _ => inner.reads e &&
      if python.isUnionWrapper outer then
        front.all python.readsNull && (inner.isGap || !python.readsNull (inner.fill e))
      else python.isTransparent outer && front.isEmpty
  | member front inner _ => inner.reads e && front.all python.isNullName

/-- Whether the expression is a name that stands first in a union. -/
def startsUnion (e : Expr) : Context → Bool
  | gap => false
  | argument _ _ inner _ => inner.startsUnion e
  | member front inner _ => inner.isGap && front.isEmpty && e.isName || inner.startsUnion e

/-- Whether the expression is an argument of a union wrapper that passes for a null name. -/
def passesForNull (e : Expr) : Context → Bool
  | gap => false
  | argument outer _ inner _ =>
    inner.isGap && python.isUnionWrapper outer && python.endsInNull e || inner.passesForNull e
  | member _ inner _ => inner.passesForNull e

theorem isGap_eq_false (unread : context.reads e = false) : context.isGap = false := by
  cases context with
  | gap => nomatch unread
  | argument | member => rfl

theorem isNullName_fill (named : python.isNullName e = false) : python.isNullName (context.fill e) = false := by
  cases context with
  | gap => exact named
  | argument | member => rfl

/-- The filled expression stands for what the expression in the gap stands for, if that is read. -/
theorem meaning_fill (read : context.reads e = true) (kept : context.passesForNull e = false)
    (named : context ≠ .gap → python.isNullName e = false) :
    python.meaning python.readsNull (context.fill e) = python.meaning python.readsNull e := by
  induction context with
  | gap => rfl
  | argument outer front inner back ih =>
    have apart : python.isNullName e = false := named (ne_gap rfl)
    simp only [reads, Bool.and_eq_true] at read
    simp only [passesForNull, Bool.or_eq_false_iff] at kept
    obtain ⟨within, chosen⟩ := read
    rw [fill, TypeTable.meaning]
    split at chosen
    · rename_i wrapper
      simp only [Bool.and_eq_true] at chosen
      have here : python.readsNull (inner.fill e) = false := by
        cases inner with
        | gap =>
          rw [fill, TypeTable.readsNull, apart, Bool.false_or]
          simpa [isGap, wrapper] using kept.1
        | argument | member => simpa [isGap] using chosen.2
      rw [if_pos wrapper, TypeTable.firstMeaning_append chosen.1 here]
      exact ih within kept.2 fun _ => apart
    · rename_i wrapper
      simp only [Bool.and_eq_true, List.isEmpty_iff] at chosen
      obtain ⟨transparent, rfl⟩ := chosen
      rw [if_neg wrapper, if_pos transparent]
      exact ih within kept.2 fun _ => apart
  | member front inner back ih =>
    have apart : python.isNullName e = false := named (ne_gap rfl)
    simp only [reads, Bool.and_eq_true] at read
    rw [fill, TypeTable.meaning, TypeTable.firstMeaning_append read.2 (isNullName_fill apart)]
    exact ih read.1 kept fun _ => apart

end Context

end TypeExpr

end CodeGraph
