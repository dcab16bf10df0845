import CodeGraph.Proofs.Text.Letters
import CodeGraph.Proofs.Text.Lowering
import CodeGraph.Proofs.Text.Searching
import CodeGraph.Proofs.TypeExpr.Cutting
import CodeGraph.Proofs.TypeExpr.Reading

namespace CodeGraph

open Text

namespace TypeExpr

/-- The type expressions: names, generics, expressions with a mark behind them, intersections and unions. -/
inductive Expr where
  | name (word : List Char)
  | generic (outer : List Char) (arguments : List Expr)
  | suffixed (base : Expr)
  | intersection (members : List Expr)
  | union (members : List Expr)

mutual

/-- How many unions, intersections and generics stand in each other. -/
def Expr.levels : Expr → Nat
  | .name _ => 0
  | .generic _ arguments => mostLevels arguments + 1
  | .suffixed base => base.levels
  | .intersection members => mostLevels members + 1
  | .union members => mostLevels members + 1

def mostLevels : List Expr → Nat
  | [] => 0
  | e :: rest => max e.levels (mostLevels rest)

end

theorem levels_le {e : Expr} {expressions : List Expr} (member : e ∈ expressions) :
    e.levels ≤ mostLevels expressions := by
  induction expressions with
  | nil => nomatch member
  | cons first rest ih =>
    rw [mostLevels]
    rcases List.mem_cons.mp member with rfl | later
    · exact Nat.le_max_left _ _
    · exact Nat.le_trans (ih later) (Nat.le_max_right _ _)

theorem levels_le_of_entry {entries : List (Expr × List Char)} {entry : Expr × List Char} {n : Nat}
    (among : entry ∈ entries) (bound : mostLevels (entries.map Prod.fst) ≤ n) : entry.1.levels ≤ n :=
  Nat.le_trans (levels_le (List.mem_map_of_mem among)) bound

/-- What names are made of: letters, digits, underscores and dots. -/
def isNameChar (c : Char) : Bool :=
  isAlnum c || c == '_' || c == '.'

structure IsName (word : List Char) : Prop where
  some : word ≠ []
  chars : ∀ c ∈ word, isNameChar c = true

instance (word : List Char) : Decidable (IsName word) :=
  decidable_of_iff (word ≠ [] ∧ word.all isNameChar = true)
    ⟨fun ⟨nonempty, all⟩ => ⟨nonempty, List.all_eq_true.mp all⟩,
      fun name => ⟨name.some, List.all_eq_true.mpr name.chars⟩⟩

/-- How tightly an expression holds together. A mark can stand behind a part, a part can stand in an intersection,
and a member in a union. -/
inductive Grade where
  | part
  | member
  | whole

end TypeExpr

namespace TypeTable

open TypeExpr

/-- The marks that can stand behind a type in a language. -/
def marks (table : TypeTable) : List (List Char) :=
  [table.optionalSuffix.toList, table.arraySuffix.toList].filter (!·.isEmpty)

/-- The texts that spell an expression in a language. There may be blanks around separators and inside brackets. -/
inductive Spells (table : TypeTable) : Grade → Expr → List Char → Prop
  | name {grade : Grade} {word : List Char} : IsName word → Spells table grade (.name word) word
  | generic {grade : Grade} {outer gap before inside after : List Char} {entries : List (Expr × List Char)} :
      IsName outer → Blanks gap → Blanks before → Blanks after →
      (∀ entry ∈ entries, Spells table .whole entry.1 entry.2) → Links ',' (entries.map Prod.snd) inside →
      Spells table grade (.generic outer (entries.map Prod.fst))
        (outer ++ (gap ++ (table.genericOpen.toList ++ (before ++ (inside ++ (after ++ table.genericClose.toList))))))
  | suffixed {grade : Grade} {base : Expr} {text gap mark : List Char} :
      Spells table .part base text → Blanks gap → mark ∈ table.marks →
      Spells table grade (.suffixed base) (text ++ (gap ++ mark))
  | intersection {grade : Grade} {text : List Char} {entries : List (Expr × List Char)} :
      grade ≠ .part → "&" ∈ table.intersectionSeparators → 2 ≤ entries.length →
      (∀ entry ∈ entries, Spells table .part entry.1 entry.2) → Links '&' (entries.map Prod.snd) text →
      Spells table grade (.intersection (entries.map Prod.fst)) text
  | union {text : List Char} {entries : List (Expr × List Char)} : 2 ≤ entries.length →
      (∀ entry ∈ entries, Spells table .member entry.1 entry.2) → Links '|' (entries.map Prod.snd) text →
      Spells table .whole (.union (entries.map Prod.fst)) text

def isNullName (table : TypeTable) : Expr → Bool
  | .name word => table.isNull word
  | _ => false

def isDottedNull (table : TypeTable) : Expr → Bool
  | .name word => decide ('.' ∈ word) && table.isNull word
  | _ => false

/-- Whether an expression is a union with a dotted null name at its end, where dotted names are compared by their last
part. -/
def endsInNull (table : TypeTable) : Expr → Bool
  | .union members => table.matchLastSegment && members.getLast?.any table.isDottedNull
  | _ => false

mutual

/-- The name that an expression stands for. A union stands for its first member that is not a null name, an
intersection for its first member, and a marked expression for what stands before the mark. A union wrapper stands
for its first argument that is not passed over, any other wrapper for its first argument. -/
def meaning (table : TypeTable) (passedOver : Expr → Bool) : Expr → Option (List Char)
  | .name word => table.nameOf? word
  | .generic outer arguments =>
    if table.isUnionWrapper outer then table.firstMeaning passedOver passedOver arguments
    else if table.isTransparent outer then table.firstMeaning passedOver (fun _ => false) arguments
    else table.nameOf? outer
  | .suffixed base => table.meaning passedOver base
  | .intersection members => table.firstMeaning passedOver (fun _ => false) members
  | .union members => table.firstMeaning passedOver table.isNullName members

/-- What the first expression stands for that is not left out. -/
def firstMeaning (table : TypeTable) (passedOver : Expr → Bool) (leftOut : Expr → Bool) :
    List Expr → Option (List Char)
  | [] => none
  | e :: rest =>
    if leftOut e then table.firstMeaning passedOver leftOut rest else table.meaning passedOver e

end

/-- No argument of a union wrapper is a union with a dotted null name at its end. -/
inductive Clear (table : TypeTable) : Expr → Prop
  | name (word : List Char) : Clear table (.name word)
  | generic {outer : List Char} {arguments : List Expr} :
      (table.isUnionWrapper outer = true → ∀ e ∈ arguments, table.endsInNull e = false) →
      (∀ e ∈ arguments, Clear table e) → Clear table (.generic outer arguments)
  | suffixed {base : Expr} : Clear table base → Clear table (.suffixed base)
  | intersection {members : List Expr} : (∀ e ∈ members, Clear table e) → Clear table (.intersection members)
  | union {members : List Expr} : (∀ e ∈ members, Clear table e) → Clear table (.union members)

end TypeTable

end CodeGraph
