import CodeGraph.Config.Override
import CodeGraph.Proofs.Schema.Fields

namespace CodeGraph

namespace Members

theorem set_of_get? {members : Members} {key : String} {value : Json} (held : get? members key = some value) :
    set members key value = members := by
  induction members with
  | nil => cases held
  | cons member rest ih =>
    obtain ⟨name, content⟩ := member
    rw [get?_cons] at held
    rw [set]
    by_cases here : name = key
    · rw [if_pos here.symm] at held
      rw [if_pos (beq_iff_eq.mpr here), Option.some.inj held]
    · rw [if_neg (Ne.symm here)] at held
      rw [if_neg (by simpa using here), ih held]

theorem set_set (members : Members) (key : String) (first value : Json) :
    set (set members key first) key value = set members key value := by
  induction members with
  | nil => simp [set]
  | cons member rest ih =>
    obtain ⟨name, content⟩ := member
    by_cases here : name = key
    · simp [set, here]
    · simp [set, here, ih]

end Members

namespace Json

theorem object_or_other (value : Json) :
    (∃ members, value = .obj members) ∨ ∀ members, value ≠ .obj members := by
  cases value with
  | obj members => exact .inl ⟨members, rfl⟩
  | _ => exact .inr fun _ => nofun

/-- A way on which a value is met before its end that is no object. -/
def IsBarred (way : List String) (value : Json) : Prop :=
  ∃ front, front <+: way ∧ front ≠ way ∧
    ∃ held, getAt? front value = some held ∧ ∀ members, held ≠ .obj members

theorem getAt?_cons (key : String) (rest : List String) (members : Members) :
    getAt? (key :: rest) (.obj members) = (Members.get? members key).bind (getAt? rest) :=
  rfl

theorem not_isBarred_nil (value : Json) : ¬ IsBarred [] value := by
  rintro ⟨front, starts, shorter, _⟩
  exact shorter (List.prefix_nil.mp starts)

theorem isBarred_other {way : List String} {value : Json} (nonempty : way ≠ [])
    (other : ∀ members, value ≠ .obj members) : IsBarred way value :=
  ⟨[], List.nil_prefix, nonempty.symm, value, rfl, other⟩

theorem isBarred_cons {key : String} {rest : List String} {members : Members} :
    IsBarred (key :: rest) (.obj members) ↔
      ∃ held, Members.get? members key = some held ∧ IsBarred rest held := by
  constructor
  · rintro ⟨front, starts, shorter, found, held, other⟩
    cases front with
    | nil => exact absurd (Option.some.inj held).symm (other members)
    | cons name front =>
      obtain ⟨rfl, further⟩ := List.cons_prefix_cons.mp starts
      rw [getAt?_cons, Option.bind_eq_some_iff] at held
      obtain ⟨inner, given, held⟩ := held
      exact ⟨inner, given, front, further, fun same => shorter (congrArg _ same), found, held, other⟩
  · rintro ⟨inner, given, front, starts, shorter, found, held, other⟩
    refine ⟨key :: front, List.cons_prefix_cons.mpr ⟨rfl, starts⟩, ?_, found, ?_, other⟩
    · exact fun same => shorter (List.cons.inj same).2
    · rw [getAt?_cons, given]
      exact held

theorem not_isBarred_empty (way : List String) : ¬ IsBarred way (.obj []) := by
  cases way with
  | nil => exact not_isBarred_nil _
  | cons key rest =>
    rw [isBarred_cons]
    rintro ⟨_, given, _⟩
    cases given

/-- A step of the way: the rest of the way is gone in the value under the key, or in a new object, and what
that is left as is put back. -/
theorem putAt_cons (value : Json) (key : String) (rest : List String) (members : Members) :
    putAt value (key :: rest) (.obj members) =
      ((putAt value rest ((Members.get? members key).getD (.obj []))).1,
        .obj (Members.set members key (putAt value rest ((Members.get? members key).getD (.obj []))).2)) := by
  cases rest with
  | nil => rfl
  | cons next rest =>
    rw [putAt]
    change (let made := if (Members.get? members key).isSome then members else _
      let left := putAt value (next :: rest) ((Members.get? made key).getD .null)
      (left.1, Json.obj (Members.set made key left.2))) = _
    cases given : Members.get? members key with
    | none =>
      simp only [Option.isSome_none, Bool.false_eq_true, if_false, Members.get?_set, if_true,
        Option.getD_some, Option.getD_none, Members.set_set]
    | some held => simp only [Option.isSome_some, if_true, given, Option.getD_some]

theorem putAt_other (value : Json) {way : List String} {old : Json} (nonempty : way ≠ [])
    (other : ∀ members, old ≠ .obj members) : putAt value way old = (false, old) := by
  cases way with
  | nil => exact absurd rfl nonempty
  | cons key rest =>
    cases old with
    | obj members => exact absurd rfl (other members)
    | _ => cases rest <;> rfl

/-- Without an object in place of nothing there is only the value that is put back if all goes well. -/
theorem setAt?_eq (value : Json) (way : List String) (old : Json) :
    setAt? value way old = if (putAt value way old).1 then some (putAt value way old).2 else none := by
  induction way generalizing old with
  | nil => rfl
  | cons key rest ih =>
    rcases old.object_or_other with ⟨members, rfl⟩ | other
    · rw [setAt?, ih, putAt_cons]
      change Option.map _ (if (putAt value rest ((Members.get? members key).getD (.obj []))).1 then _ else _) = _
      split <;> rfl
    · rw [putAt_other value (List.cons_ne_nil _ _) other]
      cases old with
      | obj members => exact absurd rfl (other members)
      | _ => rfl

theorem putAt_done_iff (value : Json) (way : List String) (old : Json) :
    (putAt value way old).1 = true ↔ ¬ IsBarred way old := by
  induction way generalizing old with
  | nil => exact iff_of_true rfl (not_isBarred_nil old)
  | cons key rest ih =>
    rcases old.object_or_other with ⟨members, rfl⟩ | other
    · rw [putAt_cons, isBarred_cons]
      cases given : Members.get? members key with
      | none => exact iff_of_true ((ih (.obj [])).mpr (not_isBarred_empty rest)) nofun
      | some held => simpa using ih held
    · have barred := isBarred_other (List.cons_ne_nil key rest) other
      rw [putAt_other value (List.cons_ne_nil _ _) other]
      exact iff_of_false Bool.false_ne_true fun free => free barred

/-- A barred way changes nothing. -/
theorem putAt_of_isBarred (value : Json) {way : List String} {old : Json} (barred : IsBarred way old) :
    putAt value way old = (false, old) := by
  induction way generalizing old with
  | nil => exact absurd barred (not_isBarred_nil old)
  | cons key rest ih =>
    rcases old.object_or_other with ⟨members, rfl⟩ | other
    · obtain ⟨held, given, barred⟩ := isBarred_cons.mp barred
      rw [putAt_cons, given, Option.getD_some, ih barred, Members.set_of_get? given]
    · exact putAt_other value (List.cons_ne_nil _ _) other

theorem getAt?_putAt (value : Json) {way : List String} {old : Json} (free : ¬ IsBarred way old) :
    getAt? way (putAt value way old).2 = some value := by
  induction way generalizing old with
  | nil => rfl
  | cons key rest ih =>
    rcases old.object_or_other with ⟨members, rfl⟩ | other
    · rw [putAt_cons, getAt?_cons, Members.get?_set, if_pos rfl, Option.bind_some]
      cases given : Members.get? members key with
      | none => exact ih (not_isBarred_empty rest)
      | some held => exact ih fun barred => free (isBarred_cons.mpr ⟨held, given, barred⟩)
    · exact absurd (isBarred_other (List.cons_ne_nil _ _) other) free

/-- What is read on a way that leads elsewhere is not changed. -/
theorem getAt?_putAt_apart (value : Json) {way other : List String} {old : Json} (free : ¬ IsBarred way old)
    (above : ¬ other <+: way) (below : ¬ way <+: other) :
    getAt? other (putAt value way old).2 = getAt? other old := by
  induction way generalizing old other with
  | nil => exact absurd List.nil_prefix below
  | cons key rest ih =>
    cases other with
    | nil => exact absurd List.nil_prefix above
    | cons name more =>
      rcases old.object_or_other with ⟨members, rfl⟩ | noObject
      · rw [putAt_cons, getAt?_cons, getAt?_cons, Members.get?_set]
        by_cases here : name = key
        · subst here
          rw [List.cons_prefix_cons, not_and] at above below
          rw [if_pos rfl, Option.bind_some]
          cases given : Members.get? members name with
          | none =>
            rw [Option.getD_none, ih (not_isBarred_empty rest) (above rfl) (below rfl), Option.bind_none]
            cases more with
            | nil => exact absurd List.nil_prefix (above rfl)
            | cons _ _ => rfl
          | some held =>
            have free : ¬ IsBarred rest held := fun barred =>
              free (isBarred_cons.mpr ⟨held, given, barred⟩)
            exact ih free (above rfl) (below rfl)
        · rw [if_neg here]
      · exact absurd (isBarred_other (List.cons_ne_nil _ _) noObject) free

/-- Putting what a text stands for at a place inside an object that is written with dots. If the way to the
place leads through a value that is no object, this fails and leaves the object as it was. If not, the value is
then read at the place, and on every way that is neither a part of the way there nor goes on behind it the same
is read as before. -/
theorem putAt_setting (members : Members) (way text : String) :
    (IsBarred (keysOf way) (.obj members) ∧
      putAt (ofSetting text) (keysOf way) (.obj members) = (false, .obj members) ∧
      setAt? (ofSetting text) (keysOf way) (.obj members) = none) ∨
    (¬ IsBarred (keysOf way) (.obj members) ∧ ∃ left,
      putAt (ofSetting text) (keysOf way) (.obj members) = (true, left) ∧
      setAt? (ofSetting text) (keysOf way) (.obj members) = some left ∧
      getAt? (keysOf way) left = some (ofSetting text) ∧
      ∀ other : List String, ¬ other <+: keysOf way → ¬ keysOf way <+: other →
        getAt? other left = getAt? other (.obj members)) := by
  by_cases barred : IsBarred (keysOf way) (.obj members)
  · have put := putAt_of_isBarred (ofSetting text) barred
    refine .inl ⟨barred, put, ?_⟩
    rw [setAt?_eq, put]
    rfl
  · have done := (putAt_done_iff (ofSetting text) (keysOf way) (.obj members)).mpr barred
    refine .inr ⟨barred, _, Prod.ext done rfl, ?_, getAt?_putAt _ barred, fun other above below =>
      getAt?_putAt_apart _ barred above below⟩
    rw [setAt?_eq, if_pos done]

/-- An object with a part that is an object and one that is a text. -/
def partsSample : Members :=
  [("a", .obj [("x", .int 1)]), ("s", .str "b")]

/-- A level is made and a text does not let through, though the key occurs in it. -/
theorem putAt_setting_partsSample : ¬ ["a", "x"] <+: keysOf "a.b.c" ∧ ¬ keysOf "a.b.c" <+: ["a", "x"] ∧
    (∃ left, putAt (ofSetting "yes") (keysOf "a.b.c") (.obj partsSample) = (true, left) ∧
      getAt? (keysOf "a.b.c") left = some (.bool true) ∧
      getAt? ["a", "x"] left = some (.int 1)) ∧
    putAt (ofSetting "yes") (keysOf "s.b.c") (.obj partsSample) = (false, .obj partsSample) := by
  have above : ¬ ["a", "x"] <+: keysOf "a.b.c" := by decide
  have below : ¬ keysOf "a.b.c" <+: ["a", "x"] := by decide
  refine ⟨above, below, ?_, ?_⟩
  · rcases putAt_setting partsSample "a.b.c" "yes" with ⟨_, fails, _⟩ | ⟨_, left, put, _, there, apart⟩
    · exact absurd (congrArg Prod.fst fails) (by decide)
    · exact ⟨left, put, there, apart ["a", "x"] above below⟩
  · rcases putAt_setting partsSample "s.b.c" "yes" with ⟨_, fails, _⟩ | ⟨_, left, put, _⟩
    · exact fails
    · have ends : (putAt (ofSetting "yes") (keysOf "s.b.c") (.obj partsSample)).1 = false := by decide
      exact absurd (ends.symm.trans (congrArg Prod.fst put)) Bool.false_ne_true

end Json

end CodeGraph
