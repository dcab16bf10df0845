import CodeGraph.Proofs.Schema.Readers
import Mathlib.Data.List.Forall2

namespace CodeGraph

namespace Members

theorem get?_of_mem {members : Members} {key : String} {value : Json}
    (distinct : (members.map (·.1)).Nodup) (member : (key, value) ∈ members) :
    members.get? key = some value := by
  induction members with
  | nil => cases member
  | cons first rest ih =>
    obtain ⟨name, held⟩ := first
    rw [List.map_cons, List.nodup_cons] at distinct
    rw [get?_cons]
    rcases List.mem_cons.mp member with same | later
    · cases same
      exact if_pos rfl
    · have other : key ≠ name := by
        rintro rfl
        exact distinct.1 (List.mem_map_of_mem (f := (·.1)) later)
      rw [if_neg other, ih distinct.2 later]

end Members

namespace Field

variable {α β : Type} {name : String} {read : Reader β} {get : α → β} {write : β → Json}
  {set : β → α → α} {P : α → Prop}

/-- A field that takes its own view of a record, with the change that this makes. -/
def Takes (field : Field α) (a : α) (change : α → α) : Prop :=
  field.assign (field.view a) = .ok change

theorem Takes.required {a : α} {b : β} (reads : read (write (get a)) = .ok b) :
    (Field.required name read get write set).Takes a (set b) := by
  simp [Takes, Field.required, reads, Except.map]

theorem Takes.optional {a : α} {b : β} (reads : read (write (get a)) = .ok b) :
    (Field.optional name read get write set).Takes a (set b) := by
  simp [Takes, Field.optional, reads, Except.map]

theorem Takes.flag {name : String} {get : α → Bool} {set : Bool → α → α} {a : α} :
    (Field.optional name Reader.bool get .bool set).Takes a (set (get a)) :=
  Takes.optional rfl

/-- A field that does not take a value says why. -/
theorem assign_ne {kinds : IssueKind → Prop} (tells : Reader.Tells kinds read) (value : Json) :
    (required name read get write set).assign value ≠ .error [] := by
  intro silent
  cases found : read value with
  | ok b => simp [required, found, Except.map] at silent
  | error issues =>
    simp only [required, found, Except.map, Except.error.injEq] at silent
    exact (tells value issues found).1 silent

/-- A property of records that holds after a value has been put into a field. -/
def Establishes (P : α → Prop) (field : Field α) : Prop :=
  ∀ value set, field.assign value = .ok set → ∀ a, P (set a)

/-- A property of records that is left by putting a value into a field. -/
def Preserves (P : α → Prop) (field : Field α) : Prop :=
  ∀ value set, field.assign value = .ok set → ∀ a, P a → P (set a)

theorem Establishes.required (puts : ∀ value b, read value = .ok b → ∀ a, P (set b a)) :
    (Field.required name read get write set).Establishes P := by
  intro value change assigned
  cases found : read value with
  | ok b =>
    simp only [Field.required, found, Except.map, Except.ok.injEq] at assigned
    subst assigned
    exact puts value b found
  | error issues => simp [Field.required, found, Except.map] at assigned

theorem Preserves.required (puts : ∀ value b, read value = .ok b → ∀ a, P a → P (set b a)) :
    (Field.required name read get write set).Preserves P := by
  intro value change assigned
  cases found : read value with
  | ok b =>
    simp only [Field.required, found, Except.map, Except.ok.injEq] at assigned
    subst assigned
    exact puts value b found
  | error issues => simp [Field.required, found, Except.map] at assigned

theorem Preserves.optional (puts : ∀ value b, read value = .ok b → ∀ a, P a → P (set b a)) :
    (Field.optional name read get write set).Preserves P :=
  have required : (Field.required name read get write set).Preserves P := .required puts
  required

theorem Preserves.put {field : Field α} (keeps : field.Preserves P) (members : Members) {a : α}
    (holds : P a) : P (field.put members a) := by
  unfold Field.put
  repeat' split
  · exact holds
  · exact keeps _ _ ‹_› _ holds
  · exact holds

end Field

namespace Schema

variable {α : Type} {schema : Schema α} {P : α → Prop} {a b : α} {value : Json}

theorem foldl_put_preserves {fields : List (Field α)} (keep : ∀ field ∈ fields, field.Preserves P)
    (members : Members) (holds : P a) :
    P (fields.foldl (fun a field => field.put members a) a) := by
  induction fields generalizing a with
  | nil => exact holds
  | cons field rest ih =>
    obtain ⟨first, others⟩ := List.forall_mem_cons.mp keep
    exact ih others (first.put members holds)

theorem exists_members_of_read (plain : schema.tidy = id) (read : schema.read value = .ok a) :
    ∃ members, value = .obj members := by
  cases value with
  | obj members => exact ⟨members, rfl⟩
  | _ =>
    unfold Schema.read at read
    rw [plain] at read
    cases read

/-- What the initial record has and every field preserves holds of every record that is read. -/
theorem read_preserves (plain : schema.tidy = id) (start : P schema.initial)
    (keep : ∀ field ∈ schema.fields, field.Preserves P) (read : schema.read value = .ok a) : P a := by
  obtain ⟨members, rfl⟩ := exists_members_of_read plain read
  obtain ⟨_, rfl⟩ := (read_obj_eq_ok_iff (by rw [plain]; rfl)).mp read
  exact foldl_put_preserves keep members start

/-- What a field that is needed establishes and every field preserves holds of every record that is
read. -/
theorem read_establishes {field : Field α} (plain : schema.tidy = id) (among : field ∈ schema.fields)
    (needed : field.isRequired = true) (tells : ∀ value, field.assign value ≠ .error [])
    (establishes : field.Establishes P) (keep : ∀ field ∈ schema.fields, field.Preserves P)
    (read : schema.read value = .ok a) : P a := by
  obtain ⟨members, rfl⟩ := exists_members_of_read plain read
  obtain ⟨noIssues, rfl⟩ := (read_obj_eq_ok_iff (by rw [plain]; rfl)).mp read
  have put (a : α) : P (field.put members a) := by
    have none := noIssues field among
    unfold Field.issues at none
    unfold Field.put
    cases given : field.find? members with
    | none => simp [given, needed] at none
    | some found =>
      obtain ⟨key, value⟩ := found
      cases assigned : field.assign value with
      | ok set =>
        simp only [assigned]
        exact establishes value set assigned a
      | error issues =>
        simp only [given, assigned, List.map_eq_nil_iff] at none
        exact absurd (by rw [assigned, none]) (tells value)
  obtain ⟨before, after, split⟩ := List.append_of_mem among
  rw [split] at keep ⊢
  rw [List.foldl_append, List.foldl_cons]
  exact foldl_put_preserves (fun other later => keep other (by simp [later])) members (put _)

/-- Fields with names of their own, and no other spellings. -/
structure Plain (schema : Schema α) : Prop where
  tidy : schema.tidy = id
  unspelled : ∀ field ∈ schema.fields, field.spelling = none
  distinct : (schema.fields.map (·.name)).Nodup

namespace Plain

theorem get?_toJson (plain : schema.Plain) {field : Field α} (among : field ∈ schema.fields) (a : α) :
    Members.get? (schema.fields.map fun field => (field.name, field.view a)) field.name =
      some (field.view a) := by
  refine Members.get?_of_mem ?_
    (List.mem_map_of_mem (f := fun field => (field.name, field.view a)) among)
  rw [List.map_map]
  exact plain.distinct

theorem find?_toJson (plain : schema.Plain) {field : Field α} (among : field ∈ schema.fields) (a : α) :
    field.find? (schema.fields.map fun field => (field.name, field.view a)) =
      some (field.name, field.view a) := by
  rw [Field.find?_unspelled _ (plain.unspelled field among), plain.get?_toJson among]
  rfl

theorem takes_view (plain : schema.Plain) {field : Field α} (among : field ∈ schema.fields)
    {change : α → α} (takes : field.Takes a change) :
    field.issues (schema.fields.map fun field => (field.name, field.view a)) = [] ∧
      ∀ b, field.put (schema.fields.map fun field => (field.name, field.view a)) b = change b := by
  unfold Field.Takes at takes
  simp [Field.issues, Field.put, plain.find?_toJson among, takes]

/-- A record can be read again if each field takes its own view. -/
theorem read_toJson (plain : schema.Plain) {changes : List (α → α)}
    (all : List.Forall₂ (fun field change => field.Takes a change) schema.fields changes) :
    schema.read (schema.toJson a) =
      .ok (changes.foldl (fun b change => change b) schema.initial) := by
  -- The fields that are still to be read are fields of the record type, whose names are distinct.
  have rest {fields : List (Field α)} {changes : List (α → α)}
      (all : List.Forall₂ (fun field change => field.Takes a change) fields changes)
      (among : ∀ field ∈ fields, field ∈ schema.fields) (b : α) :
      (∀ field ∈ fields,
        field.issues (schema.fields.map fun field => (field.name, field.view a)) = []) ∧
      fields.foldl (fun b field =>
        field.put (schema.fields.map fun field => (field.name, field.view a)) b) b =
          changes.foldl (fun b change => change b) b := by
    induction all generalizing b with
    | nil => exact ⟨nofun, rfl⟩
    | cons takes _ ih =>
      obtain ⟨first, others⟩ := List.forall_mem_cons.mp among
      obtain ⟨noIssue, puts⟩ := plain.takes_view first takes
      obtain ⟨noIssues, same⟩ := ih others _
      exact ⟨List.forall_mem_cons.mpr ⟨noIssue, noIssues⟩, by
        rw [List.foldl_cons, List.foldl_cons, puts, same]⟩
  exact (read_obj_eq_ok_iff (by rw [plain.tidy]; rfl)).mpr (rest all (fun _ among => among) _)

section

variable {β : Type} {name : String} {read : Reader β} {get : α → β} {write : β → Json}
  {set : β → α → α} {kinds : IssueKind → Prop}

theorem reads_required (plain : schema.Plain)
    (among : Field.required name read get write set ∈ schema.fields) (tells : Reader.Tells kinds read)
    (again : schema.read (schema.toJson a) = .ok b) : ∃ v, read (write (get a)) = .ok v := by
  obtain ⟨noIssues, _⟩ := (read_obj_eq_ok_iff (by rw [plain.tidy]; rfl)).mp again
  obtain ⟨value, v, given, found⟩ := (Field.issues_required_eq_nil tells).mp (noIssues _ among)
  cases (plain.get?_toJson among a).symm.trans given
  exact ⟨v, found⟩

theorem reads_optional (plain : schema.Plain)
    (among : Field.optional name read get write set ∈ schema.fields) (tells : Reader.Tells kinds read)
    (again : schema.read (schema.toJson a) = .ok b) : ∃ v, read (write (get a)) = .ok v := by
  obtain ⟨noIssues, _⟩ := (read_obj_eq_ok_iff (by rw [plain.tidy]; rfl)).mp again
  exact (Field.issues_optional_eq_nil tells).mp (noIssues _ among) _ (plain.get?_toJson among a)

end

end Plain

end Schema

end CodeGraph
