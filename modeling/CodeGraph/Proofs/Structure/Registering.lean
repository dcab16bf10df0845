import CodeGraph.Proofs.Text.Lowering
import CodeGraph.Structure.Languages

namespace CodeGraph.Registry

section Bindings

variable {Value : Type}

theorem lookup_bind (key other : String) (value : Value) (entries : List (String × Value)) :
    (bind key value entries).lookup other = if other = key then some value else entries.lookup other := by
  induction entries with
  | nil => grind [bind]
  | cons entry rest ih => grind [bind]

theorem mem_bind {key : String} {value : Value} {entries : List (String × Value)} {entry : String × Value}
    (member : entry ∈ bind key value entries) : entry = (key, value) ∨ entry ∈ entries := by
  induction entries with
  | nil => grind [bind]
  | cons first rest ih => grind [bind]

/-- What binding many keys to one value adds. -/
theorem mem_foldl_bind {value : Value} {keyOf : String → String} {names : List String}
    {entries : List (String × Value)} {entry : String × Value}
    (member : entry ∈ names.foldl (fun found name => bind (keyOf name) value found) entries) :
    ((∃ name ∈ names, entry.1 = keyOf name) ∧ entry.2 = value) ∨ entry ∈ entries := by
  induction names generalizing entries with
  | nil => exact .inr member
  | cons name rest ih =>
    rcases ih member with ⟨⟨later, listed, same⟩, bound⟩ | bound
    · exact .inl ⟨⟨later, List.mem_cons_of_mem _ listed, same⟩, bound⟩
    · rcases mem_bind bound with rfl | old
      · exact .inl ⟨⟨name, List.mem_cons_self, rfl⟩, rfl⟩
      · exact .inr old

theorem mem_of_lookup {entries : List (String × Value)} {key : String} {value : Value}
    (found : entries.lookup key = some value) : (key, value) ∈ entries := by
  obtain ⟨before, after, rfl, -⟩ := List.lookup_eq_some_iff.mp found
  exact List.mem_append_right _ List.mem_cons_self

theorem mem_keys_iff {entries : List (String × Value)} {key : String} :
    key ∈ entries.map (·.1) ↔ (entries.lookup key).isSome = true := by
  rw [List.lookup_isSome_iff, List.mem_map]
  constructor
  · rintro ⟨entry, member, rfl⟩
    exact ⟨entry, member, beq_self_eq_true _⟩
  · rintro ⟨entry, member, same⟩
    exact ⟨entry, member, (beq_iff_eq.mp same).symm⟩

/-- A binding that is kept is still found when others are dropped. -/
theorem lookup_filter {keep : String × Value → Bool} {entries : List (String × Value)} {key : String}
    {value : Value} (found : entries.lookup key = some value) (kept : keep (key, value) = true) :
    (entries.filter keep).lookup key = some value := by
  obtain ⟨before, after, rfl, others⟩ := List.lookup_eq_some_iff.mp found
  rw [List.filter_append, List.filter_cons_of_pos kept]
  exact List.lookup_eq_some_iff.mpr ⟨_, _, rfl, fun entry among => others entry (List.mem_of_mem_filter among)⟩

theorem lookup_filter_none {entries : List (String × Value)} {key : String} (unbound : entries.lookup key = none)
    (keep : String × Value → Bool) : (entries.filter keep).lookup key = none := by
  rw [List.lookup_eq_none_iff] at unbound ⊢
  exact fun entry among => unbound entry (List.mem_of_mem_filter among)

end Bindings

variable {Extractor : Type}

/-- A language that has an extractor. -/
def Registers (registry : Registry Extractor) (language : String) : Prop :=
  (registry.extractors.lookup language).isSome = true

instance (registry : Registry Extractor) (language : String) : Decidable (registry.Registers language) :=
  inferInstanceAs (Decidable (_ = _))

/-- Other names and extensions lead to languages that have an extractor. -/
structure Consistent (registry : Registry Extractor) : Prop where
  aliases : ∀ entry ∈ registry.aliases, registry.Registers entry.2
  extensions : ∀ entry ∈ registry.extensions, registry.Registers entry.2

/-- A key with a dot in front stands for an extension. -/
def IsDotted (key : String) : Prop :=
  key.toList.head? = some '.'

instance (key : String) : Decidable (IsDotted key) :=
  inferInstanceAs (Decidable (_ = _))

/-- What a folded key means: an extension with its dot, else a language, else another name of one, else an
extension without its dot. -/
inductive Means (registry : Registry Extractor) (key : String) : String → Prop
  | dotted {language : String} : IsDotted key → registry.extensions.lookup key = some language →
      Means registry key language
  | language : ¬ IsDotted key → registry.Registers key → Means registry key key
  | other {language : String} : ¬ IsDotted key → ¬ registry.Registers key →
      registry.aliases.lookup key = some language → Means registry key language
  | bare {language : String} : ¬ IsDotted key → ¬ registry.Registers key → registry.aliases.lookup key = none →
      registry.extensions.lookup ("." ++ key) = some language → Means registry key language

theorem language?_eq_some_iff {registry : Registry Extractor} {key language : String} :
    registry.language? key = some language ↔ fold key ≠ "" ∧ registry.Means (fold key) language := by
  unfold language?
  generalize fold key = key
  dsimp only
  -- the lookup goes through its conditions in order, and each outcome leaves one way to mean something
  by_cases blank : key = ""
  · simp [blank]
  rw [if_neg (by simpa using blank)]
  by_cases dotted : IsDotted key
  · rw [if_pos (by simpa [IsDotted] using dotted)]
    refine ⟨fun found => ⟨blank, .dotted dotted found⟩, ?_⟩
    rintro ⟨-, ⟨_, found⟩ | ⟨undotted, _⟩ | ⟨undotted, _, _⟩ | ⟨undotted, _, _, _⟩⟩
    · exact found
    all_goals exact absurd dotted undotted
  rw [if_neg (by simpa [IsDotted] using dotted)]
  by_cases known : registry.Registers key
  · have held : (registry.extractors.lookup key).isSome = true := known
    rw [if_pos held]
    refine ⟨fun same => ⟨blank, Option.some.inj same ▸ .language dotted known⟩, ?_⟩
    rintro ⟨-, ⟨isDotted, _⟩ | ⟨_, _⟩ | ⟨_, unknown, _⟩ | ⟨_, unknown, _, _⟩⟩
    · exact absurd isDotted dotted
    · rfl
    all_goals exact absurd known unknown
  have unheld : ¬ (registry.extractors.lookup key).isSome = true := known
  rw [if_neg unheld]
  cases named : registry.aliases.lookup key with
  | some target =>
    refine ⟨fun same => ⟨blank, .other dotted known (named.trans same)⟩, ?_⟩
    rintro ⟨-, ⟨isDotted, _⟩ | ⟨_, isKnown⟩ | ⟨_, _, found⟩ | ⟨_, _, none, _⟩⟩
    · exact absurd isDotted dotted
    · exact absurd isKnown known
    · exact named.symm.trans found
    · cases named.symm.trans none
  | none =>
    refine ⟨fun found => ⟨blank, .bare dotted known named found⟩, ?_⟩
    rintro ⟨-, ⟨isDotted, _⟩ | ⟨_, isKnown⟩ | ⟨_, _, some⟩ | ⟨_, _, _, found⟩⟩
    · exact absurd isDotted dotted
    · exact absurd isKnown known
    · cases named.symm.trans some
    · exact found

/-- Whatever a key means in a consistent registry has an extractor. -/
theorem Consistent.means_registers {registry : Registry Extractor} (h : registry.Consistent) {key language : String}
    (means : registry.Means key language) : registry.Registers language := by
  cases means with
  | dotted _ found => exact h.extensions _ (mem_of_lookup found)
  | language _ known => exact known
  | other _ _ found => exact h.aliases _ (mem_of_lookup found)
  | bare _ _ _ found => exact h.extensions _ (mem_of_lookup found)

/-- A call on a registry. -/
inductive Call (Extractor : Type) where
  | register (language : String) (extractor : Extractor) (extensions aliases : List String) (override : Bool)
  | unregister (language : String)

/-- The registry after a call. A registration that is refused leaves it as it is. -/
def perform (registry : Registry Extractor) : Call Extractor → Registry Extractor
  | .register language extractor extensions aliases override =>
    match registry.register language extractor extensions aliases override with
    | .ok after => after
    | .error _ => registry
  | .unregister language => (registry.unregister language).2

/-- The registry after calls, one after another. -/
def run (registry : Registry Extractor) (calls : List (Call Extractor)) : Registry Extractor :=
  calls.foldl perform registry

theorem register_cases (registry : Registry Extractor) (language : String) (extractor : Extractor)
    (extensions aliases : List String) (override : Bool) :
    (registry.Registers (fold language) ∧ override = false ∧
      registry.register language extractor extensions aliases override =
        .error s!"Extractor for {fold language} already registered. Use override=True to replace.") ∨
    ((registry.Registers (fold language) → override = true) ∧ ∃ after,
      registry.register language extractor extensions aliases override = .ok after ∧
      after.extractors = bind (fold language) extractor registry.extractors ∧
      after.aliases = aliases.foldl (fun found other => bind (fold other) (fold language) found) registry.aliases ∧
      after.extensions = extensions.foldl
        (fun found extension => bind (foldExtension extension) (fold language) found) registry.extensions) := by
  unfold register Registers
  dsimp only
  split
  · rename_i refused
    rw [Bool.and_eq_true, Bool.not_eq_true'] at refused
    exact .inl ⟨refused.1, refused.2, rfl⟩
  · rename_i accepted
    refine .inr ⟨fun known => ?_, _, rfl, rfl, rfl, rfl⟩
    simpa [known] using accepted

theorem unregister_cases (registry : Registry Extractor) (language : String) :
    (registry.Registers (fold language) ∧ (registry.unregister language).2 = {
      extractors := registry.extractors.filter (·.1 != fold language)
      aliases := registry.aliases.filter (·.2 != fold language)
      extensions := registry.extensions.filter (·.2 != fold language) }) ∨
    (¬ registry.Registers (fold language) ∧ (registry.unregister language).2 = registry) := by
  unfold unregister Registers
  dsimp only
  split
  · exact .inl ⟨‹_›, rfl⟩
  · exact .inr ⟨‹_›, rfl⟩

theorem registers_bind {registry after : Registry Extractor} {language other : String} {extractor : Extractor}
    (bound : after.extractors = bind language extractor registry.extractors) :
    after.Registers other ↔ other = language ∨ registry.Registers other := by
  unfold Registers
  rw [bound, lookup_bind]
  split <;> simp [*]

theorem registers_unregister {registry : Registry Extractor} {language other : String} :
    (registry.unregister language).2.Registers other ↔ other ≠ fold language ∧ registry.Registers other := by
  rcases registry.unregister_cases language with ⟨-, same⟩ | ⟨unknown, same⟩
  · rw [same]
    unfold Registers
    rw [List.lookup_isSome_iff, List.lookup_isSome_iff]
    simp only [List.mem_filter, bne_iff_ne, beq_iff_eq]
    constructor
    · rintro ⟨entry, ⟨member, away⟩, rfl⟩
      exact ⟨away, entry, member, rfl⟩
    · rintro ⟨away, entry, member, rfl⟩
      exact ⟨entry, ⟨member, away⟩, rfl⟩
  · rw [same]
    refine ⟨fun known => ⟨?_, known⟩, And.right⟩
    rintro rfl
    exact unknown known

theorem Consistent.perform {registry : Registry Extractor} (h : registry.Consistent) (call : Call Extractor) :
    (registry.perform call).Consistent := by
  cases call with
  | register language extractor extensions aliases override =>
    unfold Registry.perform
    rcases registry.register_cases language extractor extensions aliases override with
      ⟨-, -, refused⟩ | ⟨-, after, accepted, extractors, names, endings⟩
    · simpa only [refused] using h
    · simp only [accepted]
      constructor
      · intro entry member
        rw [registers_bind extractors]
        rw [names] at member
        rcases mem_foldl_bind member with ⟨-, bound⟩ | old
        · exact .inl bound
        · exact .inr (h.aliases entry old)
      · intro entry member
        rw [registers_bind extractors]
        rw [endings] at member
        rcases mem_foldl_bind member with ⟨-, bound⟩ | old
        · exact .inl bound
        · exact .inr (h.extensions entry old)
  | unregister language =>
    change (registry.unregister language).2.Consistent
    have keeps {entry : String × String} (known : registry.Registers entry.2)
        (away : (entry.2 != fold language) = true) :
        (registry.unregister language).2.Registers entry.2 :=
      registers_unregister.mpr ⟨by simpa using away, known⟩
    rcases registry.unregister_cases language with ⟨-, same⟩ | ⟨-, same⟩
    · rw [same] at keeps ⊢
      constructor
      · intro entry member
        obtain ⟨old, away⟩ := List.mem_filter.mp member
        exact keeps (h.aliases entry old) away
      · intro entry member
        obtain ⟨old, away⟩ := List.mem_filter.mp member
        exact keeps (h.extensions entry old) away
    · rwa [same]

theorem Consistent.run {registry : Registry Extractor} (h : registry.Consistent) (calls : List (Call Extractor)) :
    (registry.run calls).Consistent := by
  induction calls generalizing registry with
  | nil => exact h
  | cons call rest ih => exact ih (h.perform call)

theorem consistent_empty : ({} : Registry Extractor).Consistent :=
  ⟨nofun, nofun⟩

/-- The registry of the known languages comes from registering them one after another. -/
theorem known_eq_run : known = run {} (knownLanguages.map fun entry =>
    .register entry.1.language entry.1 entry.2.1 entry.2.2 false) := by
  rw [run, List.foldl_map]
  rfl

/-- The registry before anything is registered, or with the known languages. -/
def IsStart (registry : Registry TypeTable) : Prop :=
  registry = {} ∨ registry = known

theorem IsStart.consistent {registry : Registry TypeTable} (start : registry.IsStart) : registry.Consistent := by
  rcases start with rfl | rfl
  · exact consistent_empty
  · rw [known_eq_run]
    exact consistent_empty.run _

/-- No key means a language that was removed. -/
theorem Consistent.not_means_unregister {registry : Registry Extractor} (h : registry.Consistent)
    (language key : String) : ¬ (registry.unregister language).2.Means key (fold language) := fun means =>
  (registers_unregister.mp ((h.perform (.unregister language)).means_registers means)).1 rfl

/-- A key that means another language than the one that is removed keeps its meaning. -/
theorem Means.unregister {registry : Registry Extractor} {language key other : String}
    (means : registry.Means key other) (away : other ≠ fold language) :
    (registry.unregister language).2.Means key other := by
  have unknown (unheld : ¬ registry.Registers key) : ¬ (registry.unregister language).2.Registers key := fun held =>
    unheld (registers_unregister.mp held).2
  have known : registry.Registers key → key ≠ fold language → (registry.unregister language).2.Registers key :=
    fun held apart => registers_unregister.mpr ⟨apart, held⟩
  rcases registry.unregister_cases language with ⟨-, same⟩ | ⟨-, same⟩
  · rw [same] at unknown known ⊢
    have keeps : ((key, other).2 != fold language) = true := by simpa using away
    cases means with
    | dotted isDotted found => exact .dotted isDotted (lookup_filter found keeps)
    | language undotted held => exact .language undotted (known held away)
    | other undotted unheld found => exact .other undotted (unknown unheld) (lookup_filter found keeps)
    | bare undotted unheld unnamed found =>
      have keeps' : (("." ++ key, other).2 != fold language) = true := keeps
      exact .bare undotted (unknown unheld) (lookup_filter_none unnamed _) (lookup_filter found keeps')
  · rwa [same]

theorem lookup_unregister {registry : Registry Extractor} {language other : String} (away : other ≠ fold language) :
    (registry.unregister language).2.extractors.lookup other = registry.extractors.lookup other := by
  rcases registry.unregister_cases language with ⟨-, same⟩ | ⟨-, same⟩
  · rw [same]
    cases held : registry.extractors.lookup other with
    | none => exact lookup_filter_none held _
    | some extractor => exact lookup_filter held (by simpa using away)
  · rw [same]

/-- Whatever was registered and removed before: other names and extensions lead to languages that have an
extractor. A language is refused if and only if it has one already and is not to be overridden, and nothing
changes then. When a language is removed no key means it any more, and each key that meant another one means
that one still, with the same extractor. -/
theorem run_consistent {start : Registry TypeTable} (isStart : start.IsStart) (calls : List (Call TypeTable)) :
    (start.run calls).Consistent ∧
    (∀ language extractor extensions aliases override,
      ((∃ reason, (start.run calls).register language extractor extensions aliases override = .error reason) ↔
        (start.run calls).Registers (fold language) ∧ override = false) ∧
      ∀ reason, (start.run calls).register language extractor extensions aliases override = .error reason →
        start.run (calls ++ [.register language extractor extensions aliases override]) = start.run calls) ∧
    ∀ language,
      (∀ key, (start.run (calls ++ [.unregister language])).language? key ≠ some (fold language)) ∧
      ∀ key other, (start.run calls).language? key = some other → other ≠ fold language →
        (start.run (calls ++ [.unregister language])).language? key = some other ∧
        ((start.run calls).get? key).isSome = true ∧
        (start.run (calls ++ [.unregister language])).get? key = (start.run calls).get? key := by
  have h := isStart.consistent.run calls
  have last (call : Call TypeTable) : start.run (calls ++ [call]) = (start.run calls).perform call := by
    rw [run, List.foldl_append]
    rfl
  refine ⟨h, fun language extractor extensions aliases override => ?_, fun language => ?_⟩
  · rcases (start.run calls).register_cases language extractor extensions aliases override with
      ⟨known, fixed, refused⟩ | ⟨free, after, accepted, -⟩
    · refine ⟨iff_of_true ⟨_, refused⟩ ⟨known, fixed⟩, fun reason _ => ?_⟩
      rw [last, perform, refused]
    · rw [accepted]
      refine ⟨iff_of_false nofun fun both => ?_, nofun⟩
      exact Bool.false_ne_true (both.2.symm.trans (free both.1))
  · rw [last]
    refine ⟨fun key means => ?_, fun key other means away => ?_⟩
    · exact h.not_means_unregister language _ (language?_eq_some_iff.mp means).2
    · obtain ⟨some, before⟩ := language?_eq_some_iff.mp means
      have means' := language?_eq_some_iff.mpr ⟨some, before.unregister away⟩
      refine ⟨means', ?_, ?_⟩
      · rw [get?, means]
        exact h.means_registers before
      · rw [get?, get?, means]
        exact (congrArg (Option.bind · _) means').trans (lookup_unregister away)

/-- A language takes a name of another one over and keeps it when the other one is removed. -/
theorem run_consistent_taken :
    let calls := [.register "Vue" .python [".vue"] ["TS"] false]
    (known.run calls).Consistent ∧ (known.run calls).language? ".tsx" = some "typescript" ∧
      (known.run (calls ++ [.unregister "TypeScript"])).language? ".tsx" ≠ some (fold "TypeScript") ∧
      (known.run (calls ++ [.unregister "TypeScript"])).language? "ts" = some "vue" := by
  obtain ⟨consistent, -, removed⟩ := run_consistent (.inr rfl) [.register "Vue" .python [".vue"] ["TS"] false]
  obtain ⟨gone, others⟩ := removed "TypeScript"
  refine ⟨consistent, by decide +kernel, gone ".tsx", ?_⟩
  exact (others "ts" "vue" (by decide +kernel) (by decide +kernel)).1

theorem fold_eq (s : String) : fold s = String.ofList (Text.lowerChars (Text.trimChars Text.isBlank s.toList)) := by
  rw [fold, Text.lower, Text.trim, String.toList_ofList]

theorem fold_fold (s : String) : fold (fold s) = fold s := by
  rw [fold_eq, fold_eq, String.toList_ofList, Text.trimChars_lowerChars (Text.trimChars_trimChars _ _),
    Text.lowerChars_lowerChars]

theorem isDotted_foldExtension (s : String) : foldExtension s = "" ∨ IsDotted (foldExtension s) := by
  unfold foldExtension
  dsimp only
  split
  · rename_i asItIs
    rw [Bool.or_eq_true, beq_iff_eq, beq_iff_eq] at asItIs
    exact asItIs
  · right
    rw [IsDotted, String.toList_append]
    rfl

/-- An extension that was folded is folded as it stands. -/
theorem fold_foldExtension (s : String) : fold (foldExtension s) = foldExtension s := by
  unfold foldExtension
  dsimp only
  split
  · exact fold_fold s
  · rw [fold_eq s]
    have bare := Text.trimChars_lowerChars (Text.trimChars_trimChars Text.isBlank s.toList)
    have small := Text.isSmall_lowerFrom [] (Text.trimChars Text.isBlank s.toList)
    rw [← Text.lowerChars] at small
    generalize Text.lowerChars (Text.trimChars Text.isBlank s.toList) = body at bare small
    have trimmed : Text.trimChars Text.isBlank ('.' :: body) = '.' :: body := Text.trimChars_cons (by decide) bare
    have lowered : Text.lowerChars ('.' :: body) = '.' :: body :=
      Text.lowerFrom_of_isSmall (List.forall_mem_cons.mpr ⟨by decide, small⟩) []
    have dotted : "." ++ String.ofList body = String.ofList ('.' :: body) :=
      (@String.ofList_append ['.'] body).symm
    rw [dotted, fold_eq, String.toList_ofList, trimmed, lowered]

/-- The keys of a registry are folded, and those of extensions start with a dot unless they are blank. -/
structure Folded (registry : Registry Extractor) : Prop where
  extractors : ∀ entry ∈ registry.extractors, fold entry.1 = entry.1
  extensions : ∀ entry ∈ registry.extensions, fold entry.1 = entry.1 ∧ (entry.1 = "" ∨ IsDotted entry.1)

theorem Folded.perform {registry : Registry Extractor} (h : registry.Folded) (call : Call Extractor) :
    (registry.perform call).Folded := by
  cases call with
  | register language extractor extensions aliases override =>
    unfold Registry.perform
    rcases registry.register_cases language extractor extensions aliases override with
      ⟨-, -, refused⟩ | ⟨-, after, accepted, extractors, -, endings⟩
    · simpa only [refused] using h
    · simp only [accepted]
      constructor
      · intro entry member
        rw [extractors] at member
        rcases mem_bind member with rfl | old
        · exact fold_fold language
        · exact h.extractors entry old
      · intro entry member
        rw [endings] at member
        rcases mem_foldl_bind member with ⟨⟨extension, -, key⟩, -⟩ | old
        · rw [key]
          exact ⟨fold_foldExtension extension, isDotted_foldExtension extension⟩
        · exact h.extensions entry old
  | unregister language =>
    change (registry.unregister language).2.Folded
    rcases registry.unregister_cases language with ⟨-, same⟩ | ⟨-, same⟩
    · rw [same]
      exact ⟨fun entry member => h.extractors entry (List.mem_of_mem_filter member),
        fun entry member => h.extensions entry (List.mem_of_mem_filter member)⟩
    · rwa [same]

theorem Folded.run {registry : Registry Extractor} (h : registry.Folded) (calls : List (Call Extractor)) :
    (registry.run calls).Folded := by
  induction calls generalizing registry with
  | nil => exact h
  | cons call rest ih => exact ih (h.perform call)

theorem folded_empty : ({} : Registry Extractor).Folded :=
  ⟨fun _ member => absurd member List.not_mem_nil, fun _ member => absurd member List.not_mem_nil⟩

theorem IsStart.folded {registry : Registry TypeTable} (start : registry.IsStart) : registry.Folded := by
  rcases start with rfl | rfl
  · exact folded_empty
  · rw [known_eq_run]
    exact folded_empty.run _

/-- The extractor that a language has after a call, given the one that it had before. -/
def Call.update (language : String) (held : Option Extractor) : Call Extractor → Option Extractor
  | .register name extractor _ _ override =>
    if fold name = language ∧ (held = none ∨ override = true) then some extractor else held
  | .unregister name => if fold name = language then none else held

/-- The extractor that was registered last for a language, if it was not removed since. -/
def latest? (start : Registry Extractor) (calls : List (Call Extractor)) (language : String) : Option Extractor :=
  calls.foldl (Call.update language) (start.extractors.lookup language)

theorem lookup_perform (registry : Registry Extractor) (call : Call Extractor) (language : String) :
    (registry.perform call).extractors.lookup language = call.update language (registry.extractors.lookup language) := by
  cases call with
  | register name extractor extensions aliases override =>
    simp only [perform, Call.update]
    rcases registry.register_cases name extractor extensions aliases override with
      ⟨known, fixed, refused⟩ | ⟨free, after, accepted, extractors, -⟩
    · simp only [refused]
      refine (if_neg ?_).symm
      rintro ⟨rfl, unheld | forced⟩
      · simp [Registers, unheld] at known
      · exact Bool.false_ne_true (fixed.symm.trans forced)
    · simp only [accepted, extractors, lookup_bind]
      by_cases same : language = fold name
      · subst same
        refine (if_pos rfl).trans (if_pos ⟨rfl, ?_⟩).symm
        cases held : registry.extractors.lookup (fold name) with
        | none => exact .inl rfl
        | some _ => exact .inr (free (by rw [Registers, held]; rfl))
      · rw [if_neg same, if_neg fun both => same both.1.symm]
  | unregister name =>
    simp only [perform, Call.update]
    by_cases same : fold name = language
    · subst same
      rw [if_pos rfl]
      exact Option.not_isSome_iff_eq_none.mp fun held => (registers_unregister.mp held).1 rfl
    · rw [if_neg same]
      exact lookup_unregister (Ne.symm same)

theorem lookup_run (start : Registry Extractor) (calls : List (Call Extractor)) (language : String) :
    (start.run calls).extractors.lookup language = start.latest? calls language := by
  induction calls generalizing start with
  | nil => rfl
  | cons call rest ih =>
    refine (ih (start.perform call)).trans ?_
    rw [latest?, latest?, List.foldl_cons, lookup_perform]

theorem mem_languages {registry : Registry Extractor} {language : String} :
    language ∈ registry.languages ↔ registry.Registers language := by
  rw [languages, sorted, List.mem_mergeSort, mem_keys_iff, Registers]

theorem mem_supportedExtensions {registry : Registry Extractor} {extension : String} :
    extension ∈ registry.supportedExtensions ↔ ∃ language, registry.extensions.lookup extension = some language := by
  rw [supportedExtensions, sorted, List.mem_mergeSort, mem_keys_iff, Option.isSome_iff_exists]

/-- A key is supported if and only if it means something. -/
theorem Consistent.supports_iff {registry : Registry Extractor} (h : registry.Consistent) (key : String) :
    registry.supports key = true ↔ fold key ≠ "" ∧ ∃ language, registry.Means (fold key) language := by
  unfold supports get?
  constructor
  · intro found
    cases means : registry.language? key with
    | none => simp [means] at found
    | some language =>
      obtain ⟨some, means⟩ := language?_eq_some_iff.mp means
      exact ⟨some, language, means⟩
  · rintro ⟨some, language, means⟩
    rw [language?_eq_some_iff.mpr ⟨some, means⟩]
    exact h.means_registers means

/-- Whatever was registered and removed before: a listed language is supported unless it is blank, or has a dot in
front and is no listed extension. A listed extension is supported unless it is blank. The languages that are listed
are those with an extractor that was registered and not removed since, and the last one registered is the one that
is found, under any spelling of a language that is not blank and has no dot in front. -/
theorem run_supports_listed {start : Registry TypeTable} (isStart : start.IsStart) (calls : List (Call TypeTable)) :
    (∀ language ∈ (start.run calls).languages, (start.run calls).supports language = true ↔
      language ≠ "" ∧ (IsDotted language → language ∈ (start.run calls).supportedExtensions)) ∧
    (∀ extension ∈ (start.run calls).supportedExtensions,
      (start.run calls).supports extension = true ↔ extension ≠ "") ∧
    (∀ language, language ∈ (start.run calls).languages ↔ (start.latest? calls language).isSome = true) ∧
    ∀ language extractor, start.latest? calls (fold language) = some extractor →
      fold language ≠ "" → ¬ IsDotted (fold language) → (start.run calls).get? language = some extractor := by
  have h := isStart.consistent.run calls
  have folded := isStart.folded.run calls
  have latest := lookup_run start calls
  generalize start.run calls = registry at h folded latest ⊢
  refine ⟨fun language listed => ?_, fun extension listed => ?_, fun language => ?_,
    fun language extractor held some undotted => ?_⟩
  · obtain ⟨extractor, held⟩ := Option.isSome_iff_exists.mp (mem_languages.mp listed)
    have key : fold language = language := folded.extractors (language, extractor) (mem_of_lookup held)
    rw [h.supports_iff, key, mem_supportedExtensions]
    refine and_congr_right fun _ => ⟨?_, fun leads => ?_⟩
    · rintro ⟨target, means⟩ dotted
      cases means with
      | dotted _ found => exact ⟨target, found⟩
      | language undotted | other undotted | bare undotted => exact absurd dotted undotted
    · by_cases dotted : IsDotted language
      · obtain ⟨target, found⟩ := leads dotted
        exact ⟨target, .dotted dotted found⟩
      · exact ⟨language, .language dotted (mem_languages.mp listed)⟩
  · obtain ⟨language, found⟩ := mem_supportedExtensions.mp listed
    obtain ⟨key, front⟩ : fold extension = extension ∧ (extension = "" ∨ IsDotted extension) :=
      folded.extensions (extension, language) (mem_of_lookup found)
    rw [h.supports_iff, key]
    exact ⟨And.left, fun some => ⟨some, language, .dotted (front.resolve_left some) found⟩⟩
  · rw [mem_languages, Registers, latest]
  · rw [← latest] at held
    have known : registry.Registers (fold language) := by rw [Registers, held]; rfl
    rw [get?, language?_eq_some_iff.mpr ⟨some, .language undotted known⟩]
    exact held

/-- A language with a dot in front is registered and listed, but not found. -/
theorem dotted_language_unsupported :
    let registry := run {} [.register ".vue" TypeTable.typescript [] [] false]
    registry.languages = [".vue"] ∧ registry.supports ".vue" = false := by
  decide +kernel

/-- A new language next to the known ones is found under another spelling, and so is its extension. -/
theorem run_supports_listed_new :
    let registry := known.run [.register "Rust" .python ["rs"] [] true]
    registry.supports "rust" = true ∧ registry.supports ".rs" = true ∧ registry.get? " RUST " = some .python := by
  obtain ⟨languages, extensions, -, found⟩ :=
    run_supports_listed (.inr rfl) [.register "Rust" .python ["rs"] [] true]
  have spelled : fold "Rust" = fold " RUST " := by decide +kernel
  have latest : known.latest? [.register "Rust" .python ["rs"] [] true] (fold " RUST ") = some .python := by
    rw [latest?, List.foldl_cons, Call.update, if_pos ⟨spelled, .inr rfl⟩]
    rfl
  exact ⟨(languages "rust" (mem_languages.mpr (by decide +kernel))).mpr (by decide +kernel),
    (extensions ".rs" (mem_supportedExtensions.mpr ⟨"rust", by decide +kernel⟩)).mpr (by decide),
    found " RUST " .python latest (by decide +kernel) (by decide +kernel)⟩

end CodeGraph.Registry
