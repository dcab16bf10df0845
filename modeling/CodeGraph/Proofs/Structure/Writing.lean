import CodeGraph.Proofs.Structure.Steps
import CodeGraph.Proofs.Text.Trimming

namespace CodeGraph.Structure

open GraphStore (refreshed refreshed_name entityNamed_some entityNamed_none)

/-- The names of stored entities. -/
def storedNames (store : GraphStore) : List String :=
  store.entities.map (·.qualifiedName)

/-- A name that is not stored, while it is without the white space at its ends. -/
def Hides (store : GraphStore) (name : String) : Prop :=
  name ∉ storedNames store ∧ Text.trimWhiteSpace name ∈ storedNames store

/-- What has become of a stored entity at some times, given which names hid it. -/
structure Became (times : Set DateTime) (hidden : Prop) (old e : Entity) : Prop where
  name : e.qualifiedName = old.qualifiedName
  same : ¬ hidden → e = old
  replaced : hidden → IsPlaceholder e ∧ e.updatedAt ∈ times

/-- Some of the names hid the stored entity with a name. -/
def HiddenBy (store : GraphStore) (names : List String) (stored : String) : Prop :=
  ∃ name ∈ names, Hides store name ∧ Text.trimWhiteSpace name = stored

/-- What stored entities have become after names were resolved, and what has been added to them. -/
def Written (times : Set DateTime) (store : GraphStore) (names : List String) (current : GraphStore) : Prop :=
  ∃ front added, current.entities = front ++ added ∧
    List.Forall₂ (fun old e => Became times (HiddenBy store names old.qualifiedName) old e)
      store.entities front ∧
    ∀ e ∈ added, IsPlaceholder e ∧ e.qualifiedName ∉ storedNames store ∧
      Text.trimWhiteSpace e.qualifiedName = e.qualifiedName

variable {span : Span} {now : DateTime} {moments : ℕ → Moment} {times : Set DateTime}
  {store current after : GraphStore} {names : List String} {name source target : String}
  {tag filePath : Option String}
  {resolved : Resolved} {relationship : ExtractedRelationship} {progress next : Progress}

theorem Written.start (times : Set DateTime) (store : GraphStore) : Written times store [] store := by
  refine ⟨store.entities, [], (List.append_nil _).symm, List.forall₂_same.mpr fun e _ => ?_, by simp⟩
  exact ⟨rfl, fun _ => rfl, fun ⟨_, member, _⟩ => absurd member List.not_mem_nil⟩

theorem front_names {olds front : List Entity} {hidden : Entity → Prop}
    (became : List.Forall₂ (fun old e => Became times (hidden old) old e) olds front) :
    front.map (·.qualifiedName) = olds.map (·.qualifiedName) := by
  induction became with
  | nil => rfl
  | cons head _ ih => rw [List.map_cons, List.map_cons, head.name, ih]

/-- A name that is found, in whatever state, hides nothing. -/
theorem Written.not_hides (written : Written times store names current)
    (found : name ∈ storedNames current) : ¬ Hides store name := by
  rintro ⟨unknown, trimmed⟩
  obtain ⟨front, added, entities, became, placeholders⟩ := written
  rw [storedNames, entities, List.map_append, front_names became] at found
  rcases List.mem_append.mp found with old | new
  · exact unknown old
  · obtain ⟨e, member, rfl⟩ := List.mem_map.mp new
    obtain ⟨_, free, fixed⟩ := placeholders e member
    exact free (fixed ▸ trimmed)

/-- A name that is not found, in whatever state, was not stored before. -/
theorem Written.unstored (written : Written times store names current)
    (unknown : name ∉ storedNames current) : name ∉ storedNames store := by
  obtain ⟨front, added, entities, became, _⟩ := written
  rw [storedNames, entities, List.map_append, front_names became] at unknown
  exact fun stored => unknown (List.mem_append_left _ stored)

theorem Became.congr {hidden other : Prop} {old e : Entity} (became : Became times hidden old e)
    (same : other ↔ hidden) : Became times other old e :=
  propext same ▸ became

/-- A name hides no entity but one that has it when white space is dropped. -/
theorem hiddenBy_cons {stored : String} (other : ¬ (Hides store name ∧ Text.trimWhiteSpace name = stored)) :
    HiddenBy store (name :: names) stored ↔ HiddenBy store names stored := by
  simp only [HiddenBy, List.mem_cons, exists_eq_or_imp]
  exact or_iff_right other

/-- Resolving a name that hides nothing leaves stored entities as they were. -/
theorem Written.harmless (written : Written times store names current) (clear : ¬ Hides store name) :
    Written times store (name :: names) current := by
  obtain ⟨front, added, entities, became, placeholders⟩ := written
  refine ⟨front, added, entities, became.imp fun old e was => ?_, placeholders⟩
  exact was.congr (hiddenBy_cons fun hides => clear hides.1)

theorem Written.added {new : Entity} (written : Written times store names current)
    (placeholder : IsPlaceholder new) (fixed : Text.trimWhiteSpace new.qualifiedName = new.qualifiedName)
    (trimmed : Text.trimWhiteSpace name = new.qualifiedName)
    (unknown : new.qualifiedName ∉ storedNames current) :
    Written times store (name :: names) { current with entities := current.entities ++ [new] } := by
  have free : new.qualifiedName ∉ storedNames store := written.unstored unknown
  have clear : ¬ Hides store name := fun hides => free (trimmed ▸ hides.2)
  obtain ⟨front, added, entities, became, placeholders⟩ := written.harmless clear
  refine ⟨front, added ++ [new], by rw [entities, List.append_assoc], became, ?_⟩
  intro e member
  rcases List.mem_append.mp member with old | last
  · exact placeholders e old
  · cases List.mem_singleton.mp last
    exact ⟨placeholder, free, fixed⟩

theorem IsPlaceholder.refresh {old new : Entity} (placeholder : IsPlaceholder new) :
    IsPlaceholder (GraphStore.refresh now old new) :=
  ⟨placeholder.content, placeholder.summary, placeholder.startLine, placeholder.endLine,
    placeholder.metadata⟩

/-- Storing a placeholder under a name that is known replaces what was stored. -/
theorem Written.replaced {found new : Entity} (written : Written times store names current)
    (among : now ∈ times) (placeholder : IsPlaceholder new) (trimmed : Text.trimWhiteSpace name = new.qualifiedName)
    (unknown : name ∉ storedNames current) :
    Written times store (name :: names)
      { current with entities := current.entities.map (refreshed now found new) } := by
  have unstored : name ∉ storedNames store := written.unstored unknown
  obtain ⟨front, added, entities, became, placeholders⟩ := written
  refine ⟨front.map (refreshed now found new), added.map (refreshed now found new),
    by rw [entities, List.map_append], ?_, ?_⟩
  · have stored := (List.forall₂_and_left (p := (· ∈ store.entities)) _ _).mpr ⟨fun _ => id, became⟩
    refine List.forall₂_map_right_iff.mpr (stored.imp fun old e ⟨member, was⟩ => ?_)
    unfold refreshed
    split
    · rename_i same
      have atOld : Text.trimWhiteSpace name = old.qualifiedName :=
        trimmed.trans ((beq_iff_eq.mp same).symm.trans was.name)
      have hides : Hides store name := ⟨unstored, atOld ▸ List.mem_map_of_mem member⟩
      have hidden : HiddenBy store (name :: names) old.qualifiedName :=
        ⟨name, List.mem_cons_self, hides, atOld⟩
      exact ⟨trimmed.symm.trans atOld, fun free => absurd hidden free,
        fun _ => ⟨placeholder.refresh, among⟩⟩
    · rename_i different
      refine was.congr (hiddenBy_cons fun hides => different ?_)
      simpa using was.name.trans (hides.2.symm.trans trimmed)
  · intro e member
    obtain ⟨before, atBefore, rfl⟩ := List.mem_map.mp member
    obtain ⟨was, free, fixed⟩ := placeholders before atBefore
    rw [refreshed_name]
    refine ⟨?_, free, fixed⟩
    unfold refreshed
    split
    · exact placeholder.refresh
    · exact was

/-- Resolving a name replaces the stored entities that the name hides. -/
theorem Resolves.written {id : String} {next : Resolved}
    (resolves : Resolves span now current name tag filePath resolved (.ok (id, next)) after)
    (written : Written span.times store (resolved.map (·.1)) current) :
    Written span.times store (next.map (·.1)) after := by
  cases resolves with
  | met => exact written
  | found _ found =>
    obtain ⟨stored, same⟩ := entityNamed_some found
    exact written.harmless (written.not_hides (same ▸ List.mem_map_of_mem stored))
  | renewed within unmet made named =>
    have unknown : name ∉ storedNames current := by
      simpa [storedNames] using entityNamed_none.mp unmet.unstored
    have trimmed := congrArg Entity.qualifiedName (Placeholder.entity_eq_of_ok made)
    exact written.replaced within (isPlaceholder_of_ok made) trimmed.symm unknown
  | @placed time new within unmet made named =>
    have placeholder := isPlaceholder_of_ok made
    have trimmed : new.qualifiedName = Text.trimWhiteSpace name :=
      congrArg Entity.qualifiedName (Placeholder.entity_eq_of_ok made)
    have fixed : Text.trimWhiteSpace new.qualifiedName = new.qualifiedName := by
      rw [trimmed, Text.trimWhiteSpace_trimWhiteSpace]
    have free : new.qualifiedName ∉ storedNames current := by
      simpa [storedNames] using entityNamed_none.mp named
    exact written.added ⟨placeholder.content, placeholder.summary, placeholder.startLine,
      placeholder.endLine, placeholder.metadata⟩ fixed trimmed.symm free

/-- The names that have been met after one was resolved. -/
theorem Resolves.mem_names {id n : String} {next : Resolved}
    (resolves : Resolves span now current name tag filePath resolved (.ok (id, next)) after) :
    n ∈ next.map (·.1) ↔ n = name ∨ n ∈ resolved.map (·.1) := by
  rw [resolves.names, mem_meeting]

/-- What writing some relationships makes of a stored graph and what is known of it. -/
structure Progresses (times : Set DateTime) (store : GraphStore) (relationships : List ExtractedRelationship)
    (progress next : Progress) (after : GraphStore) : Prop where
  written : Written times store (next.resolved.map (·.1)) after
  names : ∀ n ∈ next.resolved.map (·.1),
    n ∈ progress.resolved.map (·.1) ∨ n ∈ endNames relationships
  known : ∀ n ∈ progress.resolved.map (·.1), n ∈ next.resolved.map (·.1)
  complete : next.warnings = [] → progress.warnings = [] ∧
    ∀ n ∈ endNames relationships, n ∈ next.resolved.map (·.1)

theorem Written.of_entities {after : GraphStore} (written : Written times store names current)
    (same : after.entities = current.entities) : Written times store names after := by
  unfold Written
  rw [same]
  exact written

/-- A failure leaves what was known before it. -/
theorem Progresses.failed {relationships : List ExtractedRelationship} {resolved : Resolved}
    (warning : String) (written : Written times store (resolved.map (·.1)) current)
    (names : ∀ n ∈ resolved.map (·.1),
      n ∈ progress.resolved.map (·.1) ∨ n ∈ endNames relationships)
    (known : ∀ n ∈ progress.resolved.map (·.1), n ∈ resolved.map (·.1)) :
    Progresses times store relationships progress
      { progress with resolved, warnings := progress.warnings ++ [warning] } current :=
  ⟨written, names, known, by simp⟩

/-- The names that have been met after both ends were found. -/
theorem Ends.mem_names {both : Resolved}
    (ends : Ends span now filePath relationship current resolved source target both after) {n : String} :
    n ∈ both.map (·.1) ↔ n ∈ resolved.map (·.1) ∨ n ∈ endNames [relationship] := by
  cases ends with
  | both first second =>
    rw [second.mem_names, first.mem_names, mem_endNames_singleton]
    tauto

theorem Ends.written {both : Resolved}
    (ends : Ends span now filePath relationship current resolved source target both after)
    (written : Written span.times store (resolved.map (·.1)) current) :
    Written span.times store (both.map (·.1)) after := by
  cases ends with
  | both first second => exact second.written (first.written written)

theorem Writes.progresses (writes : Writes span now filePath relationship progress current next after)
    (written : Written span.times store (progress.resolved.map (·.1)) current) :
    Progresses span.times store [relationship] progress next after := by
  cases writes with
  | sourceFailed first =>
    rw [first.eq_of_error]
    exact .failed _ written (fun n => .inl) fun n => id
  | targetFailed first second =>
    rw [second.eq_of_error]
    refine .failed _ (first.written written) (fun n member => ?_) fun n member => ?_
    · rw [first.mem_names] at member
      exact member.symm.imp_right fun same => mem_endNames_singleton.mpr (.inl same)
    · exact first.mem_names.mpr (.inr member)
  | edgeFailed ends third =>
    have kept := (ends.written written).of_entities third.entities
    exact .failed _ kept (fun n => ends.mem_names.mp) fun n member => ends.mem_names.mpr (.inl member)
  | connected ends third =>
    exact ⟨(ends.written written).of_entities third.entities, fun n => ends.mem_names.mp,
      fun n member => ends.mem_names.mpr (.inl member),
      fun clean => ⟨clean, fun n member => ends.mem_names.mpr (.inr member)⟩⟩

theorem writeAll_run (similar : Similarity) (filePath : Option String)
    (relationships : List ExtractedRelationship) (covers : span.Covers moments)
    (written : Written span.times store (progress.resolved.map (·.1)) current) :
    ∃ next after, (writeAll now filePath relationships progress).runAmid moments similar current =
      (.ok next, after) ∧ Progresses span.times store relationships progress next after := by
  induction relationships generalizing moments progress current with
  | nil => exact ⟨progress, current, rfl, written, fun n => .inl, fun n => id, by simp [endNames]⟩
  | cons relationship rest ih =>
    obtain ⟨middle, between, first, step⟩ := writes now similar filePath relationship progress current covers
    have one := step.progresses written
    obtain ⟨next, after, second, more⟩ := ih (GraphTask.left_covers covers _) one.written
    refine ⟨next, after, ?_, more.written, ?_, fun n member => more.known n (one.known n member), ?_⟩
    · rw [writeAll, GraphTask.runAmid_bind, first]
      exact second
    · intro n member
      rw [endNames_cons, List.mem_append]
      rcases more.names n member with old | new
      · exact (one.names n old).imp_right .inl
      · exact .inr (.inr new)
    · intro clean
      obtain ⟨cleanOne, allRest⟩ := more.complete clean
      obtain ⟨start, allOne⟩ := one.complete cleanOne
      refine ⟨start, fun n member => ?_⟩
      rw [endNames_cons, List.mem_append] at member
      rcases member with here | later
      · exact more.known n (allOne n here)
      · exact allRest n later

/-- As long as no resolved name hides a stored entity, all of them stay as they were. -/
theorem Written.keeps (written : Written times store names current)
    (clear : ∀ name ∈ names, ¬ Hides store name) :
    ∃ added, current.entities = store.entities ++ added ∧ ∀ e ∈ added, IsPlaceholder e := by
  obtain ⟨front, added, entities, became, placeholders⟩ := written
  have same : List.Forall₂ (· = ·) store.entities front :=
    became.imp fun old e was => (was.same fun ⟨name, member, hides, _⟩ => clear name member hides).symm
  rw [List.forall₂_eq_eq_eq] at same
  exact ⟨added, same ▸ entities, fun e member => (placeholders e member).1⟩

/-- A stored entity hidden by a resolved name is replaced. -/
theorem Written.replaces (written : Written times store names current) (member : name ∈ names)
    (hides : Hides store name) :
    ∃ e ∈ current.entities, e.qualifiedName = Text.trimWhiteSpace name ∧ IsPlaceholder e ∧
      e.updatedAt ∈ times := by
  obtain ⟨front, added, entities, became, _⟩ := written
  obtain ⟨old, stored, same⟩ := List.mem_map.mp hides.2
  obtain ⟨i, within, rfl⟩ := List.getElem_of_mem stored
  have alike : i < front.length := became.length_eq ▸ within
  have was := became.get within alike
  have hidden : HiddenBy store names store.entities[i].qualifiedName := ⟨name, member, hides, same.symm⟩
  refine ⟨front[i], ?_, was.name.trans same, was.replaced hidden⟩
  rw [entities]
  exact List.mem_append_left _ (List.getElem_mem alike)

/-- If stored entities are as they were before, and all times are other ones, then none was hidden. -/
theorem Written.clear {added : List Entity} (written : Written times store names current)
    (earlier : ∀ e ∈ store.entities, e.updatedAt ∉ times)
    (kept : current.entities = store.entities ++ added) : ∀ name ∈ names, ¬ Hides store name := by
  intro name member hides
  obtain ⟨front, more, entities, became, _⟩ := written
  obtain ⟨old, stored, same⟩ := List.mem_map.mp hides.2
  have whole : front = store.entities :=
    (List.append_inj (entities.symm.trans kept) became.length_eq.symm).1
  rw [whole, List.forall₂_same] at became
  exact earlier old stored ((became old stored).replaced ⟨name, member, hides, same.symm⟩).2

/-- Entities stored before relationships are written stay as they were, and placeholders are all that is
added to them, if no name that was resolved hides a stored entity, whatever calls of the store fail. One that
is hidden is replaced by a placeholder, so that it does not stay as it was, unless that was stored at the very
same time. Without warnings, all names have been resolved. -/
theorem write_keeps_entities_iff (now : DateTime) (moments : ℕ → Moment) (similar : Similarity)
    (store : GraphStore) (relationships : List ExtractedRelationship) (filePath : Option String) :
    ∃ progress outcome final,
      (writeAll now filePath relationships {}).runAmid moments similar store = (.ok progress, final) ∧
      (write now relationships filePath).runAmid moments similar store = (.ok outcome, final) ∧
      (∀ n ∈ progress.resolved.map (·.1), n ∈ endNames relationships) ∧
      (outcome.warnings = [] → ∀ n ∈ endNames relationships, n ∈ progress.resolved.map (·.1)) ∧
      (∀ n ∈ progress.resolved.map (·.1), Hides store n → ∃ e ∈ final.entities,
        e.qualifiedName = Text.trimWhiteSpace n ∧ IsPlaceholder e ∧ ∃ i, e.updatedAt = (moments i).now) ∧
      let clear := ∀ n ∈ progress.resolved.map (·.1), ¬ Hides store n
      let kept := ∃ added, final.entities = store.entities ++ added ∧ ∀ e ∈ added, IsPlaceholder e
      (clear → kept) ∧ ((∀ e ∈ store.entities, ∀ i, e.updatedAt ≠ (moments i).now) → (kept ↔ clear)) := by
  let span := Span.of moments
  have start : Written span.times store (({} : Progress).resolved.map (·.1)) store := Written.start _ store
  obtain ⟨progress, final, run, progresses⟩ := writeAll_run similar filePath relationships
    (Span.of_covers moments) start
  obtain ⟨outcome, whole, -, warnings, -, -⟩ := write_outcome run
  refine ⟨progress, outcome, final, run, whole, ?_, ?_, ?_, progresses.written.keeps, fun earlier => ?_⟩
  · intro n member
    exact (progresses.names n member).resolve_left List.not_mem_nil
  · intro clean
    exact (progresses.complete (warnings ▸ clean)).2
  · intro n member hides
    obtain ⟨e, stored, name, placeholder, i, at_⟩ := progresses.written.replaces member hides
    exact ⟨e, stored, name, placeholder, i, at_.symm⟩
  · refine ⟨fun ⟨added, same, _⟩ => ?_, progresses.written.keeps⟩
    refine progresses.written.clear (fun e member ⟨i, at_⟩ => ?_) same
    exact earlier e member i at_.symm

/-- A stored function, and a relationship that names it with a blank before its name. -/
def paddedStore : GraphStore where
  entities := [{
    id := "a", kind := .function, name := "a", qualifiedName := "pkg.a"
    content := some "def a(): pass", createdAt := default, updatedAt := default }]

def paddedRelationships : List ExtractedRelationship :=
  [{ source := " pkg.a", sourceType := "class", target := "pkg.b", type := .calls }]

def paddedTime : DateTime := { year := 2024, month := 2, day := 29 }

/-- Each call is answered a microsecond after the one before. -/
def paddedMoments : ℕ → Moment :=
  GraphTask.inOrder fun n => { paddedTime with microsecond := n }

def paddedResult : GraphStore :=
  ((write paddedTime paddedRelationships none).runAmid paddedMoments (fun _ => .ok []) paddedStore).2

theorem write_padded_overwrites : ∃ e ∈ paddedStore.entities, e ∉ paddedResult.entities := by
  refine ⟨_, List.mem_singleton_self _, fun stays => ?_⟩
  have blank : ∀ e ∈ paddedResult.entities, e.content = none := by decide +kernel
  have content := blank _ stays
  contradiction

theorem write_keeps_entities_iff_padded :
    (∀ e ∈ paddedStore.entities, ∀ i, e.updatedAt ≠ (paddedMoments i).now) ∧
      Hides paddedStore " pkg.a" ∧ ∃ progress outcome final,
        (writeAll paddedTime none paddedRelationships {}).runAmid paddedMoments (fun _ => .ok [])
          paddedStore = (.ok progress, final) ∧
        (write paddedTime paddedRelationships none).runAmid paddedMoments (fun _ => .ok []) paddedStore =
          (.ok outcome, final) ∧
        ((∃ added, final.entities = paddedStore.entities ++ added ∧ ∀ e ∈ added, IsPlaceholder e) ↔
          ∀ n ∈ progress.resolved.map (·.1), ¬ Hides paddedStore n) := by
  have earlier : ∀ e ∈ paddedStore.entities, ∀ i, e.updatedAt ≠ (paddedMoments i).now := by
    intro e member i same
    cases List.mem_singleton.mp member
    have year := congrArg DateTime.year same
    contradiction
  have hides : Hides paddedStore " pkg.a" := by
    constructor <;> decide
  obtain ⟨progress, outcome, final, run, whole, _, _, _, _, exactly⟩ :=
    write_keeps_entities_iff paddedTime paddedMoments (fun _ => .ok []) paddedStore paddedRelationships none
  exact ⟨earlier, hides, progress, outcome, final, run, whole, exactly earlier⟩

end CodeGraph.Structure
