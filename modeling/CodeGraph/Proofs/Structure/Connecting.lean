import CodeGraph.Proofs.Structure.Naming
import CodeGraph.Proofs.Structure.Resolving
import Mathlib.Data.List.ReduceOption

namespace CodeGraph.Structure

open GraphStore (hasEdge_iff)

/-- An edge with the tag of a relationship between the stored entities that have the names of its ends,
without white space. -/
structure Joins (store : GraphStore) (relationship : ExtractedRelationship) (e : Relationship) : Prop where
  source : (e.source, Text.trimWhiteSpace relationship.source) ∈ keys store
  target : (e.target, Text.trimWhiteSpace relationship.target) ∈ keys store
  tag : e.tag = relationship.type.name

/-- What is reported of a relationship: nothing if an edge joins its ends, else why there is none. -/
inductive Reported (store : GraphStore) (relationship : ExtractedRelationship) : Option String → Prop
  | joined {e : Relationship} : e ∈ store.edges → Joins store relationship e →
      Reported store relationship none
  | failed (failure : StoreFailure) : Reported store relationship (some (warning relationship failure))

variable {span : Span} {now : DateTime} {moments : ℕ → Moment} {similar : Similarity}
  {filePath : Option String} {store after : GraphStore} {source target : String}
  {relationship : ExtractedRelationship} {progress next : Progress}

/-- What writing relationships has come to, for the stored graph and for what is known of it. -/
structure Wrote (relationships : List ExtractedRelationship) (progress : Progress) (store : GraphStore)
    (next : Progress) (after : GraphStore) : Prop where
  knows : Knows after next.resolved
  grows : Grows (endNames relationships) store after
  edges : ∃ added, after.edges = store.edges ++ added ∧ next.created = progress.created + added.length ∧
    ∀ e ∈ added, ∃ r ∈ relationships, Joins after r e
  reports : ∃ reports : List (Option String), next.warnings = progress.warnings ++ reports.reduceOption ∧
    List.Forall₂ (Reported after) relationships reports

theorem Joins.mono {e : Relationship} (joins : Joins store relationship e)
    (grown : keys store ⊆ keys after) : Joins after relationship e :=
  ⟨grown joins.source, grown joins.target, joins.tag⟩

theorem Reported.mono {report : Option String} (reported : Reported store relationship report)
    (grown : keys store ⊆ keys after) (more : store.edges ⊆ after.edges) :
    Reported after relationship report := by
  cases reported with
  | joined member joins => exact .joined (more member) (joins.mono grown)
  | failed failure => exact .failed failure

theorem Wrote.subset {relationships : List ExtractedRelationship}
    (wrote : Wrote relationships progress store next after) : store.edges ⊆ after.edges := by
  obtain ⟨added, whole, -⟩ := wrote.edges
  exact whole ▸ List.subset_append_left _ _

theorem Wrote.nil (knows : Knows store progress.resolved) :
    Wrote [] progress store progress store :=
  ⟨knows, .refl _ _, ⟨[], (List.append_nil _).symm, rfl, nofun⟩,
    ⟨[], (List.append_nil _).symm, .nil⟩⟩

theorem Wrote.cons {rest : List ExtractedRelationship} {middle : Progress} {between : GraphStore}
    (one : Wrote [relationship] progress store middle between)
    (more : Wrote rest middle between next after) :
    Wrote (relationship :: rest) progress store next after := by
  have grown := more.grows.subset
  refine ⟨more.knows, one.grows.trans more.grows, ?_, ?_⟩
  · obtain ⟨added, whole, count, joined⟩ := one.edges
    obtain ⟨later, whole', count', joined'⟩ := more.edges
    refine ⟨added ++ later, by rw [whole', whole, List.append_assoc], ?_, fun e member => ?_⟩
    · rw [count', count, List.length_append, Nat.add_assoc]
    · rcases List.mem_append.mp member with old | new
      · obtain ⟨r, among, joins⟩ := joined e old
        exact ⟨relationship, List.mem_cons_self, List.mem_singleton.mp among ▸ joins.mono grown⟩
      · obtain ⟨r, among, joins⟩ := joined' e new
        exact ⟨r, List.mem_cons_of_mem _ among, joins⟩
  · obtain ⟨reports, warned, reported⟩ := one.reports
    obtain ⟨later, warned', reported'⟩ := more.reports
    refine ⟨reports ++ later, by rw [warned', warned, List.append_assoc, List.reduceOption_append], ?_⟩
    have kept := reported.imp fun r report was => was.mono grown more.subset
    exact List.rel_append kept reported'

/-- A failure adds no edge and is reported. -/
theorem Wrote.failed {resolved : Resolved} (failure : StoreFailure) (knows : Knows after resolved)
    (grows : Grows (endNames [relationship]) store after)
    (same : after.edges = store.edges) :
    Wrote [relationship] progress store
      { progress with resolved, warnings := progress.warnings ++ [warning relationship failure] } after :=
  ⟨knows, grows, ⟨[], by rw [same, List.append_nil], rfl, nofun⟩,
    ⟨[some (warning relationship failure)], rfl, .cons (.failed failure) .nil⟩⟩

theorem Connects.keys {reply : Except StoreFailure Bool}
    (connects : Connects span store source target relationship reply after) :
    keys after = keys store :=
  congrArg (·.map fun e => (e.id, e.qualifiedName)) connects.entities

/-- When two entities are connected, the edge between them is there, and no other was added. -/
theorem Connects.edges {created : Bool}
    (connects : Connects span store source target relationship (.ok created) after) :
    (∃ added, after.edges = store.edges ++ added ∧ added.length = created.toNat ∧
      ∀ e ∈ added, e.source = source ∧ e.target = target ∧ e.tag = relationship.type.name) ∧
    ∃ e ∈ after.edges, e.source = source ∧ e.target = target ∧ e.tag = relationship.type.name := by
  cases connects with
  | present there => exact ⟨⟨[], (List.append_nil _).symm, rfl, nofun⟩, hasEdge_iff.mp there⟩
  | created =>
    refine ⟨⟨_, rfl, rfl, fun e member => ?_⟩, _, List.mem_append_right _ (List.mem_singleton_self _),
      rfl, rfl, rfl⟩
    cases List.mem_singleton.mp member
    exact ⟨rfl, rfl, rfl⟩

/-- What is known once both ends of a relationship have been found. -/
structure Found (relationship : ExtractedRelationship) (store : GraphStore) (source target : String)
    (resolved : Resolved) (after : GraphStore) : Prop where
  sound : after.Sound
  knows : Knows after resolved
  grows : Grows (endNames [relationship]) store after
  edges : after.edges = store.edges
  source : (source, Text.trimWhiteSpace relationship.source) ∈ keys after
  target : (target, Text.trimWhiteSpace relationship.target) ∈ keys after

theorem Ends.found {resolved both : Resolved}
    (ends : Ends span now filePath relationship store resolved source target both after)
    (sound : store.Sound) (knows : Knows store resolved)
    (plain : ∀ n ∈ endNames [relationship], Plain store n) :
    Found relationship store source target both after := by
  cases ends with
  | both first second =>
    have plainSource : Plain store relationship.source := plain _ List.mem_cons_self
    have plainTarget : Plain store relationship.target := plain _ (by simp [endNames])
    have soundMiddle := first.sound sound
    have known := first.knows sound knows plainSource
    have grows := first.grows sound
    have more := second.grows soundMiddle
    have later := grows.plain plainTarget
    exact ⟨second.sound soundMiddle, second.knows soundMiddle known later, grows.trans more,
      second.edges.trans first.edges, more.subset (first.key sound knows plainSource),
      second.key soundMiddle known later⟩

theorem Writes.wrote (writes : Writes span now filePath relationship progress store next after)
    (sound : store.Sound) (knows : Knows store progress.resolved)
    (plain : ∀ n ∈ endNames [relationship], Plain store n) :
    Wrote [relationship] progress store next after := by
  have plainSource : Plain store relationship.source := plain _ List.mem_cons_self
  cases writes with
  | sourceFailed first =>
    have grows := first.grows sound
    exact .failed _ (knows.mono grows.subset) (grows.trans (.refl _ _)) first.edges
  | targetFailed first second =>
    have grows := first.grows sound
    have more := second.grows (first.sound sound)
    have known := first.knows sound knows plainSource
    exact .failed _ (known.mono more.subset) (grows.trans more) (second.edges.trans first.edges)
  | edgeFailed ends connects =>
    have found := ends.found sound knows plain
    cases connects with
    | failed | fault => exact .failed _ found.knows found.grows found.edges
  | @connected source target resolved created middle _ ends connects =>
    have found := ends.found sound knows plain
    have kept : Grows [] middle after := .of_keys [] connects.keys
    have joins : ∀ e : Relationship,
        e.source = source ∧ e.target = target ∧ e.tag = relationship.type.name →
          Joins after relationship e := by
      rintro e ⟨rfl, rfl, tag⟩
      exact ⟨kept.subset found.source, kept.subset found.target, tag⟩
    obtain ⟨⟨added, whole, count, joined⟩, e, member, joint⟩ := connects.edges
    refine ⟨found.knows.mono kept.subset, found.grows.trans kept,
      ⟨added, ?_, ?_, fun e member => ?_⟩, [none], ?_, ?_⟩
    · rw [whole, found.edges]
    · rw [count]
    · exact ⟨relationship, List.mem_singleton_self _, joins e (joined e member)⟩
    · exact (List.append_nil _).symm
    · exact .cons (.joined member (joins e joint)) .nil

theorem writeAll_wrote (similar : Similarity) (filePath : Option String)
    (relationships : List ExtractedRelationship) (covers : span.Covers moments)
    (sound : store.Sound) (knows : Knows store progress.resolved)
    (plain : ∀ n ∈ endNames relationships, Plain store n) :
    ∃ next after, (writeAll now filePath relationships progress).runAmid moments similar store =
      (.ok next, after) ∧ Wrote relationships progress store next after := by
  induction relationships generalizing moments progress store with
  | nil => exact ⟨progress, store, rfl, .nil knows⟩
  | cons relationship rest ih =>
    rw [endNames_cons, List.forall_mem_append] at plain
    obtain ⟨middle, between, first, step⟩ := writes now similar filePath relationship progress store covers
    have one := step.wrote sound knows plain.1
    obtain ⟨next, after, second, more⟩ := ih (GraphTask.left_covers covers _)
      (GraphTask.sound_runAmid sound first) one.knows fun n member => one.grows.plain (plain.2 n member)
    refine ⟨next, after, ?_, one.cons more⟩
    rw [writeAll, GraphTask.runAmid_bind, first]
    exact second

variable {spanLater : Span} {later : DateTime} {momentsLater : ℕ → Moment} {before current last : GraphStore}
  {other next' : Progress}

/-- Writing once more adds nothing, and nothing fails unless calls of the store do. -/
structure Repeats (span : Span) (other next' : Progress) (current last : GraphStore) : Prop where
  created : next'.created = other.created
  keys : keys last = keys current
  edges : last.edges = current.edges
  warnings : ¬ span.faulty → next'.warnings = other.warnings

/-- A relationship that was stored is stored again, and nothing is added. -/
theorem Writes.again (first : Writes span now filePath relationship progress store next after)
    (clean : next.warnings = progress.warnings)
    (second : Writes spanLater later filePath relationship other current next' last)
    (sound : store.Sound) (knows : Knows store progress.resolved)
    (plain : ∀ n ∈ endNames [relationship], Plain store n)
    (again : Again spanLater before progress.resolved current other.resolved) (grown : keys after ⊆ keys before)
    (more : after.edges ⊆ current.edges) (plainAgain : ∀ n ∈ endNames [relationship], Plain current n) :
    Repeats spanLater other next' current last ∧ Again spanLater before next.resolved last next'.resolved := by
  cases first with
  | sourceFailed | targetFailed | edgeFailed => simp at clean
  | @connected source target both _ middle _ ends connects =>
    have found := ends.found sound knows plain
    have within : keys middle ⊆ keys before := List.Subset.trans (Grows.of_keys [] connects.keys).subset grown
    obtain ⟨-, e, member, joint⟩ := connects.edges
    obtain @⟨half, _, early, _, firstSource, firstTarget⟩ := ends
    have resolvesSource {reply : Except StoreFailure (String × Resolved)} {between : GraphStore}
        (run : Resolves spanLater later current relationship.source (some relationship.sourceType) filePath
          other.resolved reply between) :=
      firstSource.again run again (List.Subset.trans found.grows.subset within) (within found.source)
        (plainAgain _ List.mem_cons_self)
    have resolvesTarget {reply : Except StoreFailure (String × Resolved)} {between last : GraphStore}
        {more : Resolved} (same : keys between = keys current) (known : Again spanLater before half between more)
        (run : Resolves spanLater later between relationship.target relationship.targetType none more reply last) :=
      firstTarget.again run known
        (List.Subset.trans (firstTarget.grows (firstSource.sound sound)).subset within) (within found.target)
        ((Grows.of_keys [] same).plain (plainAgain _ (by simp [endNames])))
    have present {between : GraphStore} (edges : between.edges = current.edges) :
        between.hasEdge source target (some relationship.type.name) = true :=
      hasEdge_iff.mpr ⟨e, edges ▸ more member, joint⟩
    cases second with
    | sourceFailed run =>
      obtain ⟨same, ⟨_, ⟨⟩, _⟩ | ⟨isFaulty, -⟩⟩ := resolvesSource run
      exact ⟨⟨rfl, same, run.edges, absurd isFaulty⟩, again.failed run isFaulty _⟩
    | targetFailed run runTarget =>
      obtain ⟨same, ⟨_, ⟨⟩, known⟩ | ⟨_, _, ⟨⟩⟩⟩ := resolvesSource run
      obtain ⟨same', ⟨_, ⟨⟩, _⟩ | ⟨isFaulty, -⟩⟩ := resolvesTarget same known runTarget
      exact ⟨⟨rfl, same'.trans same, runTarget.edges.trans run.edges, absurd isFaulty⟩,
        known.failed runTarget isFaulty _⟩
    | edgeFailed ends third =>
      obtain ⟨run, runTarget⟩ := ends
      obtain ⟨same, ⟨_, ⟨⟩, known⟩ | ⟨_, _, ⟨⟩⟩⟩ := resolvesSource run
      obtain ⟨same', ⟨_, ⟨⟩, known'⟩ | ⟨_, _, ⟨⟩⟩⟩ := resolvesTarget same known runTarget
      have edges := runTarget.edges.trans run.edges
      cases third with
      | failed failure missing => simp [present edges] at missing
      | fault failure isFaulty => exact ⟨⟨rfl, same'.trans same, edges, absurd isFaulty⟩, known'⟩
    | connected ends third =>
      obtain ⟨run, runTarget⟩ := ends
      obtain ⟨same, ⟨_, ⟨⟩, known⟩ | ⟨_, _, ⟨⟩⟩⟩ := resolvesSource run
      obtain ⟨same', ⟨_, ⟨⟩, known'⟩ | ⟨_, _, ⟨⟩⟩⟩ := resolvesTarget same known runTarget
      have edges := runTarget.edges.trans run.edges
      cases third with
      | created within missing => simp [present edges] at missing
      | present => exact ⟨⟨rfl, same'.trans same, edges, fun _ => rfl⟩, known'⟩

theorem Wrote.warned {relationships : List ExtractedRelationship}
    (wrote : Wrote relationships progress store next after) : progress.warnings <+: next.warnings := by
  obtain ⟨reports, whole, -⟩ := wrote.reports
  exact whole ▸ List.prefix_append _ _

theorem writeAll_again (similar similarLater : Similarity) (filePath : Option String)
    (relationships : List ExtractedRelationship) (sound : store.Sound)
    (knows : Knows store progress.resolved) (plain : ∀ n ∈ endNames relationships, Plain store n)
    (run : (writeAll now filePath relationships progress).runAmid moments similar store = (.ok next, after))
    (clean : next.warnings = progress.warnings) (covers : spanLater.Covers momentsLater)
    (again : Again spanLater before progress.resolved current other.resolved) (grown : keys after ⊆ keys before)
    (more : after.edges ⊆ current.edges) (plainAgain : ∀ n ∈ endNames relationships, Plain current n) :
    ∃ next' last, (writeAll later filePath relationships other).runAmid momentsLater similarLater current =
      (.ok next', last) ∧ Repeats spanLater other next' current last := by
  induction relationships generalizing moments momentsLater progress store other current with
  | nil => exact ⟨other, current, rfl, rfl, rfl, rfl, fun _ => rfl⟩
  | cons relationship rest ih =>
    rw [endNames_cons, List.forall_mem_append] at plain plainAgain
    obtain ⟨middle, between, first, step⟩ :=
      writes now similar filePath relationship progress store (Span.of_covers moments)
    have one := step.wrote sound knows plain.1
    have soundMiddle := GraphTask.sound_runAmid sound first
    have plainRest : ∀ n ∈ endNames rest, Plain between n := fun n member =>
      one.grows.plain (plain.2 n member)
    rw [writeAll, GraphTask.runAmid_bind, first] at run
    obtain ⟨_, _, run', remaining⟩ := writeAll_wrote similar filePath rest
      (Span.of_covers _) soundMiddle one.knows plainRest
    cases run'.symm.trans run
    have cleanOne : middle.warnings = progress.warnings :=
      (one.warned.eq_of_length_le (clean ▸ remaining.warned.length_le)).symm
    obtain ⟨other', last, second, stepAgain⟩ :=
      writes later similarLater filePath relationship other current covers
    obtain ⟨repeats, againRest⟩ := step.again cleanOne stepAgain sound knows plain.1 again
      (List.Subset.trans remaining.grows.subset grown) (List.Subset.trans remaining.subset more) plainAgain.1
    have moreRest : after.edges ⊆ last.edges := repeats.edges ▸ more
    have plainAgainRest : ∀ n ∈ endNames rest, Plain last n := fun n member =>
      (Grows.of_keys [] repeats.keys).plain (plainAgain.2 n member)
    obtain ⟨next', final, third, remains⟩ := ih soundMiddle one.knows plainRest run
      (clean.trans cleanOne.symm) (GraphTask.left_covers covers _) againRest moreRest plainAgainRest
    refine ⟨next', final, ?_, ?_⟩
    · rw [writeAll, GraphTask.runAmid_bind, second]
      exact third
    · exact ⟨remains.created.trans repeats.created, remains.keys.trans repeats.keys,
        remains.edges.trans repeats.edges, fun orderly =>
          (remains.warnings orderly).trans (repeats.warnings orderly)⟩

/-- Whatever calls of the store fail, writing relationships counts the edges that are new, each of which is
one of a relationship. Those that were there before stay as they were, and every relationship is joined by an
edge afterwards, or a warning says why it is not. When relationships that were all stored are written again,
at any times, no edge and no entity is added, and no failure is reported unless a call of the store fails then.
The stored names have no white space at their ends, which `isTrimmed_of_read` and `serve_isTrimmed` are
about. -/
theorem write_connects (now later : DateTime) (moments momentsLater : ℕ → Moment)
    (similar similarLater : Similarity) (relationships : List ExtractedRelationship)
    (filePath : Option String) (sound : store.Sound) (trimmed : ∀ e ∈ store.entities, e.IsTrimmed) :
    ∃ (outcome : Outcome Nat) (final : GraphStore) (added : List Relationship)
      (reports : List (Option String)),
      (write now relationships filePath).runAmid moments similar store = (.ok outcome, final) ∧
      outcome.data = some added.length ∧ final.edges = store.edges ++ added ∧
      (∀ e ∈ added, ∃ r ∈ relationships, Joins final r e) ∧
      outcome.warnings = reports.reduceOption ∧ outcome.failed = outcome.warnings.length ∧
      (outcome.status = .partial_ ↔ 0 < outcome.failed) ∧
      List.Forall₂ (Reported final) relationships reports ∧
      (outcome.failed = 0 → ∃ again last,
        (write later relationships filePath).runAmid momentsLater similarLater final = (.ok again, last) ∧
          again.data = some 0 ∧ last.edges = final.edges ∧ keys last = keys final ∧
          ((∀ n, (momentsLater n).fault = none) → again.failed = 0)) := by
  have plain : ∀ n ∈ endNames relationships, Plain store n := by
    intro n _ stored
    obtain ⟨e, member, rfl⟩ := List.mem_map.mp stored
    exact trimmed e member
  have knows : Knows store ({} : Progress).resolved := nofun
  obtain ⟨progress, final, run, wrote⟩ := writeAll_wrote similar filePath relationships
    (Span.of_covers moments) sound knows plain
  obtain ⟨outcome, whole, data, warnings, failed, status⟩ := write_outcome run
  obtain ⟨added, edges, created, joined⟩ := wrote.edges
  obtain ⟨reports, warned, reported⟩ := wrote.reports
  refine ⟨outcome, final, added, reports, whole, ?_, edges, joined, ?_, failed, status, reported, fun none => ?_⟩
  · rw [data, created, Nat.zero_add]
  · rw [warnings, warned, List.nil_append]
  · have clean : progress.warnings = [] := by
      rw [← warnings, ← List.length_eq_zero_iff]
      omega
    have again : Again (Span.of momentsLater) final ({} : Progress).resolved final ({} : Progress).resolved :=
      ⟨GraphTask.sound_runAmid sound run, nofun, fun _ => rfl, List.Subset.refl _⟩
    obtain ⟨progress', last, runAgain, repeats⟩ := writeAll_again similar similarLater filePath relationships
      sound knows plain run clean (Span.of_covers momentsLater) again (List.Subset.refl _) (List.Subset.refl _)
      fun n member => wrote.grows.plain (plain n member)
    obtain ⟨outcome', whole', data', warnings', failed', -⟩ := write_outcome runAgain
    refine ⟨outcome', last, whole', ?_, repeats.edges, repeats.keys, fun orderly => ?_⟩
    · rw [data', repeats.created]
    · have faultless : ¬ (Span.of momentsLater).faulty := fun ⟨n, fault⟩ => fault (orderly n)
      rw [failed', warnings', repeats.warnings faultless]
      rfl

theorem paddedStore_sound : paddedStore.Sound := by
  constructor <;> simp [paddedStore]

/-- Moments at one of which the store is out of order. -/
def fullDisk (turn : ℕ) : ℕ → Moment := fun n =>
  { now := paddedTime, fault := if n = turn then some (.fault "disk full") else none }

/-- A relationship is written, and again while a call fails. If the call for its edge fails the first time,
one failure is reported. -/
theorem write_connects_padded : paddedStore.Sound ∧ (∀ e ∈ paddedStore.entities, e.IsTrimmed) ∧
    (∃ outcome final again last,
      (write paddedTime paddedRelationships none).runAmid paddedMoments (fun _ => .ok []) paddedStore =
        (.ok outcome, final) ∧ outcome.failed = 0 ∧
      (write default paddedRelationships none).runAmid (fullDisk 1) (fun _ => .ok []) final =
        (.ok again, last) ∧
      again.data = some 0 ∧ last.edges = final.edges ∧ keys last = keys final) ∧
    ∃ outcome final,
      (write paddedTime paddedRelationships none).runAmid (fullDisk 5) (fun _ => .ok []) paddedStore =
        (.ok outcome, final) ∧ outcome.failed = 1 ∧ outcome.status = .partial_ := by
  have trimmed : ∀ e ∈ paddedStore.entities, e.IsTrimmed := by
    unfold Entity.IsTrimmed
    decide
  have failures : ((write paddedTime paddedRelationships none).runAmid paddedMoments (fun _ => .ok [])
        paddedStore).1.toOption.map (·.failed) = some 0 ∧
      ((write paddedTime paddedRelationships none).runAmid (fullDisk 5) (fun _ => .ok [])
        paddedStore).1.toOption.map (·.failed) = some 1 := by
    decide +kernel
  refine ⟨paddedStore_sound, trimmed, ?_, ?_⟩
  · obtain ⟨outcome, final, _, _, run, _, _, _, _, _, _, _, rewrite⟩ := write_connects paddedTime default
      paddedMoments (fullDisk 1) (fun _ => .ok []) (fun _ => .ok []) paddedRelationships none paddedStore_sound
      trimmed
    rw [run] at failures
    have clean : outcome.failed = 0 := Option.some.inj failures.1
    obtain ⟨again, last, rerun, data, edges, entities, -⟩ := rewrite clean
    exact ⟨outcome, final, again, last, run, clean, rerun, data, edges, entities⟩
  · obtain ⟨outcome, final, _, _, run, _, _, _, _, _, status, _, _⟩ := write_connects paddedTime default
      (fullDisk 5) paddedMoments (fun _ => .ok []) (fun _ => .ok []) paddedRelationships none paddedStore_sound
      trimmed
    rw [run] at failures
    have one : outcome.failed = 1 := Option.some.inj failures.2
    exact ⟨outcome, final, run, one, status.mpr (one ▸ by decide)⟩

end CodeGraph.Structure
