import CodeGraph.Proofs.Structure.Connecting

namespace CodeGraph.Structure

/-- The ends of stored edges, with the tags. -/
def joints (store : GraphStore) : List (String × String × String) :=
  store.edges.map fun e => (e.source, e.target, e.tag)

variable {now later : DateTime} {moments momentsLater : ℕ → Moment} {similar similarLater : Similarity}
  {store after : GraphStore} {progress next : Progress} {relationships : List ExtractedRelationship}

theorem mem_endNames {name : String} :
    name ∈ endNames relationships ↔ ∃ r ∈ relationships, name = r.source ∨ name = r.target := by
  simp [endNames]

/-- Relationships that are not reported as failed are all joined. -/
theorem joined_of_reported {reports : List (Option String)}
    (reported : List.Forall₂ (Reported after) relationships reports) (clean : reports.reduceOption = []) :
    ∀ r ∈ relationships, ∃ e ∈ after.edges, Joins after r e := by
  induction reported with
  | nil => nofun
  | @cons r report rest reports head tail ih =>
    cases head with
    | joined member joins => exact List.forall_mem_cons.mpr ⟨⟨_, member, joins⟩, ih clean⟩
    | failed failure => simp [List.reduceOption_cons_of_some] at clean

theorem Wrote.joined (wrote : Wrote relationships progress store next after)
    (clean : next.warnings = progress.warnings) :
    ∀ r ∈ relationships, ∃ e ∈ after.edges, Joins after r e := by
  obtain ⟨reports, whole, reported⟩ := wrote.reports
  exact joined_of_reported reported (List.append_right_eq_self.mp (whole.symm.trans clean))

theorem Wrote.named (wrote : Wrote relationships progress store next after)
    (clean : next.warnings = progress.warnings) {name : String} (member : name ∈ endNames relationships) :
    ∃ id, (id, Text.trimWhiteSpace name) ∈ keys after := by
  obtain ⟨r, among, rfl | rfl⟩ := mem_endNames.mp member
  all_goals obtain ⟨e, -, joins⟩ := wrote.joined clean r among
  · exact ⟨e.source, joins.source⟩
  · exact ⟨e.target, joins.target⟩

/-- After a write without failures, there are the entities from before, and one for each name that was
not stored. -/
theorem Wrote.mem_keys_iff (wrote : Wrote relationships progress store next after)
    (clean : next.warnings = progress.warnings)
    (trimmed : ∀ n ∈ endNames relationships, Text.trimWhiteSpace n = n) {key : String × String} :
    key ∈ keys after ↔
      key ∈ keys store ∨ ∃ n ∈ endNames relationships, n ∉ storedNames store ∧ key = placeholderKey n := by
  obtain ⟨added, whole, made⟩ := wrote.grows
  rw [whole, List.mem_append]
  refine or_congr_right ⟨fun new => ?_, ?_⟩
  · obtain ⟨n, member, same, free⟩ := made key new
    exact ⟨n, member, trimmed n member ▸ free, same⟩
  · rintro ⟨n, member, free, rfl⟩
    obtain ⟨id, named⟩ := wrote.named clean member
    rw [trimmed n member, whole, List.mem_append] at named
    have new : (id, n) ∈ added := named.resolve_left fun old => free (mem_storedNames.mpr ⟨id, old⟩)
    obtain ⟨m, memberM, same, -⟩ := made _ new
    obtain ⟨-, name⟩ := Prod.mk.inj same
    rw [trimmed m memberM] at name
    rwa [same, ← name] at new

/-- After a write without failures, there are the edges from before, and one for each relationship. -/
theorem Wrote.mem_joints_iff (wrote : Wrote relationships progress store next after)
    (clean : next.warnings = progress.warnings) (sound : after.Sound) {source target tag : String} :
    (source, target, tag) ∈ joints after ↔ (source, target, tag) ∈ joints store ∨
      ∃ r ∈ relationships, (source, Text.trimWhiteSpace r.source) ∈ keys after ∧
        (target, Text.trimWhiteSpace r.target) ∈ keys after ∧ tag = r.type.name := by
  constructor
  · intro member
    obtain ⟨e, stored, same⟩ := List.mem_map.mp member
    cases same
    obtain ⟨added, whole, -, joins⟩ := wrote.edges
    rcases List.mem_append.mp (whole ▸ stored) with old | new
    · exact .inl (List.mem_map_of_mem old)
    · obtain ⟨r, among, joint⟩ := joins e new
      exact .inr ⟨r, among, joint.source, joint.target, joint.tag⟩
  · rintro (old | ⟨r, among, atSource, atTarget, rfl⟩)
    · exact List.map_subset _ wrote.subset old
    · obtain ⟨e, stored, joint⟩ := wrote.joined clean r among
      rw [keys_unique sound atSource joint.source, keys_unique sound atTarget joint.target, ← joint.tag]
      exact List.mem_map_of_mem stored

theorem wrote_of_write {filePath : Option String} {outcome : Outcome Nat} (sound : store.Sound)
    (trimmed : ∀ n ∈ endNames relationships, Text.trimWhiteSpace n = n)
    (run : (write now relationships filePath).runAmid moments similar store = (.ok outcome, after))
    (clean : outcome.failed = 0) :
    ∃ next : Progress, next.warnings = [] ∧ Wrote relationships {} store next after := by
  have knows : Knows store ({} : Progress).resolved := nofun
  obtain ⟨next, final, all, wrote⟩ := writeAll_wrote similar filePath relationships
    (Span.of_covers moments) sound knows fun n member _ => trimmed n member
  obtain ⟨outcome', whole, -, warnings, failed, -⟩ := write_outcome all
  cases whole.symm.trans run
  refine ⟨next, ?_, wrote⟩
  rw [← warnings, ← List.length_eq_zero_iff]
  omega

/-- Relationships whose names have no white space at their ends can be written in any order: if no failure
is reported, the stored graph holds the same ids and names of entities, and the same ends and tags of
edges. -/
theorem write_perm {first second : List ExtractedRelationship} {filePath otherPath : Option String}
    {outcome other : Outcome Nat} {final last : GraphStore} (sound : store.Sound)
    (perm : first.Perm second) (trimmed : ∀ n ∈ endNames first, Text.trimWhiteSpace n = n)
    (run : (write now first filePath).runAmid moments similar store = (.ok outcome, final))
    (clean : outcome.failed = 0)
    (runOther : (write later second otherPath).runAmid momentsLater similarLater store = (.ok other, last))
    (cleanOther : other.failed = 0) :
    (joints final).Perm (joints last) ∧ (keys final).Perm (keys last) := by
  have names : ∀ n, n ∈ endNames first ↔ n ∈ endNames second := fun n =>
    (perm.flatMap_right _).mem_iff
  have trimmedOther : ∀ n ∈ endNames second, Text.trimWhiteSpace n = n := fun n member =>
    trimmed n ((names n).mpr member)
  obtain ⟨next, quiet, wrote⟩ := wrote_of_write sound trimmed run clean
  obtain ⟨nextOther, quietOther, wroteOther⟩ := wrote_of_write sound trimmedOther runOther cleanOther
  have soundFinal := GraphTask.sound_runAmid sound run
  have soundLast := GraphTask.sound_runAmid sound runOther
  have sameKeys : ∀ key, key ∈ keys final ↔ key ∈ keys last := by
    intro key
    rw [wrote.mem_keys_iff quiet trimmed, wroteOther.mem_keys_iff quietOther trimmedOther]
    simp only [names]
  refine ⟨(List.perm_ext_iff_of_nodup soundFinal.joints soundLast.joints).mpr ?_,
    (List.perm_ext_iff_of_nodup (keys_nodup soundFinal) (keys_nodup soundLast)).mpr sameKeys⟩
  rintro ⟨source, target, tag⟩
  change _ ∈ joints final ↔ _ ∈ joints last
  rw [wrote.mem_joints_iff quiet soundFinal, wroteOther.mem_joints_iff quietOther soundLast]
  simp only [sameKeys, perm.mem_iff]

/-- Two relationships that mention one name with different types. -/
def mixedRelationships : List ExtractedRelationship :=
  [{ source := "pkg.a", sourceType := "function", target := "pkg.b", targetType := some "function"
     type := .calls },
    { source := "pkg.b", sourceType := "class", target := "pkg.c", type := .extends_ }]

theorem mixedRelationships_written : ∀ relationships ∈ [mixedRelationships, mixedRelationships.reverse],
    ∃ outcome final, (write paddedTime relationships none).runAmid paddedMoments (fun _ => .ok []) paddedStore =
      (.ok outcome, final) ∧ outcome.failed = 0 := by
  have clean : ∀ relationships ∈ [mixedRelationships, mixedRelationships.reverse],
      ((write paddedTime relationships none).runAmid paddedMoments (fun _ => .ok [])
        paddedStore).1.toOption.any (·.failed == 0) = true := by
    decide +kernel
  intro relationships member
  have quiet := clean relationships member
  generalize (write paddedTime relationships none).runAmid paddedMoments (fun _ => .ok []) paddedStore = ran
    at quiet ⊢
  obtain ⟨failure | outcome, final⟩ := ran
  · contradiction
  · exact ⟨outcome, final, rfl, beq_iff_eq.mp quiet⟩

theorem write_perm_mixed : paddedStore.Sound ∧ mixedRelationships.Perm mixedRelationships.reverse ∧
    (∀ n ∈ endNames mixedRelationships, Text.trimWhiteSpace n = n) ∧
    ∃ outcome other final last,
      (write paddedTime mixedRelationships none).runAmid paddedMoments (fun _ => .ok []) paddedStore =
        (.ok outcome, final) ∧ outcome.failed = 0 ∧
      (write paddedTime mixedRelationships.reverse none).runAmid paddedMoments (fun _ => .ok []) paddedStore =
        (.ok other, last) ∧ other.failed = 0 ∧
      (joints final).Perm (joints last) ∧ (keys final).Perm (keys last) := by
  have trimmed : ∀ n ∈ endNames mixedRelationships, Text.trimWhiteSpace n = n := by decide
  have perm : mixedRelationships.Perm mixedRelationships.reverse := (List.reverse_perm _).symm
  obtain ⟨outcome, final, run, clean⟩ := mixedRelationships_written _ List.mem_cons_self
  obtain ⟨other, last, runOther, cleanOther⟩ :=
    mixedRelationships_written _ (List.mem_cons_of_mem _ List.mem_cons_self)
  exact ⟨paddedStore_sound, perm, trimmed, outcome, other, final, last, run, clean, runOther, cleanOther,
    write_perm paddedStore_sound perm trimmed run clean runOther cleanOther⟩

end CodeGraph.Structure
