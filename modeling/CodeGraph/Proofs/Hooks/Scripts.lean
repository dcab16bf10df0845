import CodeGraph.Proofs.Hooks.Installing

namespace CodeGraph

open FileTree (Stays)

variable {tree after : FileTree} {repository git hooks : String}

namespace ScriptInstaller

/-- Removing a script leads to no other one. -/
theorem isManaged_of_removed {place path : String} {bytes : ByteArray} {executable : Bool}
    (stands : tree.nodeAt? place = some (.file bytes executable)) (sets : tree.Sets place none after)
    (managed : after.isManaged path = true) : tree.isManaged path = true ∧ tree.locate? path ≠ some place := by
  have directories (other : String) :
      after.nodeAt? other = some .directory ↔ tree.nodeAt? other = some .directory := by
    rw [sets.nodes]
    split
    · rename_i same
      simp [same, stands]
    · exact Iff.rfl
  obtain ⟨found, held, runs, located, file, carries⟩ := FileTree.isManaged_iff.mp managed
  rw [FileTree.locate?_congr sets.working directories] at located
  rw [sets.nodes] at file
  split at file
  · contradiction
  · rename_i other
    refine ⟨FileTree.isManaged_iff.mpr ⟨found, held, runs, located, file, carries⟩, ?_⟩
    rw [located]
    exact fun same => other (Option.some.inj same)

theorem isManaged_remove {path : String} (managed : tree.isManaged path = true) :
    (tree.remove path).isManaged path = false := by
  obtain ⟨place, bytes, executable, located, stands, -, sets⟩ := FileTree.remove_sets managed
  rw [Bool.eq_false_iff]
  exact fun still => (isManaged_of_removed stands sets still).2 located

theorem isManaged_remove_other {path other : String} (managed : tree.isManaged path = true)
    (clear : tree.isManaged other = false) : (tree.remove path).isManaged other = false := by
  obtain ⟨place, bytes, executable, located, stands, -, sets⟩ := FileTree.remove_sets managed
  rw [Bool.eq_false_iff] at clear ⊢
  exact fun still => clear (isManaged_of_removed stands sets still).1

/-- When scripts have been removed, none that was made here is left of them. -/
theorem removeAll_clears (types : List HookType) (result : InstallResult) {path : String}
    (cleared : tree.isManaged path = false ∨
      ∃ hookType ∈ types, path = Path.join result.directory hookType.name) :
    (removeAll tree result types).2.isManaged path = false := by
  induction types generalizing tree result with
  | nil => simpa [removeAll] using cleared
  | cons hookType rest ih =>
    have passed {next : FileTree} (clears : tree.isManaged path = false → next.isManaged path = false)
        (gone : path = Path.join result.directory hookType.name → next.isManaged path = false) :
        next.isManaged path = false ∨ ∃ other ∈ rest, path = Path.join result.directory other.name := by
      rcases cleared with clear | ⟨other, member, same⟩
      · exact .inl (clears clear)
      · rcases List.mem_cons.mp member with rfl | later
        · exact .inl (gone same)
        · exact .inr ⟨other, later, same⟩
    rw [removeAll]
    dsimp only
    split
    · rename_i absent
      refine ih result (passed id ?_)
      rintro rfl
      rw [Bool.eq_false_iff]
      intro managed
      simp [FileTree.has_of_isManaged managed] at absent
    split
    · rename_i unmanaged
      refine ih _ (passed id ?_)
      rintro rfl
      simpa using unmanaged
    · rename_i managed
      rw [Bool.not_eq_true, Bool.not_eq_false'] at managed
      refine ih _ (passed (isManaged_remove_other managed) ?_)
      rintro rfl
      exact isManaged_remove managed

theorem uninstall_clears (installer : ScriptInstaller) (found : installer.directory tree = .ok hooks) :
    ∃ result last, installer.uninstall tree = (.ok result, last) ∧
      ∀ hookType : HookType, last.isManaged (Path.join hooks hookType.name) = false := by
  have clears (hookType : HookType) :
      (removeAll tree { directory := hooks } HookType.all).2.isManaged (Path.join hooks hookType.name) = false :=
    removeAll_clears HookType.all { directory := hooks } (.inr ⟨hookType, mem_all hookType, rfl⟩)
  unfold uninstall
  rw [found]
  dsimp only
  generalize removeAll tree { directory := hooks } HookType.all = removed at clears ⊢
  exact ⟨removed.1, removed.2, rfl, clears⟩

end ScriptInstaller

/-- A call that installs or removes scripts. -/
inductive ScriptCall where
  | install (config : HookConfig) (command : String)
  | uninstall (config : HookConfig) (command : String)

namespace ScriptCall

/-- The tree after a call for a repository. -/
def perform (repository : String) (tree : FileTree) : ScriptCall → FileTree
  | .install config command => (ScriptInstaller.install { repository, config, command } false tree).2
  | .uninstall config command => (ScriptInstaller.uninstall { repository, config, command } tree).2

/-- The tree after one call after the other. -/
def performAll (repository : String) (calls : List ScriptCall) (tree : FileTree) : FileTree :=
  calls.foldl (perform repository) tree

theorem perform_stays (writable : Writable tree repository git) (call : ScriptCall) :
    Stays (Path.join git "hooks") tree (call.perform repository tree) := by
  cases call with
  | install config command =>
    exact ScriptInstaller.install_stays _ (ScriptInstaller.directory_eq_ok_iff.mpr ⟨git, writable.found, rfl⟩)
  | uninstall config command =>
    exact ScriptInstaller.uninstall_stays _ (ScriptInstaller.directory_eq_ok_iff.mpr ⟨git, writable.found, rfl⟩)

theorem performAll_writable (writable : Writable tree repository git) (calls : List ScriptCall) :
    Writable (performAll repository calls tree) repository git := by
  induction calls generalizing tree with
  | nil => exact writable
  | cons call rest ih => exact ih (writable.stays (call.perform_stays writable))

/-- A call leaves files without the marker alone, even where it fails. -/
theorem perform_spares (repository : String) (call : ScriptCall) (tree : FileTree) :
    tree.Spares (call.perform repository tree) := by
  cases call with
  | install config command =>
    cases found : ScriptInstaller.directory { repository, config, command } tree with
    | error failure =>
      simp only [perform, ScriptInstaller.install, found]
      exact .refl tree
    | ok hooks => exact (ScriptInstaller.install_stays _ found).spares
  | uninstall config command =>
    cases found : ScriptInstaller.directory { repository, config, command } tree with
    | error failure =>
      simp only [perform, ScriptInstaller.uninstall, found]
      exact .refl tree
    | ok hooks => exact (ScriptInstaller.uninstall_stays _ found).spares

theorem performAll_spares (repository : String) (calls : List ScriptCall) (tree : FileTree) :
    tree.Spares (performAll repository calls tree) := by
  induction calls generalizing tree with
  | nil => exact .refl tree
  | cons call rest ih => exact (call.perform_spares repository tree).trans (ih _)

/-- Whatever calls come one after the other, files without the marker stay as they were. In a repository
whose scripts can be written, scripts can then be installed: every enabled hook has the script of the
configuration, which can be run, or something without the marker stays in its place and the hook is
reported as skipped, and installing the same scripts again changes nothing. When scripts are removed
instead, none with the marker is left. -/
theorem performAll_protects (repository : String) (calls : List ScriptCall) (tree : FileTree) :
    let after := performAll repository calls tree
    (∀ path bytes executable, tree.find? path = some (.file bytes executable) → marked bytes = false →
      after.find? path = some (.file bytes executable)) ∧
    ∀ git, Writable tree repository git → ∀ (config : HookConfig) (command : String),
      let installer : ScriptInstaller := { repository, config, command }
      let script (hookType : HookType) := Path.join (Path.join git "hooks") hookType.name
      (∃ result once, installer.install false after = (.ok result, once) ∧
        (∀ hookType, config.isEnabled hookType.name = true →
          once.find? (script hookType) = some (.file (installer.render hookType).toUTF8 true) ∨
          once.isForeign (script hookType) = true ∧
            once.nodeAt? (script hookType) = after.nodeAt? (script hookType) ∧
            s!"{hookType.name}: existing hook not managed by repo-graph" ∈ result.skipped) ∧
        ∃ twice, installer.install false once = (.ok result, twice) ∧
          ∀ place, twice.nodeAt? place = once.nodeAt? place) ∧
      ∃ result last, installer.uninstall after = (.ok result, last) ∧
        ∀ hookType, last.isManaged (script hookType) = false := by
  intro after
  refine ⟨fun path bytes executable => (performAll_spares repository calls tree).find?, ?_⟩
  intro git start config command installer script
  have writable : Writable after repository git := performAll_writable start calls
  have found : installer.directory after = .ok (Path.join git "hooks") :=
    ScriptInstaller.directory_eq_ok_iff.mpr ⟨git, writable.found, rfl⟩
  refine ⟨?_, installer.uninstall_clears found⟩
  obtain ⟨made, once, ran⟩ := installer.install_run writable
  have stays : Stays (Path.join git "hooks") after once := by
    have kept := installer.install_stays found
    rwa [ran.run] at kept
  obtain ⟨present, twice, again⟩ := installer.install_run (writable.stays stays)
  obtain rfl : present = once := again.present ran.leadsAfter
  obtain ⟨rerun, unchanged⟩ := ran.again again
  rw [ran.run] at rerun
  refine ⟨_, present, ran.run, fun hookType enabled => ?_, twice, rerun, unchanged⟩
  cases wrote : installer.writes made (Path.join git "hooks") hookType with
  | true => exact .inl (ran.find?_written wrote)
  | false =>
    have foreign : made.isForeign (script hookType) = true := by
      simpa [ScriptInstaller.writes, installer, script, enabled] using wrote
    have away : script hookType ≠ Path.join git "hooks" := Path.join_ne_self writable.isPlace hookType.isName
    refine .inr ⟨(ran.isForeign_eq hookType enabled).trans foreign, ?_, ?_⟩
    · rw [ran.kept wrote, ran.unchanged _ away]
    · refine List.mem_map.mpr ⟨hookType, List.mem_filter.mpr ⟨ScriptInstaller.mem_all hookType, ?_⟩, rfl⟩
      simpa [ScriptInstaller.leaves, installer, enabled] using foreign

/-- A repository in which somebody else has put a script for commits. -/
def sharedRepository : FileTree where
  nodes := [("/repo", .directory), ("/repo/.git", .directory), ("/repo/.git/hooks", .directory),
    ("/repo/.git/hooks/pre-commit", .file "#!/bin/sh\nnpm test\n".toUTF8 true)]

theorem sharedRepository_writable : Writable sharedRepository "/repo" "/repo/.git" := by
  refine ⟨⟨Path.isPlace_resolve _ _, by decide +kernel⟩, by decide +kernel, fun bytes executable => ?_, ?_⟩
  · have directory : sharedRepository.nodeAt? (Path.join "/repo/.git" "hooks") = some .directory := by
      decide +kernel
    rw [directory]
    nofun
  · intro hookType
    cases hookType <;> decide +kernel

theorem performAll_protects_shared :
    let calls : List ScriptCall := [.install {} "repo-graph", .uninstall {} "python -m repo_graph"]
    let after := performAll "/repo" calls sharedRepository
    Writable sharedRepository "/repo" "/repo/.git" ∧
      marked "#!/bin/sh\nnpm test\n".toUTF8 = false ∧
      after.find? "/repo/.git/hooks/pre-commit" = some (.file "#!/bin/sh\nnpm test\n".toUTF8 true) ∧
      ∃ result once, ScriptInstaller.install { repository := "/repo" } false after = (.ok result, once) ∧
        ∃ result last, ScriptInstaller.uninstall { repository := "/repo" } after = (.ok result, last) ∧
          last.isManaged (Path.join (Path.join "/repo/.git" "hooks") "pre-commit") = false := by
  intro calls after
  have unmarked : marked "#!/bin/sh\nnpm test\n".toUTF8 = false := by decide +kernel
  have stands : sharedRepository.find? "/repo/.git/hooks/pre-commit" =
      some (.file "#!/bin/sh\nnpm test\n".toUTF8 true) := by
    decide +kernel
  obtain ⟨spared, scripts⟩ := performAll_protects "/repo" calls sharedRepository
  obtain ⟨⟨result, once, installed, -⟩, removed, last, uninstalled, cleared⟩ :=
    scripts "/repo/.git" sharedRepository_writable {} "repo-graph"
  exact ⟨sharedRepository_writable, unmarked, spared _ _ _ stands unmarked, result, once, installed, removed, last,
    uninstalled, cleared .preCommit⟩

end ScriptCall

end CodeGraph
