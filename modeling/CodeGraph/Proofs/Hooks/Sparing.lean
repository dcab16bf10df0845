import CodeGraph.Hooks.Script
import CodeGraph.Proofs.Files.Changing
import CodeGraph.Proofs.Text.Decoding

namespace CodeGraph

theorem HookType.isName (hookType : HookType) : Path.IsName hookType.name := by
  cases hookType <;> exact ⟨⟨by decide, by decide, by decide⟩, by decide, by decide, by decide⟩

theorem HookType.name_injective : Function.Injective HookType.name := by
  intro first second
  cases first <;> cases second <;> decide

/-- Whether the marker stands in the text of a file. -/
def marked (bytes : ByteArray) : Bool :=
  Text.contains (Text.decodeUtf8 bytes.toList) managedMarker

/-- Every script that is made carries the marker. -/
theorem marked_render (installer : ScriptInstaller) (hookType : HookType) :
    marked (installer.render hookType).toUTF8 = true := by
  have front : ∃ rest, installer.render hookType = "#!/bin/sh\n" ++ managedMarker ++ rest := by
    unfold ScriptInstaller.render
    dsimp only
    split <;> simp only [String.append_assoc] <;> exact ⟨_, rfl⟩
  obtain ⟨rest, whole⟩ := front
  rw [whole]
  exact Text.contains_decodeUtf8 rest (by decide +kernel) (by decide +kernel)

namespace FileTree

variable {tree after last : FileTree} {path place : String}

/-- Nothing but what stands at one place is changed. -/
structure Sets (tree : FileTree) (place : String) (node : Option FileNode) (after : FileTree) : Prop where
  working : after.workingDirectory = tree.workingDirectory
  nodes : ∀ other, after.nodeAt? other = if other = place then node else tree.nodeAt? other

/-- Directories stay, and so do files without the marker. -/
structure Spares (tree after : FileTree) : Prop where
  working : after.workingDirectory = tree.workingDirectory
  directories : tree.Keeps after
  files : ∀ place bytes executable, tree.nodeAt? place = some (.file bytes executable) →
    marked bytes = false → after.nodeAt? place = some (.file bytes executable)

theorem Spares.refl (tree : FileTree) : tree.Spares tree :=
  ⟨rfl, .refl tree, fun _ _ _ stands _ => stands⟩

theorem Spares.trans (first : tree.Spares after) (second : after.Spares last) : tree.Spares last :=
  ⟨second.working.trans first.working, first.directories.trans second.directories,
    fun place bytes executable stands unmarked =>
      second.files place bytes executable (first.files place bytes executable stands unmarked) unmarked⟩

/-- A file without the marker is still found at every path that led to it. -/
theorem Spares.find? (spares : tree.Spares after) {bytes : ByteArray} {executable : Bool}
    (found : tree.find? path = some (.file bytes executable)) (unmarked : marked bytes = false) :
    after.find? path = some (.file bytes executable) := by
  obtain ⟨place, located, stands⟩ := Option.bind_eq_some_iff.mp found
  rw [FileTree.find?, spares.directories.locate? spares.working located, Option.bind_some]
  exact spares.files place bytes executable stands unmarked

theorem Sets.keeps {node : Option FileNode} (sets : tree.Sets place node after)
    (noDirectory : tree.nodeAt? place ≠ some .directory) : tree.Keeps after := by
  intro other stands
  rw [sets.nodes, if_neg, stands]
  rintro rfl
  exact noDirectory stands

theorem Sets.trans {node next : Option FileNode} (first : tree.Sets place node after)
    (second : after.Sets place next last) : tree.Sets place next last := by
  refine ⟨second.working.trans first.working, fun other => ?_⟩
  rw [second.nodes, first.nodes]
  split <;> rfl

theorem Sets.spares {node : Option FileNode} (sets : tree.Sets place node after)
    (noDirectory : tree.nodeAt? place ≠ some .directory)
    (managed : ∀ bytes executable, tree.nodeAt? place = some (.file bytes executable) → marked bytes = true) :
    tree.Spares after := by
  refine ⟨sets.working, sets.keeps noDirectory, fun other bytes executable stands unmarked => ?_⟩
  rw [sets.nodes, if_neg, stands]
  rintro rfl
  simp [managed bytes executable stands] at unmarked

theorem sets_put (tree : FileTree) {node : FileNode} (below : place ≠ "/") :
    tree.Sets place (some node) (tree.put place node) := by
  refine ⟨rfl, fun other => ?_⟩
  rw [nodeAt?_put]
  by_cases root : other = "/"
  · rw [if_pos root, if_neg (root ▸ Ne.symm below), root]
    rfl
  · rw [if_neg root]

theorem sets_remove (located : tree.locate? path = some place) (below : place ≠ "/") :
    tree.Sets place none (tree.remove path) := by
  refine ⟨?_, fun other => ?_⟩
  · rw [remove, located]
  · rw [nodeAt?_remove located]
    by_cases root : other = "/"
    · rw [if_pos root, if_neg (root ▸ Ne.symm below), root]
      rfl
    · rw [if_neg root]

theorem isManaged_eq (tree : FileTree) (path : String) : tree.isManaged path =
    match tree.find? path with
    | some (.file bytes _) => marked bytes
    | _ => false := by
  delta isManaged bytes?
  rcases tree.find? path with _ | _ | _ <;> rfl

theorem isManaged_iff : tree.isManaged path = true ↔ ∃ place bytes executable,
    tree.locate? path = some place ∧ tree.nodeAt? place = some (.file bytes executable) ∧
      marked bytes = true := by
  rw [isManaged_eq, find?]
  cases located : tree.locate? path with
  | none => simp
  | some place =>
    rw [Option.bind_some]
    rcases held : tree.nodeAt? place with _ | _ | ⟨bytes, executable⟩
    · simp [held]
    · simp [held]
    · constructor
      · intro stands
        exact ⟨place, bytes, executable, rfl, held, stands⟩
      · rintro ⟨_, _, _, ⟨⟩, stands, there⟩
        rw [held] at stands
        cases stands
        exact there

theorem has_of_isManaged (managed : tree.isManaged path = true) : tree.has path = true := by
  obtain ⟨place, bytes, executable, located, stands, -⟩ := isManaged_iff.mp managed
  rw [has, find?, located, Option.bind_some, stands]
  rfl

theorem placeFor_ok (placed : tree.placeFor path = .ok place) : tree.locate? path = some place := by
  unfold placeFor at placed
  split at placed
  · split at placed
    · cases placed
    · cases placed
      assumption
  · cases placed

theorem makeDirectory_sets (made : tree.makeDirectory path = .ok after) :
    after = tree ∨ ∃ place, tree.locate? path = some place ∧ tree.nodeAt? place = none ∧
      tree.Sets place (some .directory) after := by
  unfold makeDirectory at made
  split at made
  · cases made
  cases placed : tree.placeFor path with
  | error cause =>
    rw [placed] at made
    cases made
  | ok place =>
    rw [placed] at made
    dsimp only at made
    split at made
    · cases made
      exact .inl rfl
    · cases made
    · rename_i nothing
      cases made
      have below : place ≠ "/" := by
        rintro rfl
        cases nothing
      exact .inr ⟨place, placeFor_ok placed, nothing, sets_put tree below⟩

theorem writeBytes_sets {bytes : ByteArray} (written : tree.writeBytes path bytes = .ok after) :
    ∃ place executable, tree.locate? path = some place ∧ tree.nodeAt? place ≠ some .directory ∧
      tree.Sets place (some (.file bytes executable)) after := by
  unfold writeBytes at written
  split at written
  · cases written
  cases placed : tree.placeFor path with
  | error cause =>
    rw [placed] at written
    cases written
  | ok place =>
    rw [placed] at written
    dsimp only at written
    have noDirectory : tree.nodeAt? place ≠ some .directory := by
      intro stands
      rw [stands] at written
      cases written
    have below : place ≠ "/" := by
      rintro rfl
      exact noDirectory rfl
    rcases held : tree.nodeAt? place with _ | _ | ⟨_, executable⟩
    · rw [held] at written
      cases written
      exact ⟨place, false, placeFor_ok placed, noDirectory, sets_put tree below⟩
    · exact absurd held noDirectory
    · rw [held] at written
      cases written
      exact ⟨place, executable, placeFor_ok placed, noDirectory, sets_put tree below⟩

theorem makeExecutable_sets {bytes : ByteArray} {executable : Bool} (located : tree.locate? path = some place)
    (stands : tree.nodeAt? place = some (.file bytes executable)) :
    tree.Sets place (some (.file bytes true)) (tree.makeExecutable path) := by
  have below : place ≠ "/" := by
    rintro rfl
    cases stands
  unfold makeExecutable
  rw [located]
  dsimp only
  rw [stands]
  exact sets_put tree below

/-- A script is written at the place that its path leads to, and can be run. -/
theorem writeScript_sets {text : String} (written : ScriptInstaller.writeScript tree path text = .ok after) :
    ∃ place, tree.locate? path = some place ∧ tree.nodeAt? place ≠ some .directory ∧
      tree.Sets place (some (.file text.toUTF8 true)) after := by
  unfold ScriptInstaller.writeScript at written
  cases wrote : tree.write path text with
  | error cause =>
    rw [wrote] at written
    cases written
  | ok between =>
    rw [wrote] at written
    cases written
    obtain ⟨place, executable, located, noDirectory, sets⟩ := writeBytes_sets wrote
    have there := (sets.keeps noDirectory).locate? sets.working located
    have stands : between.nodeAt? place = some (.file text.toUTF8 executable) := by
      rw [sets.nodes, if_pos rfl]
    exact ⟨place, located, noDirectory, sets.trans (makeExecutable_sets there stands)⟩

/-- Removing a script made here changes its place only. -/
theorem remove_sets (managed : tree.isManaged path = true) : ∃ place bytes executable,
    tree.locate? path = some place ∧ tree.nodeAt? place = some (.file bytes executable) ∧
      marked bytes = true ∧ tree.Sets place none (tree.remove path) := by
  obtain ⟨place, bytes, executable, located, stands, carries⟩ := isManaged_iff.mp managed
  have below : place ≠ "/" := by
    rintro rfl
    cases stands
  exact ⟨place, bytes, executable, located, stands, carries, sets_remove located below⟩

/-- Where the hooks of a repository are, nothing but their directory and their scripts is touched. -/
structure Stays (hooks : String) (tree after : FileTree) : Prop where
  spares : tree.Spares after
  elsewhere : ∀ place, place ≠ hooks → (∀ hookType : HookType, place ≠ Path.join hooks hookType.name) →
    after.nodeAt? place = tree.nodeAt? place
  directory : after.nodeAt? hooks = tree.nodeAt? hooks ∨ after.nodeAt? hooks = some .directory

namespace Stays

variable {hooks : String}

theorem refl (hooks : String) (tree : FileTree) : Stays hooks tree tree :=
  ⟨.refl tree, fun _ _ _ => rfl, .inl rfl⟩

theorem trans (first : Stays hooks tree after) (second : Stays hooks after last) : Stays hooks tree last := by
  refine ⟨first.spares.trans second.spares, fun place away other => ?_, ?_⟩
  · rw [second.elsewhere place away other, first.elsewhere place away other]
  · rcases second.directory with same | directory
    · exact same ▸ first.directory
    · exact .inr directory

/-- Changing a script made here, or a place where nothing is, leaves everything else alone. -/
theorem of_sets {node : Option FileNode} {hookType : HookType} (isPlace : Path.IsPlace hooks)
    (sets : tree.Sets (Path.join hooks hookType.name) node after)
    (noDirectory : tree.nodeAt? (Path.join hooks hookType.name) ≠ some .directory)
    (managed : ∀ bytes executable,
      tree.nodeAt? (Path.join hooks hookType.name) = some (.file bytes executable) → marked bytes = true) :
    Stays hooks tree after := by
  refine ⟨sets.spares noDirectory managed, fun place _ away => ?_, .inl ?_⟩
  · rw [sets.nodes, if_neg (away hookType)]
  · rw [sets.nodes, if_neg (Path.join_ne_self isPlace hookType.isName).symm]

theorem writeScript {hookType : HookType} {text : String} (isPlace : Path.IsPlace hooks)
    (clear : tree.has (Path.join hooks hookType.name) = true →
      tree.isManaged (Path.join hooks hookType.name) = true)
    (written : ScriptInstaller.writeScript tree (Path.join hooks hookType.name) text = .ok after) :
    Stays hooks tree after := by
  obtain ⟨place, located, noDirectory, sets⟩ := writeScript_sets written
  obtain rfl := locate?_place (isPlace.join hookType.isName) located
  refine .of_sets isPlace sets noDirectory fun bytes executable stands => ?_
  have there : tree.has (Path.join hooks hookType.name) = true := by
    rw [has, FileTree.find?, located, Option.bind_some, stands]
    rfl
  obtain ⟨place, held, _, located', stands', carries⟩ := isManaged_iff.mp (clear there)
  cases located.symm.trans located'
  cases stands.symm.trans stands'
  exact carries

theorem remove {hookType : HookType} (isPlace : Path.IsPlace hooks)
    (managed : tree.isManaged (Path.join hooks hookType.name) = true) :
    Stays hooks tree (tree.remove (Path.join hooks hookType.name)) := by
  obtain ⟨place, bytes, executable, located, stands, carries, sets⟩ := remove_sets managed
  obtain rfl := locate?_place (isPlace.join hookType.isName) located
  refine .of_sets isPlace sets (by simp [stands]) fun held _ stands' => ?_
  cases stands.symm.trans stands'
  exact carries

theorem makeDirectory (isPlace : Path.IsPlace hooks) (made : tree.makeDirectory hooks = .ok after) :
    Stays hooks tree after := by
  rcases makeDirectory_sets made with rfl | ⟨place, located, nothing, sets⟩
  · exact .refl hooks after
  · obtain rfl := locate?_place isPlace located
    refine ⟨sets.spares (by simp [nothing]) (by simp [nothing]), fun other away _ => ?_, .inr ?_⟩
    · rw [sets.nodes, if_neg away]
    · rw [sets.nodes, if_pos rfl]

end Stays

end FileTree

namespace ScriptInstaller

open FileTree (Stays)

variable {tree : FileTree} {result : InstallResult} {hooks : String}

theorem installAll_stays (installer : ScriptInstaller) (types : List HookType) (isPlace : Path.IsPlace hooks)
    (directory : result.directory = hooks) :
    Stays hooks tree (installer.installAll false tree result types).2 := by
  induction types generalizing tree result with
  | nil => exact .refl _ _
  | cons hookType rest ih =>
    rw [installAll, directory]
    dsimp only
    split
    · exact ih directory
    split
    · exact ih rfl
    rename_i clear
    split
    · exact .refl _ _
    · rename_i next written
      have step : Stays hooks tree next := .writeScript isPlace (by simpa using clear) written
      exact step.trans (ih rfl)

theorem removeAll_stays (types : List HookType) (isPlace : Path.IsPlace hooks)
    (directory : result.directory = hooks) : Stays hooks tree (removeAll tree result types).2 := by
  induction types generalizing tree result with
  | nil => exact .refl _ _
  | cons hookType rest ih =>
    rw [removeAll, directory]
    dsimp only
    split
    · exact ih directory
    split
    · exact ih rfl
    · rename_i managed
      have step := Stays.remove isPlace (by simpa using managed)
      exact step.trans (ih rfl)

end ScriptInstaller

end CodeGraph
