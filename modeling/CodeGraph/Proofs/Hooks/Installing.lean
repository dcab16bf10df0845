import CodeGraph.Proofs.Hooks.Sparing

namespace CodeGraph

open FileTree (Stays)

theorem isName_git : Path.IsName ".git" :=
  ⟨⟨by decide, by decide, by decide⟩, by decide, by decide, by decide⟩

theorem isName_hooks : Path.IsName "hooks" :=
  ⟨⟨by decide, by decide, by decide⟩, by decide, by decide, by decide⟩

variable {tree after : FileTree} {repository git hooks : String}

theorem FileTree.resolve_ok {path : String} (start : tree.resolve repository = .ok path) :
    path = Path.resolve tree.workingDirectory repository := by
  unfold resolve at start
  split at start
  · cases start
  · exact (Except.ok.inj start).symm

theorem FileTree.gitDirectory?_of_resolve {path : String} (start : tree.resolve repository = .ok path) :
    tree.gitDirectory? repository =
      tree.firstDirectory? ((path :: Path.ancestors path).map (Path.join · ".git")) := by
  simp only [gitDirectory?, start, bind, Except.bind]

theorem FileTree.gitDirectory?_leads (found : tree.gitDirectory? repository = .ok (some git)) :
    tree.Leads git := by
  cases start : tree.resolve repository with
  | error cause => simp [gitDirectory?, start, bind, Except.bind] at found
  | ok path =>
    have isPlace : Path.IsPlace path := resolve_ok start ▸ Path.isPlace_resolve _ _
    rw [gitDirectory?_of_resolve start] at found
    obtain ⟨member, looks⟩ := firstDirectory?_some found
    obtain ⟨above, among, rfl⟩ := List.mem_map.mp member
    exact ⟨(isPlace.above above among).join isName_git, looks⟩

/-- A repository whose scripts can be written: the path to it leads to a directory, its git directory is
found, and neither a file stands in the place of the directory of hooks nor are paths too long. -/
structure Writable (tree : FileTree) (repository git : String) : Prop where
  stands : tree.Leads (Path.resolve tree.workingDirectory repository)
  found : tree.gitDirectory? repository = .ok (some git)
  free : ∀ bytes executable, tree.nodeAt? (Path.join git "hooks") ≠ some (.file bytes executable)
  short : ∀ hookType : HookType,
    (Path.join (Path.join git "hooks") hookType.name).utf8ByteSize ≤ pathLimit

theorem Writable.isPlace (writable : Writable tree repository git) : Path.IsPlace (Path.join git "hooks") :=
  (FileTree.gitDirectory?_leads writable.found).place.join isName_hooks

/-- The git directory is found again when nothing but hooks was touched. -/
theorem Writable.gitDirectory?_stays (writable : Writable tree repository git)
    (stays : Stays (Path.join git "hooks") tree after) :
    after.gitDirectory? repository = tree.gitDirectory? repository := by
  have place := (FileTree.gitDirectory?_leads writable.found).place
  have same : after.resolve repository = tree.resolve repository := by
    rw [FileTree.resolve, FileTree.resolve, stays.spares.working]
  cases start : tree.resolve repository with
  | error cause => simp only [FileTree.gitDirectory?, same, start, bind, Except.bind]
  | ok path =>
    have leads : tree.Leads path := FileTree.resolve_ok start ▸ writable.stands
    rw [FileTree.gitDirectory?_of_resolve start, FileTree.gitDirectory?_of_resolve (same.trans start)]
    refine FileTree.firstDirectory?_congr fun candidate member => ?_
    obtain ⟨above, among, rfl⟩ := List.mem_map.mp member
    have leadsAbove := leads.above above among
    have unchanged : after.nodeAt? (Path.join above ".git") = tree.nodeAt? (Path.join above ".git") := by
      refine stays.elsewhere _ ?_ fun hookType => ?_
      · exact Path.join_ne leadsAbove.place place isName_git isName_hooks (by decide)
      · exact Path.join_ne leadsAbove.place writable.isPlace isName_git hookType.isName
          (by cases hookType <;> decide)
    rw [(leadsAbove.keeps stays.spares.directories).look_join_eq isName_git,
      leadsAbove.look_join_eq isName_git, unchanged]

theorem Writable.stays (writable : Writable tree repository git) (stays : Stays (Path.join git "hooks") tree after) :
    Writable after repository git := by
  refine ⟨?_, (writable.gitDirectory?_stays stays).trans writable.found, fun bytes executable file => ?_,
    writable.short⟩
  · rw [stays.spares.working]
    exact writable.stands.keeps stays.spares.directories
  · rcases stays.directory with same | directory
    · exact writable.free bytes executable (same ▸ file)
    · rw [directory] at file
      cases file

/-- Whether something is at a path that is no script made here. -/
def FileTree.isForeign (tree : FileTree) (path : String) : Bool :=
  tree.has path && !tree.isManaged path

theorem FileTree.Leads.find?_join (leads : tree.Leads hooks) (hookType : HookType) :
    tree.find? (Path.join hooks hookType.name) = tree.nodeAt? (Path.join hooks hookType.name) := by
  rw [FileTree.find?, (leads.locate?_join hookType.isName).1, Option.bind_some]

theorem FileTree.isForeign_congr {path : String} (same : after.find? path = tree.find? path) :
    after.isForeign path = tree.isForeign path := by
  rw [isForeign, isForeign, isManaged_eq, isManaged_eq, has, has, same]

theorem FileTree.isForeign_directory {path : String} (stands : tree.find? path = some .directory) :
    tree.isForeign path = true := by
  rw [isForeign, isManaged_eq, has, stands]
  rfl

namespace ScriptInstaller

theorem directory_eq_ok_iff {installer : ScriptInstaller} :
    installer.directory tree = .ok hooks ↔
      ∃ git, tree.gitDirectory? installer.repository = .ok (some git) ∧ hooks = Path.join git "hooks" := by
  unfold directory
  rcases tree.gitDirectory? installer.repository with cause | _ | git <;> simp [eq_comm]

theorem install_stays (installer : ScriptInstaller) (found : installer.directory tree = .ok hooks) :
    Stays hooks tree (installer.install false tree).2 := by
  obtain ⟨git, atGit, rfl⟩ := directory_eq_ok_iff.mp found
  have leads := FileTree.gitDirectory?_leads atGit
  have isPlace := leads.place.join isName_hooks
  unfold install
  rw [found]
  generalize HookType.all = types
  dsimp only
  rw [leads.makeDirectories_join isName_hooks]
  cases made : tree.makeDirectory (Path.join git "hooks") with
  | error cause => exact .refl _ tree
  | ok between => exact (Stays.makeDirectory isPlace made).trans (installer.installAll_stays types isPlace rfl)

theorem uninstall_stays (installer : ScriptInstaller) (found : installer.directory tree = .ok hooks) :
    Stays hooks tree (installer.uninstall tree).2 := by
  obtain ⟨git, atGit, rfl⟩ := directory_eq_ok_iff.mp found
  have isPlace := (FileTree.gitDirectory?_leads atGit).place.join isName_hooks
  unfold uninstall
  rw [found]
  generalize HookType.all = types
  exact removeAll_stays types isPlace rfl

/-- Why the script of a hook was not installed. -/
def keptReason (hookType : HookType) : String :=
  s!"{hookType.name}: existing hook not managed by repo-graph"

/-- Whether the script of a hook is written. -/
def writes (installer : ScriptInstaller) (tree : FileTree) (hooks : String) (hookType : HookType) : Bool :=
  installer.config.isEnabled hookType.name && !tree.isForeign (Path.join hooks hookType.name)

/-- Whether the script of an enabled hook is not written. -/
def leaves (installer : ScriptInstaller) (tree : FileTree) (hooks : String) (hookType : HookType) : Bool :=
  installer.config.isEnabled hookType.name && tree.isForeign (Path.join hooks hookType.name)

/-- What is done about an enabled hook depends on what stands in the place of its script. -/
theorem decided_congr {installer : ScriptInstaller} {hookType : HookType}
    (same : installer.config.isEnabled hookType.name = true →
      after.isForeign (Path.join hooks hookType.name) = tree.isForeign (Path.join hooks hookType.name)) :
    installer.writes after hooks hookType = installer.writes tree hooks hookType ∧
      installer.leaves after hooks hookType = installer.leaves tree hooks hookType := by
  unfold writes leaves
  cases enabled : installer.config.isEnabled hookType.name with
  | false => simp only [Bool.false_and, and_self]
  | true => simp only [same enabled, and_self]

/-- The scripts of some hooks have been written, and nothing else. -/
structure Installs (installer : ScriptInstaller) (hooks : String) (types : List HookType)
    (tree once : FileTree) : Prop where
  working : once.workingDirectory = tree.workingDirectory
  written : ∀ hookType ∈ types, installer.writes tree hooks hookType = true →
    once.nodeAt? (Path.join hooks hookType.name) = some (.file (installer.render hookType).toUTF8 true)
  others : ∀ place, (∀ hookType ∈ types, installer.writes tree hooks hookType = true →
    place ≠ Path.join hooks hookType.name) → once.nodeAt? place = tree.nodeAt? place

theorem join_name_ne (isPlace : Path.IsPlace hooks) {first second : HookType} (away : first ≠ second) :
    Path.join hooks first.name ≠ Path.join hooks second.name :=
  Path.join_ne isPlace isPlace first.isName second.isName (HookType.name_injective.ne away)

theorem Installs.skip {installer : ScriptInstaller} {hookType : HookType} {rest : List HookType}
    (installs : installer.Installs hooks rest tree after)
    (untouched : installer.writes tree hooks hookType = false) :
    installer.Installs hooks (hookType :: rest) tree after := by
  refine ⟨installs.working, List.forall_mem_cons.mpr ⟨?_, installs.written⟩, fun place away => ?_⟩
  · simp [untouched]
  · exact installs.others place fun other member => away other (List.mem_cons_of_mem _ member)

theorem Installs.write {installer : ScriptInstaller} {hookType : HookType} {rest : List HookType}
    {next : FileTree} (isPlace : Path.IsPlace hooks) (fresh : hookType ∉ rest)
    (sets : tree.Sets (Path.join hooks hookType.name) (some (.file (installer.render hookType).toUTF8 true)) next)
    (same : ∀ other ∈ rest, installer.writes next hooks other = installer.writes tree hooks other)
    (touched : installer.writes tree hooks hookType = true) (installs : installer.Installs hooks rest next after) :
    installer.Installs hooks (hookType :: rest) tree after := by
  refine ⟨installs.working.trans sets.working, List.forall_mem_cons.mpr ⟨fun _ => ?_, ?_⟩, fun place away => ?_⟩
  · rw [installs.others, sets.nodes, if_pos rfl]
    exact fun other member _ => join_name_ne isPlace (ne_of_mem_of_not_mem member fresh).symm
  · exact fun other member wrote => installs.written other member ((same other member).trans wrote)
  · have awayHere := away hookType List.mem_cons_self touched
    rw [installs.others, sets.nodes, if_neg awayHere]
    exact fun other member wrote =>
      away other (List.mem_cons_of_mem _ member) ((same other member).symm.trans wrote)

theorem writeScript_succeeds {hookType : HookType} (leads : tree.Leads hooks)
    (short : (Path.join hooks hookType.name).utf8ByteSize ≤ pathLimit)
    (clear : tree.isForeign (Path.join hooks hookType.name) = false) (text : String) :
    ∃ next, writeScript tree (Path.join hooks hookType.name) text = .ok next ∧ tree.Keeps next ∧
      tree.Sets (Path.join hooks hookType.name) (some (.file text.toUTF8 true)) next := by
  have noDirectory : tree.nodeAt? (Path.join hooks hookType.name) ≠ some .directory := by
    intro stands
    rw [← leads.find?_join] at stands
    rw [FileTree.isForeign_directory stands] at clear
    contradiction
  rcases leads.writeBytes_cases hookType.isName text.toUTF8 with
    ⟨-, between, wrote, -⟩ | ⟨long | directory, -⟩
  · have written : writeScript tree (Path.join hooks hookType.name) text =
        .ok (between.makeExecutable (Path.join hooks hookType.name)) := by
      simp only [writeScript, FileTree.write, wrote, bind, Except.bind, pure, Except.pure]
    obtain ⟨place, located, -, sets⟩ := FileTree.writeScript_sets written
    obtain rfl := FileTree.locate?_place (leads.place.join hookType.isName) located
    exact ⟨_, written, sets.keeps noDirectory, sets⟩
  · omega
  · exact absurd directory noDirectory

theorem isForeign_other {next : FileTree} {hookType other : HookType} {node : Option FileNode}
    (leads : tree.Leads hooks) (keeps : tree.Keeps next)
    (sets : tree.Sets (Path.join hooks hookType.name) node next) (away : other ≠ hookType) :
    next.isForeign (Path.join hooks other.name) = tree.isForeign (Path.join hooks other.name) := by
  refine FileTree.isForeign_congr ?_
  rw [(leads.keeps keeps).find?_join, leads.find?_join, sets.nodes, if_neg (join_name_ne leads.place away)]

theorem installAll_run (installer : ScriptInstaller) (types : List HookType) (distinct : types.Nodup)
    (installed : List HookType) (skipped : List String) (leads : tree.Leads hooks)
    (short : ∀ hookType : HookType, (Path.join hooks hookType.name).utf8ByteSize ≤ pathLimit) :
    ∃ once, installer.installAll false tree { installed, skipped, directory := hooks } types = (.ok {
        installed := installed ++ types.filter (installer.writes tree hooks)
        skipped := skipped ++ (types.filter (installer.leaves tree hooks)).map keptReason
        directory := hooks }, once) ∧
      installer.Installs hooks types tree once := by
  induction types generalizing tree installed skipped with
  | nil => exact ⟨tree, by simp [installAll], rfl, nofun, fun _ _ => rfl⟩
  | cons hookType rest ih =>
    obtain ⟨fresh, distinctRest⟩ := List.nodup_cons.mp distinct
    rw [installAll]
    dsimp only
    cases enabled : installer.config.isEnabled hookType.name with
    | false =>
      have untouched : installer.writes tree hooks hookType = false := by simp [writes, enabled]
      obtain ⟨once, run, installs⟩ := ih distinctRest installed skipped leads
      refine ⟨once, ?_, installs.skip untouched⟩
      rw [if_pos (by decide), run]
      simp [writes, leaves, enabled]
    | true =>
      rw [if_neg (by decide), Bool.not_false, Bool.and_true]
      change ∃ once, (if tree.isForeign (Path.join hooks hookType.name) = true then _ else _) = _ ∧ _
      cases foreign : tree.isForeign (Path.join hooks hookType.name) with
      | true =>
        have untouched : installer.writes tree hooks hookType = false := by simp [writes, foreign]
        obtain ⟨once, run, installs⟩ := ih distinctRest installed (skipped ++ [keptReason hookType]) leads
        refine ⟨once, ?_, installs.skip untouched⟩
        rw [if_pos rfl]
        refine run.trans ?_
        simp [writes, leaves, enabled, foreign]
      | false =>
        have touched : installer.writes tree hooks hookType = true := by simp [writes, enabled, foreign]
        obtain ⟨next, written, keeps, sets⟩ :=
          writeScript_succeeds leads (short hookType) foreign (installer.render hookType)
        have same (other : HookType) (member : other ∈ rest) :
            installer.writes next hooks other = installer.writes tree hooks other ∧
              installer.leaves next hooks other = installer.leaves tree hooks other :=
          decided_congr fun _ => isForeign_other leads keeps sets (ne_of_mem_of_not_mem member fresh)
        obtain ⟨once, run, installs⟩ :=
          ih distinctRest (installed ++ [hookType]) skipped (leads.keeps keeps)
        refine ⟨once, ?_, installs.write leads.place fresh sets (fun other member => (same other member).1) touched⟩
        rw [if_neg (by decide), written]
        refine run.trans ?_
        rw [List.filter_congr fun other member => (same other member).1,
          List.filter_congr fun other member => (same other member).2]
        simp [writes, leaves, enabled, foreign]

theorem makeDirectory_present (leads : tree.Leads hooks) {made : FileTree}
    (run : tree.makeDirectory hooks = .ok made) : made = tree := by
  rcases FileTree.makeDirectory_sets run with same | ⟨place, located, nothing, -⟩
  · exact same
  · obtain ⟨parts, rfl, follows⟩ := leads.follows
    rw [FileTree.locate?_place leads.place located, follows.stands] at nothing
    contradiction

/-- What installing scripts comes to, once the directory of hooks has been made. -/
structure Ran (installer : ScriptInstaller) (hooks : String) (tree made once : FileTree) : Prop where
  run : installer.install false tree = (.ok {
    installed := HookType.all.filter (installer.writes made hooks)
    skipped := (HookType.all.filter (installer.leaves made hooks)).map keptReason
    directory := hooks }, once)
  leads : made.Leads hooks
  leadsAfter : once.Leads hooks
  unchanged : ∀ place ≠ hooks, made.nodeAt? place = tree.nodeAt? place
  present : tree.Leads hooks → made = tree
  installs : installer.Installs hooks HookType.all made once

theorem install_run (installer : ScriptInstaller) (writable : Writable tree installer.repository git) :
    ∃ made once, installer.Ran (Path.join git "hooks") tree made once := by
  have leads := FileTree.gitDirectory?_leads writable.found
  have found : installer.directory tree = .ok (Path.join git "hooks") :=
    directory_eq_ok_iff.mpr ⟨git, writable.found, rfl⟩
  have short : (Path.join git "hooks").utf8ByteSize ≤ pathLimit :=
    (Path.utf8ByteSize_lt_join writable.isPlace HookType.preCommit.isName).le.trans (writable.short _)
  rcases leads.makeDirectory_cases isName_hooks with
    ⟨-, made, makes, keeps, leadsMade, others⟩ | ⟨long | ⟨bytes, executable, file⟩, -⟩
  · obtain ⟨once, run, installs⟩ := installer.installAll_run HookType.all (by decide) [] []
      leadsMade writable.short
    have stays : Stays (Path.join git "hooks") made once := by
      have kept : Stays (Path.join git "hooks") made
          (installer.installAll false made { directory := Path.join git "hooks" } HookType.all).2 :=
        installer.installAll_stays HookType.all writable.isPlace rfl
      rwa [run] at kept
    refine ⟨made, once, ?_, leadsMade, leadsMade.keeps stays.spares.directories, others,
      fun there => makeDirectory_present there makes, installs⟩
    unfold install
    rw [found]
    dsimp only
    rw [leads.makeDirectories_join isName_hooks, makes]
    exact run
  · omega
  · exact absurd file (writable.free bytes executable)

theorem mem_all (hookType : HookType) : hookType ∈ HookType.all := by
  cases hookType <;> decide

variable {installer : ScriptInstaller} {made once : FileTree}

theorem isForeign_file {path : String} {bytes : ByteArray} {executable : Bool}
    (stands : tree.find? path = some (.file bytes executable)) : tree.isForeign path = !marked bytes := by
  rw [FileTree.isForeign, FileTree.isManaged_eq, FileTree.has, stands]
  rfl

/-- A script that was not written is as it was. -/
theorem Ran.kept (ran : installer.Ran hooks tree made once) {hookType : HookType}
    (untouched : installer.writes made hooks hookType = false) :
    once.nodeAt? (Path.join hooks hookType.name) = made.nodeAt? (Path.join hooks hookType.name) := by
  refine ran.installs.others _ fun other _ wrote => join_name_ne ran.leads.place ?_
  rintro rfl
  rw [untouched] at wrote
  contradiction

theorem Ran.find?_written (ran : installer.Ran hooks tree made once) {hookType : HookType}
    (wrote : installer.writes made hooks hookType = true) : once.find? (Path.join hooks hookType.name) =
      some (.file (installer.render hookType).toUTF8 true) := by
  rw [ran.leadsAfter.find?_join, ran.installs.written hookType (mem_all hookType) wrote]

/-- What stands in the place of an enabled hook is as foreign after scripts were installed as before. -/
theorem Ran.isForeign_eq (ran : installer.Ran hooks tree made once) (hookType : HookType)
    (enabled : installer.config.isEnabled hookType.name = true) :
    once.isForeign (Path.join hooks hookType.name) = made.isForeign (Path.join hooks hookType.name) := by
  cases wrote : installer.writes made hooks hookType with
  | true =>
    have clear : made.isForeign (Path.join hooks hookType.name) = false := by
      simpa [writes, enabled] using wrote
    rw [isForeign_file (ran.find?_written wrote), marked_render, clear]
    rfl
  | false =>
    refine FileTree.isForeign_congr ?_
    rw [ran.leadsAfter.find?_join, ran.leads.find?_join, ran.kept wrote]

/-- Scripts that have been installed can be installed again, and no file is changed. -/
theorem Ran.again {twice : FileTree} (first : installer.Ran hooks tree made once)
    (second : installer.Ran hooks once once twice) :
    installer.install false once = ((installer.install false tree).1, twice) ∧
      ∀ place, twice.nodeAt? place = once.nodeAt? place := by
  have same (hookType : HookType) := decided_congr (first.isForeign_eq hookType)
  have sameWrites : installer.writes once hooks = installer.writes made hooks :=
    funext fun hookType => (same hookType).1
  have sameLeaves : installer.leaves once hooks = installer.leaves made hooks :=
    funext fun hookType => (same hookType).2
  constructor
  · rw [first.run, second.run, sameWrites, sameLeaves]
  · intro place
    by_cases script : ∃ hookType ∈ HookType.all, installer.writes once hooks hookType = true ∧
        place = Path.join hooks hookType.name
    · obtain ⟨hookType, member, wrote, rfl⟩ := script
      rw [second.installs.written hookType member wrote,
        first.installs.written hookType member (sameWrites ▸ wrote)]
    · refine second.installs.others place fun hookType member wrote same => script ?_
      exact ⟨hookType, member, wrote, same⟩

end ScriptInstaller

end CodeGraph
