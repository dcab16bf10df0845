import CodeGraph.Proofs.Config.Overrides
import CodeGraph.Proofs.Config.Sections

namespace CodeGraph

namespace ProjectConfig

/-- What the environment puts before a configuration. -/
def overrides (environment : Environment) : List (List String × Json) :=
  Defaults.variablePlaces.filterMap fun entry =>
    (environment.get? entry.1).map fun text => (keysOf entry.2, Json.ofSetting text)

/-- The parts of a configuration that are records themselves. -/
def sections : List String :=
  ["hooks", "linking", "qdrant", "embeddings"]

theorem variablePlaces_shallow :
    ∀ entry ∈ Defaults.variablePlaces, Json.Shallow sections (keysOf entry.2) := by
  have ways : Defaults.variablePlaces.map (fun entry => keysOf entry.2) =
      [["hooks", "server_url"], ["hooks", "project_id"], ["hooks", "verbosity"],
        ["hooks", "max_files_to_index"], ["linking", "min_similarity"], ["qdrant", "url"],
        ["qdrant", "timeout"], ["embeddings", "model_name"], ["embeddings", "device"],
        ["database_path"]] := by decide
  intro entry listed
  have among := List.mem_map_of_mem (f := fun entry => keysOf entry.2) listed
  rw [ways] at among
  simp only [List.mem_cons, List.not_mem_nil, or_false] at among
  rcases among with same | same | same | same | same | same | same | same | same | same <;> rw [same]
  all_goals first
    | exact .inl ⟨_, by decide, _, rfl⟩
    | exact .inr ⟨_, by decide, rfl⟩

theorem overrides_shallow (environment : Environment) (way : List String) (value : Json)
    (among : (way, value) ∈ overrides environment) : Json.Shallow sections way := by
  obtain ⟨entry, listed, given⟩ := List.mem_filterMap.mp among
  obtain ⟨text, _, same⟩ := Option.map_eq_some_iff.mp given
  cases same
  exact variablePlaces_shallow entry listed

/-- A value that the variables of the environment can be put into. -/
def TakesVariables (environment : Environment) (value : Json) : Prop :=
  ∃ members, value = .obj members ∧ ∀ entry ∈ Defaults.variablePlaces,
    (environment.get? entry.1).isSome → ∀ part key, keysOf entry.2 = [part, key] →
      Json.IsSection (Members.get? members part)

theorem sectioned_overrides {environment : Environment} {members : Members} :
    Json.Sectioned (overrides environment) members ↔ TakesVariables environment (.obj members) := by
  constructor
  · intro all
    refine ⟨members, rfl, fun entry listed isSet part key leads => ?_⟩
    obtain ⟨text, given⟩ := Option.isSome_iff_exists.mp isSet
    have among : (keysOf entry.2, Json.ofSetting text) ∈ overrides environment :=
      List.mem_filterMap.mpr ⟨entry, listed, by rw [given]; rfl⟩
    exact all _ _ among part key leads
  · rintro ⟨_, ⟨⟩, all⟩ way value among part key leads
    obtain ⟨entry, listed, given⟩ := List.mem_filterMap.mp among
    obtain ⟨text, isSet, same⟩ := Option.map_eq_some_iff.mp given
    cases same
    exact all entry listed (by rw [isSet]; rfl) part key leads

theorem described_eq (tree : FileTree) (environment : Environment) (path : String) (value : Json) :
    described tree environment path value =
      match (value.setAll? (overrides environment)).bind (Json.setAll? [(["path"], .str path)]) with
      | none => .error .misshapen
      | some value => ((schema tree Reader.path).validate value).mapError .ofInvalid := by
  rw [← Json.setAll?_append]
  rfl

/-- What a value describes is a matter of checking an object with the path in it, or there is nothing to
check. -/
theorem described_cases (tree : FileTree) (environment : Environment) (path : String) (value : Json) :
    (TakesVariables environment value ∧ ∃ members, Members.get? members "path" = some (.str path) ∧
      described tree environment path value =
        ((schema tree Reader.path).validate (.obj members)).mapError .ofInvalid) ∨
    (¬ TakesVariables environment value ∧
      described tree environment path value = .error .misshapen) := by
  rw [described_eq]
  by_cases isObject : ∃ members, value = .obj members
  · obtain ⟨members, rfl⟩ := isObject
    rcases Json.setAll?_shallow (overrides_shallow environment) members with
      ⟨takes, others, put⟩ | ⟨other, fails⟩
    · refine .inl ⟨sectioned_overrides.mp takes, Members.set others "path" (.str path), ?_, ?_⟩
      · rw [Members.get?_set, if_pos rfl]
      · rw [put]
        rfl
    · refine .inr ⟨fun takes => other (sectioned_overrides.mpr takes), ?_⟩
      rw [fails]
      rfl
  · refine .inr ⟨fun ⟨members, same, _⟩ => isObject ⟨members, same⟩, ?_⟩
    have fails : (value.setAll? (overrides environment)).bind
        (Json.setAll? [(["path"], .str path)]) = none := by
      have noObject : ∀ members, value ≠ .obj members := fun members same => isObject ⟨members, same⟩
      cases listed : overrides environment with
      | nil => exact Json.setAll?_of_other (by decide) noObject
      | cons assignment rest =>
        obtain ⟨way, put⟩ := assignment
        have nonempty : way ≠ [] := by
          have shallow := overrides_shallow environment way put (by rw [listed]; exact List.mem_cons_self)
          rcases shallow with ⟨_, _, _, rfl⟩ | ⟨_, _, rfl⟩ <;> exact List.cons_ne_nil _ _
        rw [Json.setAll?_of_other nonempty noObject]
        rfl
    rw [fails]

theorem takesVariables_fillJson {environment : Environment} {values : List (String × String)}
    {value : Json} : TakesVariables environment (Template.fillJson values value) ↔
      TakesVariables environment value := by
  have object (value : Json) : (∃ inner, Template.fillJson values value = .obj inner) ↔
      ∃ inner, value = .obj inner := by
    cases value <;> simp [Template.fillJson, Json.mapStrings, Json.mapLeaves]
  have given (members : Members) (part : String) :
      Members.get? (members.map fun member => (member.1, Template.fillJson values member.2)) part =
        (Members.get? members part).map (Template.fillJson values) := by
    induction members with
    | nil => rfl
    | cons member rest ih =>
      rw [List.map_cons, Members.get?_cons, Members.get?_cons, ih, apply_ite (Option.map _)]
      rfl
  have section_ (members : Members) (part : String) :
      Json.IsSection (Members.get? (members.map fun member =>
        (member.1, Template.fillJson values member.2)) part) ↔
        Json.IsSection (Members.get? members part) := by
    rw [given]
    cases Members.get? members part with
    | none => simp [Json.IsSection]
    | some value => simpa [Json.IsSection] using object value
  cases value with
  | obj members =>
    have filled : Template.fillJson values (.obj members) =
        .obj (members.map fun member => (member.1, Template.fillJson values member.2)) := by
      simp only [Template.fillJson, Json.mapStrings, Json.mapLeaves, Json.mapMembers_eq]
    simp only [filled, TakesVariables, Json.obj.injEq, exists_eq_left', section_]
  | _ => constructor <;> (rintro ⟨_, same, _⟩; cases same)

/-- A directory for which there is a configuration exists. -/
theorem exists_of_described {tree : FileTree} {environment : Environment} {path : String}
    {value : Json} {config : ProjectConfig}
    (describes : described tree environment path value = .ok config) :
    ∃ place, directoryReader tree Reader.path (.str path) = .ok place := by
  rcases described_cases tree environment path value with ⟨_, members, given, same⟩ | ⟨_, fails⟩
  · rw [same] at describes
    cases valid : (schema tree Reader.path).validate (.obj members) with
    | error invalid => simp [valid, mapError_error] at describes
    | ok config =>
      have noIssues := (Schema.exists_validate_iff rfl).mp ⟨config, valid⟩
      simp only [schema, List.forall_mem_cons] at noIssues
      obtain ⟨found, place, given', read⟩ := (Field.issues_required_eq_nil
        (directoryReader_tells tree Reader.path_tells)).mp noIssues.2.1
      rw [given] at given'
      cases given'
      exact ⟨place, read⟩
  · simp [fails] at describes

/-- The value that bytes denote, if they are JSON text. -/
def parsed? (bytes : ByteArray) : Option Json :=
  (String.fromUTF8? bytes).bind fun text => (Json.parse text).toOption

/-- A configuration that the bytes of a file describe. -/
def Describes (tree : FileTree) (environment : Environment) (path name : String) (bytes : ByteArray)
    (config : ProjectConfig) : Prop :=
  ∃ value, parsed? bytes = some value ∧
    described tree environment path (Template.fillJson (places path name) value) = .ok config

theorem ofBytes_eq (tree : FileTree) (environment : Environment) (path name : String)
    (bytes : ByteArray) : ofBytes tree environment path name bytes =
      match parsed? bytes with
      | none => .ok none
      | some value =>
        match described tree environment path (Template.fillJson (places path name) value) with
        | .ok config => .ok (some config)
        | .error (.invalid _) => .ok none
        | .error fault => .error fault := by
  unfold ofBytes parsed?
  cases String.fromUTF8? bytes with
  | none => rfl
  | some text =>
    rw [Option.bind_some]
    dsimp only
    unfold ofText
    cases Json.parse text <;> rfl

/-- For a directory with a configuration, what a file says is either taken, or passed over because it
describes none, or breaks off. -/
theorem ofBytes_cases {tree : FileTree} {path place : String}
    (exists_ : directoryReader tree Reader.path (.str path) = .ok place) (environment : Environment)
    (name : String) (bytes : ByteArray) :
    (∃ config, Describes tree environment path name bytes config ∧
      (∀ value ∈ parsed? bytes, TakesVariables environment value) ∧
      ofBytes tree environment path name bytes = .ok (some config)) ∨
    ((∀ config, ¬ Describes tree environment path name bytes config) ∧
      (∀ value ∈ parsed? bytes, TakesVariables environment value) ∧
      ofBytes tree environment path name bytes = .ok none) ∨
    ((¬ ∀ value ∈ parsed? bytes, TakesVariables environment value) ∧
      ofBytes tree environment path name bytes = .error .misshapen) := by
  rw [ofBytes_eq]
  unfold Describes
  cases parsed? bytes with
  | none => exact .inr (.inl ⟨by simp, by simp, rfl⟩)
  | some value =>
    simp only [Option.some.injEq, exists_eq_left', Option.mem_some, forall_eq']
    rw [← takesVariables_fillJson]
    rcases described_cases tree environment path (Template.fillJson (places path name) value) with
      ⟨takes, members, given, same⟩ | ⟨fails, same⟩
    · cases valid : (schema tree Reader.path).validate (.obj members) with
      | ok config =>
        rw [valid] at same
        exact .inl ⟨config, same, takes, by rw [same]; rfl⟩
      | error invalid =>
        have described : described tree environment path (Template.fillJson (places path name) value) =
            .error (.invalid invalid) := by
          rw [same, valid]
          simp [mapError_error, ConfigFault.ofInvalid, validate_reaches given exists_ valid]
        exact .inr (.inl ⟨by simp [described], takes, by rw [described]⟩)
    · exact .inr (.inr ⟨fails, by rw [same]⟩)

theorem stored_file {settings : GlobalSettings} {tree : FileTree} {environment : Environment}
    {path name : String} {bytes : ByteArray} {executable : Bool}
    (stands : tree.look (Path.join (Path.join path configDirectoryName) "config.json") =
      .ok (some (.file bytes executable))) :
    stored settings tree environment path name =
      match ofBytes tree environment path name bytes with
      | .error fault => .error fault
      | .ok (some config) => .ok config
      | .ok none => new settings tree environment path name := by
  unfold stored
  simp only [stands, mapError_ok, bind, Except.bind]
  cases ofBytes tree environment path name bytes with
  | error fault => rfl
  | ok found => cases found <;> rfl

end ProjectConfig

namespace ConfigStore

open ProjectConfig

/-- A configuration that is not kept yet is the stored one. -/
theorem load_eq {store : ConfigStore} {tree : FileTree} {environment : Environment} {given path : String}
    (name : Option String) (resolved : tree.resolve given = .ok path) (unkept : store.kept.lookup path = none) :
    store.load tree environment given name =
      (stored store.settings tree environment path (nameFor path name)).map fun config =>
        (store.made.length, { store with made := store.made ++ [config] }.keep path store.made.length) := by
  unfold load
  rw [resolved]
  simp only [mapError_ok, bind, Except.bind, unkept]
  cases stored store.settings tree environment path (nameFor path name) <;> rfl

/-- Loading a project whose configuration file holds any bytes. It succeeds if and only if these are no JSON
text or one of a value that the variables of the environment can be put into; then the result is what the
file describes, or a new configuration if it describes none. -/
theorem load_file {store : ConfigStore} {tree : FileTree} {environment : Environment}
    {given path : String} {name : Option String} {bytes : ByteArray} {executable : Bool}
    {initial : ProjectConfig} (resolved : tree.resolve given = .ok path)
    (unkept : store.kept.lookup path = none)
    (stands : tree.look (Path.join (Path.join path configDirectoryName) "config.json") =
      .ok (some (.file bytes executable)))
    (starts : ProjectConfig.new store.settings tree environment path (nameFor path name) = .ok initial) :
    ((∃ number loaded, store.load tree environment given name = .ok (number, loaded)) ↔
      ∀ value ∈ parsed? bytes, TakesVariables environment value) ∧
    ∀ number loaded, store.load tree environment given name = .ok (number, loaded) →
      ∃ config, loaded.made[number]? = some config ∧
        (Describes tree environment path (nameFor path name) bytes config ∨
          config = initial ∧
            ∀ other, ¬ Describes tree environment path (nameFor path name) bytes other) := by
  have exists_ : ∃ place, directoryReader tree Reader.path (.str path) = .ok place := by
    unfold ProjectConfig.new at starts
    dsimp only at starts
    split at starts
    · cases starts
    · exact exists_of_described starts
  obtain ⟨place, exists_⟩ := exists_
  have holds : stored store.settings tree environment path (nameFor path name) =
      (ofBytes tree environment path (nameFor path name) bytes).map (·.getD initial) := by
    rw [stored_file stands]
    cases ofBytes tree environment path (nameFor path name) bytes with
    | error fault => rfl
    | ok found =>
      cases found with
      | none => exact starts
      | some config => rfl
  rw [load_eq name resolved unkept, holds]
  rcases ofBytes_cases exists_ environment (nameFor path name) bytes with
    ⟨config, describes, takes, same⟩ | ⟨describesNone, takes, same⟩ | ⟨fails, same⟩
  · rw [same]
    refine ⟨iff_of_true ⟨_, _, rfl⟩ takes, ?_⟩
    rintro _ _ ⟨⟩
    exact ⟨config, by simp [keep], .inl describes⟩
  · rw [same]
    refine ⟨iff_of_true ⟨_, _, rfl⟩ takes, ?_⟩
    rintro _ _ ⟨⟩
    exact ⟨initial, by simp [keep], .inr ⟨rfl, describesNone⟩⟩
  · rw [same]
    exact ⟨iff_of_false nofun fails, nofun⟩

/-- A project in the directory "/p" whose configuration file holds a text. -/
def projectWith (text : String) : FileTree where
  nodes := [("/p", .directory), ("/p/.repo-graph", .directory),
    ("/p/.repo-graph/config.json", .file text.toUTF8 false)]

def freshStore : ConfigStore where
  settings := { configDirectory := "/.repo-graph" }

theorem starts_of_isSome {tree : FileTree}
    (ends : (ProjectConfig.new freshStore.settings tree [] "/p" "p").toOption.isSome = true) :
    ∃ initial, ProjectConfig.new freshStore.settings tree [] "/p" "p" = .ok initial := by
  cases started : ProjectConfig.new freshStore.settings tree [] "/p" "p" with
  | ok initial => exact ⟨initial, rfl⟩
  | error fault => simp [started, Except.toOption] at ends

theorem starts_projectWith (text : String) (ends : (ProjectConfig.new freshStore.settings
    (projectWith text) [] "/p" "p").toOption.isSome = true) :
    ∃ initial, ProjectConfig.new freshStore.settings (projectWith text) [] "/p" "p" = .ok initial :=
  starts_of_isSome ends

/-- A list in the file breaks off, though there could be a new configuration. -/
theorem load_list_breaks :
    (∃ initial, ProjectConfig.new freshStore.settings (projectWith "[]") [] "/p" "p" = .ok initial) ∧
      freshStore.load (projectWith "[]") [] "/p" none = .error .misshapen :=
  ⟨starts_projectWith "[]" (by decide +kernel), rfl⟩

/-- A file that ends too early gives way to a new configuration. -/
theorem load_file_unfinished :
    ∃ initial, ProjectConfig.new freshStore.settings (projectWith "\x7b") [] "/p" "p" = .ok initial ∧
      ∃ number loaded, freshStore.load (projectWith "\x7b") [] "/p" none = .ok (number, loaded) ∧
        loaded.made[number]? = some initial := by
  obtain ⟨initial, starts⟩ := starts_projectWith "\x7b" (by decide +kernel)
  have nothing : parsed? "\x7b".toUTF8 = none := by decide +kernel
  have resolved : (projectWith "\x7b").resolve "/p" = .ok "/p" := rfl
  have unkept : freshStore.kept.lookup "/p" = none := rfl
  have stands : (projectWith "\x7b").look "/p/.repo-graph/config.json" =
      .ok (some (.file "\x7b".toUTF8 false)) := rfl
  have starts : ProjectConfig.new freshStore.settings (projectWith "\x7b") [] "/p"
      (nameFor "/p" none) = .ok initial := starts
  obtain ⟨loads, gives⟩ := load_file resolved unkept stands starts
  obtain ⟨number, loaded, success⟩ := loads.mpr (by rw [nothing]; exact nofun)
  refine ⟨initial, starts, number, loaded, success, ?_⟩
  obtain ⟨config, made, ⟨value, parsed, _⟩ | ⟨rfl, _⟩⟩ := gives number loaded success
  · rw [nothing] at parsed
    cases parsed
  · exact made

end ConfigStore

end CodeGraph
