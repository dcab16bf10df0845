import CodeGraph.Proofs.Config.Saving
import CodeGraph.Proofs.Schema.Replacing

namespace CodeGraph

/-- A word that stands for true or false. -/
def IsTruthWord (text : String) : Prop :=
  Text.lower text ∈ ["true", "yes", "on", "false", "no", "off"]

/-- A text that stands for no truth value, and for no number that is spelled in another way. -/
def IsVerbatim (text : String) : Prop :=
  ¬ IsTruthWord text ∧
    if '.' ∈ text.toList then ∀ x ∈ Decimal.readFloat? text, Decimal.text x = text
    else ∀ i ∈ Decimal.readInt? text, toString i = text

instance (text : String) : Decidable (IsTruthWord text) :=
  inferInstanceAs (Decidable (_ ∈ _))

theorem Json.ofSetting_word {text : String} (word : IsTruthWord text) : ∃ b, ofSetting text = .bool b := by
  unfold ofSetting
  by_cases yes : Text.lower text ∈ ["true", "yes", "on"]
  · exact ⟨true, if_pos (List.contains_iff_mem.mpr yes)⟩
  · have no : Text.lower text ∈ ["false", "no", "off"] := by
      have all : Text.lower text ∈ ["true", "yes", "on"] ++ ["false", "no", "off"] := word
      exact (List.mem_append.mp all).resolve_left yes
    refine ⟨false, ?_⟩
    dsimp only
    rw [if_neg (by simpa using yes), if_pos (List.contains_iff_mem.mpr no)]

theorem Json.ofSetting_of_not_word {text : String} (noWord : ¬ IsTruthWord text) :
    ofSetting text = if '.' ∈ text.toList then ((Decimal.readFloat? text).map .float).getD (.str text)
      else ((Decimal.readInt? text).map .int).getD (.str text) := by
  simp only [IsTruthWord, List.mem_cons, List.not_mem_nil, or_false, not_or] at noWord
  simp [ofSetting, noWord]

/-- A text is read as it stands if and only if it is verbatim. -/
theorem Reader.trimmedOrNumber_ofSetting {text : String} (isTrimmed : IsTrimmed text) :
    trimmedOrNumber (Json.ofSetting text) = .ok text ↔ IsVerbatim text := by
  have asText : trimmedOrNumber (.str text) = .ok text := trimmed_str isTrimmed
  unfold IsVerbatim
  by_cases word : IsTruthWord text
  · obtain ⟨b, same⟩ := Json.ofSetting_word word
    rw [same]
    exact iff_of_false nofun fun verbatim => verbatim.1 word
  · rw [Json.ofSetting_of_not_word word]
    simp only [word, not_false_eq_true, true_and]
    split
    · cases Decimal.readFloat? text with
      | none => simpa using asText
      | some x => simp [trimmedOrNumber]
    · cases Decimal.readInt? text with
      | none => simpa using asText
      | some i => simp [trimmedOrNumber]

namespace HookConfig

theorem projectId_mem : Field.optional "project_id" Reader.trimmedOrNumber (·.projectId) .str
    (fun v (c : HookConfig) => { c with projectId := v }) ∈ schema.fields := by
  simp [schema]

variable {members : Members} {value : Json} {hooks : HookConfig}

/-- The id in a configuration of hooks is what is read from the value that is given for it. -/
theorem projectId_given (given : Members.get? members "project_id" = some value)
    (found : schema.read (.obj members) = .ok hooks) : Reader.trimmedOrNumber value = .ok hooks.projectId := by
  refine plain_schema.holds_given projectId_mem Reader.trimmedOrNumber_tells (fun _ _ => rfl) ?_ given found
  simp only [schema, List.forall_mem_cons, List.not_mem_nil, false_imp_iff, implies_true, and_true]
  refine ⟨?_, ?_, ?_, ?_, ?_, ?_, ?_, ?_, ?_, ?_, ?_, ?_, fun this => absurd rfl this, ?_, ?_⟩
  all_goals exact fun _ _ => .optional fun _ _ _ _ same => same

/-- Hooks are still read with another id, if this is read as a text. -/
theorem reads_projectId {id : String} (found : schema.read (.obj members) = .ok hooks)
    (isText : Reader.trimmedOrNumber value = .ok id) :
    ∃ others, schema.read (.obj (Members.set members "project_id" value)) = .ok others := by
  refine plain_schema.reads_with projectId_mem found isText ?_ fun key other => ?_
  · rw [Members.get?_set, if_pos rfl]
  · rw [Members.get?_set, if_neg other]

end HookConfig

namespace ProjectConfig

theorem hooks_mem (tree : FileTree) (readPath : Reader String) :
    Field.optional "hooks" HookConfig.schema.read (·.hooks) HookConfig.toJson
      (fun v (c : ProjectConfig) => { c with hooks := v }) ∈ (schema tree readPath).fields := by
  simp [schema]

/-- The hooks of a configuration are what is read from their section. -/
theorem hooks_given {tree : FileTree} {readPath : Reader String} {members : Members} {value : Json}
    {config : ProjectConfig} (given : Members.get? members "hooks" = some value)
    (found : (schema tree readPath).read (.obj members) = .ok config) :
    HookConfig.schema.read value = .ok config.hooks := by
  refine (plain_schema tree readPath).holds_given (hooks_mem tree readPath) HookConfig.read_tells
    (fun _ _ => rfl) ?_ given found
  simp only [schema, List.forall_mem_cons, List.not_mem_nil, false_imp_iff, implies_true, and_true]
  refine ⟨fun _ _ => .required fun _ _ _ _ same => same, fun _ _ => .required fun _ _ _ _ same => same, ?_,
    fun this => absurd rfl this, ?_, ?_, ?_, ?_, ?_⟩
  all_goals exact fun _ _ => .optional fun _ _ _ _ same => same

/-- The section of the hooks of a configuration that is read is read itself, or there is none. -/
theorem hooks_of_read {tree : FileTree} {readPath : Reader String} {members : Members} {config : ProjectConfig}
    (found : (schema tree readPath).read (.obj members) = .ok config) :
    ∃ inner hooks, (Members.get? members "hooks").getD (.obj []) = .obj inner ∧
      HookConfig.schema.read (.obj inner) = .ok hooks := by
  cases given : Members.get? members "hooks" with
  | none => exact ⟨[], {}, rfl, rfl⟩
  | some value =>
    have read := hooks_given given found
    obtain ⟨inner, rfl⟩ := Schema.exists_members_of_read rfl read
    exact ⟨inner, _, rfl, read⟩

/-- The variable that gives the id of a project. -/
def projectIdVariable : String :=
  "REPO_GRAPH_PROJECT_ID"

/-- Of the variables that go before a configuration, only one is set. -/
structure OnlySets (environment : Environment) (name text : String) : Prop where
  isSet : environment.get? name = some text
  others : ∀ entry ∈ Defaults.variablePlaces, entry.1 ≠ name → environment.get? entry.1 = none

section

variable {tree : FileTree} {environment : Environment} {path text : String}

theorem overrides_projectId (only : OnlySets environment projectIdVariable text) :
    overrides environment = [(["hooks", "project_id"], Json.ofSetting text)] := by
  have each : ∀ entry ∈ Defaults.variablePlaces,
      (environment.get? entry.1).map (fun text => (keysOf entry.2, Json.ofSetting text)) =
        (if entry.1 = projectIdVariable then some (keysOf entry.2) else none).map (·, Json.ofSetting text) := by
    intro entry listed
    by_cases this : entry.1 = projectIdVariable
    · rw [if_pos this, this, only.isSet]
      rfl
    · rw [if_neg this, only.others entry listed this]
      rfl
  have way : Defaults.variablePlaces.filterMap (fun entry =>
      if entry.1 = projectIdVariable then some (keysOf entry.2) else none) = [["hooks", "project_id"]] := by
    decide
  unfold overrides
  rw [List.filterMap_congr each, ← List.map_filterMap, way]
  rfl

/-- An object is checked with the id in the section of its hooks. -/
theorem described_projectId (only : OnlySets environment projectIdVariable text) {members inner : Members}
    (held : (Members.get? members "hooks").getD (.obj []) = .obj inner) :
    described tree environment path (.obj members) =
      ((schema tree Reader.path).validate (.obj (Members.set (Members.set members "hooks"
        (.obj (Members.set inner "project_id" (Json.ofSetting text)))) "path" (.str path)))).mapError
          .ofInvalid := by
  rw [described_eq, overrides_projectId only, Json.setAll?_cons, Json.setAt?_section _ _ held]
  rfl

theorem takesVariables_of_described {value : Json} {config : ProjectConfig}
    (describes : described tree environment path value = .ok config) : TakesVariables environment value := by
  rcases described_cases tree environment path value with ⟨takes, -⟩ | ⟨-, fails⟩
  · exact takes
  · rw [fails] at describes
    cases describes

/-- A configuration that is described holds what the variable is read as. -/
theorem projectId_of_described (only : OnlySets environment projectIdVariable text) {value : Json}
    {config : ProjectConfig} (describes : described tree environment path value = .ok config) :
    Reader.trimmedOrNumber (Json.ofSetting text) = .ok config.hooks.projectId := by
  obtain ⟨members, rfl, all⟩ := takesVariables_of_described describes
  have listed : (projectIdVariable, "hooks.project_id") ∈ Defaults.variablePlaces := by decide
  have isSection := all _ listed (by rw [only.isSet]; rfl) "hooks" "project_id" (by decide)
  obtain ⟨inner, held⟩ := Json.isSection_iff.mp isSection
  rw [described_projectId only held, mapError_eq_ok_iff, Schema.validate_eq_ok_iff] at describes
  have hooks := hooks_given (by rw [Members.get?_set, if_neg (by decide), Members.get?_set, if_pos rfl]) describes
  exact HookConfig.projectId_given (by rw [Members.get?_set, if_pos rfl]) hooks

/-- What describes a configuration without variables describes one with an id put before it, if this is read as a
text. -/
theorem exists_described (only : OnlySets environment projectIdVariable text) {value : Json}
    {initial : ProjectConfig} (describes : described tree [] path value = .ok initial) {id : String}
    (isText : Reader.trimmedOrNumber (Json.ofSetting text) = .ok id) :
    ∃ config, described tree environment path value = .ok config := by
  obtain ⟨members, rfl, -⟩ := takesVariables_of_described describes
  rw [described_of_isUnset tree ConfigStore.isUnset_nil, mapError_eq_ok_iff, Schema.validate_eq_ok_iff] at describes
  obtain ⟨inner, hooks, held, readHooks⟩ := hooks_of_read describes
  rw [Members.get?_set, if_neg (by decide)] at held
  obtain ⟨others, readOthers⟩ := HookConfig.reads_projectId readHooks isText
  simp only [described_projectId only held, mapError_eq_ok_iff, Schema.validate_eq_ok_iff]
  -- the path is put in behind the hooks, so the objects are compared key by key
  refine (plain_schema tree Reader.path).reads_with (hooks_mem tree Reader.path) describes readOthers ?_
    fun key other => ?_
  · rw [Members.get?_set, if_neg (by decide), Members.get?_set, if_pos rfl]
  · rw [Members.get?_set, Members.get?_set, Members.get?_set, if_neg other]

end

/-- A new configuration is what some value describes, whatever the environment. -/
theorem exists_new_eq {settings : GlobalSettings} {tree : FileTree} {environment : Environment}
    {path name : String} {initial : ProjectConfig}
    (starts : new settings tree environment path name = .ok initial) :
    ∃ value, ∀ environment, new settings tree environment path name = described tree environment path value := by
  unfold new at starts ⊢
  dsimp only at starts ⊢
  split at starts
  · cases starts
  · exact ⟨_, fun _ => rfl⟩

/-- The place of the configuration file can be looked at, and what stands there, if anything does, is a file whose
value, if it holds one, is one that the variables of the environment can be put into. -/
def IsLoadable (tree : FileTree) (environment : Environment) (path : String) : Prop :=
  ∃ found, tree.look (Path.join (Path.join path configDirectoryName) "config.json") = .ok found ∧
    ∀ node ∈ found, ∃ bytes executable, node = .file bytes executable ∧
      ∀ value ∈ parsed? bytes, TakesVariables environment value

theorem isLoadable_file {tree : FileTree} {environment : Environment} {path : String} {bytes : ByteArray}
    {executable : Bool} (stands : tree.look (Path.join (Path.join path configDirectoryName) "config.json") =
      .ok (some (.file bytes executable))) :
    IsLoadable tree environment path ↔ ∀ value ∈ parsed? bytes, TakesVariables environment value := by
  constructor
  · rintro ⟨found, looks, all⟩
    cases stands.symm.trans looks
    obtain ⟨_, _, same, takes⟩ := all _ rfl
    cases same
    exact takes
  · intro takes
    refine ⟨_, stands, ?_⟩
    rintro _ ⟨⟩
    exact ⟨bytes, executable, rfl, takes⟩

/-- The configuration of a project is what some value describes or a new one, or there is none. -/
theorem stored_cases {tree : FileTree} {path place : String}
    (exists_ : directoryReader tree Reader.path (.str path) = .ok place) (settings : GlobalSettings)
    (environment : Environment) (name : String) :
    (IsLoadable tree environment path ∧
      ((∃ value config, described tree environment path value = .ok config ∧
          stored settings tree environment path name = .ok config) ∨
        stored settings tree environment path name = new settings tree environment path name)) ∨
    (¬ IsLoadable tree environment path ∧ ∃ fault, stored settings tree environment path name = .error fault) := by
  cases stands : tree.look (Path.join (Path.join path configDirectoryName) "config.json") with
  | error cause =>
    refine .inr ⟨by simp [IsLoadable, stands], .file cause, ?_⟩
    simp only [stored, stands, mapError_error, bind, Except.bind]
  | ok found =>
    cases found with
    | none =>
      refine .inl ⟨⟨none, stands, nofun⟩, .inr ?_⟩
      simp only [stored, stands, mapError_ok, bind, Except.bind]
    | some node =>
      cases node with
      | directory =>
        refine .inr ⟨by simp [IsLoadable, stands], .file (.isDirectory
          (Path.join (Path.join path configDirectoryName) "config.json")), ?_⟩
        simp only [stored, stands, mapError_ok, bind, Except.bind]
        rfl
      | file bytes executable =>
        rw [isLoadable_file stands, stored_file stands]
        rcases ofBytes_cases exists_ environment name bytes with
          ⟨config, ⟨value, -, describes⟩, takes, same⟩ | ⟨-, takes, same⟩ | ⟨fails, same⟩
        · exact .inl ⟨takes, .inl ⟨_, config, describes, by rw [same]⟩⟩
        · exact .inl ⟨takes, .inr (by rw [same])⟩
        · exact .inr ⟨fails, _, by rw [same]⟩

end ProjectConfig

namespace ConfigStore

open ProjectConfig

section

variable {store : ConfigStore} {tree : FileTree} {environment : Environment} {given path text : String}
  {name : Option String} {initial : ProjectConfig}

/-- Whatever configuration is loaded, it holds what the variable is read as. -/
theorem Gives.projectId {config : ProjectConfig} (gives : store.Gives tree environment given name config)
    (resolved : tree.resolve given = .ok path) (unkept : store.kept.lookup path = none)
    (starts : ProjectConfig.new store.settings tree [] path (nameFor path name) = .ok initial)
    (only : OnlySets environment projectIdVariable text) :
    IsLoadable tree environment path ∧
      Reader.trimmedOrNumber (Json.ofSetting text) = .ok config.hooks.projectId := by
  obtain ⟨fresh, new⟩ := exists_new_eq starts
  obtain ⟨place, exists_⟩ := exists_of_described ((new []).symm.trans starts)
  rw [gives_iff resolved unkept] at gives
  rcases stored_cases exists_ store.settings environment (nameFor path name) with
    ⟨loadable, ⟨value, other, describes, same⟩ | same⟩ | ⟨-, fault, fails⟩
  · rw [same] at gives
    cases gives
    exact ⟨loadable, projectId_of_described only describes⟩
  · rw [same, new] at gives
    exact ⟨loadable, projectId_of_described only gives⟩
  · rw [fails] at gives
    cases gives

/-- A configuration is loaded if the file lets it be and the variable is read as a text. -/
theorem exists_gives (resolved : tree.resolve given = .ok path) (unkept : store.kept.lookup path = none)
    (starts : ProjectConfig.new store.settings tree [] path (nameFor path name) = .ok initial)
    (only : OnlySets environment projectIdVariable text) (loadable : IsLoadable tree environment path) {id : String}
    (isText : Reader.trimmedOrNumber (Json.ofSetting text) = .ok id) :
    ∃ config, store.Gives tree environment given name config := by
  obtain ⟨fresh, new⟩ := exists_new_eq starts
  have describes := (new []).symm.trans starts
  obtain ⟨place, exists_⟩ := exists_of_described describes
  simp only [gives_iff resolved unkept]
  rcases stored_cases exists_ store.settings environment (nameFor path name) with
    ⟨-, ⟨value, config, -, same⟩ | same⟩ | ⟨barred, -⟩
  · exact ⟨config, same⟩
  · obtain ⟨config, started⟩ := exists_described only describes isText
    exact ⟨config, by rw [same, new, started]⟩
  · exact absurd loadable barred

/-- Loading a project of which only the id is set by a variable, to a text without white space at its ends. The
project is loaded with the text as its id if and only if the text is verbatim and nothing is in the way of its
file. -/
theorem load_projectId_iff (resolved : tree.resolve given = .ok path) (unkept : store.kept.lookup path = none)
    (starts : ProjectConfig.new store.settings tree [] path (nameFor path name) = .ok initial)
    (only : OnlySets environment projectIdVariable text) (nonempty : text ≠ "")
    (isTrimmed : Reader.IsTrimmed text) :
    (∃ config, store.Gives tree environment given name config ∧ config.hooks.projectId = text ∧
      config.projectId = text) ↔
    IsLoadable tree environment path ∧ IsVerbatim text := by
  constructor
  · rintro ⟨config, gives, same, -⟩
    obtain ⟨loadable, isText⟩ := gives.projectId resolved unkept starts only
    rw [same] at isText
    exact ⟨loadable, (Reader.trimmedOrNumber_ofSetting isTrimmed).mp isText⟩
  · rintro ⟨loadable, verbatim⟩
    have isText := (Reader.trimmedOrNumber_ofSetting isTrimmed).mpr verbatim
    obtain ⟨config, gives⟩ := exists_gives resolved unkept starts only loadable isText
    obtain ⟨-, again⟩ := gives.projectId resolved unkept starts only
    have same : text = config.hooks.projectId := Except.ok.inj (isText.symm.trans again)
    refine ⟨config, gives, same.symm, ?_⟩
    rw [ProjectConfig.projectId, ← same, if_neg (by simpa using nonempty)]

end

/-- The project in the sample can be configured. -/
theorem starts_sampleTree :
    ∃ initial, ProjectConfig.new freshStore.settings sampleTree [] "/p" (nameFor "/p" none) = .ok initial := by
  have named : nameFor "/p" none = "p" := by decide +kernel
  rw [named]
  exact starts_of_isSome (by decide +kernel)

theorem onlySets_sample (text : String) : OnlySets [(projectIdVariable, text)] projectIdVariable text where
  isSet := rfl
  others entry listed other := by
    simp [Environment.get?, List.lookup_cons, beq_false_of_ne other]

/-- A number that is spelled as numbers are is an id. -/
theorem load_projectId_iff_number :
    ∃ config, freshStore.Gives sampleTree [(projectIdVariable, "42")] "/p" none config ∧
      config.hooks.projectId = "42" ∧ config.projectId = "42" := by
  obtain ⟨initial, starts⟩ := starts_sampleTree
  have resolved : sampleTree.resolve "/p" = .ok "/p" := rfl
  have unkept : freshStore.kept.lookup "/p" = none := rfl
  have loadable : IsLoadable sampleTree [(projectIdVariable, "42")] "/p" := ⟨none, rfl, nofun⟩
  have verbatim : IsVerbatim "42" := ⟨by decide, by decide +kernel⟩
  exact (load_projectId_iff resolved unkept starts (onlySets_sample "42") (by decide) (by decide)).mpr
    ⟨loadable, verbatim⟩

/-- A word for true is not taken for an id, though there could be a new configuration. -/
theorem load_projectId_word :
    (∃ initial, ProjectConfig.new freshStore.settings sampleTree [] "/p" "p" = .ok initial) ∧
      ∀ config, ¬ freshStore.Gives sampleTree [(projectIdVariable, "true")] "/p" none config := by
  obtain ⟨initial, starts⟩ := starts_sampleTree
  refine ⟨⟨initial, starts⟩, fun config gives => ?_⟩
  obtain ⟨-, isText⟩ := gives.projectId rfl rfl starts (onlySets_sample "true")
  obtain ⟨b, word⟩ := Json.ofSetting_word (show IsTruthWord "true" by decide)
  rw [word] at isText
  cases isText

end ConfigStore

end CodeGraph
