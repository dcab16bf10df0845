import CodeGraph.Proofs.Config.Filling
import CodeGraph.Proofs.Config.Loading
import CodeGraph.Proofs.Config.Revalidation
import CodeGraph.Proofs.Files.Below
import CodeGraph.Proofs.Json.RoundTrip

namespace CodeGraph

theorem Schema.Plain.isPlain_toJson {α : Type} {schema : Schema α} (plain : schema.Plain) {a : α}
    (each : ∀ field ∈ schema.fields, (field.view a).IsPlain) : (schema.toJson a).IsPlain := by
  refine .obj ?_ fun member among => ?_
  · rw [List.map_map]
    exact plain.distinct
  · obtain ⟨field, listed, rfl⟩ := List.mem_map.mp among
    exact each field listed

theorem Json.isPlain_ofText? (s? : Option String) : (Json.ofText? s?).IsPlain := by
  cases s? with
  | none => exact .null
  | some s => exact .str s

theorem Json.isPlain_strings (items : List String) : (Json.strings items).IsPlain := by
  refine .arr fun item among => ?_
  obtain ⟨s, _, rfl⟩ := List.mem_map.mp among
  exact .str s

/-- An integer whose digits are not too many to be read. -/
def IsShort (i : Int) : Prop :=
  (Nat.toDigits 10 i.natAbs).length ≤ Decimal.digitLimit

instance (i : Int) : Decidable (IsShort i) :=
  inferInstanceAs (Decidable (_ ≤ _))

theorem isShort_of_bounds {i : Int} (low : 0 ≤ i) (high : i ≤ 1000) : IsShort i := by
  have few : (Nat.toDigits 10 i.natAbs).length ≤ 4 :=
    (Nat.length_toDigits_le_iff (by decide) (by decide)).mpr (by omega)
  exact few.trans (by decide)

namespace ProjectConfig

/-- A configuration of integers that are not too long. The others are bounded. -/
structure IsShort (c : ProjectConfig) : Prop where
  maxFilesToIndex : CodeGraph.IsShort c.hooks.maxFilesToIndex
  timeout : CodeGraph.IsShort c.hooks.timeout
  vectorSize : CodeGraph.IsShort c.qdrant.vectorSize
  dimensions : CodeGraph.IsShort c.embeddings.dimensions

theorem isPlain_toJson {c : ProjectConfig} (h : c.WellFormed) (short : c.IsShort) : c.toJson.IsPlain := by
  have hooks : c.hooks.toJson.IsPlain := by
    refine HookConfig.plain_schema.isPlain_toJson ?_
    simp only [HookConfig.schema, List.forall_mem_cons, List.not_mem_nil, false_imp_iff, implies_true, and_true]
    exact ⟨.bool _, .bool _, .bool _, .bool _, .bool _, .bool _, .bool _, .bool _, .int short.maxFilesToIndex,
      .int short.timeout, .bool _, .str _, .str _, .str _, .bool _⟩
  have linking : (LinkingConfig.schema.toJson c.linking).IsPlain := by
    refine LinkingConfig.plain_schema.isPlain_toJson ?_
    obtain ⟨low, high⟩ := h.linking.maxLinksPerEntity
    have few : CodeGraph.IsShort c.linking.maxLinksPerEntity := isShort_of_bounds (by omega) (by omega)
    simp only [LinkingConfig.schema, List.forall_mem_cons, List.not_mem_nil, false_imp_iff, implies_true, and_true]
    exact ⟨.str _, .float _, .int few, .float _, Json.isPlain_strings _⟩
  have qdrant : (QdrantConfig.schema.toJson c.qdrant).IsPlain := by
    refine QdrantConfig.plain_schema.isPlain_toJson ?_
    simp only [QdrantConfig.schema, List.forall_mem_cons, List.not_mem_nil, false_imp_iff, implies_true, and_true]
    exact ⟨.str _, Json.isPlain_ofText? _, .float _, .str _, .int short.vectorSize, .str _⟩
  have embeddings : (EmbeddingConfig.schema.toJson c.embeddings).IsPlain := by
    refine EmbeddingConfig.plain_schema.isPlain_toJson ?_
    obtain ⟨low, high⟩ := h.embeddings.batchSize
    have few : CodeGraph.IsShort c.embeddings.batchSize := isShort_of_bounds (by omega) (by omega)
    simp only [EmbeddingConfig.schema, List.forall_mem_cons, List.not_mem_nil, false_imp_iff, implies_true, and_true]
    exact ⟨.str _, .int short.dimensions, Json.isPlain_ofText? _, Json.isPlain_ofText? _, .int few,
      .bool _⟩
  rw [toJson_eq c {} Reader.pathTrimmed]
  refine (plain_schema _ _).isPlain_toJson ?_
  simp only [schema, List.forall_mem_cons, List.not_mem_nil, false_imp_iff, implies_true, and_true]
  exact ⟨.str _, .str _, .str _, hooks, linking, qdrant, embeddings, Json.isPlain_ofText? _, .str _⟩

/-- What there is to know of a configuration whose dump is read as the configuration itself. -/
theorem settled_of_validate {tree : FileTree} {c : ProjectConfig}
    (valid : (schema tree).validate c.toJson = .ok c) :
    c.WellFormed ∧ c.IsNamed ∧ c.IsStable ∧ tree.Leads c.path := by
  rw [Schema.validate_eq_ok_iff] at valid
  have h := wellFormed_of_read valid
  have named := isNamed_of_read valid
  have place := isPlace_of_read Reader.pathTrimmed_tells valid
  obtain ⟨path, hooks, qdrant, atPath, -, -, same⟩ := (read_toJson_iff h named).mp valid
  have samePath : path = c.path := congrArg (·.path) same
  rw [samePath] at atPath
  have trimmed := directoryReader_again place atPath
  obtain ⟨given, found, looks, -⟩ := directoryReader_ok atPath
  rw [Reader.pathTrimmed_str, trimmed, place.normalize_eq] at found
  cases found
  exact ⟨h, named, (read_again_iff h named place looks).mp valid, place, looks⟩

/-- Nothing is in the way of the configuration file. -/
structure IsFree (c : ProjectConfig) (tree : FileTree) : Prop where
  directory : ∀ bytes executable, tree.nodeAt? c.configDirectory ≠ some (.file bytes executable)
  file : tree.nodeAt? c.configFile ≠ some .directory
  short : c.configFile.utf8ByteSize ≤ pathLimit

theorem isName_configDirectoryName : Path.IsName configDirectoryName :=
  ⟨⟨by decide, by decide, by decide⟩, by decide, by decide, by decide⟩

theorem isName_configFile : Path.IsName "config.json" :=
  ⟨⟨by decide, by decide, by decide⟩, by decide, by decide, by decide⟩

/-- A configuration is written if and only if nothing is in the way. -/
theorem write_cases {tree : FileTree} {c : ProjectConfig} (leads : tree.Leads c.path) :
    (c.IsFree tree ∧ ∃ after, c.write tree = .ok after ∧ tree.Keeps after ∧ ∃ executable,
      after.look c.configFile = .ok (some (.file (c.toJson.indented false).toUTF8 executable))) ∨
    (¬ c.IsFree tree ∧ ∃ cause, c.write tree = .error cause) := by
  have place := leads.place.join isName_configDirectoryName
  have longer := Path.utf8ByteSize_lt_join place isName_configFile
  have apart : c.configFile ≠ c.configDirectory := fun same => by
    have equal := congrArg String.utf8ByteSize same
    exact (Nat.ne_of_lt longer) equal.symm
  have wrote (after : FileTree) (made : tree.makeDirectory c.configDirectory = .ok after) :
      c.write tree = after.writeBytes c.configFile (c.toJson.indented false).toUTF8 := by
    simp only [write, made, bind, Except.bind, FileTree.write]
  rcases leads.makeDirectory_cases isName_configDirectoryName with
    ⟨⟨-, free⟩, made, makes, keeps, leadsMade, others⟩ | ⟨blocked, cause, fails⟩
  · rw [wrote made makes]
    -- making the directory leaves what stands at the place of the file as it is
    have unchanged := others c.configFile apart
    rcases leadsMade.writeBytes_cases isName_configFile (c.toJson.indented false).toUTF8 with
      ⟨⟨short, file⟩, after, writes, keeps', executable, stands⟩ | ⟨blocked, cause, fails⟩
    · exact .inl ⟨⟨free, unchanged ▸ file, short⟩, after, writes, keeps.trans keeps', executable, stands⟩
    · refine .inr ⟨fun isFree => ?_, cause, fails⟩
      rcases blocked with long | directory
      · exact Nat.not_lt.mpr isFree.short long
      · exact isFree.file (unchanged.symm.trans directory)
  · refine .inr ⟨fun isFree => ?_, cause, ?_⟩
    · rcases blocked with long | ⟨bytes, executable, file⟩
      · exact Nat.not_lt.mpr isFree.short (long.trans longer)
      · exact isFree.directory bytes executable file
    · have unmade : tree.makeDirectory c.configDirectory = .error cause := fails
      simp only [write, unmade, bind, Except.bind]

/-- What is written of a value is read as the value. -/
theorem parsed?_indented {value : Json} (plain : value.IsPlain) :
    parsed? (value.indented false).toUTF8 = some value := by
  have decoded (s : String) : String.fromUTF8? s.toUTF8 = some s :=
    dif_pos (show s.toUTF8.IsValidUTF8 from s.isValidUTF8)
  unfold parsed?
  rw [decoded, Option.bind_some, Json.parse_indented plain]
  rfl

theorem toJson_eq_obj (c : ProjectConfig) : ∃ members : Members, c.toJson = .obj members ∧
    (members.map (·.1)).Nodup ∧ ("path", Json.str c.path) ∈ members := by
  refine ⟨(schema {}).fields.map fun field => (field.name, field.view c), ?_, ?_, ?_⟩
  · exact toJson_eq c {} Reader.pathTrimmed
  · rw [List.map_map]
    exact (plain_schema {} Reader.pathTrimmed).distinct
  · simp [schema, Field.required]

/-- No variable of the environment goes before a configuration. -/
def IsUnset (environment : Environment) : Prop :=
  ∀ entry ∈ Defaults.variablePlaces, environment.get? entry.1 = none

theorem overrides_of_isUnset {environment : Environment} (unset : IsUnset environment) :
    overrides environment = [] :=
  List.filterMap_eq_nil_iff.mpr fun entry listed => by rw [unset entry listed]; rfl

/-- Without variables, an object is checked with the path in it. -/
theorem described_of_isUnset (tree : FileTree) {environment : Environment} (unset : IsUnset environment)
    (path : String) (members : Members) : described tree environment path (.obj members) =
      ((schema tree Reader.path).validate (.obj (members.set "path" (.str path)))).mapError .ofInvalid := by
  rw [described_eq, overrides_of_isUnset unset]
  rfl

/-- Filling leaves every text of a configuration but its directory as it is. -/
def IsKeptBy (c : ProjectConfig) (values : List (String × String)) : Prop :=
  ∀ key value, key ≠ "path" → c.toJson.get? key = some value →
    ∀ s ∈ value.allTexts, String.ofList (Template.fill values s.toList) = s

/-- A configuration without dollar signs is left as it is. -/
theorem isKeptBy_of_notMem {c : ProjectConfig} (none : ∀ s ∈ c.toJson.allTexts, '$' ∉ s.toList)
    (values : List (String × String)) : c.IsKeptBy values := by
  intro key value _ held s inside
  rw [Template.fill_of_notMem values (none s (Json.mem_allTexts_of_get? held inside)), String.ofList_toList]

/-- With its directory put back, a dump that filling leaves as it is describes the configuration. -/
theorem described_filled {tree after : FileTree} {environment : Environment} {c : ProjectConfig}
    {values : List (String × String)} (valid : (schema tree).validate c.toJson = .ok c)
    (leads : after.Leads c.path) (unset : IsUnset environment) (kept : c.IsKeptBy values) :
    described after environment c.path (Template.fillJson values c.toJson) = .ok c := by
  obtain ⟨h, named, stable, -⟩ := settled_of_validate valid
  have atPath : directoryReader after Reader.path (.str c.path) = .ok c.path := by
    refine directoryReader_eq leads.place ?_ leads.looks
    simp only [Reader.path, leads.place.normalize_eq]
  have read := read_again h named stable atPath
  obtain ⟨members, dump, distinct, held⟩ := toJson_eq_obj c
  have others : ∀ member ∈ members, member.1 ≠ "path" → Template.fillJson values member.2 = member.2 :=
    fun member among away => Json.mapStrings_eq_self _ fun s inside =>
      kept member.1 member.2 away (by rw [dump]; exact Members.get?_of_mem distinct among) s inside
  have put := Members.set_map distinct held others
  rw [← Schema.validate_eq_ok_iff, dump] at read
  have filled : Template.fillJson values c.toJson =
      .obj (members.map fun member => (member.1, Template.fillJson values member.2)) := by
    rw [dump]
    exact Json.mapStrings_obj _ members
  rw [filled, described_of_isUnset after unset, put, read]
  rfl

end ProjectConfig

namespace ConfigStore

open ProjectConfig

/-- Loading a project gives a configuration. -/
def Gives (store : ConfigStore) (tree : FileTree) (environment : Environment) (path : String)
    (name : Option String) (config : ProjectConfig) : Prop :=
  ∃ number loaded, store.load tree environment path name = .ok (number, loaded) ∧
    loaded.made[number]? = some config

/-- Loading a project that is not kept yet gives the stored configuration. -/
theorem gives_iff {store : ConfigStore} {tree : FileTree} {environment : Environment} {given path : String}
    {name : Option String} {config : ProjectConfig} (resolved : tree.resolve given = .ok path)
    (unkept : store.kept.lookup path = none) :
    store.Gives tree environment given name config ↔
      stored store.settings tree environment path (nameFor path name) = .ok config := by
  unfold Gives
  rw [load_eq name resolved unkept]
  cases stored store.settings tree environment path (nameFor path name) with
  | error fault => exact iff_of_false nofun nofun
  | ok found =>
    constructor
    · rintro ⟨_, _, ⟨⟩, held⟩
      simpa [keep] using held
    · rintro ⟨⟩
      exact ⟨_, _, rfl, by simp [keep]⟩

theorem gives_iff_stored {store : ConfigStore} {tree : FileTree} {environment : Environment} {path : String}
    {name : Option String} {config : ProjectConfig} (leads : tree.Leads path)
    (unkept : store.kept.lookup path = none) :
    store.Gives tree environment path name config ↔
      stored store.settings tree environment path (nameFor path name) = .ok config := by
  have resolved : tree.resolve path = .ok path := by
    obtain ⟨parts, same, follows⟩ := leads.follows
    have noNull : path.toList.contains '\x00' = false := by simpa [same] using follows.noNull
    unfold FileTree.resolve
    rw [noNull, leads.place.resolve_eq]
    rfl
  exact gives_iff resolved unkept

/-- What the written form of a value describes when it is loaded, with its places filled in. -/
def describedAgain (tree : FileTree) (environment : Environment) (path : String) (name : Option String)
    (value : Json) : Except ConfigFault ProjectConfig :=
  described tree environment path (Template.fillJson (places path (nameFor path name)) value)

/-- What loading gives of a file that was written from an object, without variables: what the object describes
with its places filled in, or a new configuration if that describes none. -/
theorem gives_written_iff {store : ConfigStore} {tree : FileTree} {environment : Environment} {path : String}
    {name : Option String} {members : Members} {executable : Bool} {config : ProjectConfig}
    (leads : tree.Leads path) (unkept : store.kept.lookup path = none) (unset : IsUnset environment)
    (plain : (Json.obj members).IsPlain)
    (stands : tree.look (Path.join (Path.join path configDirectoryName) "config.json") =
      .ok (some (.file ((Json.obj members).indented false).toUTF8 executable))) :
    store.Gives tree environment path name config ↔
      describedAgain tree environment path name (.obj members) = .ok config ∨
        (∀ other, describedAgain tree environment path name (.obj members) ≠ .ok other) ∧
          ProjectConfig.new store.settings tree environment path (nameFor path name) = .ok config := by
  have exists_ : directoryReader tree Reader.path (.str path) = .ok path :=
    directoryReader_eq leads.place (by simp only [Reader.path, leads.place.normalize_eq]) leads.looks
  have parsed := parsed?_indented plain
  rw [gives_iff_stored leads unkept, stored_file stands]
  rcases ofBytes_cases exists_ environment (nameFor path name) ((Json.obj members).indented false).toUTF8 with
    ⟨found, ⟨value, same, describes⟩, -, taken⟩ | ⟨none, -, taken⟩ | ⟨refused, -⟩
  · rw [parsed] at same
    cases same
    rw [taken]
    simp [describedAgain, describes]
  · have describesNone (other : ProjectConfig) :
        describedAgain tree environment path name (.obj members) ≠ .ok other :=
      fun describes => none other ⟨_, parsed, describes⟩
    rw [taken]
    simp [describesNone]
  · refine absurd (fun value same => ?_) refused
    rw [parsed] at same
    cases same
    exact ⟨members, rfl, fun entry listed isSet => by simp [unset entry listed] at isSet⟩

/-- Saving a made configuration writes it and keeps it under its path. -/
theorem save_eq {store : ConfigStore} {number : Nat} {c : ProjectConfig} (made : store.made[number]? = some c)
    (tree : FileTree) :
    store.save tree number = (c.write tree).map fun after => (store.keep c.path number, after) := by
  unfold save
  simp only [made, bind, Except.bind]
  cases c.write tree <;> rfl

/-- What loading gives after a configuration was written: what its dump describes with its places filled in, or
a new configuration if that describes none. -/
theorem gives_saved_iff {fresh : ConfigStore} {tree after : FileTree} {environment : Environment}
    {c config : ProjectConfig} {name : Option String} (valid : (schema tree).validate c.toJson = .ok c)
    (unset : IsUnset environment) (short : c.IsShort) (wrote : c.write tree = .ok after)
    (unkept : fresh.kept.lookup c.path = none) :
    fresh.Gives after environment c.path name config ↔
      describedAgain after environment c.path name c.toJson = .ok config ∨
        (∀ other, describedAgain after environment c.path name c.toJson ≠ .ok other) ∧
          ProjectConfig.new fresh.settings after environment c.path (nameFor c.path name) = .ok config := by
  obtain ⟨h, -, -, leads⟩ := settled_of_validate valid
  have plain := isPlain_toJson h short
  rcases write_cases leads with ⟨-, written, writes, keeps, executable, stands⟩ | ⟨-, cause, fails⟩
  · rw [wrote] at writes
    cases writes
    obtain ⟨members, dump, -⟩ := toJson_eq_obj c
    rw [dump] at plain stands ⊢
    exact gives_written_iff (leads.keeps keeps) unkept unset plain stands
  · rw [wrote] at fails
    cases fails

/-- Saving a configuration whose dump is read as the configuration itself, and loading it again without variables
of the environment. It is saved if and only if nothing is in the way. Whoever loads it then gets what its dump
describes with its places filled in, which is the configuration itself if filling leaves its texts as they are. -/
theorem saved_is_loaded {store : ConfigStore} {tree : FileTree} {environment : Environment} {number : Nat}
    {c : ProjectConfig} (made : store.made[number]? = some c) (valid : (schema tree).validate c.toJson = .ok c)
    (unset : IsUnset environment) (short : c.IsShort) :
    ((∃ saved after, store.save tree number = .ok (saved, after)) ↔ c.IsFree tree) ∧
    ∀ saved after, store.save tree number = .ok (saved, after) →
      ∀ (fresh : ConfigStore) (name : Option String), fresh.kept.lookup c.path = none →
        (c.IsKeptBy (places c.path (nameFor c.path name)) → fresh.Gives after environment c.path name c) ∧
        ∀ config, fresh.Gives after environment c.path name config ↔
          describedAgain after environment c.path name c.toJson = .ok config ∨
            (∀ other, describedAgain after environment c.path name c.toJson ≠ .ok other) ∧
              ProjectConfig.new fresh.settings after environment c.path (nameFor c.path name) =
                .ok config := by
  obtain ⟨-, -, -, leads⟩ := settled_of_validate valid
  rw [save_eq made]
  rcases write_cases leads with ⟨free, written, writes, keeps, -⟩ | ⟨blocked, cause, fails⟩
  · rw [writes]
    refine ⟨iff_of_true ⟨_, _, rfl⟩ free, ?_⟩
    rintro _ after ⟨⟩ fresh name unkept
    refine ⟨fun kept => (gives_saved_iff valid unset short writes unkept).mpr (.inl ?_), fun config =>
      gives_saved_iff valid unset short writes unkept⟩
    exact described_filled valid (leads.keeps keeps) unset kept
  · rw [fails]
    exact ⟨iff_of_false nofun blocked, nofun⟩

/-- A project in the directory "/p". -/
def sampleProject (description : String) : ProjectConfig where
  name := "p"
  path := "/p"
  description

def sampleTree : FileTree where
  nodes := [("/p", .directory)]

def sampleStore (description : String) : ConfigStore where
  settings := { configDirectory := "/.repo-graph" }
  made := [sampleProject description]

theorem places_sampleProject :
    Path.join "/p" configDirectoryName = "/p/.repo-graph" ∧
      Path.join "/p/.repo-graph" "config.json" = "/p/.repo-graph/config.json" := by
  decide +kernel

theorem isFree_sampleProject (description : String) : (sampleProject description).IsFree sampleTree := by
  have directory : (sampleProject description).configDirectory = "/p/.repo-graph" := places_sampleProject.1
  have file : (sampleProject description).configFile = "/p/.repo-graph/config.json" := by
    rw [configFile, directory, places_sampleProject.2]
  constructor
  · rw [directory]
    exact nofun
  · rw [file]
    exact nofun
  · rw [file]
    decide +kernel

theorem isShort_sampleProject (description : String) : (sampleProject description).IsShort where
  maxFilesToIndex := isShort_of_bounds (i := 100) (by decide) (by decide)
  timeout := show CodeGraph.IsShort 10000 by decide
  vectorSize := isShort_of_bounds (i := 384) (by decide) (by decide)
  dimensions := isShort_of_bounds (i := 384) (by decide) (by decide)

theorem isUnset_nil : IsUnset [] :=
  fun _ _ => rfl

/-- A project whose texts have no places is loaded as it was saved. -/
theorem saved_is_loaded_sample :
    ∃ saved after, (sampleStore "for 5 €").save sampleTree 0 = .ok (saved, after) ∧
      freshStore.Gives after [] "/p" none (sampleProject "for 5 €") := by
  have valid : (schema sampleTree).validate (sampleProject "for 5 €").toJson = .ok (sampleProject "for 5 €") := rfl
  have made : (sampleStore "for 5 €").made[0]? = some (sampleProject "for 5 €") := rfl
  obtain ⟨saves, loads⟩ := saved_is_loaded made valid isUnset_nil (isShort_sampleProject _)
  obtain ⟨saved, after, success⟩ := saves.mpr (isFree_sampleProject _)
  have noPlaces : ∀ s ∈ (sampleProject "for 5 €").toJson.allTexts, '$' ∉ s.toList := by decide +kernel
  exact ⟨saved, after, success, (loads saved after success freshStore none rfl).1 (isKeptBy_of_notMem noPlaces _)⟩

/-- Descriptions that are filled alike make dumps that are. -/
theorem fillJson_description {values : List (String × String)} {c : ProjectConfig} {s t : String}
    (same : Template.fill values s.toList = Template.fill values t.toList) :
    Template.fillJson values (toJson { c with description := some s }) =
      Template.fillJson values (toJson { c with description := some t }) := by
  have texts (u : String) : Template.fillJson values (.str u) = .str (String.ofList (Template.fill values u.toList)) :=
    rfl
  unfold Template.fillJson at texts ⊢
  simp only [toJson, Schema.toJson, schema, Field.required, Field.optional, Json.mapStrings_obj, Json.ofText?,
    Json.ofOption, List.map_cons, List.map_nil, texts, same]

theorem fillJson_sampleProject {values : List (String × String)} {s t : String}
    (same : Template.fill values s.toList = Template.fill values t.toList) :
    Template.fillJson values (sampleProject s).toJson = Template.fillJson values (sampleProject t).toJson :=
  fillJson_description (c := { name := "p", path := "/p" }) same

theorem Gives.unique {store : ConfigStore} {tree : FileTree} {environment : Environment} {path : String}
    {name : Option String} {config other : ProjectConfig} (gives : store.Gives tree environment path name config)
    (gives' : store.Gives tree environment path name other) : config = other := by
  obtain ⟨number, loaded, success, held⟩ := gives
  obtain ⟨number', loaded', success', held'⟩ := gives'
  rw [success] at success'
  cases success'
  exact Option.some.inj (held.symm.trans held')

/-- Two dollar signs in a description are taken for one when the configuration is loaded again. -/
theorem saved_dollars_lost :
    (schema sampleTree).validate (sampleProject "$$").toJson = .ok (sampleProject "$$") ∧
      ∃ saved after, (sampleStore "$$").save sampleTree 0 = .ok (saved, after) ∧
        freshStore.Gives after [] "/p" none (sampleProject "$") ∧
        ¬ freshStore.Gives after [] "/p" none (sampleProject "$$") := by
  have valid : (schema sampleTree).validate (sampleProject "$$").toJson = .ok (sampleProject "$$") := rfl
  have lost : (schema sampleTree).validate (sampleProject "$").toJson = .ok (sampleProject "$") := rfl
  obtain ⟨-, -, -, leads⟩ := settled_of_validate valid
  have made : (sampleStore "$$").made[0]? = some (sampleProject "$$") := rfl
  have filled : Template.fill (places "/p" "p") "$$".toList = Template.fill (places "/p" "p") "$".toList := by
    decide +kernel
  have kept : (sampleProject "$").IsKeptBy (places "/p" "p") := by
    have left : ∀ s ∈ (sampleProject "$").toJson.allTexts,
        String.ofList (Template.fill (places "/p" "p") s.toList) = s := by decide +kernel
    exact fun key value _ held s inside => left s (Json.mem_allTexts_of_get? held inside)
  rcases write_cases leads with ⟨-, after, writes, keeps, -⟩ | ⟨blocked, -⟩
  · refine ⟨valid, (sampleStore "$$").keep "/p" 0, after, by rw [save_eq made, writes]; rfl, ?_⟩
    have gives : freshStore.Gives after [] "/p" none (sampleProject "$") := by
      refine (gives_saved_iff valid isUnset_nil (isShort_sampleProject _) writes rfl).mpr (.inl ?_)
      -- both dumps are filled alike, and filling leaves the one with a single dollar sign as it is
      have again := described_filled lost (leads.keeps keeps) isUnset_nil kept
      have alike : Template.fillJson (places "/p" "p") (sampleProject "$$").toJson =
          Template.fillJson (places "/p" "p") (sampleProject "$").toJson := fillJson_sampleProject filled
      have named : nameFor (sampleProject "$$").path none = "p" := by decide +kernel
      rw [describedAgain, named]
      exact (congrArg (described after [] "/p") alike).trans again
    refine ⟨gives, fun other => ?_⟩
    have same := congrArg ProjectConfig.description (gives.unique other)
    exact absurd same (by decide)
  · exact absurd (isFree_sampleProject _) blocked

end ConfigStore

end CodeGraph
