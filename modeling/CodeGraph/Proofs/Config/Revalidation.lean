import CodeGraph.Proofs.Config.Values
import CodeGraph.Proofs.Text.Letters

namespace CodeGraph

namespace ProjectConfig

/-- A name keeps its letters when it is trimmed. -/
theorem isName_trim {s : String} (name : isName s = true) : isName (Text.trim s) = true := by
  simp only [isName, Bool.and_eq_true, Bool.not_eq_true', List.isEmpty_eq_false_iff_exists_mem,
    List.mem_filter, List.all_eq_true] at name ⊢
  obtain ⟨⟨c, member, letter⟩, all⟩ := name
  rw [Text.trim, String.toList_ofList]
  have blank := Text.isBlank_eq_false_of_isAlnum (all c ⟨member, letter⟩)
  exact ⟨⟨c, Text.mem_trimChars member blank, letter⟩, fun other within =>
    all other ⟨(Text.trimChars_sublist _ _).subset within.1, within.2⟩⟩

theorem nameReader_again {value : Json} {s : String} (read : nameReader value = .ok s) :
    nameReader (.str s) = .ok s := by
  obtain ⟨given, _, checked⟩ := Reader.refine_ok read
  split at checked
  · rename_i name
    cases checked
    unfold nameReader Reader.refine
    rw [Reader.trimmed_str (Text.trimWhiteSpace_trim given)]
    simp only [bind, Except.bind]
    rw [if_pos (isName_trim name), Text.trim_trim]
  · cases checked

theorem isAbsolute_trimWhiteSpace {path : String} (absolute : Path.isAbsolute path = true) :
    Path.isAbsolute (Text.trimWhiteSpace path) = true := by
  obtain ⟨rest, chars⟩ := Path.isAbsolute_iff.mp absolute
  have start : (Text.trimWhiteSpace path).toList <+: '/' :: rest := by
    rw [Text.trimWhiteSpace, String.toList_ofList, chars, Text.trimChars,
      List.dropWhile_cons_of_neg (by decide)]
    exact List.rdropWhile_prefix _ _
  have slash : '/' ∈ (Text.trimWhiteSpace path).toList := by
    rw [Text.trimWhiteSpace, String.toList_ofList, chars]
    exact Text.mem_trimChars List.mem_cons_self (by decide)
  rcases List.prefix_cons_iff.mp start with none | ⟨more, trimmed, _⟩
  · rw [none] at slash
    cases slash
  · exact Path.isAbsolute_iff.mpr ⟨more, trimmed⟩

theorem directoryReader_ok {tree : FileTree} {readPath : Reader String} {value : Json} {path : String}
    (read : directoryReader tree readPath value = .ok path) :
    ∃ given, readPath value = .ok given ∧ tree.look given = .ok (some .directory) ∧
      Path.resolve tree.workingDirectory given = path := by
  obtain ⟨given, found, checked⟩ := Reader.refine_ok read
  split at checked
  · cases checked
  · cases checked
  · rename_i stands
    exact ⟨given, found, stands, Except.ok.inj checked⟩
  · cases checked

theorem directoryReader_isPlace {tree : FileTree} {readPath : Reader String} {value : Json}
    {path : String} (read : directoryReader tree readPath value = .ok path) : Path.IsPlace path := by
  obtain ⟨given, _, _, resolved⟩ := directoryReader_ok read
  exact resolved ▸ Path.isPlace_resolve _ _

/-- A directory that is taken again is one that trimming leaves its path as it is for. -/
theorem directoryReader_again {tree : FileTree} {path : String} (place : Path.IsPlace path)
    (again : directoryReader tree Reader.pathTrimmed (.str path) = .ok path) : Reader.IsTrimmed path := by
  obtain ⟨given, found, _, resolved⟩ := directoryReader_ok again
  rw [Reader.pathTrimmed_str] at found
  have same := Except.ok.inj found
  have absolute := isAbsolute_trimWhiteSpace place.isAbsolute
  have nonempty : Text.trimWhiteSpace path ≠ "" := fun none => by
    rw [none] at absolute
    cases absolute
  have normal := Path.length_normalize_le nonempty
  have givenAbsolute : Path.isAbsolute given = true := by
    rw [← same, Path.isAbsolute_normalize, absolute]
  have shorter := Path.length_resolve_le givenAbsolute tree.workingDirectory
  rw [resolved] at shorter
  rw [same] at normal
  exact Text.trimWhiteSpace_eq_of_length (shorter.trans normal)

/-- A directory that exists is taken if its path is read as it stands. -/
theorem directoryReader_eq {tree : FileTree} {readPath : Reader String} {path : String}
    (place : Path.IsPlace path) (found : readPath (.str path) = .ok path)
    (stands : tree.look path = .ok (some .directory)) :
    directoryReader tree readPath (.str path) = .ok path := by
  unfold directoryReader Reader.refine
  rw [found]
  simp only [bind, Except.bind, stands, place.resolve_eq]

/-- A directory that still exists is taken again if and only if trimming leaves its path as it is. -/
theorem directoryReader_again_iff {tree : FileTree} {path : String} (place : Path.IsPlace path)
    (stands : tree.look path = .ok (some .directory)) :
    directoryReader tree Reader.pathTrimmed (.str path) = .ok path ↔ Reader.IsTrimmed path := by
  refine ⟨directoryReader_again place, fun isTrimmed => directoryReader_eq place ?_ stands⟩
  rw [Reader.pathTrimmed_str, isTrimmed, place.normalize_eq]

/-- What readers see to in the configuration of a project, apart from its name and its directory. -/
structure WellFormed (c : ProjectConfig) : Prop where
  databasePath : Path.normalize c.databasePath = c.databasePath
  hooks : c.hooks.WellFormed
  linking : c.linking.WellFormed
  qdrant : c.qdrant.WellFormed
  embeddings : c.embeddings.WellFormed
  description : ∀ text ∈ c.description, Reader.IsTrimmed text
  version : Reader.IsTrimmed c.version

section

variable {tree : FileTree} {readPath : Reader String} {value : Json} {c : ProjectConfig}

theorem wellFormed_of_read (read : (schema tree readPath).read value = .ok c) : c.WellFormed := by
  have start : WellFormed { name := "", path := "" } :=
    ⟨by decide, HookConfig.wellFormed_of_read (show HookConfig.schema.read (.obj []) = .ok {} from rfl),
      LinkingConfig.wellFormed_of_read (show LinkingConfig.schema.read (.obj []) = .ok {} from rfl),
      QdrantConfig.wellFormed_of_read (show QdrantConfig.schema.read (.obj []) = .ok {} from rfl),
      EmbeddingConfig.wellFormed_of_read (show EmbeddingConfig.schema.read (.obj []) = .ok {} from rfl),
      by simp, by decide⟩
  refine Schema.read_preserves rfl start ?_ read
  simp only [schema, List.forall_mem_cons, List.not_mem_nil, false_imp_iff, implies_true, and_true]
  exact ⟨.required fun _ _ _ c h => ⟨h.1, h.2, h.3, h.4, h.5, h.6, h.7⟩,
    .required fun _ _ _ c h => ⟨h.1, h.2, h.3, h.4, h.5, h.6, h.7⟩,
    .optional fun _ _ found c h => ⟨Reader.pathTrimmed_normal found, h.2, h.3, h.4, h.5, h.6, h.7⟩,
    .optional fun _ _ found c h => ⟨h.1, HookConfig.wellFormed_of_read found, h.3, h.4, h.5, h.6, h.7⟩,
    .optional fun _ _ found c h =>
      ⟨h.1, h.2, LinkingConfig.wellFormed_of_read found, h.4, h.5, h.6, h.7⟩,
    .optional fun _ _ found c h =>
      ⟨h.1, h.2, h.3, QdrantConfig.wellFormed_of_read found, h.5, h.6, h.7⟩,
    .optional fun _ _ found c h =>
      ⟨h.1, h.2, h.3, h.4, EmbeddingConfig.wellFormed_of_read found, h.6, h.7⟩,
    .optional fun _ _ found c h =>
      ⟨h.1, h.2, h.3, h.4, h.5, Reader.nullable_gives (fun _ _ => Reader.trimmed_trims) found, h.7⟩,
    .optional fun _ _ found c h => ⟨h.1, h.2, h.3, h.4, h.5, h.6, Reader.trimmed_trims found⟩⟩

/-- A name that is read again as it stands. -/
def IsNamed (c : ProjectConfig) : Prop :=
  nameReader (.str c.name) = .ok c.name

theorem isNamed_of_read (read : (schema tree readPath).read value = .ok c) : c.IsNamed := by
  have puts (value : Json) (name : String) (found : nameReader value = .ok name) (c : ProjectConfig) :
      IsNamed { c with name } := nameReader_again found
  refine Schema.read_establishes rfl List.mem_cons_self rfl (Field.assign_ne nameReader_tells)
    (.required puts) ?_ read
  simp only [schema, List.forall_mem_cons, List.not_mem_nil, false_imp_iff, implies_true, and_true]
  exact ⟨.required fun value name found c _ => puts value name found c, .required fun _ _ _ _ h => h,
    .optional fun _ _ _ _ h => h, .optional fun _ _ _ _ h => h, .optional fun _ _ _ _ h => h,
    .optional fun _ _ _ _ h => h, .optional fun _ _ _ _ h => h, .optional fun _ _ _ _ h => h,
    .optional fun _ _ _ _ h => h⟩

theorem isPlace_of_read (tells : Reader.Tells IssueKind.IsLocal readPath)
    (read : (schema tree readPath).read value = .ok c) : Path.IsPlace c.path := by
  refine Schema.read_establishes (P := fun c : ProjectConfig => Path.IsPlace c.path) rfl
    (List.mem_cons_of_mem _ List.mem_cons_self) rfl
    (Field.assign_ne (directoryReader_tells tree tells))
    (.required fun _ _ found _ => directoryReader_isPlace found) ?_ read
  simp only [schema, List.forall_mem_cons, List.not_mem_nil, false_imp_iff, implies_true, and_true]
  exact ⟨.required fun _ _ _ _ h => h, .required fun _ _ found _ _ => directoryReader_isPlace found,
    .optional fun _ _ _ _ h => h, .optional fun _ _ _ _ h => h, .optional fun _ _ _ _ h => h,
    .optional fun _ _ _ _ h => h, .optional fun _ _ _ _ h => h, .optional fun _ _ _ _ h => h,
    .optional fun _ _ _ _ h => h⟩

end

theorem plain_schema (tree : FileTree) (readPath : Reader String) : (schema tree readPath).Plain where
  tidy := rfl
  unspelled := by
    simp only [schema, List.forall_mem_cons, List.not_mem_nil, false_imp_iff, implies_true, and_true]
    exact ⟨rfl, rfl, rfl, rfl, rfl, rfl, rfl, rfl, rfl⟩
  distinct := by
    have names : (schema tree readPath).fields.map (·.name) = ["name", "path", "database_path", "hooks",
      "linking", "qdrant", "embeddings", "description", "version"] := rfl
    rw [names]
    decide

/-- What is shown of a configuration has nothing to do with the file tree. -/
theorem toJson_eq (c : ProjectConfig) (tree : FileTree) (readPath : Reader String) :
    c.toJson = (schema tree readPath).toJson c := by
  simp only [toJson, Schema.toJson, schema, List.map_cons, List.map_nil, Field.required, Field.optional]

/-- What is shown of a configuration is read as the configuration, if its directory, its hooks and its vector
database are, apart from what trimming takes off its paths. -/
theorem read_toJson {later : FileTree} {readPath : Reader String} {c : ProjectConfig} (h : c.WellFormed)
    (named : c.IsNamed) {path : String} {hooks : HookConfig} {qdrant : QdrantConfig}
    (atPath : directoryReader later readPath (.str c.path) = .ok path)
    (ofHooks : HookConfig.schema.read c.hooks.toJson = .ok hooks)
    (ofQdrant : QdrantConfig.schema.read (QdrantConfig.schema.toJson c.qdrant) = .ok qdrant) :
    (schema later readPath).read c.toJson = .ok { c with
      path, hooks, qdrant
      databasePath := Path.normalize (Text.trimWhiteSpace c.databasePath)
      embeddings.cacheDirectory := c.embeddings.cacheDirectory.map fun path =>
        Path.normalize (Text.trimWhiteSpace path) } := by
  have description := Reader.nullable_ofText? fun text given =>
    Reader.trimmed_str (h.description text given)
  have taken := (plain_schema later readPath).read_toJson (a := c) <| .cons (.required named) <|
    .cons (.required atPath) <| .cons (.optional (Reader.pathTrimmed_str _)) <| .cons (.optional ofHooks) <|
    .cons (.optional (LinkingConfig.read_toJson h.linking)) <| .cons (.optional ofQdrant) <|
    .cons (.optional (EmbeddingConfig.read_toJson h.embeddings)) <|
    .cons (.optional description) <| .cons (.optional (Reader.trimmed_str h.version)) .nil
  rw [toJson_eq c later readPath]
  refine taken.trans ?_
  simp only [List.foldl_cons, List.foldl_nil]

/-- Only the paths, the hooks, and the vector database may be read as something else, or not be read
again. -/
theorem read_toJson_iff {later : FileTree} {c d : ProjectConfig} (h : c.WellFormed)
    (named : c.IsNamed) : (schema later).read c.toJson = .ok d ↔
      ∃ path hooks qdrant, directoryReader later Reader.pathTrimmed (.str c.path) = .ok path ∧
        HookConfig.schema.read c.hooks.toJson = .ok hooks ∧
        QdrantConfig.schema.read (QdrantConfig.schema.toJson c.qdrant) = .ok qdrant ∧
        { c with
          path, hooks, qdrant
          databasePath := Path.normalize (Text.trimWhiteSpace c.databasePath)
          embeddings.cacheDirectory := c.embeddings.cacheDirectory.map fun path =>
            Path.normalize (Text.trimWhiteSpace path) } = d := by
  constructor
  · intro again
    have plain := plain_schema later Reader.pathTrimmed
    have shown := again
    rw [toJson_eq c later Reader.pathTrimmed] at shown
    have fields : Field.required "path" (directoryReader later Reader.pathTrimmed) (·.path) .str
        (fun v (c : ProjectConfig) => { c with path := v }) ∈ (schema later).fields ∧
      Field.optional "hooks" HookConfig.schema.read (·.hooks) HookConfig.toJson
        (fun v (c : ProjectConfig) => { c with hooks := v }) ∈ (schema later).fields ∧
      Field.optional "qdrant" QdrantConfig.schema.read (·.qdrant) QdrantConfig.schema.toJson
        (fun v (c : ProjectConfig) => { c with qdrant := v }) ∈ (schema later).fields := by
      simp [schema]
    obtain ⟨path, atPath⟩ := plain.reads_required fields.1
      (directoryReader_tells later Reader.pathTrimmed_tells) shown
    obtain ⟨hooks, ofHooks⟩ := plain.reads_optional fields.2.1 HookConfig.read_tells shown
    obtain ⟨qdrant, ofQdrant⟩ := plain.reads_optional fields.2.2 QdrantConfig.read_tells shown
    exact ⟨path, hooks, qdrant, atPath, ofHooks, ofQdrant,
      Except.ok.inj ((read_toJson h named atPath ofHooks ofQdrant).symm.trans again)⟩
  · rintro ⟨path, hooks, qdrant, atPath, ofHooks, ofQdrant, rfl⟩
    exact read_toJson h named atPath ofHooks ofQdrant

end ProjectConfig

/-- A configuration of hooks that is read again as it stands. -/
def HookConfig.IsStable (c : HookConfig) : Prop :=
  Reader.IsAddress c.serverUrl

/-- A configuration of the vector database that is read again as it stands. -/
def QdrantConfig.IsStable (c : QdrantConfig) : Prop :=
  Reader.IsAddress c.url

/-- A configuration of a project that is read again as it stands: its addresses still are addresses, and
trimming leaves its paths as they are. -/
structure ProjectConfig.IsStable (c : ProjectConfig) : Prop where
  hooks : c.hooks.IsStable
  qdrant : c.qdrant.IsStable
  path : Reader.IsTrimmed c.path
  databasePath : Reader.IsTrimmed c.databasePath
  cacheDirectory : ∀ path ∈ c.embeddings.cacheDirectory, Reader.IsTrimmed path

theorem HookConfig.read_again_iff {c : HookConfig} (h : c.WellFormed) :
    schema.read c.toJson = .ok c ↔ c.IsStable := by
  rw [read_toJson_iff h, IsStable]
  constructor
  · rintro ⟨url, found, same⟩
    have kept : url = c.serverUrl := congrArg (·.serverUrl) same
    rw [kept] at found
    exact (Reader.address_again_iff rfl h.serverUrl).mp found
  · exact fun stable => ⟨c.serverUrl, (Reader.address_again_iff rfl h.serverUrl).mpr stable, rfl⟩

theorem QdrantConfig.read_again_iff {c : QdrantConfig} (h : c.WellFormed) :
    schema.read (schema.toJson c) = .ok c ↔ c.IsStable := by
  rw [read_toJson_iff h, IsStable]
  constructor
  · rintro ⟨url, found, same⟩
    have kept : url = c.url := congrArg (·.url) same
    rw [kept] at found
    exact (Reader.address_again_iff rfl h.url).mp found
  · exact fun stable => ⟨c.url, (Reader.address_again_iff rfl h.url).mpr stable, rfl⟩

theorem EmbeddingConfig.cache_again_iff {c : EmbeddingConfig} (h : c.WellFormed) :
    (c.cacheDirectory.map fun path => Path.normalize (Text.trimWhiteSpace path)) = c.cacheDirectory ↔
      ∀ path ∈ c.cacheDirectory, Reader.IsTrimmed path := by
  have normal := h.cacheDirectory
  revert normal
  cases c.cacheDirectory with
  | none => simp
  | some path =>
    intro normal
    simpa using Reader.normalize_trimWhiteSpace_iff (normal path rfl)

/-- A configuration that is read again as it stands, with its directory read by any reader that takes it. -/
theorem ProjectConfig.read_again {later : FileTree} {readPath : Reader String} {c : ProjectConfig}
    (h : c.WellFormed) (named : c.IsNamed) (stable : c.IsStable)
    (atPath : directoryReader later readPath (.str c.path) = .ok c.path) :
    (schema later readPath).read c.toJson = .ok c := by
  rw [read_toJson h named atPath ((HookConfig.read_again_iff h.hooks).mpr stable.hooks)
    ((QdrantConfig.read_again_iff h.qdrant).mpr stable.qdrant),
    (Reader.normalize_trimWhiteSpace_iff h.databasePath).mpr stable.databasePath,
    (EmbeddingConfig.cache_again_iff h.embeddings).mpr stable.cacheDirectory]

theorem ProjectConfig.read_again_iff {later : FileTree} {c : ProjectConfig} (h : c.WellFormed)
    (named : c.IsNamed) (place : Path.IsPlace c.path)
    (stands : later.look c.path = .ok (some .directory)) :
    (schema later).read c.toJson = .ok c ↔ c.IsStable := by
  rw [read_toJson_iff h named]
  constructor
  · rintro ⟨path, hooks, qdrant, atPath, ofHooks, ofQdrant, same⟩
    have samePath : path = c.path := congrArg (·.path) same
    have sameHooks : hooks = c.hooks := congrArg (·.hooks) same
    have sameQdrant : qdrant = c.qdrant := congrArg (·.qdrant) same
    have sameDatabase := congrArg (·.databasePath) same
    have sameCache := congrArg (·.embeddings.cacheDirectory) same
    dsimp only at sameDatabase sameCache
    rw [samePath] at atPath
    rw [sameHooks] at ofHooks
    rw [sameQdrant] at ofQdrant
    exact ⟨(HookConfig.read_again_iff h.hooks).mp ofHooks,
      (QdrantConfig.read_again_iff h.qdrant).mp ofQdrant,
      (directoryReader_again_iff place stands).mp atPath,
      (Reader.normalize_trimWhiteSpace_iff h.databasePath).mp sameDatabase,
      (EmbeddingConfig.cache_again_iff h.embeddings).mp sameCache⟩
  · intro stable
    exact (read_toJson_iff h named).mp <| read_again h named stable <|
      (directoryReader_again_iff place stands).mpr stable.path

theorem HookHandler.updateConfig_nil (handler : HookHandler) :
    handler.updateConfig [] = .ok handler ↔
      HookConfig.schema.validate handler.config.toJson = .ok handler.config := by
  have dumped : handler.updateConfig [] =
      (HookConfig.schema.validate handler.config.toJson).map fun config => { handler with config } := by
    simp only [updateConfig, HookConfig.toJson, Schema.toJson, List.foldl_nil]
    cases HookConfig.schema.validate (.obj (HookConfig.schema.fields.map fun field =>
      (field.name, field.view handler.config))) <;> rfl
  rw [dumped]
  cases HookConfig.schema.validate handler.config.toJson with
  | error invalid => exact iff_of_false nofun nofun
  | ok config =>
    change Except.ok { handler with config } = Except.ok handler ↔ _
    rw [Except.ok.injEq, Except.ok.injEq]
    exact ⟨congrArg HookHandler.config, fun same => by rw [same]⟩

/-- Whatever has been accepted as a configuration is accepted again and unchanged, and a handler of hooks
with it takes an update that changes nothing, if and only if what the checks made of addresses and paths is
something that they leave as it is. The directory of a project has to exist still. -/
theorem accepted_again (value : Json) :
    (∀ c, HookConfig.schema.validate value = .ok c →
      (HookConfig.schema.validate c.toJson = .ok c ↔ c.IsStable) ∧
      ∀ handler : HookHandler, handler.config = c →
        (handler.updateConfig [] = .ok handler ↔ c.IsStable)) ∧
    (∀ c, QdrantConfig.schema.validate value = .ok c →
      (QdrantConfig.schema.validate (QdrantConfig.schema.toJson c) = .ok c ↔ c.IsStable)) ∧
    ∀ tree readPath c later, Reader.Tells IssueKind.IsLocal readPath →
      (ProjectConfig.schema tree readPath).validate value = .ok c →
      later.look c.path = .ok (some .directory) →
      ((ProjectConfig.schema later).validate c.toJson = .ok c ↔ c.IsStable) := by
  refine ⟨fun c accepted => ?_, fun c accepted => ?_, fun tree readPath c later tells accepted stands => ?_⟩
  · have again : HookConfig.schema.validate c.toJson = .ok c ↔ c.IsStable := by
      rw [Schema.validate_eq_ok_iff] at accepted ⊢
      exact HookConfig.read_again_iff (HookConfig.wellFormed_of_read accepted)
    refine ⟨again, ?_⟩
    rintro handler rfl
    exact handler.updateConfig_nil.trans again
  · rw [Schema.validate_eq_ok_iff] at accepted ⊢
    exact QdrantConfig.read_again_iff (QdrantConfig.wellFormed_of_read accepted)
  · rw [Schema.validate_eq_ok_iff] at accepted ⊢
    exact ProjectConfig.read_again_iff (ProjectConfig.wellFormed_of_read accepted)
      (ProjectConfig.isNamed_of_read accepted) (ProjectConfig.isPlace_of_read tells accepted) stands

/-- An address that is nothing but a scheme loses its slashes, and is refused when it is read again. -/
theorem accepted_scheme_refused :
    HookConfig.schema.validate (.obj [("server_url", .str "http://")]) =
        .ok { serverUrl := "http:" } ∧
      ∀ config, HookConfig.schema.validate (HookConfig.toJson { serverUrl := "http:" }) ≠ .ok config :=
  ⟨rfl, fun config => by
    have refused : HookConfig.schema.validate (HookConfig.toJson { serverUrl := "http:" }) =
      .error ⟨"HookConfig", [⟨[.field "server_url"],
        .refused "Server URL must start with http:// or https://"⟩]⟩ := rfl
    rw [refused]
    nofun⟩

/-- The configuration of a new project is accepted again. -/
theorem accepted_again_new :
    HookConfig.schema.validate (HookConfig.toJson {}) = .ok {} ∧
      HookHandler.updateConfig {} [] = .ok {} ∧
      QdrantConfig.schema.validate (QdrantConfig.schema.toJson {}) = .ok {} ∧
      (ProjectConfig.schema { nodes := [("/p", .directory)] }).validate
        (ProjectConfig.toJson { name := "p", path := "/p" }) = .ok { name := "p", path := "/p" } := by
  obtain ⟨hooks, qdrant, -⟩ := accepted_again (.obj [])
  obtain ⟨-, -, project⟩ := accepted_again (.obj [("name", .str "p"), ("path", .str "/p")])
  have address : Reader.IsAddress "http://localhost:3000" := by decide
  have url : Reader.IsAddress "http://localhost:6333" := by decide
  have accepted : (ProjectConfig.schema { nodes := [("/p", .directory)] }).validate
      (.obj [("name", .str "p"), ("path", .str "/p")]) = .ok { name := "p", path := "/p" } := rfl
  obtain ⟨again, updates⟩ := hooks {} rfl
  have stable : ProjectConfig.IsStable { name := "p", path := "/p" } :=
    ⟨address, url, by decide, by decide, by simp⟩
  exact ⟨again.mpr address, (updates {} rfl).mpr address, (qdrant {} rfl).mpr url,
    (project _ _ _ _ Reader.pathTrimmed_tells accepted rfl).mpr stable⟩

end CodeGraph
