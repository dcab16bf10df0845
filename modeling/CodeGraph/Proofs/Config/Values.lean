import CodeGraph.Hooks.Handling
import CodeGraph.Proofs.Config.Sections
import CodeGraph.Proofs.Decimal.Printed
import CodeGraph.Proofs.Files.NormalForm
import CodeGraph.Proofs.Schema.Dumps
import CodeGraph.Proofs.Text.Trimming

namespace CodeGraph

namespace Reader

/-- A text that stays the same when it is trimmed. -/
def IsTrimmed (s : String) : Prop :=
  Text.trimWhiteSpace s = s

/-- An address that is read as it stands. -/
def IsAddress (s : String) : Prop :=
  ("http://".toList <+: s.toList ∨ "https://".toList <+: s.toList) ∧ IsTrimmed s

/-- A text without slashes at its end. -/
def EndsBare (s : String) : Prop :=
  Text.dropRightWhile (· == '/') s.toList = s.toList

instance (s : String) : Decidable (IsTrimmed s) :=
  inferInstanceAs (Decidable (Text.trimWhiteSpace s = s))

instance (s : String) : Decidable (IsAddress s) :=
  inferInstanceAs (Decidable (_ ∧ _))

instance (s : String) : Decidable (EndsBare s) :=
  inferInstanceAs (Decidable (_ = _))

theorem trimmed_trims {value : Json} {s : String} (read : trimmed value = .ok s) : IsTrimmed s := by
  cases value with
  | str given =>
    cases read
    exact Text.trimWhiteSpace_trimWhiteSpace given
  | _ => cases read

theorem trimmedOrNumber_trims {value : Json} {s : String} (read : trimmedOrNumber value = .ok s) :
    IsTrimmed s := by
  cases value with
  | int i =>
    cases read
    exact Text.trimWhiteSpace_eq_self (Text.Unspaced.toString i)
  | float x =>
    cases read
    exact Text.trimWhiteSpace_eq_self (Decimal.text_unspaced x)
  | str given =>
    cases read
    exact Text.trimWhiteSpace_trimWhiteSpace given
  | _ => cases read

theorem trimmed_str {s : String} (isTrimmed : IsTrimmed s) : trimmed (.str s) = .ok s :=
  congrArg Except.ok isTrimmed

section Address

variable {read : Reader String} {reason : String}

theorem address_ok {value : Json} {s : String} (found : address read reason value = .ok s) :
    ∃ given, read value = .ok given ∧
      ("http://".toList <+: given.toList ∨ "https://".toList <+: given.toList) ∧
      s = String.ofList (Text.dropRightWhile (· == '/') given.toList) := by
  unfold address refine at found
  cases reads : read value with
  | error issues =>
    rw [reads] at found
    cases found
  | ok given =>
    rw [reads] at found
    change (if _ then _ else _) = _ at found
    split at found
    · rename_i scheme
      cases found
      exact ⟨given, rfl, by simpa using scheme, rfl⟩
    · cases found

theorem address_endsBare {value : Json} {s : String} (found : address read reason value = .ok s) :
    EndsBare s := by
  obtain ⟨given, _, _, rfl⟩ := address_ok found
  rw [EndsBare, String.toList_ofList]
  exact List.rdropWhile_idempotent _ _

/-- An address is taken again if and only if trimming and dropping slashes have not broken it. -/
theorem address_again_iff {s : String} (reads : read (.str s) = .ok (Text.trimWhiteSpace s))
    (bare : EndsBare s) : address read reason (.str s) = .ok s ↔ IsAddress s := by
  constructor
  · intro again
    obtain ⟨given, found, scheme, same⟩ := address_ok again
    rw [reads] at found
    cases found
    have short := (List.rdropWhile_prefix (· == '/') (Text.trimWhiteSpace s).toList).length_le
    have long := congrArg (fun s => s.toList.length) same
    simp only [String.toList_ofList, Text.dropRightWhile_eq] at long
    have isTrimmed : Text.trimWhiteSpace s = s := Text.trimWhiteSpace_eq_of_length (by omega)
    rw [isTrimmed] at scheme
    exact ⟨scheme, isTrimmed⟩
  · rintro ⟨scheme, isTrimmed⟩
    unfold address refine
    rw [reads, isTrimmed]
    change (if _ then _ else _) = _
    rw [if_pos (by simpa using scheme), bare, String.ofList_toList]

end Address

theorem pathTrimmed_str (s : String) :
    pathTrimmed (.str s) = .ok (Path.normalize (Text.trimWhiteSpace s)) := by
  simp only [pathTrimmed]

theorem pathTrimmed_normal {value : Json} {s : String} (read : pathTrimmed value = .ok s) :
    Path.normalize s = s := by
  cases value with
  | str given =>
    rw [pathTrimmed_str] at read
    rw [← Except.ok.inj read, Path.normalize_normalize]
  | _ => cases read

/-- A path in normal form is taken again if and only if trimming leaves it as it is. -/
theorem normalize_trimWhiteSpace_iff {s : String} (normal : Path.normalize s = s) :
    Path.normalize (Text.trimWhiteSpace s) = s ↔ IsTrimmed s := by
  constructor
  · intro again
    by_cases nothing : Text.trimWhiteSpace s = ""
    · rw [nothing] at again
      rw [← again]
      decide
    · have longer := Path.length_normalize_le nothing
      rw [again] at longer
      exact Text.trimWhiteSpace_eq_of_length longer
  · intro isTrimmed
    rw [isTrimmed, normal]

theorem nullable_ofText? {read : Reader String} {s? : Option String}
    (reads : ∀ s ∈ s?, read (.str s) = .ok s) : nullable read (Json.ofText? s?) = .ok s? := by
  cases s? with
  | none => rfl
  | some s =>
    change (read (.str s)).map some = _
    rw [reads s rfl]
    rfl

theorem nullable_gives {read : Reader String} {value : Json} {s? : Option String} {P : String → Prop}
    (gives : ∀ value s, read value = .ok s → P s) (found : nullable read value = .ok s?) :
    ∀ s ∈ s?, P s := by
  have inner (found : (read value).map some = .ok s?) : ∀ s ∈ s?, P s := by
    cases reads : read value with
    | ok s =>
      rw [reads] at found
      cases found
      simpa using gives value s reads
    | error issues =>
      rw [reads] at found
      cases found
  cases value with
  | null =>
    cases found
    exact nofun
  | _ => exact inner found

theorem refine_ok {α : Type} {read : Reader α} {check : α → Checked α} {value : Json} {b : α}
    (found : refine read check value = .ok b) : ∃ a, read value = .ok a ∧ check a = .ok b := by
  unfold refine at found
  cases reads : read value with
  | ok a =>
    rw [reads] at found
    exact ⟨a, rfl, found⟩
  | error issues =>
    rw [reads] at found
    cases found

theorem atLeast_ok {least i j : Int} (found : atLeast least i = .ok j) : least ≤ j ∧ i = j := by
  unfold atLeast at found
  split at found
  · cases found
    exact ⟨‹_›, rfl⟩
  · cases found

theorem between_ok {least greatest i j : Int} (found : between least greatest i = .ok j) :
    (least ≤ j ∧ j ≤ greatest) ∧ i = j := by
  unfold between at found
  split at found
  · cases found
  · obtain ⟨low, rfl⟩ := atLeast_ok found
    exact ⟨⟨low, by omega⟩, rfl⟩

theorem atLeast_int {least i : Int} (low : least ≤ i) :
    refine int (atLeast least) (.int i) = .ok i :=
  if_pos low

theorem between_int {least greatest i : Int} (low : least ≤ i) (high : i ≤ greatest) :
    refine int (between least greatest) (.int i) = .ok i := by
  change between least greatest i = _
  unfold between atLeast
  rw [if_neg (by omega), if_pos low]

theorem unit_ok {x y : Float} (found : unit x = .ok y) : unit y = .ok y := by
  have found' := found
  unfold unit at found
  repeat' split at found
  · cases found
  · cases found
  · cases found
    exact found'

end Reader

namespace HookConfig

/-- What readers see to in a configuration of hooks. -/
structure WellFormed (c : HookConfig) : Prop where
  maxFilesToIndex : 1 ≤ c.maxFilesToIndex
  timeout : 100 ≤ c.timeout
  serverUrl : Reader.EndsBare c.serverUrl
  projectId : Reader.IsTrimmed c.projectId

theorem wellFormed_of_read {value : Json} {c : HookConfig} (read : schema.read value = .ok c) :
    c.WellFormed := by
  refine Schema.read_preserves rfl ⟨by decide, by decide, by decide, by decide⟩ ?_ read
  simp only [schema, List.forall_mem_cons, List.not_mem_nil, false_imp_iff, implies_true, and_true]
  refine ⟨?_, ?_, ?_, ?_, ?_, ?_, ?_, ?_,
    .optional fun _ i found c h => ⟨?_, h.timeout, h.serverUrl, h.projectId⟩,
    .optional fun _ i found c h => ⟨h.maxFilesToIndex, ?_, h.serverUrl, h.projectId⟩, ?_,
    .optional fun _ s found c h =>
      ⟨h.maxFilesToIndex, h.timeout, Reader.address_endsBare found, h.projectId⟩,
    .optional fun _ s found c h =>
      ⟨h.maxFilesToIndex, h.timeout, h.serverUrl, Reader.trimmedOrNumber_trims found⟩, ?_, ?_⟩
  case refine_9 =>
    obtain ⟨_, _, checked⟩ := Reader.refine_ok found
    exact (Reader.atLeast_ok checked).1
  case refine_10 =>
    obtain ⟨_, _, checked⟩ := Reader.refine_ok found
    exact (Reader.atLeast_ok checked).1
  -- The other fields take whatever is read for them.
  all_goals exact .optional fun _ _ _ c h => ⟨h.1, h.2, h.3, h.4⟩

theorem plain_schema : schema.Plain :=
  ⟨rfl, by decide, by decide⟩

theorem verbosity_again (v : Verbosity) :
    Reader.named Verbosity.ofName? (.str v.name) = .ok v := by
  cases v <;> rfl

/-- Only the address of the server may be read as something else, or not be read again. -/
theorem read_toJson_iff {c d : HookConfig} (h : c.WellFormed) :
    schema.read c.toJson = .ok d ↔
      ∃ url, Reader.address Reader.trimmedOrNumber "Server URL must start with http:// or https://"
        (.str c.serverUrl) = .ok url ∧ { c with serverUrl := url } = d := by
  have restores {url : String} (found : Reader.address Reader.trimmedOrNumber
      "Server URL must start with http:// or https://" (.str c.serverUrl) = .ok url) :
      schema.read c.toJson = .ok { c with serverUrl := url } :=
    plain_schema.read_toJson <| .cons .flag <| .cons .flag <| .cons .flag <| .cons .flag <|
      .cons .flag <| .cons .flag <| .cons .flag <| .cons .flag <|
      .cons (.optional (Reader.atLeast_int h.maxFilesToIndex)) <|
      .cons (.optional (Reader.atLeast_int h.timeout)) <| .cons .flag <| .cons (.optional found) <|
      .cons (.optional (Reader.trimmed_str h.projectId)) <|
      .cons (.optional (verbosity_again c.verbosity)) <| .cons .flag .nil
  have address : Field.optional "server_url" (Reader.address Reader.trimmedOrNumber
      "Server URL must start with http:// or https://") (·.serverUrl) .str
      (fun v (c : HookConfig) => { c with serverUrl := v }) ∈ schema.fields := by
    simp [schema]
  constructor
  · intro again
    obtain ⟨url, found⟩ := plain_schema.reads_optional address
      (Reader.address_tells Reader.trimmedOrNumber_tells _) again
    exact ⟨url, found, Except.ok.inj ((restores found).symm.trans again)⟩
  · rintro ⟨url, found, rfl⟩
    exact restores found

end HookConfig

namespace LinkingConfig

/-- What readers see to in the thresholds of linking. -/
structure WellFormed (c : LinkingConfig) : Prop where
  minSimilarity : Reader.unit c.minSimilarity = .ok c.minSimilarity
  maxLinksPerEntity : 1 ≤ c.maxLinksPerEntity ∧ c.maxLinksPerEntity ≤ 100
  pruneBelow : Reader.unit c.pruneBelow = .ok c.pruneBelow

theorem wellFormed_of_read {value : Json} {c : LinkingConfig} (read : schema.read value = .ok c) :
    c.WellFormed := by
  refine Schema.read_preserves rfl ⟨rfl, by decide, rfl⟩ ?_ read
  simp only [schema, List.forall_mem_cons, List.not_mem_nil, false_imp_iff, implies_true, and_true]
  refine ⟨.optional fun _ _ _ c h => ⟨h.1, h.2, h.3⟩,
    .optional fun _ x found c h => ⟨?_, h.maxLinksPerEntity, h.pruneBelow⟩,
    .optional fun _ i found c h => ⟨h.minSimilarity, ?_, h.pruneBelow⟩,
    .optional fun _ x found c h => ⟨h.minSimilarity, h.maxLinksPerEntity, ?_⟩,
    .optional fun _ _ _ c h => ⟨h.1, h.2, h.3⟩⟩
  · obtain ⟨_, _, checked⟩ := Reader.refine_ok found
    exact Reader.unit_ok checked
  · obtain ⟨_, _, checked⟩ := Reader.refine_ok found
    exact (Reader.between_ok checked).1
  · obtain ⟨_, _, checked⟩ := Reader.refine_ok found
    exact Reader.unit_ok checked

theorem plain_schema : schema.Plain :=
  ⟨rfl, by decide, by decide⟩

theorem read_toJson {c : LinkingConfig} (h : c.WellFormed) : schema.read (schema.toJson c) = .ok c :=
  plain_schema.read_toJson <| .cons (.optional rfl) <| .cons (.optional h.minSimilarity) <|
    .cons (.optional (Reader.between_int h.maxLinksPerEntity.1 h.maxLinksPerEntity.2)) <|
    .cons (.optional h.pruneBelow) <| .cons (.optional (Reader.list_strings c.entityTypes)) .nil

end LinkingConfig

namespace QdrantConfig

/-- What readers see to in the configuration of the vector database. -/
structure WellFormed (c : QdrantConfig) : Prop where
  url : Reader.EndsBare c.url
  apiKey : ∀ key ∈ c.apiKey, Reader.IsTrimmed key
  collectionName : Reader.IsTrimmed c.collectionName
  distanceMetric : metric (.str c.distanceMetric) = .ok c.distanceMetric

theorem metric_ok {value : Json} {s : String} (found : metric value = .ok s) :
    metric (.str s) = .ok s := by
  obtain ⟨given, _, checked⟩ := Reader.refine_ok found
  dsimp only at checked
  split at checked
  · rename_i known
    cases checked
    simp only [List.contains_iff_mem, List.mem_cons, List.not_mem_nil, or_false] at known
    rcases known with same | same | same <;> rw [same] <;> decide
  · cases checked

theorem wellFormed_of_read {value : Json} {c : QdrantConfig} (read : schema.read value = .ok c) :
    c.WellFormed := by
  refine Schema.read_preserves rfl ⟨by decide, by simp [schema], by decide, by decide⟩ ?_ read
  simp only [schema, List.forall_mem_cons, List.not_mem_nil, false_imp_iff, implies_true, and_true]
  exact ⟨.optional fun _ s found c h =>
      ⟨Reader.address_endsBare found, h.apiKey, h.collectionName, h.distanceMetric⟩,
    .optional fun _ key found c h => ⟨h.url,
      Reader.nullable_gives (fun _ _ => Reader.trimmed_trims) found, h.collectionName, h.distanceMetric⟩,
    .optional fun _ _ _ c h => ⟨h.1, h.2, h.3, h.4⟩,
    .optional fun _ s found c h => ⟨h.url, h.apiKey, Reader.trimmed_trims found, h.distanceMetric⟩,
    .optional fun _ _ _ c h => ⟨h.1, h.2, h.3, h.4⟩,
    .optional fun _ s found c h => ⟨h.url, h.apiKey, h.collectionName, metric_ok found⟩⟩

theorem plain_schema : schema.Plain :=
  ⟨rfl, by decide, by decide⟩

theorem read_toJson_iff {c d : QdrantConfig} (h : c.WellFormed) :
    schema.read (schema.toJson c) = .ok d ↔
      ∃ url, Reader.address Reader.trimmed "Qdrant URL must start with http:// or https://"
        (.str c.url) = .ok url ∧ { c with url } = d := by
  have restores {url : String} (found : Reader.address Reader.trimmed
      "Qdrant URL must start with http:// or https://" (.str c.url) = .ok url) :
      schema.read (schema.toJson c) = .ok { c with url } :=
    have key := Reader.nullable_ofText? fun key given => Reader.trimmed_str (h.apiKey key given)
    plain_schema.read_toJson <| .cons (.optional found) <| .cons (.optional key) <|
      .cons (.optional rfl) <| .cons (.optional (Reader.trimmed_str h.collectionName)) <|
      .cons (.optional rfl) <| .cons (.optional h.distanceMetric) .nil
  have address : Field.optional "url" (Reader.address Reader.trimmed
      "Qdrant URL must start with http:// or https://") (·.url) .str
      (fun v (c : QdrantConfig) => { c with url := v }) ∈ schema.fields := by
    simp [schema]
  constructor
  · intro again
    obtain ⟨url, found⟩ := plain_schema.reads_optional address
      (Reader.address_tells Reader.trimmed_tells _) again
    exact ⟨url, found, Except.ok.inj ((restores found).symm.trans again)⟩
  · rintro ⟨url, found, rfl⟩
    exact restores found

end QdrantConfig

namespace EmbeddingConfig

/-- What readers see to in the configuration of the embedding model. -/
structure WellFormed (c : EmbeddingConfig) : Prop where
  modelName : Reader.IsTrimmed c.modelName
  dimensions : 1 ≤ c.dimensions
  cacheDirectory : ∀ path ∈ c.cacheDirectory, Path.normalize path = path
  device : ∀ device ∈ c.device, Reader.IsTrimmed device
  batchSize : 1 ≤ c.batchSize ∧ c.batchSize ≤ 512

theorem wellFormed_of_read {value : Json} {c : EmbeddingConfig} (read : schema.read value = .ok c) :
    c.WellFormed := by
  refine Schema.read_preserves rfl ⟨by decide, by decide, by simp [schema], by simp [schema], by decide⟩ ?_ read
  simp only [schema, List.forall_mem_cons, List.not_mem_nil, false_imp_iff, implies_true, and_true]
  refine ⟨.optional fun _ s found c h =>
      ⟨Reader.trimmed_trims found, h.dimensions, h.cacheDirectory, h.device, h.batchSize⟩,
    .optional fun _ i found c h => ⟨h.modelName, ?_, h.cacheDirectory, h.device, h.batchSize⟩,
    .optional fun _ path found c h => ⟨h.modelName, h.dimensions,
      Reader.nullable_gives (fun _ _ => Reader.pathTrimmed_normal) found, h.device, h.batchSize⟩,
    .optional fun _ device found c h => ⟨h.modelName, h.dimensions, h.cacheDirectory,
      Reader.nullable_gives (fun _ _ => Reader.trimmed_trims) found, h.batchSize⟩,
    .optional fun _ i found c h => ⟨h.modelName, h.dimensions, h.cacheDirectory, h.device, ?_⟩,
    .optional fun _ _ _ c h => ⟨h.1, h.2, h.3, h.4, h.5⟩⟩
  · obtain ⟨_, _, checked⟩ := Reader.refine_ok found
    exact (Reader.atLeast_ok checked).1
  · obtain ⟨_, _, checked⟩ := Reader.refine_ok found
    exact (Reader.between_ok checked).1

theorem plain_schema : schema.Plain :=
  ⟨rfl, by decide, by decide⟩

/-- The directory of a cache may be read as another one. -/
theorem read_toJson {c : EmbeddingConfig} (h : c.WellFormed) :
    schema.read (schema.toJson c) = .ok { c with
      cacheDirectory := c.cacheDirectory.map fun path => Path.normalize (Text.trimWhiteSpace path) } := by
  have cache : Reader.nullable Reader.pathTrimmed (Json.ofText? c.cacheDirectory) =
      .ok (c.cacheDirectory.map fun path => Path.normalize (Text.trimWhiteSpace path)) := by
    cases c.cacheDirectory with
    | none => rfl
    | some path => simp only [Json.ofText?, Json.ofOption, Reader.nullable, Reader.pathTrimmed_str]; rfl
  have device := Reader.nullable_ofText? fun device given => Reader.trimmed_str (h.device device given)
  exact plain_schema.read_toJson <| .cons (.optional (Reader.trimmed_str h.modelName)) <|
    .cons (.optional (Reader.atLeast_int h.dimensions)) <| .cons (.optional cache) <|
    .cons (.optional device) <|
    .cons (.optional (Reader.between_int h.batchSize.1 h.batchSize.2)) <| .cons .flag .nil

end EmbeddingConfig

end CodeGraph
