import CodeGraph.Proofs.CommandLine.Running
import CodeGraph.Proofs.Json.RoundTrip
import CodeGraph.Proofs.Structure.Reports

namespace CodeGraph

theorem Registry.get?_empty {Extractor : Type} (registry : Registry Extractor) : registry.get? "" = none :=
  rfl

namespace CommandLine

namespace Command

variable (session : Session) {file language : String} {data : Json} {table : TypeTable}

theorem firstFilled_cons {first : String} (filled : first ≠ "") (rest : List String) (default : String) :
    firstFilled (first :: rest) default = first := by
  rw [firstFilled, List.find?_cons_of_pos (by simpa using filled)]
  rfl

theorem extract_gives (holds : session.tree.HoldsJson file data) (known : Registry.known.get? language = some table)
    (named : ParseResult.NamedByTexts data) :
    (extract file (some language) false true).Gives session (.ok ())
      { session with value := some (.arr ((Structure.extract table data).map (·.toJson))) } := by
  have filled : language ≠ "" := by
    rintro rfl
    rw [Registry.get?_empty] at known
    cases known
  obtain ⟨result, valid, same⟩ := ParseResult.exists_validate_members named table
  refine (readJson_gives holds).bind (Gives.bind (a := result) (by rw [valid]; exact gives_orBreak_ok _ _) ?_)
  simp only [Option.getD_some, firstFilled_cons filled, known, Option.some_or]
  rw [← same]
  rfl

theorem extract_breaks (holds : session.tree.HoldsJson file data) (unnamed : ¬ ParseResult.NamedByTexts data)
    (language : Option String) (store asJson : Bool) :
    ∃ cause, (extract file language store asJson).Gives session (.error (.broken (.invalid cause))) session := by
  obtain ⟨⟨cause, refused⟩, -⟩ := ParseResult.validate_members_refused unnamed .python
  refine ⟨cause, (readJson_gives holds).bind (Gives.stop ?_)⟩
  rw [refused]
  exact gives_orBreak_error _ _

end Command

theorem asks_extract {file : String} (plain : ArgumentSpec.isOption file = false) (language : String) :
    Asks ["extract", file, "--language", language, "--json"] (.extract file (some language) false true) := by
  refine ⟨"extract", [file, "--language", language, "--json"], rfl, ?_⟩
  show Invocation.build _ [file, "--language", language, "--json"] _ = _
  rw [Invocation.build, ArgumentSpec.scan_word rfl plain]
  rfl

/-- Done without a fault, and with nothing printed but a value. -/
structure Done.Prints (done : Done) (value : Json) : Prop where
  exits : done.exitCode = 0
  faultless : done.fault = none
  gives : done.session.value = some value
  silent : done.session.printed = [] ∧ done.session.text = ""

section

variable {workplace : Workplace} {tree : FileTree} {arguments : List String} {file language : String} {data : Json}
  {table : TypeTable}

theorem run_extract_prints (asks : Asks arguments (.extract file (some language) false true))
    (known : Registry.known.get? language = some table) (holds : workplace.tree.HoldsJson file data)
    (starts : workplace.Starts tree) (named : ParseResult.NamedByTexts data) :
    ∃ done, run workplace arguments = .done done ∧
      done.Prints (.arr ((Structure.extract table data).map (·.toJson))) := by
  obtain ⟨settings, log, valid, opens⟩ := id starts
  have extracts := Command.extract_gives { workplace with tree } (holds.openFile opens) known named
  exact ⟨_, run_of_gives_ok (Command.ofArguments_gives asks starts extracts), rfl, rfl, rfl, rfl, rfl⟩

theorem run_extract_breaks (asks : Asks arguments (.extract file (some language) false true))
    (holds : workplace.tree.HoldsJson file data)
    (stuck : ¬ ((∃ tree, workplace.Starts tree) ∧ ParseResult.NamedByTexts data)) :
    ∃ done, run workplace arguments = .done done ∧ done.exitCode = 1 ∧ done.session.value = none := by
  by_cases starts : ∃ tree, workplace.Starts tree
  · have unnamed : ¬ ParseResult.NamedByTexts data := fun named => stuck ⟨starts, named⟩
    obtain ⟨tree, starts⟩ := starts
    obtain ⟨settings, log, valid, opens⟩ := id starts
    obtain ⟨cause, breaks⟩ := Command.extract_breaks { workplace with tree } (holds.openFile opens)
      unnamed language false true
    exact ⟨_, run_of_gives_broken (Command.ofArguments_gives asks starts breaks), rfl, rfl⟩
  · obtain ⟨fault, breaks⟩ := Command.ofArguments_breaks { workplace with } asks (not_exists.mp starts)
    exact ⟨_, run_of_gives_broken breaks, rfl, rfl⟩

/-- Asked for as a value, the relationships of the value in a file are printed exactly if the program starts and the
value is named by texts. Otherwise no value is printed, though a value that is not named by texts has no relationships,
so that an empty list would have been right. -/
theorem run_extract_iff (asks : Asks arguments (.extract file (some language) false true))
    (known : Registry.known.get? language = some table) (holds : workplace.tree.HoldsJson file data) :
    ∃ done, run workplace arguments = .done done ∧
      (done.Prints (.arr ((Structure.extract table data).map (·.toJson))) ↔
        (∃ tree, workplace.Starts tree) ∧ ParseResult.NamedByTexts data) ∧
      (¬ done.Prints (.arr ((Structure.extract table data).map (·.toJson))) →
        done.exitCode = 1 ∧ done.session.value = none) ∧
      (¬ ParseResult.NamedByTexts data → Structure.extract table data = []) := by
  have unnamed : ¬ ParseResult.NamedByTexts data → Structure.extract table data = [] :=
    fun unnamed => (ParseResult.validate_members_refused unnamed table).2
  by_cases prints : (∃ tree, workplace.Starts tree) ∧ ParseResult.NamedByTexts data
  · obtain ⟨⟨tree, starts⟩, named⟩ := id prints
    obtain ⟨done, same, printed⟩ := run_extract_prints asks known holds starts named
    exact ⟨done, same, iff_of_true printed prints, fun not => absurd printed not, unnamed⟩
  · obtain ⟨done, same, exits, nothing⟩ := run_extract_breaks asks holds prints
    refine ⟨done, same, iff_of_false (fun printed => ?_) prints, fun _ => ⟨exits, nothing⟩, unnamed⟩
    cases exits.symm.trans printed.exits

end

/-- A workplace with one file, in which a value is written. -/
def workplaceWith (data : Json) : Workplace where
  now := default
  tree := { nodes := [("/p.json", .file (data.indented true).toUTF8 false)] }

theorem holdsJson_workplaceWith {data : Json} (plain : data.IsPlain) (absent : '\x0d' ∉ (data.indented true).toList)
    (stands : (workplaceWith data).tree.bytes? "p.json" = some (data.indented true).toUTF8) :
    (workplaceWith data).tree.HoldsJson "p.json" data :=
  .of_text stands absent (Json.parse_indented plain true)

/-- A class that extends another one. -/
def classReport : Json :=
  .obj [("symbols", .arr [.obj [("type", .str "class"), ("name", .str "A"), ("extends", .str "B")]])]

theorem isPlain_classReport : classReport.IsPlain := by
  refine .obj (by decide) (List.forall_mem_singleton.mpr (.arr (List.forall_mem_singleton.mpr (.obj (by decide) ?_))))
  simp only [List.forall_mem_cons, List.not_mem_nil, false_imp_iff, implies_true, and_true]
  exact ⟨.str _, .str _, .str _⟩

theorem namedByTexts_classReport : ParseResult.NamedByTexts classReport := by
  intro given dropped
  cases dropped
  exact ⟨nofun, nofun⟩

theorem run_extract_iff_class :
    (workplaceWith classReport).tree.HoldsJson "p.json" classReport ∧
      ∃ done, run (workplaceWith classReport) ["extract", "p.json", "--language", "python", "--json"] = .done done ∧
        done.Prints (.arr ((Structure.extract .python classReport).map (·.toJson))) ∧
        (Structure.extract .python classReport).map (fun r => (r.source, r.type, r.target)) =
          [("A", .extends_, "B")] := by
  have holds : (workplaceWith classReport).tree.HoldsJson "p.json" classReport :=
    holdsJson_workplaceWith isPlain_classReport (by decide +kernel) (by decide +kernel)
  have starts : (workplaceWith classReport).Starts (workplaceWith classReport).tree :=
    Workplace.starts_of_unset rfl (by decide +kernel)
  obtain ⟨done, same, prints, -⟩ := run_extract_iff (asks_extract rfl "python") rfl holds
  exact ⟨holds, done, same, prints.mpr ⟨⟨_, starts⟩, namedByTexts_classReport⟩, rfl⟩

/-- A file path that is a number. -/
def numberReport : Json :=
  .obj [("filePath", .int 5)]

/-- An object with a number for its file path has no relationships, and breaks the command off. -/
theorem run_extract_number_breaks :
    Registry.known.get? "python" = some .python ∧
      (workplaceWith numberReport).tree.HoldsJson "p.json" numberReport ∧
      Structure.extract .python numberReport = [] ∧
      ∃ done, run (workplaceWith numberReport) ["extract", "p.json", "--language", "python", "--json"] = .done done ∧
        done.exitCode = 1 ∧ done.session.value = none := by
  have holds : (workplaceWith numberReport).tree.HoldsJson "p.json" numberReport :=
    holdsJson_workplaceWith (.obj (by decide) (List.forall_mem_singleton.mpr (.int (by decide)))) (by decide +kernel)
      (by decide +kernel)
  have unnamed : ¬ ParseResult.NamedByTexts numberReport := by
    intro named
    obtain ⟨s, same⟩ := (named _ rfl).1 (.int 5) rfl
    cases same
  exact ⟨rfl, holds, (ParseResult.validate_members_refused unnamed .python).2,
    run_extract_breaks (asks_extract rfl "python") holds fun prints => unnamed prints.2⟩

end CommandLine

end CodeGraph
