import CodeGraph.CommandLine.Commands
import CodeGraph.Proofs.Files.Opening
import CodeGraph.Proofs.Text.Encoding
import CodeGraph.Proofs.Text.Lines

namespace CodeGraph

namespace FileTree

variable {tree : FileTree} {file text : String} {data : Json}

/-- A file whose bytes are the text of a JSON value. -/
def HoldsJson (tree : FileTree) (file : String) (data : Json) : Prop :=
  ∃ bytes, tree.bytes? file = some bytes ∧ Text.utf8Fault? bytes.toList = none ∧
    Json.parse (String.ofList (Text.unifyLineEnds (Text.decodeUtf8 bytes.toList).toList)) = .ok data

theorem HoldsJson.of_text (stands : tree.bytes? file = some text.toUTF8) (absent : '\x0d' ∉ text.toList)
    (parses : Json.parse text = .ok data) : tree.HoldsJson file data := by
  refine ⟨_, stands, Text.utf8Fault?_toUTF8 text, ?_⟩
  rw [Text.decodeUtf8_toUTF8, Text.unifyLineEnds_of_notMem absent, String.ofList_toList, parses]

/-- Opening the log file leaves every file with its value. -/
theorem HoldsJson.openFile {settings : GlobalSettings} {log : Option String} {opened : FileTree}
    (holds : tree.HoldsJson file data) (opens : Logging.openFile settings tree = .ok (log, opened)) :
    opened.HoldsJson file data := by
  obtain ⟨bytes, found, denotes⟩ := holds
  exact ⟨bytes, Logging.openFile_bytes? opens found, denotes⟩

end FileTree

namespace CommandLine

/-- Arguments from which an invocation of a command is understood. -/
def Asks (arguments : List String) (invocation : Invocation) : Prop :=
  ∃ name rest, Request.parse arguments = .ok (.command name rest) ∧ Invocation.parse name rest = .ok (some invocation)

theorem ArgumentSpec.scan_word {spec : ArgumentSpec} (mixed : spec.mixed = true) {word : String}
    (plain : isOption word = false) (found : Arguments) (rest : List String) :
    spec.scan found (word :: rest) = spec.scan { found with words := found.words ++ [word] } rest := by
  have other : (word == "--") = false := by
    rw [beq_eq_false_iff_ne]
    rintro rfl
    cases plain
  rw [scan, other, plain, mixed]
  rfl

/-- The settings of a workplace are valid, and opening the log file, if they ask for one, leaves a file tree. -/
def Workplace.Starts (workplace : Workplace) (tree : FileTree) : Prop :=
  ∃ settings log, GlobalSettings.load workplace.home [] workplace.environment (workplace.tree.read? ".env") =
    .ok settings ∧ Logging.openFile settings workplace.tree = .ok (log, tree)

/-- Without variables, the settings are the default ones, which ask for no log file. -/
theorem Workplace.starts_of_unset {workplace : Workplace} (unset : workplace.environment = [])
    (absent : workplace.tree.read? ".env" = none) : workplace.Starts workplace.tree := by
  refine ⟨(GlobalSettings.schema workplace.home).initial, none, ?_, rfl⟩
  rw [unset, absent]
  rfl

namespace Command

variable {α β ε : Type} {session middle after : Session} {command : Command α}

/-- Run in a session, a command asks for nothing and leads to a result and another session. -/
def Gives (command : Command α) (session : Session) (result : Except Ending α) (after : Session) : Prop :=
  command.run.run session = .done (result, after)

theorem Gives.bind {a : α} {further : α → Command β} {result : Except Ending β}
    (gives : command.Gives session (.ok a) middle) (goesOn : (further a).Gives middle result after) :
    (command >>= further).Gives session result after := by
  show (command.run.run session).bind _ = _
  rw [gives]
  exact goesOn

theorem Gives.stop {further : α → Command β} {ending : Ending} (gives : command.Gives session (.error ending) after) :
    (command >>= further).Gives session (.error ending) after := by
  show (command.run.run session).bind _ = _
  rw [gives]
  rfl

theorem gives_get : (get : Command Session).Gives session (.ok session) session :=
  rfl

theorem gives_orBreak_ok (fault : ε → Fault) (a : α) : (orBreak fault (.ok a)).Gives session (.ok a) session :=
  rfl

theorem gives_orBreak_error (fault : ε → Fault) (e : ε) :
    (orBreak fault (.error e) : Command α).Gives session (.error (.broken (fault e))) session :=
  rfl

theorem settings_gives {found : GlobalSettings}
    (valid : GlobalSettings.load session.home [] session.environment (session.tree.read? ".env") = .ok found) :
    settings.Gives session (.ok found) session :=
  gives_get.bind (by rw [valid]; rfl)

theorem openLog_gives {tree : FileTree} (starts : session.Starts tree) :
    openLog.Gives session (.ok ()) { session with tree } := by
  obtain ⟨found, log, valid, opened⟩ := starts
  refine (settings_gives valid).bind (gives_get.bind ?_)
  rw [opened]
  rfl

theorem openLog_breaks (stuck : ∀ tree, ¬ session.Starts tree) :
    ∃ fault, openLog.Gives session (.error (.broken fault)) session := by
  cases valid : GlobalSettings.load session.home [] session.environment (session.tree.read? ".env") with
  | error cause => exact ⟨.settings cause, .stop (gives_get.bind (by rw [valid]; rfl))⟩
  | ok found =>
    cases opened : Logging.openFile found session.tree with
    | error cause =>
      refine ⟨.file cause, (settings_gives valid).bind (gives_get.bind ?_)⟩
      rw [opened]
      rfl
    | ok made => exact absurd ⟨found, made.1, valid, opened⟩ (stuck made.2)

theorem readJson_gives {file : String} {data : Json} (holds : session.tree.HoldsJson file data) :
    (readJson file).Gives session (.ok data) session := by
  obtain ⟨bytes, found, faultless, denotes⟩ := holds
  refine gives_get.bind ?_
  rw [found]
  dsimp only
  rw [faultless]
  dsimp only
  rw [denotes]
  rfl

section

variable {arguments : List String} {invocation : Invocation}

theorem ofArguments_eq (asks : Asks arguments invocation) :
    ofArguments arguments = openLog >>= fun _ => perform invocation := by
  obtain ⟨name, rest, understood, made⟩ := asks
  unfold ofArguments
  rw [understood]
  dsimp only
  rw [made]

theorem ofArguments_gives {tree : FileTree} {result : Except Ending Unit} (asks : Asks arguments invocation)
    (starts : session.Starts tree) (performs : (perform invocation).Gives { session with tree } result after) :
    (ofArguments arguments).Gives session result after := by
  rw [ofArguments_eq asks]
  exact (openLog_gives starts).bind performs

theorem ofArguments_breaks (session : Session) (asks : Asks arguments invocation)
    (stuck : ∀ tree, ¬ session.Starts tree) :
    ∃ fault, (ofArguments arguments).Gives session (.error (.broken fault)) session := by
  obtain ⟨fault, breaks⟩ := openLog_breaks stuck
  rw [ofArguments_eq asks]
  exact ⟨fault, breaks.stop⟩

end

end Command

section

variable {workplace : Workplace} {arguments : List String} {session : Session}

theorem run_of_gives_ok (gives : (Command.ofArguments arguments).Gives { workplace with } (.ok ()) session) :
    run workplace arguments = .done { exitCode := 0, session } := by
  show ((Command.ofArguments arguments).run.run { workplace with }).bind _ = _
  rw [gives]
  rfl

theorem run_of_gives_broken {fault : Fault}
    (gives : (Command.ofArguments arguments).Gives { workplace with } (.error (.broken fault)) session) :
    run workplace arguments = .done { exitCode := 1, fault := some fault, session } := by
  show ((Command.ofArguments arguments).run.run { workplace with }).bind _ = _
  rw [gives]
  rfl

end

end CommandLine

end CodeGraph
