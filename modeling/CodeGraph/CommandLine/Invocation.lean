import CodeGraph.CommandLine.Arguments
import CodeGraph.Decimal.Reading
import CodeGraph.Hooks.Event

namespace CodeGraph.CommandLine

/-- A command with its arguments. Values that are not given are taken from the configuration. -/
inductive Invocation where
  | init (force : Bool) (serverUrl qdrantUrl : Option String)
  | installHooks (force : Bool)
  | uninstallHooks
  | hook (hookType : HookType) (arguments : List String)
  | impact (base : Option String) (target : String) (asJson save : Bool)
  | history (hookType : Option HookType) (limit : Int)
  | extract (file : String) (language : Option String) (store asJson : Bool)
  | discover (threshold : Option Float) (perEntity : Option Int) (all index : Bool)
  | prune (least : Option Float)
  | batch (ids : List String) (threshold : Option Float) (index : Bool)
deriving Repr

/-- What is asked of the program as a whole. -/
inductive Request where
  | help
  | version
  | command (name : String) (arguments : List String)
deriving Repr, DecidableEq

/-- An option that takes a value. -/
def valued (key : String) (names : List String) : OptionSpec :=
  { key, names, kind := .valued }

/-- Two options that turn something on and off. -/
def switch (key on off : String) : List OptionSpec :=
  [{ key, names := [on] }, { key, names := [off], kind := .flag "no" }]

def helpOption : OptionSpec := { key := "help", names := ["--help"] }

/-- Options for a command of a group of commands, which stand before the command. -/
def groupSpec (options : List OptionSpec) : ArgumentSpec :=
  { options := options ++ [helpOption], mixed := false }

/-- The name of the next command and what follows it, or none where help is asked for. -/
def nextCommand (names : List String) (arguments : Arguments) :
    Except UsageFault (String × List String) :=
  match arguments.words with
  | [] => .error .noCommand
  | name :: rest => if names.contains name then .ok (name, rest) else .error (.unknownCommand name)

def commandNames : List String :=
  ["init", "install-hooks", "uninstall-hooks", "hook", "impact", "history", "extract", "link"]

def linkCommandNames : List String := ["discover", "prune", "batch"]

/-- What is asked for by all the arguments. Of help and version the first one counts. -/
def Request.parse (arguments : List String) : Except UsageFault Request := do
  let options := [{ key := "verbose", names := ["--verbose", "-v"] },
    { key := "version", names := ["--version"] }]
  let found ← (groupSpec options).scan {} arguments
  match found.options.find? fun option => option.1 != "verbose" with
  | some ("version", _) => return .version
  | some _ => return .help
  | none =>
    let (name, rest) ← nextCommand commandNames found
    return .command name rest

namespace Arguments

/-- The value of an option as a whole number. -/
def int? (arguments : Arguments) (key : String) : Except UsageFault (Option Int) :=
  match arguments.get? key with
  | none => .ok none
  | some text => ((Decimal.readInt? text).map some).elim (.error (.badValue key text)) .ok

/-- The value of an option as a number. -/
def float? (arguments : Arguments) (key : String) : Except UsageFault (Option Float) :=
  match arguments.get? key with
  | none => .ok none
  | some text => ((Decimal.readFloat? text).map some).elim (.error (.badValue key text)) .ok

/-- Refuses words. -/
def noWords (arguments : Arguments) : Except UsageFault Unit :=
  match arguments.words with
  | [] => .ok ()
  | word :: _ => .error (.extraWord word)

/-- The first word and those after it. -/
def firstWord (arguments : Arguments) (name : String) : Except UsageFault (String × List String) :=
  match arguments.words with
  | [] => .error (.missingWord name)
  | word :: rest => .ok (word, rest)

end Arguments

/-- The hook with a name. -/
def hookNamed (name : String) : Except UsageFault HookType :=
  match HookType.ofName? name with
  | some hookType => .ok hookType
  | none => .error (.badValue "hook type" name)

namespace Invocation

/-- The options of a command, with the one that asks for help. -/
def spec (options : List OptionSpec) (passesUnknown : Bool := false) : ArgumentSpec :=
  { options := options ++ [helpOption], passesUnknown }

/-- A command made from its arguments, or none if they ask for help. -/
def build (spec : ArgumentSpec) (arguments : List String)
    (make : Arguments → Except UsageFault Invocation) : Except UsageFault (Option Invocation) := do
  let found ← spec.scan {} arguments
  if found.isOn "help" then return none
  else return some (← make found)

def force : OptionSpec := { key := "force", names := ["--force", "-f"] }

def json : OptionSpec := { key := "json", names := ["--json"] }

def threshold : OptionSpec := valued "threshold" ["--min-similarity"]

def index : List OptionSpec := switch "index" "--index" "--no-index"

/-- A command that works on links. -/
def parseLink (name : String) (arguments : List String) : Except UsageFault (Option Invocation) :=
  match name with
  | "discover" =>
    let perEntity := valued "limit" ["--max-per-entity"]
    build (spec ([threshold, perEntity, { key := "all", names := ["--all"] }] ++ index)) arguments
      fun found => do
        found.noWords
        return discover (← found.float? "threshold") (← found.int? "limit") (found.isOn "all")
          (found.isOn "index" true)
  | "prune" =>
    build (spec [valued "least" ["--min-weight"]]) arguments fun found => do
      found.noWords
      return prune (← found.float? "least")
  | _ =>
    build (spec (threshold :: index)) arguments fun found => do
      let (first, rest) ← found.firstWord "entity ids"
      return batch (first :: rest) (← found.float? "threshold") (found.isOn "index" true)

/-- A command by its name and arguments, or none if help is asked for. -/
def parse (name : String) (arguments : List String) : Except UsageFault (Option Invocation) :=
  match name with
  | "init" =>
    build (spec [force, valued "server" ["--server-url"], valued "qdrant" ["--qdrant-url"]])
      arguments fun found => do
        found.noWords
        return init (found.isOn "force") (found.get? "server") (found.get? "qdrant")
  | "install-hooks" =>
    build (spec [force]) arguments fun found => do
      found.noWords
      return installHooks (found.isOn "force")
  | "uninstall-hooks" =>
    build (spec []) arguments fun found => do
      found.noWords
      return uninstallHooks
  | "hook" =>
    build (spec [] true) arguments fun found => do
      let (first, rest) ← found.firstWord "hook type"
      return hook (← hookNamed first) rest
  | "impact" =>
    let options := [valued "base" ["--base", "-b"], valued "target" ["--target", "-t"], json]
    build (spec (options ++ switch "save" "--save" "--no-save")) arguments fun found => do
      found.noWords
      return impact (found.get? "base") ((found.get? "target").getD "HEAD") (found.isOn "json")
        (found.isOn "save" true)
  | "history" =>
    build (spec [valued "hook type" ["--hook-type"], valued "limit" ["--limit", "-n"]]) arguments
      fun found => do
        found.noWords
        let hookType ← (found.get? "hook type").mapM hookNamed
        return history hookType ((← found.int? "limit").getD 20)
  | "extract" =>
    let options := [valued "language" ["--language", "-l"], { key := "store", names := ["--store"] }]
    build (spec (options ++ [json])) arguments fun found => do
      let (file, rest) ← found.firstWord "file"
      if let word :: _ := rest then throw (.extraWord word)
      return extract file (found.get? "language") (found.isOn "store") (found.isOn "json")
  | _ => do
    let found ← (groupSpec []).scan {} arguments
    if found.isOn "help" then return none
    else
      let (name, rest) ← nextCommand linkCommandNames found
      parseLink name rest

end Invocation

end CodeGraph.CommandLine
