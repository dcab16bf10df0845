import CodeGraph.Config.HookConfig
import CodeGraph.Files.Tree
import CodeGraph.Hooks.Event
import CodeGraph.Text.Utf8

namespace CodeGraph

/-- The line that marks a script made here. -/
def managedMarker : String := "# managed by repo-graph"

/-- The git directory of the repository that a path is in. -/
def FileTree.gitDirectory? (tree : FileTree) (path : String) : Except FileError (Option String) := do
  let start ← tree.resolve path
  tree.firstDirectory? ((start :: Path.ancestors start).map (Path.join · ".git"))

/-- Whether a file is a script made here. -/
def FileTree.isManaged (tree : FileTree) (path : String) : Bool :=
  match tree.bytes? path with
  | some bytes => Text.contains (Text.decodeUtf8 bytes.toList) managedMarker
  | none => false

/-- Whether the file that a path names is a script made here. -/
def FileTree.checkManaged (tree : FileTree) (path : String) : Except FileError Bool :=
  if path.toList.contains '\x00' then .error (.nullCharacter none) else .ok (tree.isManaged path)

/-- What scripts are made for: a place in a repository, the hooks that are enabled, and the command that
they run. -/
structure ScriptInstaller where
  repository : String
  config : HookConfig := {}
  command : String := "repo-graph"

/-- Why scripts could not be installed or removed. -/
inductive ScriptFailure where
  | noRepository (path : String)
  /-- The git directory cannot be looked for. -/
  | unreachable (cause : FileError)
  | cannotCreate (directory : String) (cause : FileError)
  | cannotWrite (path : String) (cause : FileError)
deriving Repr, DecidableEq

def ScriptFailure.message : ScriptFailure → String
  | .noRepository path => s!"{path} is not inside a git repository"
  | .unreachable cause => cause.message
  | .cannotCreate directory cause => s!"Cannot create {directory}: " ++ cause.message
  | .cannotWrite path cause => s!"Cannot write {path}: " ++ cause.message

namespace ScriptInstaller

/-- Hooks that git does not wait for may run in the background. -/
def mayDetach : HookType → Bool
  | .postMerge | .postCheckout => true
  | .preCommit | .prePush => false

/-- The text of a script. -/
def render (installer : ScriptInstaller) (hookType : HookType) : String :=
  let start := "#!/bin/sh\n" ++ managedMarker ++ "\n" ++ installer.command ++ " hook " ++
    hookType.name ++ " \"$@\""
  if installer.config.asyncMode && mayDetach hookType then start ++ " >/dev/null 2>&1 &\nexit 0\n"
  else start ++ "\n"

/-- The directory of the hooks. -/
def directory (installer : ScriptInstaller) (tree : FileTree) : Except ScriptFailure String :=
  match tree.gitDirectory? installer.repository with
  | .ok (some git) => .ok (Path.join git "hooks")
  | .ok none => .error (.noRepository (Path.normalize installer.repository))
  | .error cause => .error (.unreachable cause)

/-- The tree with an executable file. -/
def writeScript (tree : FileTree) (path text : String) : Except FileError FileTree := do
  let tree ← tree.write path text
  pure (tree.makeExecutable path)

/-- Installs the scripts of hooks. What was installed before a failure stays. -/
def installAll (installer : ScriptInstaller) (force : Bool) (tree : FileTree)
    (result : InstallResult) : List HookType → Except ScriptFailure InstallResult × FileTree
  | [] => (.ok result, tree)
  | hookType :: rest =>
    let path := Path.join result.directory hookType.name
    if !installer.config.isEnabled hookType.name then
      installer.installAll force tree result rest
    else if tree.has path && !tree.isManaged path && !force then
      let reason := s!"{hookType.name}: existing hook not managed by repo-graph"
      installer.installAll force tree { result with skipped := result.skipped ++ [reason] } rest
    else
      match writeScript tree path (installer.render hookType) with
      | .error cause => (.error (.cannotWrite path cause), tree)
      | .ok tree =>
        installer.installAll force tree
          { result with installed := result.installed ++ [hookType] } rest

/-- Installs the scripts of all enabled hooks. -/
def install (installer : ScriptInstaller) (force : Bool) (tree : FileTree) :
    Except ScriptFailure InstallResult × FileTree :=
  match installer.directory tree with
  | .error failure => (.error failure, tree)
  | .ok directory =>
    match tree.makeDirectories directory with
    | .error cause => (.error (.cannotCreate directory cause), tree)
    | .ok tree => installer.installAll force tree { directory } HookType.all

/-- Removes the scripts of hooks. -/
def removeAll (tree : FileTree) (result : InstallResult) :
    List HookType → InstallResult × FileTree
  | [] => (result, tree)
  | hookType :: rest =>
    let path := Path.join result.directory hookType.name
    if !tree.has path then removeAll tree result rest
    else if !tree.isManaged path then
      let reason := s!"{hookType.name}: not managed by repo-graph"
      removeAll tree { result with skipped := result.skipped ++ [reason] } rest
    else
      removeAll (tree.remove path) { result with removed := result.removed ++ [hookType] } rest

/-- Removes the scripts of all hooks. -/
def uninstall (installer : ScriptInstaller) (tree : FileTree) :
    Except ScriptFailure InstallResult × FileTree :=
  match installer.directory tree with
  | .error failure => (.error failure, tree)
  | .ok directory =>
    let (result, tree) := removeAll tree { directory } HookType.all
    (.ok result, tree)

end ScriptInstaller

end CodeGraph
