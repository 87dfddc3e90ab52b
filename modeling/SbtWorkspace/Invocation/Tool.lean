import SbtWorkspace.Invocation.Options
import SbtWorkspace.PinnedVersion
import SbtWorkspace.Provision.Bridge
import SbtWorkspace.Provision.Descriptor
import SbtWorkspace.Provision.Legacy

/-! sbt as it is run for a workspace: the version in effect, the command lines that export the build or
describe its server, and what has to be in place before. -/

namespace SbtWorkspace

/-- sbt for one workspace: the version that the workspace pins, and the user's settings. -/
structure Tool where
  pinned : Option Text
  config : Config
  deriving DecidableEq

namespace Tool

/-- The name of the tool and of its executable. -/
def name : String := "sbt"

def minimumVersion : String := "0.13.17"

/-- The version for workspaces that pin none, if the user has set no other. -/
def recommended : String := "1.9.9"

/-- The tool for the version that a workspace pins. -/
def ofWorkspace (workspace : Path) (config : Config) : Action Tool := do
  pure ⟨← PinnedVersion.load workspace, config⟩

/-- The version for workspaces that pin none. An empty setting does not count. -/
def recommendedVersion (t : Tool) : String :=
  (t.config.fallbackVersion.filter (· ≠ "")).getD recommended

/-- The version in effect. An empty pin does not count. -/
def version (t : Tool) : Text :=
  (t.pinned.filter (· ≠ [])).getD (Text.ofString t.recommendedVersion)

/-- Whether the version in effect is readable and not too old. -/
def isSupported (t : Tool) : Bool :=
  match Version.meets (Text.ofString minimumVersion) t.version with
  | .ok supported => supported
  | .error _ => false

/-- The tasks that export the build. -/
def exportTasks : List String := ["-Dbloop.export-jar-classifiers=sources", "bloopInstall"]

def serverTasks : List String := ["bspConfig"]

/-- The flags that keep the output of sbt plain. -/
def javaFlags : List String :=
  ["-Djline.terminal=jline.UnsupportedTerminal", "-Dsbt.log.noformat=true", "-Dfile.encoding=UTF-8"]

end Tool

/-- The java executable: of the given JDK, of the one in the environment, or by its bare name. -/
def Environment.java (env : Environment) (javaHome : Option Path) : String :=
  let home := javaHome.or ((env.nonempty? "JAVA_HOME").map .parse)
  match home with
  | some home => (home / "bin" / "java").render
  | none => "java"

namespace Tool

/-- The command line that runs tasks. Where the workspace pins no version and `pin` is set, the version
in effect is pinned on the command line. -/
def commandLine (t : Tool) (workspace : Path) (tasks : List String) (pin : Bool) :
    Action (List String) := do
  match t.config.sbtScript with
  | some script => pure (script.render :: tasks)
  | none => do
    let c ← Action.context
    let pinArgs :=
      if pin && t.pinned.isNone then ["-Dsbt.version=" ++ t.recommendedVersion] else []
    let options ← Options.ofWorkspace workspace
    let launcher ← Action.known t.config.launcherIn?
    pure (c.env.java t.config.javaHome :: javaFlags ++ pinArgs ++ options
      ++ ["-jar", launcher.render] ++ tasks)

/-- The command line that exports the build. -/
def exportCommand (t : Tool) (workspace : Path) : Action (List String) :=
  t.commandLine workspace exportTasks true

/-- The command line that describes the BSP server. -/
def serverCommand (t : Tool) (workspace : Path) : Action (List String) :=
  t.commandLine workspace serverTasks false

/-- Removes the global descriptor and provisions the workspace; gives the files that were written. -/
def prepare (t : Tool) (workspace : Path) : Action (List Path) := do
  discard (Legacy.remove t.version (← Action.known t.config.homeIn?))
  Descriptor.provision workspace t.config

/-- The command line that exports the build, in a workspace that is prepared for it. -/
def exportPrepared (t : Tool) (workspace : Path) : Action (List String) := do
  let args ← t.exportCommand workspace
  discard (t.prepare workspace)
  pure args

/-- Whether the version that a workspace pins now can serve BSP. Where it can, the bridge is installed;
otherwise the reason is reported. -/
def supportsBsp (workspace : Path) : Action Bool := do
  match ← PinnedVersion.load workspace with
  | none => do
    Action.report (.versionMissing workspace)
    pure false
  | some version => do
    Action.report (.versionFound version)
    match Version.meets (Text.ofString firstVersionWithBsp) version with
    | .error _ => do
      Action.report (.versionUnrecognized version workspace)
      pure false
    | .ok false => do
      Action.report (.bspUnsupported version)
      pure false
    | .ok true => do
      discard (Bridge.install workspace)
      pure true

end Tool

end SbtWorkspace
