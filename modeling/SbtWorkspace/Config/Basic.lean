import SbtWorkspace.Environment
import SbtWorkspace.Toml.Writer

/-! The user's settings, the locations that follow from them and from the environment, and the
settings as the entries of a file. An unset setting has no entry. -/

namespace SbtWorkspace

/-- The settings that shape how sbt is launched and which plugin version is provisioned. -/
structure Config where
  /-- A launcher script that stands in for java and the launcher jar. -/
  sbtScript : Option Path := none
  /-- The JDK that runs the launcher jar. -/
  javaHome : Option Path := none
  /-- The launcher jar, if it is not at its default place. -/
  launcherPath : Option Path := none
  /-- The version of sbt-bloop in the plugin descriptors. -/
  bloopVersion : String := "1.5.6"
  /-- Whether the user manages sbt-bloop, so that no descriptor is written. -/
  bloopInstalled : Bool := false
  /-- The sbt version for workspaces that pin none. -/
  fallbackVersion : Option String := none
  /-- The directory that holds global sbt state, if it is not the home directory. -/
  homeDir : Option Path := none
  bloopVersion_ne : bloopVersion ≠ "" := by decide
  deriving DecidableEq

namespace Environment

def applicationName : String := "sbtctl"

/-- The directory for files of this program: below the one that a variable gives, or else below a
directory in the home directory, if that is known. -/
def applicationDir? (env : Environment) (name fallback : String) : Option Path :=
  match env.nonempty? name with
  | some base => some (Path.parse base / applicationName)
  | none => env.home?.map (· / fallback / applicationName)

def configDir? (env : Environment) : Option Path := env.applicationDir? "XDG_CONFIG_HOME" ".config"

def cacheDir? (env : Environment) : Option Path := env.applicationDir? "XDG_CACHE_HOME" ".cache"

/-- The configuration file. -/
def configPath? (env : Environment) : Option Path := env.configDir?.map (· / "config.toml")

def launcherPath? (env : Environment) : Option Path := env.cacheDir?.map (· / "sbt-launch.jar")

end Environment

namespace Config

/-- The settings of a user who has set nothing. -/
def default : Config := {}

/-- The launcher jar in effect. -/
def launcherIn? (c : Config) (env : Environment) : Option Path := c.launcherPath.or env.launcherPath?

/-- The home directory in effect. -/
def homeIn? (c : Config) (env : Environment) : Option Path := c.homeDir.or env.home?

/-- The entries of the settings that are set. -/
def entries (c : Config) : List (String × Toml.Scalar) :=
  let path (key : String) (p : Option Path) : List (String × Toml.Scalar) :=
    p.toList.map fun p => (key, .string p.render)
  [("bloop_version", .string c.bloopVersion),
    ("bloop_sbt_already_installed", .boolean c.bloopInstalled)]
    ++ path "sbt_script" c.sbtScript
    ++ path "java_home" c.javaHome
    ++ path "launcher_path" c.launcherPath
    ++ path "home_dir" c.homeDir
    ++ c.fallbackVersion.toList.map fun v => ("fallback_sbt_version", .string v)

/-- The content of the configuration file. -/
def serialize (c : Config) : String := Toml.render c.entries

end Config

end SbtWorkspace
