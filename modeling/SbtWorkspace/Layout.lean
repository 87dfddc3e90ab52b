import SbtWorkspace.Path.Basic
import SbtWorkspace.Text.CodePoint

/-! The places of a workspace that matter to its sbt build. -/

namespace SbtWorkspace.Layout

/-- The directory of the main meta-build. -/
def projectDir (workspace : Path) : Path := workspace / "project"

/-- The file that pins the sbt version. -/
def buildProperties (workspace : Path) : Path := projectDir workspace / "build.properties"

def descriptorName : String := "sbtctl.sbt"

/-- The plugin descriptor of a meta-build. -/
def descriptor (metaBuild : Path) : Path := metaBuild / descriptorName

def bridgeName : String := "SbtctlBsp.scala"

/-- The BSP bridge source of a workspace. -/
def bridge (workspace : Path) : Path := projectDir workspace / bridgeName

def optionFiles (workspace : Path) : List Path := [workspace / ".sbtopts", workspace / ".jvmopts"]

/-- The directory of global plugins for the line of a version: 0.13, or 1.0 for all others. -/
def globalPlugins (version : Text) (home : Path) : Path :=
  let line := if (Text.ofString "0.13").isPrefixOf version then "0.13" else "1.0"
  home / ".sbt" / line / "plugins"

def definitionEnds : List String := ["build.properties", ".sbt", ".scala"]

/-- Whether a path belongs to the definition of the top-level build: a file directly in the
workspace, its main meta-build or the meta-build of that one. -/
def isDefinition (workspace path : Path) : Bool :=
  let project := projectDir workspace
  [workspace, project, project / "project"].contains path.parent
    && definitionEnds.any fun e => e.toList.isSuffixOf path.name.toList

end SbtWorkspace.Layout
