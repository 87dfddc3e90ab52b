import SbtWorkspace.Action
import SbtWorkspace.Layout

/-! The BSP bridge, a source file that switches the BSP server of a workspace on. An existing file is
never replaced, whatever it holds. -/

namespace SbtWorkspace.Bridge

/-- The content of the bridge source. -/
def content : String :=
  "// DO NOT EDIT! This file is auto-generated.\n" ++
  "// This file enables the sbt BSP server for editors that import through BSP.\n" ++
  "\n" ++
  "import sbt._\n" ++
  "import sbt.Keys._\n" ++
  "\n" ++
  "object SbtctlBsp extends AutoPlugin \x7b\n" ++
  "  override def requires = sbt.plugins.JvmPlugin\n" ++
  "  override def trigger = allRequirements\n" ++
  "\n" ++
  "  override def globalSettings: Seq[Def.Setting[_]] = Seq(\n" ++
  "    bspEnabled := true\n" ++
  "  )\n" ++
  "\n" ++
  "  override def projectSettings: Seq[Def.Setting[_]] = Seq(\n" ++
  "    Compile / semanticdbEnabled := true,\n" ++
  "    Test / semanticdbEnabled := true\n" ++
  "  )\n" ++
  "\x7d\n"

/-- Installs the bridge in a workspace; gives whether it was missing. -/
def install (workspace : Path) : Action Bool := do
  let target := Layout.bridge workspace
  if ← Action.isFile target then
    Action.report (.bridgePresent target)
    pure false
  else if ← Action.isDirectory workspace then
    Action.ensurePath target.parent
    Action.writeFile target (Utf8.encode content)
    Action.report (.bridgeInstalled target)
    pure true
  else throw (.notDirectory workspace)

end SbtWorkspace.Bridge
