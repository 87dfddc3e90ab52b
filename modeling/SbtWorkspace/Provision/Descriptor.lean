import SbtWorkspace.Action
import SbtWorkspace.Layout
import SbtWorkspace.Provision.MetaBuild

/-! The plugin descriptor, a generated file that puts sbt-bloop on the class path of a meta-build. It is
written only where its content differs, so that nothing that watches the files sees a change. -/

namespace SbtWorkspace.Descriptor

def snapshotResolver : String := "resolvers += Resolver.bintrayRepo(\"scalacenter\", \"releases\")"

def header : String :=
  "// DO NOT EDIT! This file is auto-generated.\n" ++
  "// This file enables sbt-bloop to create bloop config files.\n"

def opening : String := "addSbtPlugin(\"ch.epfl.scala\" % \"sbt-bloop\" % \""

/-- The setting that names a version, after the version. -/
def closing : String := "\")\n"

/-- The resolvers for a version of sbt-bloop; a snapshot version has a plus sign. -/
def resolvers (bloopVersion : String) : String :=
  if bloopVersion.toList.contains '+' then snapshotResolver else ""

/-- The content of the descriptor for a version of sbt-bloop. -/
def content (bloopVersion : String) : String :=
  header ++ resolvers bloopVersion ++ "\n" ++ opening ++ bloopVersion ++ closing

def isCurrent (file : Path) (bytes : Bytes) : Action Bool := do
  if ← Action.isFile file then pure (decide ((← Action.readFile file) = bytes)) else pure false

/-- Writes a descriptor into a directory, which is made if it is missing; gives whether that was needed. -/
def write (directory : Path) (content : String) : Action Bool := do
  Action.ensurePath directory
  if ← isCurrent (Layout.descriptor directory) (Utf8.encode content) then
    Action.report (.descriptorCurrent (Layout.descriptor directory))
    pure false
  else
    Action.writeFile (Layout.descriptor directory) (Utf8.encode content)
    Action.report (.descriptorWritten (Layout.descriptor directory))
    pure true

/-- Writes a descriptor into each of some directories; gives the files that were written. -/
def writeAll (content : String) : List Path → Action (List Path)
  | [] => pure []
  | directory :: rest => do
    let written ← write directory content
    let more ← writeAll content rest
    pure (if written then Layout.descriptor directory :: more else more)

def metaBuilds (workspace : Path) : Action (List Path) := do
  let c ← Action.context
  Action.ofExcept .system (MetaBuild.discover (← Action.files) c.cwd workspace)

/-- Provisions every meta-build of a workspace, unless the user manages sbt-bloop; gives the files that
were written. -/
def provision (workspace : Path) (config : Config) : Action (List Path) := do
  if config.bloopInstalled then
    Action.report .descriptorsManaged
    pure []
  else if ← Action.isDirectory workspace then
    writeAll (content config.bloopVersion) (← metaBuilds workspace)
  else throw (.notDirectory workspace)

end SbtWorkspace.Descriptor
