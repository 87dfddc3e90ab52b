import SbtWorkspace.CommandLine.Application
import SbtWorkspace.FileSystem.Difference
import SbtWorkspace.Simulation.Run

/-! The program. It takes a picture of the directories that its commands can touch, runs on the picture,
and then makes the files what the run has made of the picture. In the picture a link is what it leads
to, and a directory that is not taken is empty. -/

namespace SbtWorkspace.Picture

def maxDepth : Nat := 64

/-- The size up to which the content of a file is taken; the files that matter are far below it. -/
def maxSize : UInt64 := 1048576

def withDirectory (fs : FileSystem) : Location → FileSystem
  | [] => fs
  | name :: parent => (withDirectory fs parent).place parent name .directory

def withEntry (fs : FileSystem) (parent : Location) (name : String) : IO FileSystem := do
  let path := Location.render (name :: parent)
  try
    let found ← (← IO.FS.realPath path).metadata
    match found.type with
    | .dir => pure (fs.place parent name .directory)
    | .file =>
      try
        let bytes ← if found.byteSize ≤ maxSize then IO.FS.readBinFile path else pure .empty
        pure (fs.place parent name (.file bytes.toList true))
      catch _ => pure (fs.place parent name .sealed)
    | _ => pure fs
  catch _ => pure fs

def withContent (fs : FileSystem) (loc : Location) : IO FileSystem := do
  try
    let entries ← (← IO.FS.realPath loc.render).readDir
    entries.toList.foldlM (fun fs entry => withEntry fs loc entry.fileName) (withDirectory fs loc)
  catch _ => pure fs

def withBuild (fs : FileSystem) : (depth : Nat) → Location → IO FileSystem
  | 0, _ => pure fs
  | depth + 1, loc => do
    let fs ← withContent fs loc
    let project := "project" :: loc
    if fs.lookup project = some .directory then withBuild fs depth project else pure fs

/-- The location of a path. -/
def locate (cwd : Path) (p : Path) : Location :=
  ((p.absolute cwd).parts.map (·.name)).reverse

def settingsPlaces (config : Config) (env : Environment) : List Path :=
  ((config.homeIn? env).toList.flatMap fun home =>
      ["0.13", "1.0"].map fun line => home / ".sbt" / line / "plugins")
    ++ (config.launcherIn? env).toList.map Path.parent
    ++ config.sbtScript.toList.map Path.parent
    ++ (config.javaHome.or ((env.nonempty? "JAVA_HOME").map .parse)).toList.map (· / "bin")
    ++ (Program.directories ((env.get? "PATH").getD Program.standardPath)).map .parse

def environment : IO Environment := do
  let names := ["HOME", "PATH", "JAVA_HOME", "XDG_CONFIG_HOME", "XDG_CACHE_HOME", "TERM", "TTY_COMPATIBLE",
    "FORCE_COLOR"]
  let values ← names.mapM fun name => do pure ((← IO.getEnv name).map fun value => (name, value))
  pure ⟨values.filterMap id, none⟩

def realize (path : String) : Option Appearance → IO Unit
  | none => IO.FS.removeFile path
  | some .directory => IO.FS.createDirAll path
  | some (.content bytes) => do
    let path ← try pure (← IO.FS.realPath path).toString catch _ => pure path
    let scratch := path ++ ".new"
    IO.FS.writeBinFile scratch ⟨bytes.toArray⟩
    IO.FS.rename scratch path
  | some .sealed | some (.link _) | some (.device _) => pure ()

def shown (t : Text) : String := String.ofList (t.map fun c => c.toChar?.getD '?')

end SbtWorkspace.Picture

open SbtWorkspace in
/-- Runs the program on the files of the machine. -/
def main (args : List String) : IO UInt32 := do
  let env ← Picture.environment
  let cwd := Path.parse (← IO.currentDir).toString
  let place := Picture.locate cwd
  let parsed := CommandLine.Arguments.parse CommandLine.globalOptions false args
  let given := (parsed.bind (·.value? "--config")).map Path.parse
  let context : Context := ⟨place ⟨.none, []⟩, env, { Simulation.host with encodes := true }⟩
  let files ← (given.or env.configPath?).toList.foldlM
    (fun fs p => Picture.withContent fs (place p.parent)) FileSystem.empty
  let config := match ((Config.loadOrDefault given).run context { files }).1 with
    | .ok config => config
    | .error _ => Config.default
  let files ← (Picture.settingsPlaces config env).foldlM
    (fun fs p => Picture.withContent fs (place p)) files
  let workspaces := ⟨.none, []⟩ :: args.map Path.parse
  let files ← workspaces.foldlM (fun fs p => Picture.withBuild fs Picture.maxDepth (place p)) files
  let (result, machine) := (CommandLine.main args).run context { files }
  for (path, appearance) in FileSystem.differences [] files machine.files do
    Picture.realize ("/" ++ path) appearance
  for event in machine.events do
    IO.eprintln (event.level.name ++ " " ++ Picture.shown event.message)
  IO.print (Picture.shown machine.out)
  IO.eprint (Picture.shown machine.err)
  match result with
  | .ok () => pure 0
  | .error (.exit code) => pure (code % 256).toNat.toUInt32
  | .error failure =>
    IO.eprintln (Picture.shown failure.message)
    pure 1
