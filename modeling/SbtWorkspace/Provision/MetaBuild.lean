import SbtWorkspace.FileSystem.Calls
import SbtWorkspace.FileSystem.Error
import SbtWorkspace.Layout

/-! The meta-builds of a workspace: the directories that need a plugin descriptor. `project` and
`project/project` always do. Each further level does while the level above it is a directory with
sources of its own and is not one that was walked through before: a link can lead back up. As every
step meets a new directory, the walk ends. -/

namespace SbtWorkspace.MetaBuild

def sourceSuffixes : List String := [".sbt", ".scala"]

def generatedNames : List String := [Layout.descriptorName, Layout.bridgeName]

def isSourceName (name : String) : Bool :=
  sourceSuffixes.contains (fileSuffix name) && !generatedNames.contains name

def isSource (fs : FileSystem) (cwd : Location) (directory : Path) (name : String) :
    Except SystemError Bool :=
  ((fs.isFile cwd (directory / name).route).mapError
    fun fault => ⟨fault, (directory / name).render, none⟩).map (· && isSourceName name)

theorem isSource_eq (fs : FileSystem) (cwd : Location) (directory : Path) (name : String) :
    isSource fs cwd directory name =
      match fs.isFile cwd (directory / name).route with
      | .error fault => .error ⟨fault, (directory / name).render, none⟩
      | .ok found => .ok (found && isSourceName name) := by
  unfold isSource
  cases fs.isFile cwd (directory / name).route <;> rfl

/-- Whether one of the names in a directory is that of a file and a build source. Names after the first
such one are not looked at. -/
def anySource (fs : FileSystem) (cwd : Location) (directory : Path) (names : List String) :
    Except SystemError Bool :=
  names.anyM (isSource fs cwd directory)

@[simp] theorem anySource_nil (fs : FileSystem) (cwd : Location) (directory : Path) :
    anySource fs cwd directory [] = .ok false := rfl

theorem anySource_cons (fs : FileSystem) (cwd : Location) (directory : Path) (name : String)
    (rest : List String) :
    anySource fs cwd directory (name :: rest) =
      match isSource fs cwd directory name with
      | .error e => .error e
      | .ok true => .ok true
      | .ok false => anySource fs cwd directory rest := by
  rw [anySource, List.anyM]
  cases isSource fs cwd directory name with
  | error e => rfl
  | ok found => cases found <;> rfl

def unwalked (fs : FileSystem) (walked : List Location) : List Location :=
  fs.directories.filter (!walked.contains ·)

theorem length_unwalked_lt {fs : FileSystem} {walked : List Location} {loc : Location}
    (hl : fs.lookup loc = some .directory) (hw : loc ∉ walked) :
    (unwalked fs (loc :: walked)).length < (unwalked fs walked).length := by
  have h : unwalked fs (loc :: walked) = (unwalked fs walked).filter (· ≠ loc) := by
    simp [unwalked, List.filter_filter]
  rw [h]
  refine List.length_filter_lt_length_iff_exists.2 ⟨loc, ?_, by simp⟩
  exact List.mem_filter.2 ⟨FileSystem.mem_directories hl, by simpa using hw⟩

/-- The meta-builds below a directory that was reached, where the directories at the locations of
`walked` were walked through before. Each level takes one of the finitely many directories away. -/
def below (fs : FileSystem) (cwd : Location) (walked : List Location) (current : Path) :
    Except SystemError (List Path) :=
  match hp : fs.probe cwd current.route with
  | .error fault => .error ⟨fault, current.render, none⟩
  | .ok (some (loc, .directory)) =>
    if hw : loc ∈ walked then .ok []
    else
      have := length_unwalked_lt (FileSystem.lookup_of_status (FileSystem.status_of_probe hp)) hw
      match anySource fs cwd current (fs.names loc) with
      | .error e => .error e
      | .ok false => .ok []
      | .ok true =>
        (below fs cwd (loc :: walked) (current / "project")).map (current / "project" :: ·)
  | .ok _ => .ok []
termination_by (unwalked fs walked).length

/-- The meta-builds of a workspace, the main one first. They need not exist. -/
def discover (fs : FileSystem) (cwd : Location) (workspace : Path) :
    Except SystemError (List Path) := do
  let project := Layout.projectDir workspace
  let nested ← below fs cwd [] project
  pure (project :: project / "project" :: nested.drop 1)

end SbtWorkspace.MetaBuild
