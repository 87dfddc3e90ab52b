import SbtWorkspace.Proofs.Provision.Failing
import SbtWorkspace.Proofs.Provision.Reading
import SbtWorkspace.Proofs.Text.Blank

/-! Where the version of a command line comes from. The version in effect goes by whether the pin is empty, and
the command line by whether there is a pin. The two agree as no pin is empty, whatever the properties of a
workspace hold; so either the workspace decides the version, or the command line does. Main statement:
`version_of_ofWorkspace`. -/

namespace SbtWorkspace

namespace PinnedVersion
open FileSystem SbtWorkspace.Action SbtWorkspace.Provision

variable {text v : Text}

theorem isTrimmed_of_pinnedIn (h : pinnedIn text = .ok (some v)) : IsTrimmed CodePoint.isBlank v := by
  unfold pinnedIn at h
  cases hf : Properties.find text propertyName with
  | error e => simp [hf, bind, Except.bind] at h
  | ok value =>
    simp only [hf, bind, Except.bind, pure, Except.pure, Except.ok.injEq] at h
    split at h
    · cases h
    · injection h with h
      exact h ▸ isTrimmed_trimWhile _ _

/-- A text pins no version or one, unless it has no properties. -/
theorem pinnedIn_eq_error_iff {e : Properties.Error} :
    pinnedIn text = .error e ↔ Properties.entries text = .error e := by
  unfold pinnedIn Properties.find
  cases Properties.entries text with
  | error cause => simp [Except.map, bind, Except.bind]
  | ok found => simp [Except.map, bind, Except.bind, pure, Except.pure]

/-- Where there is a properties file, its content alone decides what is read. -/
theorem result_load_of_status {c : Context} {fs : FileSystem} {workspace : Path} {loc : Location}
    {bytes : Bytes} {executable : Bool}
    (h : fs.status c.cwd (Layout.buildProperties workspace).route = .ok (loc, .file bytes executable)) :
    (load workspace).result c fs =
      match pinnedIn (latin1 bytes) with
      | .ok pinned => .ok pinned
      | .error e => .error (.properties e) := by
  have hfile : fs.isFile c.cwd (Layout.buildProperties workspace).route = .ok true :=
    isFile_of_status h
  have hread : fs.read c.cwd (Layout.buildProperties workspace).route = .ok bytes := by
    simp [FileSystem.read, h]
  rw [result, load, run_bind, Action.isFile, run_look]
  dsimp only
  rw [hfile]
  dsimp only
  rw [if_pos rfl, run_bind, run_tryCatch, Action.readFile, run_look]
  dsimp only
  rw [hread]
  dsimp only
  rw [run_bind, run_ofExcept]
  rcases pinnedIn (latin1 bytes) with e | _ | version
  case error | ok.some => rfl
  case ok.none => rfl

end PinnedVersion

namespace Tool
open FileSystem SbtWorkspace.Action SbtWorkspace.Provision

variable {c : Context} {fs : FileSystem} {workspace : Path} {config : Config} {t : Tool}

theorem recommendedVersion_ne_empty (t : Tool) : t.recommendedVersion ≠ "" := by
  unfold recommendedVersion
  cases hf : t.config.fallbackVersion.filter (· ≠ "") with
  | none => decide
  | some v => simpa using (Option.filter_eq_some_iff.1 hf).2

theorem version_of_pinned {v : Text} (h : t.pinned = some v) (hv : v ≠ []) : t.version = v := by
  simp [version, h, Option.filter, hv]

theorem version_of_unpinned (h : t.pinned = none) : t.version = Text.ofString t.recommendedVersion := by
  simp [version, h]

/-- What the command line that exports the build comes to with some flags for the version and some options.
It takes the launcher, which without a setting is in the home directory. -/
def exportArguments (c : Context) (config : Config) (pin options : List String) :
    Except Failure (List String) :=
  match config.launcherIn? c.env with
  | none => .error .unknownHome
  | some launcher =>
    .ok (c.env.java config.javaHome :: javaFlags ++ pin ++ options ++ ["-jar", launcher.render] ++
      exportTasks)

theorem result_exportCommand (hscript : t.config.sbtScript = none) {options : List String}
    (ho : (Options.ofWorkspace workspace).result c fs = .ok options) :
    (t.exportCommand workspace).result c fs = exportArguments c t.config
      (if t.pinned.isNone then ["-Dsbt.version=" ++ t.recommendedVersion] else []) options := by
  have hcontext (m : Machine) : Action.context.run c m = (.ok c, m) := rfl
  rw [result, exportCommand, commandLine, hscript]
  dsimp only
  rw [run_bind, hcontext]
  dsimp only
  rw [run_bind, run_eq_of_fst ho]
  dsimp only
  rw [run_bind, Action.known, run_bind, hcontext, exportArguments]
  dsimp only
  cases t.config.launcherIn? c.env with
  | none => rfl
  | some launcher => rfl

/-- A tool is made of the settings and of what is read of the properties. -/
theorem result_ofWorkspace (workspace : Path) (config : Config) (c : Context) (fs : FileSystem) :
    (ofWorkspace workspace config).result c fs =
      ((PinnedVersion.load workspace).result c fs).map (⟨·, config⟩) := by
  rw [result, ofWorkspace, run_bind, result]
  rcases (PinnedVersion.load workspace).run c { files := fs } with ⟨_ | _, _⟩ <;> rfl

/-- The pin of a tool that was made, if it has one, is trimmed and not empty. -/
theorem pinned_of_ofWorkspace (h : (ofWorkspace workspace config).result c fs = .ok t) :
    t.config = config ∧ ∀ v ∈ t.pinned, v ≠ [] ∧ IsTrimmed CodePoint.isBlank v := by
  rw [result_ofWorkspace] at h
  cases hl : (PinnedVersion.load workspace).result c fs with
  | error e => simp [hl, Except.map] at h
  | ok pinned =>
    simp only [hl, Except.map, Except.ok.injEq] at h
    subst h
    refine ⟨rfl, fun v hv => ?_⟩
    obtain rfl : pinned = some v := hv
    obtain ⟨_, _, _, _, hpin⟩ := status_of_load (run_eq_of_fst hl)
    exact ⟨PinnedVersion.pinnedIn_ne_nil hpin, PinnedVersion.isTrimmed_of_pinnedIn hpin⟩

/-- One place decides the version. A pin of the workspace is trimmed and not empty; it is the version in effect,
and the command line adds none. Where there is no pin, the command line sets the version in effect, which is not
empty, right before the options. Where there is a properties file, the tool is made unless the file has no
properties, and that is the failure. -/
theorem version_of_ofWorkspace (c : Context) (fs : FileSystem) (workspace : Path) (config : Config)
    (hscript : config.sbtScript = none) :
    (∀ t, (ofWorkspace workspace config).result c fs = .ok t →
      (∀ v ∈ t.pinned, v ≠ [] ∧ IsTrimmed CodePoint.isBlank v) ∧
      (t.pinned = none → ∃ version ≠ "", t.version = Text.ofString version ∧
        ∀ options, (Options.ofWorkspace workspace).result c fs = .ok options →
          (t.exportCommand workspace).result c fs =
            exportArguments c config ["-Dsbt.version=" ++ version] options) ∧
      ∀ v ∈ t.pinned, t.version = v ∧
        ∀ options, (Options.ofWorkspace workspace).result c fs = .ok options →
          (t.exportCommand workspace).result c fs = exportArguments c config [] options) ∧
    ∀ loc bytes executable,
      fs.status c.cwd (Layout.buildProperties workspace).route = .ok (loc, .file bytes executable) →
      (∀ e, (ofWorkspace workspace config).result c fs = .error e → ∃ cause, e = .properties cause) ∧
      ((∃ e, (ofWorkspace workspace config).result c fs = .error e) ↔
        ∃ cause, Properties.entries (PinnedVersion.latin1 bytes) = .error cause) := by
  refine ⟨fun t ht => ?_, fun loc bytes executable hs => ?_⟩
  · obtain ⟨rfl, hpin⟩ := pinned_of_ofWorkspace ht
    refine ⟨hpin, fun hn => ?_, fun v hv => ?_⟩
    · refine ⟨t.recommendedVersion, t.recommendedVersion_ne_empty, version_of_unpinned hn,
        fun options ho => ?_⟩
      simp [result_exportCommand hscript ho, hn]
    · refine ⟨version_of_pinned hv (hpin v hv).1, fun options ho => ?_⟩
      simp [result_exportCommand hscript ho, Option.mem_def.1 hv]
  · simp only [result_ofWorkspace, PinnedVersion.result_load_of_status hs,
      ← PinnedVersion.pinnedIn_eq_error_iff]
    cases PinnedVersion.pinnedIn (PinnedVersion.latin1 bytes) with
    | error cause => simp [Except.map]
    | ok pinned => simp [Except.map]

def workspaceWith (properties : String) : FileSystem :=
  FileSystem.empty.place [] "ws" .directory
    |>.place ["ws"] ".jvmopts" (.file (Utf8.encode "-Xmx1G\n") false)
    |>.place ["ws"] "project" .directory
    |>.place ["project", "ws"] "build.properties" (.file (Utf8.encode properties) false)

def installation : Config :=
  { Config.default with launcherPath := some (.parse "/lib/sbt.jar"), javaHome := some (.parse "/jdk") }

def spaced : FileSystem := workspaceWith "sbt.version = \\u2003 1.5.0 \\u0085"

/-- A value of blanks only. -/
def blank : FileSystem := workspaceWith "sbt.version = \\u2003"

/-- A pin between blanks is the version in effect, and a value of blanks only is no pin. -/
theorem version_of_ofWorkspace_blanks :
    ((ofWorkspace (.parse "ws") installation).result .bare spaced =
        .ok ⟨some (Text.ofString "1.5.0"), installation⟩ ∧
      ((⟨some (Text.ofString "1.5.0"), installation⟩ : Tool).exportCommand (.parse "ws")).result
        .bare spaced = .ok ["/jdk/bin/java", "-Djline.terminal=jline.UnsupportedTerminal",
          "-Dsbt.log.noformat=true", "-Dfile.encoding=UTF-8", "-Xmx1G", "-jar", "/lib/sbt.jar",
          "-Dbloop.export-jar-classifiers=sources", "bloopInstall"]) ∧
    (ofWorkspace (.parse "ws") installation).result .bare blank = .ok ⟨none, installation⟩ ∧
      ∃ version ≠ "", Text.ofString "1.9.9" = Text.ofString version ∧
        ((⟨none, installation⟩ : Tool).exportCommand (.parse "ws")).result .bare blank =
          .ok ["/jdk/bin/java", "-Djline.terminal=jline.UnsupportedTerminal", "-Dsbt.log.noformat=true",
            "-Dfile.encoding=UTF-8", "-Dsbt.version=" ++ version, "-Xmx1G", "-jar", "/lib/sbt.jar",
            "-Dbloop.export-jar-classifiers=sources", "bloopInstall"] := by
  have hspaced : (ofWorkspace (.parse "ws") installation).result .bare spaced =
      .ok ⟨some (Text.ofString "1.5.0"), installation⟩ := by decide +kernel
  have hblank : (ofWorkspace (.parse "ws") installation).result .bare blank =
      .ok ⟨none, installation⟩ := by decide +kernel
  obtain ⟨-, -, hpinned⟩ := (version_of_ofWorkspace _ _ _ _ rfl).1 _ hspaced
  obtain ⟨-, hunpinned, -⟩ := (version_of_ofWorkspace _ _ _ _ rfl).1 _ hblank
  obtain ⟨version, hne, heq, hcommand⟩ := hunpinned rfl
  exact ⟨⟨hspaced, (hpinned _ rfl).2 ["-Xmx1G"] (by decide +kernel)⟩,
    hblank, version, hne, heq, hcommand ["-Xmx1G"] (by decide +kernel)⟩

end Tool

end SbtWorkspace
