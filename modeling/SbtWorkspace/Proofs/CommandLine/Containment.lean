import SbtWorkspace.Proofs.CommandLine.Launch
import SbtWorkspace.Proofs.CommandLine.Console
import SbtWorkspace.Proofs.Config.Failing
import SbtWorkspace.Proofs.Provision.Failing

/-! How commands end that do not run sbt: without a failure, with one that is printed and exit code 1, or with
one that no command reports. Of the last there are few, and each shows in what the command was given: option
files that are refused or are no text, no home directory, null bytes, and text that cannot be laid out for the
terminal or encoded for standard output. Main statement: `exists_end_of_command`. -/

namespace SbtWorkspace.CommandLine
open FileSystem Provision SbtWorkspace.Action

variable {c : Context} {m m₀ : Machine} {setup : Setup} {config : Config} {fs : FileSystem}
  {workspace : Path} {α : Type}

/-- A command that does not run sbt. -/
inductive Command where
  | info (workspace : Path) (asJson : Bool)
  | install (workspace : Path) (asJson : Bool)
  | bsp (workspace : Path) (asJson : Bool)
  | showConfig
  | initConfig (force : Bool)

namespace Command

def action (setup : Setup) : Command → Action Unit
  | info workspace asJson => CommandLine.info setup workspace asJson
  | install workspace asJson => CommandLine.install setup workspace false asJson
  | bsp workspace asJson => CommandLine.bsp setup workspace false asJson
  | showConfig => CommandLine.showConfig setup
  | initConfig force => CommandLine.initConfig setup force

def workspace? : Command → Option Path
  | info workspace _ | install workspace _ | bsp workspace _ => some workspace
  | showConfig | initConfig _ => none

def launched? : Command → Option Path
  | install workspace _ | bsp workspace _ => some workspace
  | info _ _ | showConfig | initConfig _ => none

end Command

/-! ## Ends -/

def IsToolOf (config : Config) (c : Context) (fs : FileSystem) (workspace : Path) (tool : Tool) : Prop :=
  tool.config = config ∧ ∃ m m' : Machine, m.files = fs ∧
    (PinnedVersion.load workspace).run c m = (.ok tool.pinned, m')

/-- The failures of the operations of a command, with what is printed before their messages. -/
inductive FailsWith (setup : Setup) (config : Config) (c : Context) (fs : FileSystem) :
    Command → String → Failure → Prop
  | load {command : Command} {workspace : Path} {e : Failure} {m m' : Machine} :
    command.workspace? = some workspace → m.files = fs →
    (PinnedVersion.load workspace).run c m = (.error e, m') → FailsWith setup config c fs command "" e
  | bridge {workspace : Path} {asJson : Bool} {e : Failure} {m m' : Machine} : m.files = fs →
    (Tool.supportsBsp workspace).run c m = (.error e, m') →
    FailsWith setup config c fs (.info workspace asJson) "" e
  | prepare {workspace : Path} {asJson : Bool} {tool : Tool} {e : Failure} {m m' : Machine} : m.files = fs →
    IsToolOf config c fs workspace tool → (tool.exportPrepared workspace).run c m = (.error e, m') →
    FailsWith setup config c fs (.install workspace asJson) "Failed to prepare workspace: " e
  | save {path : Path} {force : Bool} {e : Failure} {m m' : Machine} : m.files = fs →
    setup.configPath.or c.env.configPath? = some path →
    (Config.default.save (some path)).run c m = (.error e, m') →
    FailsWith setup config c fs (.initConfig force) "" e

/-- What a command lays out for standard output, if it can be. -/
inductive Shows (setup : Setup) (config : Config) (c : Context) (fs : FileSystem) :
    Command → Except Terminal.Markup.Error (List Text) → Prop
  | report {workspace : Path} {tool : Tool} (supportsBsp : Bool) : IsToolOf config c fs workspace tool →
    Shows setup config c fs (.info workspace false)
      ((propertyTable "sbt Workspace" (Report.rows ⟨workspace, tool, supportsBsp⟩)).lines
        (effectiveWidth c.env setup.width))
  | settings {launcher : Path} : config.launcherIn? c.env = some launcher →
    Shows setup config c fs .showConfig ((propertyTable "sbtctl Configuration"
      (config.entries.map (fun e => (e.1, settingText e.2)) ++
        [("launcher (effective)", Text.ofString launcher.render)])).lines
      (effectiveWidth c.env setup.width))
  | present {path : Path} : setup.configPath.or c.env.configPath? = some path →
    Shows setup config c fs (.initConfig false) (Terminal.messageLines
      (effectiveWidth c.env setup.width) (styled "info" (Text.ofString
        ("Config already exists: " ++ path.render ++ " (use --force to overwrite)"))))
  | saved {path : Path} (force : Bool) : setup.configPath.or c.env.configPath? = some path →
    Shows setup config c fs (.initConfig force) (Terminal.messageLines
      (effectiveWidth c.env setup.width) (styled "success" (Text.ofString
        ("Config written to " ++ path.render))))

/-- What a command lays out, if it can be: what it is to show, the message of a failure, or a warning. -/
inductive LaysOut (setup : Setup) (config : Config) (c : Context) (fs : FileSystem) :
    Command → Except Terminal.Markup.Error (List Text) → Prop
  | shown {command : Command} {lines : Except Terminal.Markup.Error (List Text)} :
    Shows setup config c fs command lines → LaysOut setup config c fs command lines
  | failure {command : Command} {before : String} {e : Failure} :
    FailsWith setup config c fs command before e →
    LaysOut setup config c fs command (Terminal.messageLines (effectiveWidth c.env setup.width)
      (failureText (Text.ofString before ++ e.message)))
  | tooOld {workspace : Path} {tool : Tool} : IsToolOf config c fs workspace tool →
    tool.isSupported = false →
    LaysOut setup config c fs (.info workspace false) (Terminal.messageLines
      (effectiveWidth c.env setup.width) (warningText (Text.ofString "sbt " ++ tool.version ++
        Text.ofString (" is older than " ++ Tool.minimumVersion ++ "; build import is not supported."))))

/-- The failures that leave a command unreported, and what makes each of them. -/
inductive Escapes (setup : Setup) (config : Config) (c : Context) (fs : FileSystem) :
    Command → Failure → Prop
  | undecodable {command : Command} {workspace file : Path} {bytes : Bytes} {cause : Utf8.Error} :
    command.launched? = some workspace → config.sbtScript = none → file ∈ Layout.optionFiles workspace →
    fs.read c.cwd file.route = .ok bytes → Utf8.decodeStream bytes = .error cause →
    Escapes setup config c fs command (.notText cause)
  | refused {workspace file : Path} {asJson : Bool} {fault : Fault} : config.sbtScript = none →
    file ∈ Layout.optionFiles workspace →
    (fs.probe c.cwd file.route = .error fault ∨
      fs.isFile c.cwd file.route = .ok true ∧ fs.read c.cwd file.route = .error fault) →
    Escapes setup config c fs (.bsp workspace asJson) (.system ⟨fault, file.render, none⟩)
  | homeless {command : Command} : c.env.home? = none → (∀ workspace asJson, command ≠ .info workspace asJson) →
    Escapes setup config c fs command .unknownHome
  | nulHome {workspace home : Path} {asJson : Bool} {e : Failure} : config.homeIn? c.env = some home →
    NulHome home e → Escapes setup config c fs (.install workspace asJson) e
  | nulConfig {force : Bool} {path : Path} {cause : SystemError} :
    setup.configPath.or c.env.configPath? = some path → cause.fault = .nullByte →
    ¬(path.NulFree ∧ (Path.parse (Location.render c.cwd)).NulFree) →
    Escapes setup config c fs (.initConfig force) (.system cause)
  | layout {command : Command} {cause : Terminal.Markup.Error} :
    LaysOut setup config c fs command (.error cause) → Escapes setup config c fs command (.markup cause)
  | encoding {command : Command} {lines : List Text} {cause : Utf8.Unencodable} :
    Shows setup config c fs command (.ok lines) →
    c.host.unencodable? (Terminal.joinLines lines) = some cause →
    Escapes setup config c fs command (.unencodable cause)

/-- Whether a command is ended with exit code 1, after an error was printed. -/
def EndsReported (setup : Setup) (config : Config) (c : Context) (fs : FileSystem) (command : Command)
    (e : Failure) (m : Machine) : Prop :=
  e = .exit 1 ∧ ∃ (before : String) (cause : Failure) (lines : List Text) (m₁ : Machine),
    FailsWith setup config c fs command before cause ∧
    Terminal.messageLines (effectiveWidth c.env setup.width)
      (failureText (Text.ofString before ++ cause.message)) = .ok lines ∧
    m = m₁.warned (Terminal.joinLines lines)

def Lost (setup : Setup) (config : Config) (c : Context) (fs : FileSystem) (command : Command)
    (e : Failure) (m : Machine) : Prop :=
  EndsReported setup config c fs command e m ∨ Escapes setup config c fs command e

/-! ## Printing -/

variable {command : Command}

/-- A failure that is printed ends the command, and others leave it. -/
theorem ends_reporting {kind : Failure → Bool} {before : String} {x : Action α} {post : α → Machine → Prop}
    (hfails : ∀ e m', x.run c m = (.error e, m') → FailsWith setup config c fs command before e)
    (hx : Ends c m x post fun e _ => kind e = true ∨ Escapes setup config c fs command e) :
    Ends c m (reporting setup kind before x) post (Lost setup config c fs command) := by
  refine .tryCatch hx.lost_run fun e m' he => ?_
  have hcause := hfails e m' he.2
  split
  · have hrun : (do
        printFailure setup.width (Text.ofString before ++ e.message)
        throw (.exit 1) : Action α).run c m' = _ := run_printFailure_exit _
    split at hrun
    · rename_i lines hl
      exact .of_run hrun (fun _ ha => by cases ha) fun _ hx => by
        cases hx
        exact .inl ⟨rfl, before, e, lines, m', hcause, hl, rfl⟩
    · rename_i cause hl
      exact .of_run hrun (fun _ ha => by cases ha) fun _ hx => by
        cases hx
        exact .inr (.layout (hl ▸ .failure hcause))
  · rename_i hk
    exact .throw (.inr (he.1.resolve_left hk))

/-- What is laid out is sent as a whole, or its layout is the failure. -/
theorem ends_laidOut {x : Action Unit} {lines : Except Terminal.Markup.Error (List Text)}
    {sent : Text → Except Failure Unit × Machine} (h : x.run c m = shown lines m sent)
    (hlines : LaysOut setup config c fs command lines)
    (hsent : ∀ text e, lines = .ok text → (sent (Terminal.joinLines text)).1 = .error e →
      Escapes setup config c fs command e) :
    Ends c m x (fun _ _ => True) (Lost setup config c fs command) := by
  cases lines with
  | ok text =>
    exact .of_run h (fun _ _ => trivial) fun e he => .inr (hsent text e rfl he)
  | error cause =>
    exact .of_run h (fun _ ha => by cases ha) fun _ he => by
      cases he
      exact .inr (.layout hlines)

/-- What is shown on standard output is shown as a whole, or cannot be laid out or encoded. -/
theorem ends_shown {x : Action Unit} {lines : Except Terminal.Markup.Error (List Text)}
    (h : x.run c m = shown lines m (written c m)) (hlines : Shows setup config c fs command lines) :
    Ends c m x (fun _ _ => True) (Lost setup config c fs command) := by
  refine ends_laidOut h (.shown hlines) ?_
  rintro text e rfl he
  unfold written at he
  split at he
  · cases he
  · rename_i cause hcause
    cases he
    exact .encoding hlines hcause

/-- A warning is noted as a whole, or cannot be laid out. -/
theorem ends_noted {x : Action Unit} {lines : Except Terminal.Markup.Error (List Text)}
    (h : x.run c m = shown lines m (noted m)) (hlines : LaysOut setup config c fs command lines) :
    Ends c m x (fun _ _ => True) (Lost setup config c fs command) :=
  ends_laidOut h hlines fun _ _ _ he => by cases he

theorem ends_emit (args : List String) (asJson : Bool) :
    Ends c m (emit args asJson) (fun _ _ => True) (Lost setup config c fs command) :=
  .of_run (run_printLine _) (fun _ _ => trivial) fun _ he => by cases he

/-! ## The operations of a command -/

def CanLook (c : Context) (fs : FileSystem) (path : Option Path) : Prop :=
  ∃ found there, path.or c.env.configPath? = some found ∧ fs.pathExists c.cwd found.route = .ok there

/-- Settings are not missing unless their path was looked at. -/
theorem ends_loadFile (path : Option Path) :
    Ends c m (Config.load path) (fun _ m' => m' = m ∧ CanLook c m.files path)
      fun e m' => m' = m ∧ ((∃ found, e = .config (.notFound found)) → CanLook c m.files path) := by
  have hpath : Ends c m (Config.pathOrDefault path)
      (fun found m' => m' = m ∧ path.or c.env.configPath? = some found)
      fun e m' => m' = m ∧ ((∃ found, e = .config (.notFound found)) → CanLook c m.files path) :=
    .known (fun _ h => ⟨rfl, h⟩) fun _ => ⟨rfl, fun ⟨_, he⟩ => by cases he⟩
  unfold Config.load
  refine Ends.bind hpath ?_
  rintro found m' ⟨rfl, hfound⟩
  have hlook : Ends c m' (Action.pathExists found)
      (fun there m'' => m'' = m' ∧ m'.files.pathExists c.cwd found.route = .ok there)
      fun e m'' => m'' = m' ∧ ((∃ found, e = .config (.notFound found)) → CanLook c m'.files path) :=
    .look (fun _ h => ⟨rfl, h⟩) fun _ _ => ⟨rfl, fun ⟨_, he⟩ => by cases he⟩
  refine Ends.bind hlook ?_
  rintro there m' ⟨rfl, hthere⟩
  have hcan : CanLook c m'.files path := ⟨found, there, hfound, hthere⟩
  split
  · have hread : Ends c m' (Action.readFile found) (fun _ m'' => m'' = m') fun _ m'' => m'' = m' :=
      .look (fun _ _ => rfl) fun _ _ => rfl
    have hread : Ends c m' (tryCatch (Action.readFile found) fun e => throw (Config.blame .unreadable e))
        (fun _ m'' => m'' = m') fun e m'' => m'' = m' ∧
          ((∃ found, e = .config (.notFound found)) → CanLook c m'.files path) :=
      .tryCatch hread fun _ _ h => .throw ⟨h, fun _ => hcan⟩
    refine Ends.bind hread ?_
    rintro bytes m' rfl
    have hc : Ends c m' context (fun c' m'' => c' = c ∧ m'' = m') fun _ m'' => m'' = m' := .context ⟨rfl, rfl⟩
    refine (hc.mono (fun _ _ h => h) fun _ _ h => ⟨h, fun _ => hcan⟩).bind ?_
    rintro c' m' ⟨rfl, rfl⟩
    exact .ofExcept (fun _ _ => ⟨rfl, hcan⟩) fun _ _ => ⟨rfl, fun _ => hcan⟩
  · exact .throw ⟨rfl, fun _ => hcan⟩

theorem ends_loadOrDefault (path : Option Path) :
    Ends c m (Config.loadOrDefault path) (fun _ m' => m'.files = m.files ∧ CanLook c m.files path)
      fun _ _ => True := by
  refine .tryCatch ((ends_loadFile path).mono (fun _ _ h => ⟨congrArg Machine.files h.1, h.2⟩)
    fun _ _ h => h) ?_
  rintro e m' ⟨rfl, he⟩
  split
  · exact .bind (.report ⟨rfl, he ⟨_, rfl⟩⟩) fun _ _ h => .pure h
  · exact .throw trivial

theorem run_loadConfig (h : (Config.loadOrDefault setup.configPath).run c m = (.ok config, m₀)) :
    (loadConfig setup).run c m = (.ok config, m₀) := by
  rw [loadConfig, reporting, run_tryCatch, h]

theorem ends_loadConfig {lost : Failure → Machine → Prop}
    (h : (Config.loadOrDefault setup.configPath).run c m = (.ok config, m₀)) :
    Ends c m (loadConfig setup) (fun found m' => found = config ∧ m'.files = m.files) lost := by
  have hfiles := ((ends_loadOrDefault setup.configPath).post_of_run h).1
  exact .of_run (run_loadConfig h) (fun _ ha => by cases ha; exact ⟨rfl, hfiles⟩) fun _ he => by cases he

theorem ends_loadTool (h : (Config.loadOrDefault setup.configPath).run c m = (.ok config, m₀))
    (hw : command.workspace? = some workspace) :
    Ends c m (loadTool setup workspace)
      (fun tool m' => m'.files = m.files ∧ IsToolOf config c m.files workspace tool)
      (Lost setup config c m.files command) := by
  unfold loadTool
  refine Ends.bind (ends_loadConfig h) ?_
  rintro _ m₁ ⟨rfl, hm₁⟩
  refine ends_reporting (fun e m' hrun => ?_) ?_
  · unfold Tool.ofWorkspace at hrun
    rw [run_bind] at hrun
    split at hrun
    · cases hrun
    · rename_i hload
      cases hrun
      exact .load hw hm₁ hload
  · unfold Tool.ofWorkspace
    have hload : Ends c m₁ (PinnedVersion.load workspace) (fun _ m' => m'.files = m₁.files)
        fun e _ => e.isSystem = true := ends_load workspace
    refine Ends.bind (hload.post_run.mono (fun _ _ h => h) fun _ _ h => .inl h) ?_
    rintro pinned m₂ ⟨hm₂, hrun⟩
    exact .pure ⟨hm₂.trans hm₁, rfl, m₁, m₂, hm₁, hrun⟩

/-! ## The commands -/

theorem ends_info (h : (Config.loadOrDefault setup.configPath).run c m = (.ok config, m₀))
    (hw : workspace.NulFree) (asJson : Bool) :
    Ends c m (info setup workspace asJson) (fun _ _ => True)
      (Lost setup config c m.files (.info workspace asJson)) := by
  unfold info
  refine Ends.bind (ends_loadTool h rfl) fun tool m₁ ⟨hm₁, htool⟩ => ?_
  have hbsp : Ends c m₁ (reporting setup Failure.isSystem "" (Tool.supportsBsp workspace)) (fun _ _ => True)
      (Lost setup config c m.files (.info workspace asJson)) :=
    ends_reporting (fun e m' hrun => .bridge hm₁ hrun)
      ((ends_supportsBsp hw).mono (fun _ _ h => h) fun _ _ h => .inl h)
  refine Ends.bind hbsp fun supportsBsp m₂ _ => ?_
  dsimp only
  split
  · exact .of_run (run_printLine _) (fun _ _ => trivial) fun _ he => by cases he
  · rename_i hjson
    obtain rfl : asJson = false := by simpa using hjson
    refine Ends.bind (ends_shown (run_printTable _ _) (.report supportsBsp htool)) fun _ m₃ _ => ?_
    split
    · rename_i hold
      exact ends_noted (run_printWarning _) (.tooOld htool (by simpa using hold))
    · exact .pure trivial

/-- Options that are not read are a failure of the system, which leaves `bsp` unreported, or one that leaves the command
unreported. -/
theorem escapes_of_commandLineFault (setup : Setup) (command : Command) {tool : Tool} {e : Failure}
    (htool : IsToolOf config c fs workspace tool) (hw : command.launched? = some workspace)
    (he : CommandLineFault tool workspace c fs e) :
    e.isSystem = true ∧ (∀ asJson, Escapes setup config c fs (.bsp workspace asJson) e) ∨
      Escapes setup config c fs command e := by
  obtain ⟨rfl, -⟩ := htool
  obtain ⟨hscript, ⟨file, hfile, hfault⟩ | ⟨rfl, hhome⟩⟩ := he
  · cases hfault with
    | unseen hprobe => exact .inl ⟨isSystem_of_refused (.inl hprobe), fun _ => .refused hscript hfile (.inl hprobe)⟩
    | unread hthere hread =>
      exact .inl ⟨isSystem_of_refused (.inr ⟨hthere, hread⟩), fun _ => .refused hscript hfile (.inr ⟨hthere, hread⟩)⟩
    | notText hread hdecode => exact .inr (.undecodable hw hscript hfile hread hdecode)
  · refine .inr (.homeless hhome ?_)
    rintro other asJson rfl
    cases hw

theorem ends_install (h : (Config.loadOrDefault setup.configPath).run c m = (.ok config, m₀))
    (hw : workspace.NulFree) (asJson : Bool) :
    Ends c m (install setup workspace false asJson) (fun _ _ => True)
      (Lost setup config c m.files (.install workspace asJson)) := by
  unfold install
  refine Ends.bind (ends_loadTool h rfl) fun tool m₁ ⟨hm₁, htool⟩ => ?_
  have hargs : Ends c m₁ (tool.exportCommand workspace) (fun _ _ => True)
      fun e _ => e.isSystem = true ∨ Escapes setup config c m.files (.install workspace asJson) e :=
    (ends_commandLine Tool.exportTasks true).mono (fun _ _ _ => trivial) fun e _ he =>
      (escapes_of_commandLineFault setup (.install workspace asJson) htool rfl (hm₁ ▸ he)).imp And.left id
  have hprepare (m₂ : Machine) : Ends c m₂ (discard (tool.prepare workspace)) (fun _ _ => True)
      fun e _ => e.isSystem = true ∨ Escapes setup config c m.files (.install workspace asJson) e := by
    refine .discard ((ends_prepare hw).mono (fun _ _ h => h) fun e _ he => ?_)
    obtain he | ⟨rfl, hhome⟩ | ⟨home, hhome, he⟩ := he
    · exact .inl he
    · exact .inr (.homeless hhome fun _ _ => by simp)
    · exact .inr (.nulHome (htool.1 ▸ hhome) he)
  have hprepared : Ends c m₁ (reporting setup Failure.isSystem "Failed to prepare workspace: "
      (tool.exportPrepared workspace)) (fun _ _ => True)
      (Lost setup config c m.files (.install workspace asJson)) := by
    refine ends_reporting (fun e m' hrun => .prepare hm₁ htool hrun) ?_
    unfold Tool.exportPrepared
    refine Ends.bind hargs fun args m₂ _ => ?_
    exact Ends.bind (hprepare m₂) fun _ _ _ => .pure trivial
  exact Ends.bind hprepared fun args m₂ _ => ends_emit args asJson

theorem ends_bsp (h : (Config.loadOrDefault setup.configPath).run c m = (.ok config, m₀)) (asJson : Bool) :
    Ends c m (bsp setup workspace false asJson) (fun _ _ => True)
      (Lost setup config c m.files (.bsp workspace asJson)) := by
  unfold bsp
  refine Ends.bind (ends_loadTool h rfl) fun tool m₁ ⟨hm₁, htool⟩ => ?_
  have hargs : Ends c m₁ (tool.serverCommand workspace) (fun _ _ => True)
      (Lost setup config c m.files (.bsp workspace asJson)) :=
    (ends_commandLine Tool.serverTasks false).mono (fun _ _ _ => trivial) fun e _ he =>
      .inr ((escapes_of_commandLineFault setup (.bsp workspace asJson) htool rfl (hm₁ ▸ he)).elim
        (fun hrefused => hrefused.2 asJson) id)
  exact Ends.bind hargs fun args m₂ _ => ends_emit args asJson

theorem ends_showConfig (h : (Config.loadOrDefault setup.configPath).run c m = (.ok config, m₀)) :
    Ends c m (showConfig setup) (fun _ _ => True) (Lost setup config c m.files .showConfig) := by
  unfold showConfig
  refine Ends.bind (ends_loadConfig h) ?_
  rintro config m₁ ⟨rfl, -⟩
  have hlauncher : Ends c m₁ (known config.launcherIn?)
      (fun launcher _ => config.launcherIn? c.env = some launcher)
      (Lost setup config c m.files .showConfig) :=
    .known (fun _ h => h) fun hn =>
      .inr (.homeless (home?_eq_none_of_launcherIn? hn) fun _ _ => by simp)
  exact Ends.bind hlauncher fun launcher m₂ hl => ends_shown (run_printTable _ _) (.settings hl)

theorem ends_initConfig (h : (Config.loadOrDefault setup.configPath).run c m = (.ok config, m₀))
    (force : Bool) :
    Ends c m (initConfig setup force) (fun _ _ => True)
      (Lost setup config c m.files (.initConfig force)) := by
  obtain ⟨-, path, there, hpath, hthere⟩ := (ends_loadOrDefault setup.configPath).post_of_run h
  unfold initConfig
  have hfind : Ends c m (Config.pathOrDefault setup.configPath) (fun found m' => found = path ∧ m' = m)
      (Lost setup config c m.files (.initConfig force)) := by
    refine .known (fun found hf => ⟨Option.some.inj (hf.symm.trans hpath), rfl⟩) fun hn => ?_
    rw [hn] at hpath
    cases hpath
  refine Ends.bind hfind ?_
  rintro path m ⟨rfl, rfl⟩
  have hlook : Ends c m (Action.pathExists path) (fun found m' => found = there ∧ m' = m)
      (Lost setup config c m.files (.initConfig force)) := by
    refine .look (fun found hf => ⟨?_, rfl⟩) fun fault hf => ?_
    · exact Except.ok.inj (hf.symm.trans hthere)
    · cases hf.symm.trans hthere
  refine Ends.bind hlook ?_
  rintro there m ⟨rfl, rfl⟩
  split
  · rename_i hkept
    obtain rfl : force = false := by
      cases force
      · rfl
      · simp at hkept
    exact ends_shown (run_printInfo _) (.present hpath)
  · have hsave : Ends c m (reporting setup isConfigFailure "" (Config.default.save (some path)))
        (fun saved _ => saved = path) (Lost setup config c m.files (.initConfig force)) := by
      refine ends_reporting (fun e m' hrun => .save rfl hpath hrun) (Config.ends_save.mono ?_ ?_)
      · intro saved _ hs
        exact (Option.some.inj hs).symm
      · intro e _ he
        cases he with
        | told => exact .inl rfl
        | homeless hhome => exact .inr (.homeless hhome fun _ _ => by simp)
        | nul hs hf hnul =>
          obtain rfl := Option.some.inj hs
          exact .inr (.nulConfig hpath hf hnul)
    refine Ends.bind hsave ?_
    rintro saved m' rfl
    exact ends_shown (run_printSuccess _) (.saved force hpath)

/-- Every command ends without a failure, or with one that is printed and exit code 1, or with one of the few
that are not reported. -/
theorem exists_end_of_command (command : Command)
    (hconfig : (Config.loadOrDefault setup.configPath).run c m = (.ok config, m₀))
    (hworkspace : ∀ workspace, command.workspace? = some workspace →
      ∃ loc, m.files.status c.cwd workspace.route = .ok (loc, .directory)) :
    ∃ r m', (command.action setup).run c m = (r, m') ∧
      (r = .ok () ∨ ∃ e, r = .error e ∧
        (EndsReported setup config c m.files command e m' ∨ Escapes setup config c m.files command e)) := by
  have hnul (workspace : Path) (hw : command.workspace? = some workspace) : workspace.NulFree := by
    obtain ⟨_, hs⟩ := hworkspace workspace hw
    exact nulFree_of_status hs
  have hends : Ends c m (command.action setup) (fun _ _ => True) (Lost setup config c m.files command) := by
    cases command with
    | info workspace asJson => exact ends_info hconfig (hnul workspace rfl) asJson
    | install workspace asJson => exact ends_install hconfig (hnul workspace rfl) asJson
    | bsp workspace asJson => exact ends_bsp hconfig asJson
    | showConfig => exact ends_showConfig hconfig
    | initConfig force => exact ends_initConfig hconfig force
  rcases hr : (command.action setup).run c m with ⟨e | ⟨⟩, m'⟩
  · exact ⟨_, m', rfl, .inr ⟨e, rfl, hends.lost_of_run hr⟩⟩
  · exact ⟨_, m', rfl, .inl rfl⟩

/-- A workspace with something under the name of its first option file. -/
def withOptions (node : Node) : FileSystem :=
  FileSystem.empty.place [] "ws" .directory
    |>.place ["ws"] ".sbtopts" node

def optioned : FileSystem := withOptions (.file (Utf8.encode "-Xmx1G\n") false)

/-- Where the options can be read, the workspace is prepared or the failure is printed. -/
theorem exists_end_of_install :
    ∃ r m', ((Command.install (.parse "ws") false).action plainSetup).run .bare
        { files := optioned } = (r, m') ∧
      (r = .ok () ∨ ∃ e, r = .error e ∧
        (EndsReported plainSetup .default .bare optioned (.install (.parse "ws") false) e m' ∨
          Escapes plainSetup .default .bare optioned (.install (.parse "ws") false) e)) := by
  have hconfig : ((Config.loadOrDefault plainSetup.configPath).run .bare { files := optioned }).1 =
      .ok .default := by
    decide +kernel
  have hworkspace : optioned.status [] (Path.parse "ws").route = .ok (["ws"], .directory) := by
    decide +kernel
  refine exists_end_of_command _ (run_eq_of_fst hconfig) fun workspace hw => ?_
  cases hw
  exact ⟨_, hworkspace⟩

/-- Options that are not text leave the commands that read them unreported, and options that may not be read leave
`bsp` unreported. -/
theorem options_unreported :
    ((Config.loadOrDefault plainSetup.configPath).run .bare
        { files := withOptions (.file [0xff] false) }).1 = .ok .default ∧
      (withOptions (.file [0xff] false)).status [] (Path.parse "ws").route = .ok (["ws"], .directory) ∧
      (((Command.bsp (.parse "ws") false).action plainSetup).run .bare
          { files := withOptions (.file [0xff] false) }).1 = .error (.notText (.invalidStart 0xff 0)) ∧
      (((Command.install (.parse "ws") false).action plainSetup).run .bare
          { files := withOptions (.file [0xff] false) }).1 = .error (.notText (.invalidStart 0xff 0)) ∧
      ((Config.loadOrDefault plainSetup.configPath).run .bare { files := withOptions .sealed }).1 = .ok .default ∧
      (withOptions .sealed).status [] (Path.parse "ws").route = .ok (["ws"], .directory) ∧
      (((Command.bsp (.parse "ws") false).action plainSetup).run .bare { files := withOptions .sealed }).1 =
        .error (.system ⟨.accessDenied, "ws/.sbtopts", none⟩) :=
  ⟨by decide +kernel, by decide +kernel, by decide +kernel, by decide +kernel, by decide +kernel, by decide +kernel,
    by decide +kernel⟩

end SbtWorkspace.CommandLine
