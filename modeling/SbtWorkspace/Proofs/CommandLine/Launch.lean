import Mathlib.Tactic.Common
import SbtWorkspace.CommandLine.Commands
import SbtWorkspace.Proofs.Action

/-! What is looked for before a command line is run, and what is there for the program that runs it. The
look is from one working directory, the program gets another, and only a path from the root leads to the
same from both. Main statements: `exists_of_commandLine`, the form of a command line; and
`files_of_checkInvocation`, by which the program and the jar of one that passes are files. -/

namespace SbtWorkspace.CommandLine
open FileSystem SbtWorkspace.Action

variable {c : Context} {m m₁ m' : Machine} {setup : Setup} {args before after tasks : List String}
  {program jar : String} {workspace : Path} {t : Tool} {cwd : Location} {route : Route}

/-- Whether a route leads to a regular file. -/
def LeadsToFile (fs : FileSystem) (cwd : Location) (route : Route) : Prop :=
  ∃ goal node, fs.status cwd route = .ok (goal, node) ∧ node.isRegular = true

/-- A route from the root leads to the same from everywhere. -/
theorem LeadsToFile.of_isAbsolute {fs : FileSystem} (h : LeadsToFile fs cwd route)
    (ha : route.isAbsolute = true) (other : Location) : LeadsToFile fs other route := by
  obtain ⟨goal, node, hs, hnode⟩ := h
  refine ⟨goal, node, ?_, hnode⟩
  rw [← hs]
  simp only [status, resolve, ha, if_true]

/-! ## Checks that are passed -/

theorem run_refuse_ne_ok (message : String) : (refuse setup message).run c m ≠ (.ok (), m') := by
  intro h
  unfold refuse at h
  obtain ⟨_, _, _, h⟩ := exists_of_run_bind h
  cases h

theorem commandExists_of_checkProgram (h : (checkProgram setup program).run c m = (.ok (), m')) :
    Program.commandExists m.files c.cwd c.env program = true ∧ m' = m := by
  unfold checkProgram at h
  obtain ⟨_, _, hc, h⟩ := exists_of_run_bind h
  obtain ⟨_, _, hf, h⟩ := exists_of_run_bind h
  cases hc
  cases hf
  split at h
  · cases h
    exact ⟨‹_›, rfl⟩
  · exact absurd h (run_refuse_ne_ok _)

theorem jarArgument_eq (h : "-jar" ∉ before) :
    jarArgument (before ++ "-jar" :: jar :: after) = pure (some jar) := by
  have hd : (before ++ "-jar" :: jar :: after).dropWhile (· ≠ "-jar") = "-jar" :: jar :: after := by
    rw [List.dropWhile_append_of_pos fun a ha => by simpa using fun e : a = "-jar" => h (e ▸ ha)]
    rfl
  rw [jarArgument, hd]

theorem checkJar_eq (hargs : jarArgument args = pure (some jar)) :
    checkJar setup args = (do
      if ← isFile (Path.parse jar) then pure ()
      else refuse setup ("sbt launcher not found: " ++ (Path.parse jar).render)) := by
  rw [checkJar, hargs, pure_bind]

theorem isFile_of_checkJar (hargs : jarArgument args = pure (some jar))
    (h : (checkJar setup args).run c m = (.ok (), m')) :
    LeadsToFile m.files c.cwd (Path.parse jar).route ∧ m' = m := by
  rw [checkJar_eq hargs] at h
  obtain ⟨found, _, hf, h⟩ := exists_of_run_bind h
  obtain ⟨hf, rfl⟩ := of_run_look hf
  cases found with
  | true =>
    cases h
    exact ⟨isFile_eq_true_iff.1 hf, rfl⟩
  | false =>
    rw [if_neg (by simp)] at h
    exact absurd h (run_refuse_ne_ok _)

theorem eq_of_checkJar (h : (checkJar setup args).run c m = (.ok (), m')) : m' = m := by
  have hargs : jarArgument args = pure none ∨ jarArgument args = throw .missingArgument ∨
      ∃ jar, jarArgument args = pure (some jar) := by
    rw [jarArgument]
    split
    · exact .inl rfl
    · exact .inr (.inl rfl)
    · exact .inr (.inr ⟨_, rfl⟩)
  obtain hargs | hargs | ⟨jar, hargs⟩ := hargs
  · rw [checkJar, hargs] at h
    cases h
    rfl
  · rw [checkJar, hargs] at h
    cases h
  · exact (isFile_of_checkJar hargs h).2

/-! ## The form of a command line -/

theorem java_ne (env : Environment) (javaHome : Option Path) : env.java javaHome ≠ "-jar" := by
  have hjava (p : Path) : (p / "java").render ≠ "-jar" := by
    intro he
    have hlast := congrArg (fun s : String => s.toList.getLast?) he
    rw [Path.render_div p (by decide)] at hlast
    simp at hlast
  unfold Environment.java
  cases javaHome.or ((env.nonempty? "JAVA_HOME").map .parse) with
  | none => decide
  | some home => exact hjava _

/-- A command line without a script of the user's: java with its flags, the options of the workspace, the
jar, and the tasks. -/
theorem exists_of_commandLine {pin : Bool} (hscript : t.config.sbtScript = none)
    (h : (t.commandLine workspace tasks pin).run c m = (.ok args, m')) :
    ∃ flags options launcher, "-jar" ∉ c.env.java t.config.javaHome :: flags ∧
      (Options.ofWorkspace workspace).run c m = (.ok options, m') ∧
      t.config.launcherIn? c.env = some launcher ∧
      args = c.env.java t.config.javaHome :: (flags ++ options ++ "-jar" :: launcher.render :: tasks) := by
  unfold Tool.commandLine at h
  rw [hscript] at h
  obtain ⟨_, _, hc, h₁⟩ := exists_of_run_bind h
  cases hc
  obtain ⟨options, _, hoptions, h₂⟩ := exists_of_run_bind h₁
  obtain ⟨launcher, _, hknown, h₃⟩ := exists_of_run_bind h₂
  obtain ⟨hlauncher, rfl⟩ := of_run_known hknown
  cases h₃
  refine ⟨Tool.javaFlags ++ if (pin && t.pinned.isNone) = true then
    ["-Dsbt.version=" ++ t.recommendedVersion] else [], options, launcher, ?_, hoptions, hlauncher, ?_⟩
  · have hpin : "-jar" ≠ "-Dsbt.version=" ++ t.recommendedVersion := by
      intro he
      have hl := congrArg String.toList he
      simp at hl
    have hflags : "-jar" ∉ Tool.javaFlags := by decide
    simp only [List.mem_cons, List.mem_append, not_or]
    refine ⟨(java_ne _ _).symm, hflags, ?_⟩
    split <;> simp [hpin]
  · simp [List.append_assoc]

/-! ## What the program finds -/

/-- A program that can be run, and is a path, is a file. -/
theorem leadsToFile_of_commandExists {fs : FileSystem} {env : Environment}
    (h : Program.commandExists fs cwd env program = true) (hp : Program.isPath program = true) :
    LeadsToFile fs cwd (.ofString program) := by
  rw [Program.commandExists, if_pos hp, Program.isRunnable] at h
  split at h
  · exact ⟨_, _, ‹_›, rfl⟩
  · cases h

/-- A command line of the tool that passes the checks: its program, where it is a path, and its jar, where
no option of the workspace names another, are files in the working directory. The program that is run
finds them from its own if that is the same, or by paths from the root. -/
theorem files_of_checkInvocation {command : Action (List String)} {m₂ m₃ : Machine}
    (hcommand : command = t.exportCommand workspace ∨ command = t.serverCommand workspace)
    (hscript : t.config.sbtScript = none) (h : command.run c m = (.ok args, m₁))
    (hcheck : (checkInvocation setup args).run c m₂ = (.ok (), m₃)) :
    ∃ program rest options launcher, args = program :: rest ∧
      (Options.ofWorkspace workspace).run c m = (.ok options, m₁) ∧
      t.config.launcherIn? c.env = some launcher ∧
      (launch setup args workspace).run c m₂ =
        (do throw (.exit (← Program.run args (some workspace.render) [])) : Action Unit).run c m₂ ∧
      (Program.isPath program = true → LeadsToFile m₂.files c.cwd (.ofString program)) ∧
      ("-jar" ∉ options → LeadsToFile m₂.files c.cwd launcher.route) ∧
      ∀ inner, (Program.enter (some workspace.render)).run c m₂ = (.ok inner, m₂) →
        (Program.isPath program = true → inner = c.cwd ∨ (Route.ofString program).isAbsolute = true →
          LeadsToFile m₂.files inner (.ofString program)) ∧
        ("-jar" ∉ options → inner = c.cwd ∨ launcher.route.isAbsolute = true →
          LeadsToFile m₂.files inner launcher.route) := by
  obtain ⟨tasks, pin, hform⟩ : ∃ tasks pin, command = t.commandLine workspace tasks pin :=
    hcommand.elim (fun h => ⟨_, _, h⟩) fun h => ⟨_, _, h⟩
  rw [hform] at h
  obtain ⟨flags, options, launcher, hflags, hoptions, hlauncher, rfl⟩ := exists_of_commandLine hscript h
  obtain ⟨_, _, hprogram, hjar⟩ := exists_of_run_bind hcheck
  obtain ⟨hexists, rfl⟩ := commandExists_of_checkProgram hprogram
  obtain rfl := eq_of_checkJar hjar
  have hfile := leadsToFile_of_commandExists hexists
  have hlauncherFile (hn : "-jar" ∉ options) : LeadsToFile m₃.files c.cwd launcher.route := by
    have hargs : jarArgument ((c.env.java t.config.javaHome :: (flags ++ options)) ++
        "-jar" :: launcher.render :: tasks) = pure (some launcher.render) := jarArgument_eq (by simp_all)
    have hl := (isFile_of_checkJar hargs hjar).1
    rwa [Path.parse_render] at hl
  refine ⟨_, _, options, launcher, rfl, hoptions, hlauncher, ?_, hfile, hlauncherFile,
    fun inner _ => ⟨?_, ?_⟩⟩
  · rw [launch, run_bind, hcheck]
  · rintro hp (rfl | ha)
    · exact hfile hp
    · exact (hfile hp).of_isAbsolute ha inner
  · rintro hn (rfl | ha)
    · exact hlauncherFile hn
    · exact (hlauncherFile hn).of_isAbsolute ha inner

/-- A JDK and a launcher jar beside a workspace. -/
def installed : FileSystem :=
  FileSystem.empty.place [] "jdk" .directory
    |>.place ["jdk"] "bin" .directory
    |>.place ["bin", "jdk"] "java" (.file [] true)
    |>.place [] "lib" .directory
    |>.place ["lib"] "sbt.jar" (.file [] false)
    |>.place [] "ws" .directory

/-- The tool with a JDK and a launcher jar of the user's. -/
def toolAt (javaHome launcher : String) : Tool where
  pinned := none
  config :=
    { Config.default with javaHome := some (.parse javaHome), launcherPath := some (.parse launcher) }

/-- The command line for the workspace that pins no version and has no options. -/
def argumentsAt (java launcher : String) : List String :=
  java :: Tool.javaFlags ++ ["-Dsbt.version=1.9.9", "-jar", launcher] ++ Tool.exportTasks

/-- The terminal is wide, and no configuration file is named. -/
def plainSetup : Setup := ⟨80, none⟩

/-- With paths from the root, the program that is run finds what was found before. -/
theorem files_of_checkInvocation_rooted :
    LeadsToFile installed ["ws"] (.ofString "/jdk/bin/java") ∧
      LeadsToFile installed ["ws"] (Path.parse "/lib/sbt.jar").route := by
  have hargs : (((toolAt "/jdk" "/lib/sbt.jar").exportCommand (.parse "ws")).run .bare
      { files := installed }).1 = .ok (argumentsAt "/jdk/bin/java" "/lib/sbt.jar") := by
    decide +kernel
  have hcheck : ((checkInvocation plainSetup (argumentsAt "/jdk/bin/java" "/lib/sbt.jar")).run
      .bare { files := installed }).1 = .ok () := by
    decide +kernel
  have hoptions : ((Options.ofWorkspace (.parse "ws")).run .bare { files := installed }).1 =
      .ok [] := by
    decide +kernel
  have henter : (Program.enter (some (Path.parse "ws").render)).run .bare { files := installed } =
      (.ok ["ws"], { files := installed }) :=
    Prod.ext (by decide +kernel) rfl
  obtain ⟨program, rest, options, launcher, hform, ho, hl, _, _, _, hinner⟩ :=
    files_of_checkInvocation (.inl rfl) rfl (Prod.ext hargs rfl) (Prod.ext hcheck rfl)
  obtain ⟨rfl, rfl⟩ : "/jdk/bin/java" = program ∧ _ = rest := List.cons.inj hform
  obtain rfl : Path.parse "/lib/sbt.jar" = launcher := Option.some.inj hl
  obtain rfl : [] = options := by simpa [hoptions] using congrArg Prod.fst ho
  obtain ⟨hprogram, hjar⟩ := hinner ["ws"] henter
  exact ⟨hprogram (by decide +kernel) (.inr (by decide +kernel)), hjar (by simp) (.inr (by decide +kernel))⟩

/-- With relative paths it does not: both are looked for from the directory beside the workspace, and the
program would need them in the workspace. -/
theorem checkInvocation_strays :
    (((toolAt "jdk" "lib/sbt.jar").exportCommand (.parse "ws")).run .bare
        { files := installed }).1 = .ok (argumentsAt "jdk/bin/java" "lib/sbt.jar") ∧
      ((checkInvocation plainSetup (argumentsAt "jdk/bin/java" "lib/sbt.jar")).run
        .bare { files := installed }).1 = .ok () ∧
      ((Program.enter (some (Path.parse "ws").render)).run .bare { files := installed }).1 =
        .ok ["ws"] ∧
      installed.status ["ws"] (.ofString "jdk/bin/java") = .error .noEntry ∧
      installed.status ["ws"] (Path.parse "lib/sbt.jar").route = .error .noEntry := by
  decide +kernel

end SbtWorkspace.CommandLine
