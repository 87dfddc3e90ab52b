import Mathlib.Data.List.TakeWhile
import SbtWorkspace.Proofs.CommandLine.Console
import SbtWorkspace.Proofs.CommandLine.Launch

/-! Which jar is looked for before a command line of the tool is run. The command line has the launcher
after the options of the workspace, and is searched from its start; so an option that introduces a jar
comes first. Main statement: `launch_of_command`. -/

namespace SbtWorkspace.CommandLine
open FileSystem SbtWorkspace.Action

variable {c : Context} {m m₁ : Machine} {setup : Setup} {args before options tasks : List String}
  {launcher : String} {workspace : Path} {t : Tool}

/-- The jar that a command line with these options names first: what follows the first option that
introduces a jar, or else the launcher. After the last option comes what introduces the launcher. -/
def namedJar (launcher : String) (options : List String) : String :=
  match options.dropWhile (· ≠ "-jar") with
  | [] => launcher
  | [_] => "-jar"
  | _ :: jar :: _ => jar

theorem namedJar_of_not_mem (h : "-jar" ∉ options) : namedJar launcher options = launcher := by
  have hd : options.dropWhile (· ≠ "-jar") = [] := by
    rw [List.dropWhile_eq_nil_iff]
    intro option ho
    simpa using fun e : option = "-jar" => h (e ▸ ho)
  rw [namedJar, hd]

/-- Flags before the options introduce no jar, so the first one is among the options or is the launcher. -/
theorem jarArgument_append (h : "-jar" ∉ before) :
    jarArgument (before ++ options ++ "-jar" :: launcher :: tasks) =
      pure (some (namedJar launcher options)) := by
  have hb : before.dropWhile (· ≠ "-jar") = [] := by
    rw [List.dropWhile_eq_nil_iff]
    intro flag hf
    simpa using fun e : flag = "-jar" => h (e ▸ hf)
  rw [jarArgument, List.append_assoc, List.dropWhile_append, hb, List.isEmpty_nil, if_pos rfl,
    List.dropWhile_append, namedJar]
  rcases options.dropWhile (· ≠ "-jar") with _ | ⟨_, _ | ⟨_, _⟩⟩ <;> rfl

theorem run_checkProgram {program : String}
    (h : Program.commandExists m.files c.cwd c.env program = true) :
    (checkProgram setup program).run c m = (.ok (), m) := by
  show (if Program.commandExists m.files c.cwd c.env program = true then (pure () : Action Unit)
    else refuse setup ("Command not found: " ++ program)).run c m = _
  rw [if_pos h]
  rfl

def jarCheck (setup : Setup) (jar : Path) (c : Context) (m : Machine) : Except Failure Unit × Machine :=
  match m.files.isFile c.cwd jar.route with
  | .ok true => (.ok (), m)
  | .ok false => (refuse setup ("sbt launcher not found: " ++ jar.render)).run c m
  | .error fault => (.error (.system ⟨fault, jar.render, none⟩), m)

theorem run_checkJar {jar : String} (h : jarArgument args = pure (some jar)) :
    (checkJar setup args).run c m = jarCheck setup (.parse jar) c m := by
  rw [checkJar_eq h, run_bind, Action.isFile, run_look, jarCheck]
  rcases m.files.isFile c.cwd (Path.parse jar).route with fault | _ | _
  case error | ok.true => rfl
  case ok.false => simp only [Bool.false_eq_true, if_false]

/-- A jar is reported as missing if and only if a look at it finds no regular file. -/
theorem jarCheck_eq_refuse_iff {jar : Path} :
    jarCheck setup jar c m = (refuse setup ("sbt launcher not found: " ++ jar.render)).run c m ↔
      m.files.isFile c.cwd jar.route = .ok false := by
  rw [jarCheck]
  match m.files.isFile c.cwd jar.route with
  | .ok false => simp
  | .ok true =>
    simp only [Except.ok.injEq, Bool.true_eq_false, iff_false]
    exact fun h => run_refuse_ne_ok _ h.symm
  | .error fault =>
    simp only [reduceCtorEq, iff_false]
    intro h
    rw [run_refuse] at h
    split at h <;> cases h

/-- A command line of the tool, where its java is found. The jar that is looked for is the one that the
options of the workspace name, and only without such an option the launcher of the settings; if it is no
regular file, that is what is reported, and if it is one, the command line is run. -/
theorem launch_of_command (setup : Setup) (m₂ : Machine) {command : Action (List String)}
    (hcommand : command = t.exportCommand workspace ∨ command = t.serverCommand workspace)
    (hscript : t.config.sbtScript = none) (h : command.run c m = (.ok args, m₁))
    (hjava : Program.commandExists m₂.files c.cwd c.env (c.env.java t.config.javaHome) = true) :
    ∃ options launcher jar, (Options.ofWorkspace workspace).run c m = (.ok options, m₁) ∧
      t.config.launcherIn? c.env = some launcher ∧
      jar = Path.parse (namedJar launcher.render options) ∧
      (launch setup args workspace).run c m₂ =
        (match m₂.files.isFile c.cwd jar.route with
        | .ok true =>
          (do throw (.exit (← Program.run args (some workspace.render) [])) : Action Unit).run c m₂
        | .ok false => (refuse setup ("sbt launcher not found: " ++ jar.render)).run c m₂
        | .error fault => (.error (.system ⟨fault, jar.render, none⟩), m₂)) ∧
      ((checkInvocation setup args).run c m₂ =
          (refuse setup ("sbt launcher not found: " ++ jar.render)).run c m₂ ↔
        m₂.files.isFile c.cwd jar.route = .ok false) ∧
      ("-jar" ∉ options → jar = launcher) := by
  obtain ⟨tasks, pin, hform⟩ : ∃ tasks pin, command = t.commandLine workspace tasks pin :=
    hcommand.elim (fun h => ⟨_, _, h⟩) fun h => ⟨_, _, h⟩
  rw [hform] at h
  obtain ⟨flags, options, launcher, hflags, hoptions, hlauncher, rfl⟩ := exists_of_commandLine hscript h
  have hargs : jarArgument (c.env.java t.config.javaHome ::
      (flags ++ options ++ "-jar" :: launcher.render :: tasks)) =
      pure (some (namedJar launcher.render options)) := jarArgument_append hflags
  have hcheck : (checkInvocation setup (c.env.java t.config.javaHome ::
      (flags ++ options ++ "-jar" :: launcher.render :: tasks))).run c m₂ =
      jarCheck setup (.parse (namedJar launcher.render options)) c m₂ := by
    rw [checkInvocation, run_bind, run_checkProgram hjava]
    exact run_checkJar hargs
  refine ⟨options, launcher, _, hoptions, hlauncher, rfl, ?_, ?_, fun hn => ?_⟩
  · rw [launch, run_bind, hcheck, jarCheck]
    rcases m₂.files.isFile c.cwd (Path.parse (namedJar launcher.render options)).route with fault | _ | _
    case error | ok.true => rfl
    case ok.false =>
      simp only
      rw [run_refuse]
      split
      · rename_i hr
        split at hr <;> cases hr
      · rename_i hr
        exact hr.symm
  · rw [hcheck]
    exact jarCheck_eq_refuse_iff
  · rw [namedJar_of_not_mem hn, Path.parse_render]

/-- Without options, a launcher that is not there is reported by its own path. -/
theorem launch_of_command_absent :
    (launch plainSetup (argumentsAt "/jdk/bin/java" "/lib/absent.jar") (.parse "ws")).run .bare
        { files := installed } =
      (refuse plainSetup "sbt launcher not found: /lib/absent.jar").run .bare
        { files := installed } := by
  have hargs : (((toolAt "/jdk" "/lib/absent.jar").exportCommand (.parse "ws")).run .bare
      { files := installed }).1 = .ok (argumentsAt "/jdk/bin/java" "/lib/absent.jar") := by
    decide +kernel
  have hoptions : ((Options.ofWorkspace (.parse "ws")).run .bare { files := installed }).1 =
      .ok [] := by
    decide +kernel
  have hlook : installed.isFile [] (Path.parse "/lib/absent.jar").route = .ok false := by decide +kernel
  have htext : "sbt launcher not found: " ++ (Path.parse "/lib/absent.jar").render =
      "sbt launcher not found: /lib/absent.jar" := by decide +kernel
  obtain ⟨options, launcher, jar, ho, hl, -, hlaunch, -, hjar⟩ :=
    launch_of_command plainSetup { files := installed } (.inl rfl) rfl (Prod.ext hargs rfl)
      (by decide +kernel)
  obtain rfl : [] = options := by simpa [hoptions] using congrArg Prod.fst ho
  obtain rfl : Path.parse "/lib/absent.jar" = launcher := Option.some.inj hl
  rw [hlaunch, hjar (by simp), hlook, htext]

/-- The JDK, the launcher jar and the workspace, with options in the workspace. -/
def installedWith (options : String) : FileSystem :=
  installed.place ["ws"] ".sbtopts" (.file (Utf8.encode options) false)

/-- The command line for a workspace with one option that introduces a jar. -/
def argumentsNaming (jar launcher : String) : List String :=
  "/jdk/bin/java" :: Tool.javaFlags ++ ["-Dsbt.version=1.9.9", "-jar", jar, "-jar", launcher] ++
    Tool.exportTasks

/-- The jar of an option is looked for instead of the launcher. Where it is missing, that is reported,
though the launcher is there; where it is there, nothing is reported, though the launcher is missing. -/
theorem checkInvocation_misled :
    ((((toolAt "/jdk" "/lib/sbt.jar").exportCommand (.parse "ws")).run .bare
          { files := installedWith "-jar\nmissing.jar\n" }).1 =
        .ok (argumentsNaming "missing.jar" "/lib/sbt.jar") ∧
      (installedWith "-jar\nmissing.jar\n").isFile [] (Path.parse "/lib/sbt.jar").route = .ok true ∧
      (checkInvocation plainSetup (argumentsNaming "missing.jar" "/lib/sbt.jar")).run .bare
          { files := installedWith "-jar\nmissing.jar\n" } =
        (refuse plainSetup ("sbt launcher not found: " ++ (Path.parse "missing.jar").render)).run
          .bare { files := installedWith "-jar\nmissing.jar\n" }) ∧
    (((toolAt "/jdk" "/lib/absent.jar").exportCommand (.parse "ws")).run .bare
          { files := installedWith "-jar\n/lib/sbt.jar\n" }).1 =
        .ok (argumentsNaming "/lib/sbt.jar" "/lib/absent.jar") ∧
      (installedWith "-jar\n/lib/sbt.jar\n").isFile [] (Path.parse "/lib/absent.jar").route =
        .ok false ∧
      ((checkInvocation plainSetup (argumentsNaming "/lib/sbt.jar" "/lib/absent.jar")).run .bare
        { files := installedWith "-jar\n/lib/sbt.jar\n" }).1 = .ok () := by
  refine ⟨⟨by decide +kernel, by decide +kernel, ?_⟩, by decide +kernel⟩
  have hjar : jarArgument (("/jdk/bin/java" :: Tool.javaFlags ++ ["-Dsbt.version=1.9.9"]) ++
      "-jar" :: "missing.jar" :: "-jar" :: "/lib/sbt.jar" :: Tool.exportTasks) =
      pure (some "missing.jar") := jarArgument_eq (by decide)
  have hlook : (installedWith "-jar\nmissing.jar\n").isFile [] (Path.parse "missing.jar").route =
      .ok false := by decide +kernel
  show (checkProgram plainSetup "/jdk/bin/java" >>= fun _ =>
    checkJar plainSetup (argumentsNaming "missing.jar" "/lib/sbt.jar")).run _ _ = _
  rw [run_bind, run_checkProgram (by decide +kernel)]
  exact (run_checkJar hjar).trans (jarCheck_eq_refuse_iff.2 hlook)

end SbtWorkspace.CommandLine
