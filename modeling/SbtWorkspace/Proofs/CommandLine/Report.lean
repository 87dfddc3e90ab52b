import SbtWorkspace.Proofs.CommandLine.Containment
import SbtWorkspace.Proofs.Invocation.PinnedVersion
import SbtWorkspace.Proofs.Provision.Reading
import SbtWorkspace.Proofs.Text.Json
import SbtWorkspace.Proofs.Version.Order

/-! The report on a workspace. The version that it names is read before the one that decides whether the
workspace can serve BSP, from the same files, and it is measured against two thresholds by one order; so the
verdicts agree. Main statement: `report_of_info`. -/

namespace SbtWorkspace

namespace Tool

variable {t : Tool}

theorem isSupported_iff :
    t.isSupported = true ↔ Version.meets (Text.ofString minimumVersion) t.version = .ok true := by
  unfold isSupported
  split
  · rename_i supported h
    simp [h]
  · rename_i h
    simp [h]

end Tool

namespace CommandLine
open FileSystem Provision SbtWorkspace.Action

variable {c : Context} {m m' : Machine} {setup : Setup} {workspace : Path} {α : Type}

/-- The first version that can serve BSP. -/
def firstWithBsp : Version := ⟨[1, 4, 1], none⟩

theorem parse_firstVersionWithBsp : Version.parse (Text.ofString firstVersionWithBsp) = .ok firstWithBsp := by
  decide +kernel

/-- What serves BSP is new enough for the build to be imported. -/
theorem meets_minimum_of_meets_bsp {version : Text}
    (h : Version.meets (Text.ofString firstVersionWithBsp) version = .ok true) :
    Version.meets (Text.ofString Tool.minimumVersion) version = .ok true :=
  Version.meets_trans (by decide +kernel) h

theorem meets_bsp_iff {version : Text} :
    Version.meets (Text.ofString firstVersionWithBsp) version = .ok true ↔
      ∃ v, Version.parse version = .ok v ∧ v.atLeast firstWithBsp = true := by
  constructor
  · intro h
    obtain ⟨_, v, -, hv, -⟩ := (Version.meets_eq_true_iff ..).1 h
    rw [Version.meets_eq parse_firstVersionWithBsp hv] at h
    exact ⟨v, hv, Except.ok.inj h⟩
  · rintro ⟨v, hv, hle⟩
    rw [Version.meets_eq parse_firstVersionWithBsp hv, hle]

theorem of_run_reporting {kind : Failure → Bool} {before : String} {x : Action α} {r : α}
    (h : (reporting setup kind before x).run c m = (.ok r, m')) : x.run c m = (.ok r, m') := by
  refine of_run_tryCatch h fun e m₁ hh => ?_
  split at hh
  · obtain ⟨_, _, _, hh⟩ := exists_of_run_bind hh
    cases hh
  · cases hh

/-- The tool of a command has the version that the workspace pins, and nothing is changed to find it. -/
theorem load_of_run_loadTool {tool : Tool} (h : (loadTool setup workspace).run c m = (.ok tool, m')) :
    m'.files = m.files ∧ ∃ m₁ : Machine, m₁.files = m.files ∧
      (PinnedVersion.load workspace).run c m₁ = (.ok tool.pinned, m') := by
  unfold loadTool at h
  obtain ⟨config, m₁, hconfig, h⟩ := exists_of_run_bind h
  have hm₁ := ((ends_loadOrDefault setup.configPath).post_of_run (of_run_reporting hconfig)).1
  have hworkspace := of_run_reporting h
  unfold Tool.ofWorkspace at hworkspace
  obtain ⟨pinned, m₂, hload, hworkspace⟩ := exists_of_run_bind hworkspace
  cases hworkspace
  exact ⟨(load_twice rfl hload hload).2.1.trans hm₁, m₁, hm₁, hload⟩

/-! ## What is printed before the report -/

theorem quiet_load (workspace : Path) : Quiet (PinnedVersion.load workspace) := by
  refine .bind (.look _ _) fun found => ?_
  split
  · refine .bind (.tryCatch (.look _ _) fun e => ?_) fun bytes => .bind (.ofExcept _ _) fun version => ?_
    · cases e <;> exact .throw _
    · cases version with
      | some version => exact .pure _
      | none => exact .bind (.report _) fun _ => .pure _
  · exact .bind (.report _) fun _ => .pure _

theorem quiet_loadOrDefault (path : Option Path) : Quiet (Config.loadOrDefault path) := by
  refine .tryCatch (.bind (.known _) fun path => .bind (.look _ _) fun found => ?_) fun e => ?_
  · split
    · exact .bind (.tryCatch (.look _ _) fun _ => .throw _) fun _ => .bind .context fun _ => .ofExcept _ _
    · exact .throw _
  · split
    · exact .bind (.report _) fun _ => .pure _
    · exact .throw _

theorem quiet_install (workspace : Path) : Quiet (Bridge.install workspace) := by
  refine .bind (.look _ _) fun found => ?_
  split
  · exact .bind (.report _) fun _ => .pure _
  refine .bind (.look _ _) fun there => ?_
  split
  · exact .bind (quiet_ensureDirectories _ _) fun _ => .bind (.change _ _) fun _ =>
      .bind (.report _) fun _ => .pure _
  · exact .throw _

theorem quiet_supportsBsp (workspace : Path) : Quiet (Tool.supportsBsp workspace) := by
  refine .bind (quiet_load workspace) fun version => ?_
  cases version with
  | none => exact .bind (.report _) fun _ => .pure _
  | some version =>
    refine .bind (.report _) fun _ => ?_
    split
    · exact .bind (.report _) fun _ => .pure _
    · exact .bind (.report _) fun _ => .pure _
    · exact .bind (.discard (quiet_install workspace)) fun _ => .pure _

theorem quiet_reporting {kind : Failure → Bool} {before : String} {x : Action α} (hx : Quiet x) :
    Quiet (reporting setup kind before x) := by
  refine .tryCatch hx fun e => ?_
  split
  · refine .bind (fun c m => ?_) fun _ => .throw _
    rw [run_printFailure]
    unfold shown
    split <;> rfl
  · exact .throw _

theorem quiet_loadTool (workspace : Path) : Quiet (loadTool setup workspace) :=
  .bind (quiet_reporting (quiet_loadOrDefault _)) fun _ =>
    quiet_reporting (.bind (quiet_load workspace) fun _ => .pure _)

/-! ## The report -/

theorem run_info {tool : Tool} {m₁ m₂ : Machine} {supportsBsp : Bool}
    (htool : (loadTool setup workspace).run c m = (.ok tool, m₁))
    (hbsp : (reporting setup Failure.isSystem "" (Tool.supportsBsp workspace)).run c m₁ =
      (.ok supportsBsp, m₂)) :
    (info setup workspace true).run c m =
      (.ok (), m₂.printed (Text.ofString (Report.toJson ⟨workspace, tool, supportsBsp⟩ ++ "\n"))) := by
  rw [info, run_bind, htool]
  dsimp only
  rw [run_bind, hbsp]
  simp only [if_true, run_printLine]
  rw [Report.toJson, Json.dropSequences_renderObject]

/-- The report is coherent: the workspace serves BSP if and only if it pins a version that is readable and new
enough. Then that version is in effect, the build is imported, and the bridge stands in its place, or a
device does; and where the build is not imported, BSP is not served and nothing was changed. -/
theorem report_of_info (h : (info setup workspace true).run c m = (.ok (), m')) :
    ∃ report : Report, report.workspace = workspace ∧
      m'.out = m.out ++ Text.ofString (report.toJson ++ "\n") ∧
      (report.supportsBsp = true ↔ ∃ text version, report.tool.pinned = some text ∧
        Version.parse text = .ok version ∧ version.atLeast firstWithBsp = true) ∧
      (report.supportsBsp = true → report.tool.pinned = some report.tool.version ∧
        report.tool.isSupported = true ∧
        LeadsToFileOrDevice m'.files c.cwd (Layout.bridge workspace).route) ∧
      (report.tool.isSupported = false → report.supportsBsp = false ∧ m'.files = m.files) := by
  obtain ⟨tool, m₁, htool, hrest⟩ := exists_of_run_bind h
  obtain ⟨supportsBsp, m₂, hbsp, -⟩ := exists_of_run_bind hrest
  rw [run_info htool hbsp] at h
  cases h
  obtain ⟨hm₁, m₀, hm₀, hload⟩ := load_of_run_loadTool htool
  have hanswer := of_run_reporting hbsp
  obtain ⟨pinned, m₃, hagain, hiff, hbridge, hsame⟩ := of_run_supportsBsp hanswer
  obtain ⟨rfl, -, -⟩ := load_twice (hm₁.trans hm₀.symm) hload hagain
  have hout : m₂.out = m.out := by
    have h₁ : ((loadTool setup workspace).run c m).2.out = m.out := quiet_loadTool workspace c m
    have h₂ := quiet_supportsBsp workspace c m₁
    rw [htool] at h₁
    rw [hanswer] at h₂
    exact h₂.trans h₁
  -- where BSP is served, the version that the tool was made with is the one that was read for it
  have hserved (hb : supportsBsp = true) : tool.pinned = some tool.version ∧ tool.isSupported = true := by
    obtain ⟨version, hpinned, hmeets⟩ := hiff.1 hb
    rw [hpinned] at hload
    obtain ⟨_, _, _, _, hin⟩ := status_of_load hload
    have hversion := Tool.version_of_pinned hpinned (PinnedVersion.pinnedIn_ne_nil hin)
    exact ⟨by rw [hpinned, hversion], Tool.isSupported_iff.2 (hversion ▸ meets_minimum_of_meets_bsp hmeets)⟩
  refine ⟨⟨workspace, tool, supportsBsp⟩, rfl, ?_, ?_, fun hb => ?_, fun hold => ?_⟩
  · rw [Machine.out_printed, hout]
  · refine hiff.trans ⟨?_, ?_⟩
    · rintro ⟨text, hpinned, hmeets⟩
      obtain ⟨version, hparse, hle⟩ := meets_bsp_iff.1 hmeets
      exact ⟨text, version, hpinned, hparse, hle⟩
    · rintro ⟨text, version, hpinned, hparse, hle⟩
      exact ⟨text, hpinned, meets_bsp_iff.2 ⟨version, hparse, hle⟩⟩
  · exact ⟨(hserved hb).1, (hserved hb).2, hbridge hb⟩
  · have hno : supportsBsp = false := by
      refine Bool.eq_false_iff.2 fun hb => ?_
      have hsupported := (hserved hb).2
      rw [hold] at hsupported
      cases hsupported
    exact ⟨hno, (hsame hno).trans hm₁⟩

/-- A workspace that pins a version, with something in the place of the bridge. -/
def pinnedWith (bridge : Node) : FileSystem :=
  FileSystem.empty.place [] "dev" .directory
    |>.place ["dev"] "null" (.device .null)
    |>.place [] "ws" .directory
    |>.place ["ws"] "project" .directory
    |>.place ["project", "ws"] "build.properties" (.file (Utf8.encode "sbt.version=1.9.9\n") false)
    |>.place ["project", "ws"] Layout.bridgeName bridge

def servingTool : Tool := ⟨some (Text.ofString "1.9.9"), .default⟩

/-- A bridge of the user's own is left, and reported as it is. -/
theorem report_of_info_present :
    ∃ report : Report, report.workspace = .parse "ws" ∧
      ((info plainSetup (.parse "ws") true).run .bare { files := pinnedWith (.file [] false) }).2.out =
        Text.ofString (report.toJson ++ "\n") ∧
      (report.supportsBsp = true → report.tool.isSupported = true) := by
  have hrun : ((info plainSetup (.parse "ws") true).run .bare
      { files := pinnedWith (.file [] false) }).1 = .ok () := by
    decide +kernel
  obtain ⟨report, hworkspace, hout, -, hserved, -⟩ := report_of_info (run_eq_of_fst hrun)
  exact ⟨report, hworkspace, hout.trans (List.nil_append _), fun hb => (hserved hb).2.1⟩

/-- A bridge that leads to a device is reported as installed, and is no regular file. -/
theorem info_diverted :
    ((info plainSetup (.parse "ws") true).run .bare { files := pinnedWith (.link "/dev/null") }).1 =
        .ok () ∧
      ((info plainSetup (.parse "ws") true).run .bare { files := pinnedWith (.link "/dev/null") }).2.out =
        Text.ofString (Report.toJson ⟨.parse "ws", servingTool, true⟩ ++ "\n") ∧
      ((info plainSetup (.parse "ws") true).run .bare
        { files := pinnedWith (.link "/dev/null") }).2.files.isFile []
          (Layout.bridge (.parse "ws")).route = .ok false := by
  have htool : ((loadTool plainSetup (.parse "ws")).run .bare
      { files := pinnedWith (.link "/dev/null") }).1 = .ok servingTool := by
    decide +kernel
  have hbsp : ((reporting plainSetup Failure.isSystem "" (Tool.supportsBsp (.parse "ws"))).run .bare
      ((loadTool plainSetup (.parse "ws")).run .bare
        { files := pinnedWith (.link "/dev/null") }).2).1 = .ok true := by
    decide +kernel
  have hafter : ((reporting plainSetup Failure.isSystem "" (Tool.supportsBsp (.parse "ws"))).run .bare
        ((loadTool plainSetup (.parse "ws")).run .bare
          { files := pinnedWith (.link "/dev/null") }).2).2.out = [] ∧
      ((reporting plainSetup Failure.isSystem "" (Tool.supportsBsp (.parse "ws"))).run .bare
        ((loadTool plainSetup (.parse "ws")).run .bare
          { files := pinnedWith (.link "/dev/null") }).2).2.files.isFile []
            (Layout.bridge (.parse "ws")).route = .ok false := by
    decide +kernel
  rw [run_info (run_eq_of_fst htool) (run_eq_of_fst hbsp)]
  simp only [Machine.out_printed, Machine.files_printed, hafter, List.nil_append, and_self]

end CommandLine

end SbtWorkspace
