import SbtWorkspace.Proofs.Provision.Failing
import SbtWorkspace.Proofs.Provision.Idempotence
import SbtWorkspace.Proofs.Provision.Reading
import SbtWorkspace.Proofs.Provision.Spared
import SbtWorkspace.Proofs.Version.Order

/-! What the question whether a workspace can serve BSP does to the workspace. The version is read from a file in
the directory of the bridge, so whoever comes to the bridge finds its directory; what is left to go wrong is that
a directory stands in its place. A device there takes the bridge and keeps nothing of it. Main statements:
`answered_of_supportsBsp`, by which the question has four ends, and from it `effect_of_supportsBsp`. -/

namespace SbtWorkspace.Provision
open FileSystem SbtWorkspace.Action

variable {c : Context} {m m' : Machine} {fs b a : FileSystem} {cwd loc top : Location} {workspace : Path}

/-! ## How the question ends -/

/-- Whether a version can serve BSP: it can be read, and is no older than the first one that can. -/
def ServesBsp (text : Text) : Prop :=
  ∃ first version, Version.parse (Text.ofString firstVersionWithBsp) = .ok first ∧
    Version.parse text = .ok version ∧ version.atLeast first = true

/-- Whether a symbolic link stands where a route ends. -/
def EndsInLink (fs : FileSystem) (cwd : Location) (route : Route) : Prop :=
  ∃ place target, fs.resolve cwd .kept route = .ok (.found place (.link target))

/-- What became of a workspace that can serve BSP. A file in the place of the bridge is left as it is, and so is a
device, which keeps nothing; where nothing stood, the bridge is all that is new. -/
inductive Equipped (cwd : Location) (workspace : Path) (b : FileSystem) : FileSystem → Prop
  | found {place : Location} {node : Node} : b.status cwd (Layout.bridge workspace).route = .ok (place, node) →
    node.isRegular = true → Equipped cwd workspace b b
  | lost {place : Location} {kind : Device} :
    b.status cwd (Layout.bridge workspace).route = .ok (place, .device kind) → Equipped cwd workspace b b
  | installed {place : Location} {a : FileSystem} : b.lookup place = none →
    a.status cwd (Layout.bridge workspace).route = .ok (place, .file (Utf8.encode Bridge.content) false) →
    (∀ other, other ≠ place → a.lookup other = b.lookup other) → Equipped cwd workspace b a

/-- Whether a directory stands in the place of the bridge. -/
def IsOccupied (fs : FileSystem) (cwd : Location) (workspace : Path) : Prop :=
  ∃ place, fs.status cwd (Layout.bridge workspace).route = .ok (place, .directory)

/-- The failure to write the bridge where a directory stands. -/
def bridgeOccupied (workspace : Path) : Failure := .system ⟨.isDirectory, (Layout.bridge workspace).render, none⟩

/-- How the question ends, by the version that was read: only with a yes can something have changed. -/
inductive Answered (cwd : Location) (workspace : Path) (b : FileSystem) :
    Except Failure (Option Text) → Except Failure Bool → FileSystem → Prop
  | unread {e : Failure} : VersionFault b cwd workspace e → Answered cwd workspace b (.error e) (.error e) b
  | declined {pinned : Option Text} : (∀ text, pinned = some text → ¬ServesBsp text) →
    Answered cwd workspace b (.ok pinned) (.ok false) b
  | obstructed {text : Text} : ServesBsp text → IsOccupied b cwd workspace →
    Answered cwd workspace b (.ok (some text)) (.error (bridgeOccupied workspace)) b
  | served {text : Text} {a : FileSystem} : ServesBsp text → Equipped cwd workspace b a →
    Answered cwd workspace b (.ok (some text)) (.ok true) a

section

variable {pinned : Except Failure (Option Text)} {answer : Except Failure Bool}

/-- Without a yes nothing was changed. -/
theorem Answered.unchanged (h : Answered cwd workspace b pinned answer a) (hno : answer ≠ .ok true) : a = b := by
  cases h with
  | unread | declined | obstructed => rfl
  | served => exact absurd rfl hno

theorem Answered.of_yes (h : Answered cwd workspace b pinned (.ok true) a) :
    (∃ text, pinned = .ok (some text) ∧ ServesBsp text) ∧ Equipped cwd workspace b a := by
  cases h with
  | served hserves hequipped => exact ⟨⟨_, rfl, hserves⟩, hequipped⟩

/-- The answer is no where no version that can serve BSP is pinned, and only there. -/
theorem Answered.no_iff (h : Answered cwd workspace b pinned answer a) :
    answer = .ok false ↔ ∃ found, pinned = .ok found ∧ ∀ text, found = some text → ¬ServesBsp text := by
  cases h with
  | unread => simp
  | declined hno => exact ⟨fun _ => ⟨_, rfl, hno⟩, fun _ => rfl⟩
  | obstructed hserves => simp [hserves]
  | served hserves => simp [hserves]

theorem Answered.of_error {e : Failure} (h : Answered cwd workspace b pinned (.error e) a) :
    pinned = .error e ∧ VersionFault b cwd workspace e ∨ IsOccupied b cwd workspace ∧ e = bridgeOccupied workspace := by
  cases h with
  | unread hfault => exact .inl ⟨rfl, hfault⟩
  | obstructed _ hoccupied => exact .inr ⟨hoccupied, rfl⟩

theorem Answered.ne_notDirectory (h : Answered cwd workspace b pinned answer a) (place : Path) :
    answer ≠ .error (.notDirectory place) := by
  rintro rfl
  obtain ⟨-, hfault⟩ | ⟨-, he⟩ := h.of_error
  · cases hfault
  · cases he

end

/-- The bridge is a regular file afterwards, unless a device stands in its place. -/
theorem Equipped.isFile (h : Equipped cwd workspace b a)
    (hdevice : ∀ place kind, b.status cwd (Layout.bridge workspace).route ≠ .ok (place, .device kind)) :
    a.isFile cwd (Layout.bridge workspace).route = .ok true := by
  cases h with
  | found hs hnode => exact isFile_eq_true_iff.2 ⟨_, _, hs, hnode⟩
  | lost hs => exact absurd hs (hdevice _ _)
  | installed _ hs => exact isFile_of_status hs

theorem servesBsp_iff {text : Text} :
    ServesBsp text ↔ Version.meets (Text.ofString firstVersionWithBsp) text = .ok true := by
  rw [Version.meets_eq_true_iff]
  unfold ServesBsp
  simp only [Version.atLeast_eq_atMost, Version.atMost_iff]

/-! ## The bridge -/

/-- Where a version was read, the bridge has its place in a directory. -/
theorem exists_reaches_of_load {version : Text}
    (h : (PinnedVersion.load workspace).run c m = (.ok (some version), m')) :
    ∃ top loc, m.files.status c.cwd workspace.route = .ok (top, .directory) ∧
      m.files.Reaches c.cwd (workspace / "project") Layout.bridgeName loc := by
  obtain ⟨_, _, _, hs, -⟩ := status_of_load h
  obtain ⟨loc, hproject⟩ := exists_directory_of_resolve (by decide) (resolve_of_status hs)
  obtain ⟨top, htop⟩ := exists_directory_of_resolve (by decide) (resolve_of_status hproject)
  -- the name of the bridge is shorter than that of the file with the version
  have hroom : (workspace / "project" / Layout.bridgeName).render.utf8ByteSize ≤ maxPathLength :=
    size_div_le (by decide) (by decide) (by decide) (refusal_eq_none_iff.1 (exists_way_of_status hs).1).2
  have hr : (workspace / "project" / Layout.bridgeName).route.refusal = none :=
    refusal_div (by decide) (by decide) (exists_way_of_status hproject).1 hroom
  exact ⟨top, loc, htop, by decide, hproject, hr, by decide⟩

theorem status_bridge {node : Node} (hreach : fs.Reaches cwd (workspace / "project") Layout.bridgeName loc)
    (hn : fs.lookup (Layout.bridgeName :: loc) = some node) (hlink : ∀ target, node ≠ .link target) :
    fs.status cwd (Layout.bridge workspace).route = .ok (Layout.bridgeName :: loc, node) :=
  status_child hreach.status_eq hreach.isEntryName hreach.size_le hreach.refusal_eq hn hlink

/-- Where no file is found, the bridge is written, unless a directory is in its place. -/
theorem ends_writeBridge (hreach : m.files.Reaches c.cwd (workspace / "project") Layout.bridgeName loc)
    (hlink : ∀ target, m.files.lookup (Layout.bridgeName :: loc) ≠ some (.link target))
    (hfile : m.files.isFile c.cwd (Layout.bridge workspace).route ≠ .ok true) :
    Ends c m (writeFile (Layout.bridge workspace) (Utf8.encode Bridge.content))
      (fun _ m' => Equipped c.cwd workspace m.files m'.files)
      fun e m' => m'.files = m.files ∧ IsOccupied m.files c.cwd workspace ∧ e = bridgeOccupied workspace := by
  have hwrite : m.files.write c.cwd (Layout.bridge workspace).route (Utf8.encode Bridge.content) = _ :=
    hreach.write_eq hlink
  refine .change (fun fs h => ?_) fun fault h => ?_
  · rw [hwrite] at h
    split at h <;> cases h
    · rename_i hn
      have hplace (other : Location) :
          (m.files.place loc Layout.bridgeName (.file (Utf8.encode Bridge.content) false)).lookup other =
            if other = Layout.bridgeName :: loc then some (.file (Utf8.encode Bridge.content) false)
            else m.files.lookup other :=
        lookup_place hreach.isEntryName (lookup_of_status hreach.status_eq) (by simp [hn]) other
      have hkeep := keepsWays_of_lookup_eq hplace (by simp [hn, IsPlain])
      have hbridge := (hplace _).trans (if_pos rfl)
      exact .installed hn (status_bridge (hreach.mono hkeep) hbridge fun _ => by simp)
        fun other hne => (hplace other).trans (if_neg hne)
    · rename_i hn
      exact absurd (isFile_of_status (status_bridge hreach hn fun _ => by simp)) hfile
    · exact .lost (status_bridge hreach ‹_› fun _ => by simp)
  · rw [hwrite] at h
    split at h <;> cases h
    · rename_i hn
      have hs := status_bridge hreach hn fun _ => by simp
      exact absurd (isFile_eq_true_iff.2 ⟨_, _, hs, rfl⟩) hfile
    · exact ⟨rfl, ⟨_, status_bridge hreach ‹_› fun _ => by simp⟩, rfl⟩
    · exact absurd ‹_› (hlink _)

/-- The directories of the bridge are there, so it is found, or written, or a directory is in its place. -/
theorem ends_install_reaches (htop : m.files.status c.cwd workspace.route = .ok (top, .directory))
    (hreach : m.files.Reaches c.cwd (workspace / "project") Layout.bridgeName loc)
    (hlink : ∀ target, m.files.lookup (Layout.bridgeName :: loc) ≠ some (.link target)) :
    Ends c m (Bridge.install workspace) (fun _ m' => Equipped c.cwd workspace m.files m'.files)
      fun e m' => m'.files = m.files ∧ IsOccupied m.files c.cwd workspace ∧ e = bridgeOccupied workspace := by
  have hlook : Ends c m (Action.isFile (Layout.bridge workspace))
      (fun found m' => m' = m ∧ m.files.isFile c.cwd (Layout.bridge workspace).route = .ok found)
      fun _ _ => False := by
    refine .look (fun found hf => ⟨rfl, hf⟩) fun fault hf => ?_
    have hprobe : m.files.probe c.cwd (Layout.bridge workspace).route = _ := hreach.probe_eq hlink
    rw [FileSystem.isFile, hprobe] at hf
    cases hf
  unfold Bridge.install
  refine (hlook.mono (fun _ _ h => h) fun _ _ h => h.elim).bind ?_
  rintro found m ⟨rfl, hfound⟩
  split
  · rename_i hf
    obtain rfl := hf
    obtain ⟨_, _, hs, hnode⟩ := isFile_eq_true_iff.1 hfound
    refine .report_pure fun m' hm' => ?_
    rw [hm']
    exact .found hs hnode
  rename_i hf
  refine (Ends.of_answers (answers_isDirectory htop)).bind ?_
  rintro _ m₁ ⟨rfl, hm₁⟩
  rw [if_pos rfl, parent_bridge]
  refine (Ends.of_answers (hm₁ ▸ answers_ensurePath htop hreach.status_eq)).bind ?_
  rintro _ m₂ ⟨-, hm₂⟩
  rw [← hm₂.trans hm₁]
  have hno : m₂.files.isFile c.cwd (Layout.bridge workspace).route ≠ .ok true := by
    rw [hm₂, hm₁, hfound]
    exact fun he => hf (Except.ok.inj he)
  refine (ends_writeBridge (hm₂.trans hm₁ ▸ hreach) (hm₂.trans hm₁ ▸ hlink) hno).bind fun _ m₃ hm₃ => ?_
  exact .report_pure fun m₄ hm₄ => hm₄ ▸ hm₃

/-! ## The answer -/

/-- Whether a workspace can serve BSP is answered in one of four ways, each of which says what it did. -/
theorem answered_of_supportsBsp (hbridge : ¬EndsInLink m.files c.cwd (Layout.bridge workspace).route) :
    Answered c.cwd workspace m.files ((PinnedVersion.load workspace).run c m).1
      ((Tool.supportsBsp workspace).run c m).1 ((Tool.supportsBsp workspace).run c m).2.files := by
  refine Ends.run (P := fun r m' =>
    Answered c.cwd workspace m.files ((PinnedVersion.load workspace).run c m).1 r m'.files) ?_
  unfold Tool.supportsBsp
  refine ((ends_load_fault workspace).post_run.lost_run.mono (fun _ _ h => h) ?_).bind ?_
  · rintro e m₁ ⟨⟨hm₁, hfault⟩, hload⟩
    rw [hload, hm₁]
    exact .unread hfault
  rintro pinned m₁ ⟨hm₁, hload⟩
  rw [hload]
  cases pinned with
  | none => exact .report_pure fun m₂ hm₂ => hm₂.trans hm₁ ▸ .declined fun _ h => nomatch h
  | some text =>
    have hreport : Ends c m₁ (Action.report (.versionFound text)) (fun _ m' => m'.files = m.files)
        fun _ _ => False := .report hm₁
    refine (hreport.mono (fun _ _ h => h) fun _ _ h => h.elim).bind fun _ m₂ hm₂ => ?_
    have hdeclined (hno : Version.meets (Text.ofString firstVersionWithBsp) text ≠ .ok true) {m₃ : Machine}
        (hm₃ : m₃.files = m₂.files) :
        Answered c.cwd workspace m.files (.ok (some text)) (.ok false) m₃.files := by
      rw [hm₃, hm₂]
      refine .declined fun _ he => ?_
      cases he
      rwa [servesBsp_iff]
    split
    · exact .report_pure fun m₃ hm₃ => hdeclined (by simp [*]) hm₃
    · exact .report_pure fun m₃ hm₃ => hdeclined (by simp [*]) hm₃
    · have hserves := servesBsp_iff.2 ‹_›
      obtain ⟨top, loc, htop, hreach⟩ := exists_reaches_of_load hload
      have hlink (target : String) : m.files.lookup (Layout.bridgeName :: loc) ≠ some (.link target) :=
        fun hn => hbridge ⟨_, target, hreach.resolve_link hn⟩
      -- the report before left the files as they were
      have hinstall := ends_install_reaches (hm₂ ▸ htop) (hm₂ ▸ hreach) (hm₂ ▸ hlink)
      rw [hm₂] at hinstall
      refine (Ends.discard (hinstall.mono (fun _ _ h => h) ?_)).bind fun _ m₃ hm₃ => .pure (.served hserves hm₃)
      rintro e m₃ ⟨hm₃, hoccupied, rfl⟩
      rw [hm₃]
      exact .obstructed hserves hoccupied

/-- The question touches the workspace only where the answer is yes, whatever tool asks it. With a no, and with a
failure, nothing was changed. A yes says that a version is pinned which can serve BSP, and that the bridge is in its
place: as a file that was there, or as the one thing that is new; only a device would be left there in its stead, and
without one the bridge is a regular file afterwards. A version that is missing, unreadable or too old is a no. The
failures left are those to read the version, and a directory in the place of the bridge. -/
theorem effect_of_supportsBsp (workspace : Path)
    (hbridge : ¬EndsInLink m.files c.cwd (Layout.bridge workspace).route) :
    let pinned := ((PinnedVersion.load workspace).run c m).1
    let run := (Tool.supportsBsp workspace).run c m
    (run.1 ≠ .ok true → run.2.files = m.files) ∧
    (run.1 = .ok true → (∃ text, pinned = .ok (some text) ∧ ServesBsp text) ∧
      Equipped c.cwd workspace m.files run.2.files ∧
      ((∀ place kind, m.files.status c.cwd (Layout.bridge workspace).route ≠ .ok (place, .device kind)) →
        run.2.files.isFile c.cwd (Layout.bridge workspace).route = .ok true)) ∧
    (run.1 = .ok false ↔ ∃ found, pinned = .ok found ∧ ∀ text, found = some text → ¬ServesBsp text) ∧
    (∀ e, run.1 = .error e → pinned = .error e ∧ VersionFault m.files c.cwd workspace e ∨
      IsOccupied m.files c.cwd workspace ∧ e = bridgeOccupied workspace) ∧
    ∀ place, run.1 ≠ .error (.notDirectory place) := by
  intro pinned run
  have h : Answered c.cwd workspace m.files pinned run.1 run.2.files := answered_of_supportsBsp hbridge
  refine ⟨h.unchanged, fun hyes => ?_, h.no_iff, fun e he => ?_, h.ne_notDirectory⟩
  · rw [hyes] at h
    exact ⟨h.of_yes.1, h.of_yes.2, h.of_yes.2.isFile⟩
  · rw [he] at h
    exact h.of_error

/-- A workspace whose main meta-build is a link to a directory elsewhere, where a version is pinned. -/
def relocated : FileSystem :=
  FileSystem.empty.place [] "build" .directory
    |>.place ["build"] "build.properties" (.file (Utf8.encode "sbt.version=1.9.9\n") false)
    |>.place [] "ws" .directory
    |>.place ["ws"] "project" (.link "../build")

theorem not_endsInLink_relocated : ¬EndsInLink relocated [] (Layout.bridge (Path.parse "ws")).route := by
  have hfree : relocated.resolve [] .kept (Layout.bridge (Path.parse "ws")).route =
      .ok (.missing ["build"] Layout.bridgeName) := by
    decide +kernel
  rintro ⟨place, target, hlink⟩
  rw [hfree] at hlink
  cases hlink

/-- The bridge is installed in the directory that the link leads to, and is a file there. -/
theorem effect_of_supportsBsp_relocated :
    ¬EndsInLink relocated [] (Layout.bridge (Path.parse "ws")).route ∧
      Equipped [] (Path.parse "ws") relocated
        ((Tool.supportsBsp (Path.parse "ws")).run .bare { files := relocated }).2.files ∧
      ((Tool.supportsBsp (Path.parse "ws")).run .bare { files := relocated }).2.files.isFile []
        (Layout.bridge (Path.parse "ws")).route = .ok true := by
  have hrun : ((Tool.supportsBsp (Path.parse "ws")).run .bare { files := relocated }).1 = .ok true := by
    decide +kernel
  have hfree : relocated.status [] (Layout.bridge (Path.parse "ws")).route = .error .noEntry := by
    decide +kernel
  have heffect := @effect_of_supportsBsp .bare { files := relocated } (Path.parse "ws") not_endsInLink_relocated
  obtain ⟨-, hequipped, hfile⟩ := heffect.2.1 hrun
  refine ⟨not_endsInLink_relocated, hequipped, hfile fun place kind hdevice => ?_⟩
  rw [hfree] at hdevice
  cases hdevice

def lossy : FileSystem :=
  FileSystem.empty.place [] "ws" .directory
    |>.place ["ws"] "project" .directory
    |>.place ["project", "ws"] "build.properties" (.file (Utf8.encode "sbt.version=1.9.9\n") false)
    |>.place ["project", "ws"] Layout.bridgeName (.device .null)

/-- The device takes the bridge and keeps nothing, so the answer is yes and no regular file is there. -/
theorem supportsBsp_lossy :
    ¬EndsInLink lossy [] (Layout.bridge (Path.parse "ws")).route ∧
      ((Tool.supportsBsp (Path.parse "ws")).run .bare { files := lossy }).1 = .ok true ∧
      ((Tool.supportsBsp (Path.parse "ws")).run .bare { files := lossy }).2.files.isFile []
        (Layout.bridge (Path.parse "ws")).route = .ok false := by
  have hdevice : lossy.resolve [] .kept (Layout.bridge (Path.parse "ws")).route =
      .ok (.found [Layout.bridgeName, "project", "ws"] (.device .null)) := by
    decide +kernel
  refine ⟨?_, by decide +kernel, by decide +kernel⟩
  rintro ⟨place, target, hlink⟩
  rw [hdevice] at hlink
  cases hlink

end SbtWorkspace.Provision
