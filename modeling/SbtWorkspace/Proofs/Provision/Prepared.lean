import Mathlib.Data.List.Induction
import SbtWorkspace.Proofs.Invocation.Options
import SbtWorkspace.Proofs.Provision.Abreast
import SbtWorkspace.Proofs.Provision.Effect
import SbtWorkspace.Proofs.Provision.Handover
import SbtWorkspace.Proofs.Provision.Idempotence

/-! What the command line that exports a build says of the workspace, in a file system without links. It is put
together before anything is changed, and it depends on nothing that is changed then: the global descriptor of former
releases goes, and the meta-builds get their descriptors. The global one can be left where the path of the home
directory goes up from a directory that is made only after the removal. Main statement:
`prepared_of_exportPrepared`. -/

namespace SbtWorkspace.Provision
open FileSystem MetaBuild SbtWorkspace.Action

variable {c : Context} {m m' : Machine} {fs b a : FileSystem} {cwd loc : Location} {home workspace p : Path}
  {name : String} {version : Text} {node : Node} {t : Tool}

/-! ## The command line -/

/-- A command line depends on what looks at the option files find. -/
theorem paired_commandLine (t : Tool) (tasks : List String) (pin : Bool)
    (h : ∀ file ∈ Layout.optionFiles workspace, a.probe c.cwd file.route = b.probe c.cwd file.route) :
    Paired (Still b a) c b a (t.commandLine workspace tasks pin) := by
  unfold Tool.commandLine
  split
  · exact .pure _ ⟨rfl, rfl⟩
  · refine .context_bind (.bind (Options.paired_readAll h) fun options b' a' hs => ?_)
    exact .bind (.known _ hs) fun _ _ _ hs => .pure _ hs

theorem result_exportCommand_eq (t : Tool)
    (h : ∀ file ∈ Layout.optionFiles workspace, a.probe c.cwd file.route = b.probe c.cwd file.route) :
    (t.exportCommand workspace).result c a = (t.exportCommand workspace).result c b :=
  (paired_commandLine t Tool.exportTasks true h { files := b } { files := a } rfl rfl).1

theorem run_exportCommand (t : Tool) (workspace : Path) (m : Machine) :
    ∃ m', (t.exportCommand workspace).run c m = ((t.exportCommand workspace).result c m.files, m') ∧
      m'.files = m.files :=
  (paired_commandLine t Tool.exportTasks true fun _ _ => rfl).run_eq rfl

/-! ## The removal of the global descriptor -/

/-- What is removed is a descriptor, and it stands in a directory of plugins. -/
theorem Cleared.beside (h : Cleared cwd (Legacy.descriptor version home) b a) (hfree : LinkFree b) :
    ∃ hidden, (∀ place ∈ hidden, ∃ loc, place = Layout.descriptorName :: "plugins" :: loc) ∧
      Beside hidden b a ∧ LinkFree a := by
  cases h with
  | left => exact ⟨[], by simp, .refl b, hfree⟩
  | gone h =>
    obtain ⟨parent, node, hreach, hn, hplain, rfl⟩ := of_unlink hfree (by decide) h
    obtain ⟨loc, rfl⟩ := location_of_resolve hfree (by decide) (resolve_of_status hreach.status_eq)
    exact ⟨_, fun place hm => ⟨loc, List.mem_singleton.1 hm⟩, beside_remove hn hplain, linkFree_remove hfree _⟩

/-- No meta-build is a directory of plugins, so the same meta-builds are found. -/
theorem Cleared.discover_eq (h : Cleared cwd (Legacy.descriptor version home) b a) (hfree : LinkFree b) :
    discover a cwd workspace = discover b cwd workspace := by
  obtain ⟨hidden, hplace, hb, hfree'⟩ := h.beside hfree
  have hnone {fs : FileSystem} (hfree : LinkFree fs) (k : Nat) (name : String) (loc : Location)
      (hm : name :: loc ∈ hidden) : fs.status cwd (level workspace (k + 1)).route ≠ .ok (loc, .directory) := by
    intro hp
    obtain ⟨outer, he⟩ := hplace _ hm
    obtain ⟨inner, hl⟩ := location_of_resolve hfree (by decide) (resolve_of_status hp)
    obtain ⟨-, he⟩ := List.cons.inj he
    exact absurd (List.cons.inj (hl.symm.trans he)).1 (by decide)
  exact Unsourced.discover_eq ⟨hb, hfree, hfree', fun k name loc hm hp => absurd hp (hnone hfree k name loc hm),
    fun k name loc hm hp => absurd hp (hnone hfree' k name loc hm)⟩

theorem Cleared.probe_optionFiles (h : Cleared cwd (Legacy.descriptor version home) b a) (hfree : LinkFree b) :
    ∀ file ∈ Layout.optionFiles workspace, a.probe cwd file.route = b.probe cwd file.route := by
  obtain ⟨hidden, hplace, hb, -⟩ := h.beside hfree
  intro file hf
  obtain ⟨name, rfl, hname, hn, -⟩ := exists_name_of_mem_optionFiles hf
  refine probe_eq_of_beside hb hfree hname fun parent hm => hn ?_
  obtain ⟨loc, he⟩ := hplace _ hm
  rw [(List.cons.inj he).1]
  exact List.mem_cons_self ..

/-! ## Directories that were led to before -/

def LeadsUp (p : Path) : Prop := ∃ part ∈ p.parts, part.name = ".."

instance : DecidablePred LeadsUp := fun p => inferInstanceAs (Decidable (∃ part ∈ p.parts, _))

def LedBefore (cwd : Location) (p : Path) (b a : FileSystem) : Prop :=
  ∀ loc, a.status cwd p.route = .ok (loc, .directory) → b.lookup loc = some .directory →
    b.status cwd p.route = .ok (loc, .directory)

theorem ledBefore_of_status (hkeep : KeepsWays b a) (h : b.status cwd p.route = .ok (loc, .directory)) :
    LedBefore cwd p b a := by
  intro loc' ha _
  cases (status_directory_mono h hkeep).symm.trans ha
  exact h

theorem LedBefore.div (h : LedBefore cwd p b a) (hfree : LinkFree a) (hname : IsEntryName name) :
    LedBefore cwd (p / name) b a := by
  intro loc ha hd
  obtain ⟨parent, hreach⟩ := reaches_of_resolve hfree hname (resolve_of_status ha)
  obtain rfl := status_child_inv hreach.status_eq hname (hfree _) ha
  have hparent : (b.lookup (name :: parent)).isSome := by simp [hd]
  exact status_child (h parent hreach.status_eq (lookup_parent hparent)) hname hreach.size_le hreach.refusal_eq hd
    fun _ => by simp

/-- A path that only leads down leads through directories that were there before, if the last one was. -/
theorem ledBefore_of_not_leadsUp (hfree : LinkFree a) (h : ¬LeadsUp p) : LedBefore cwd p b a := by
  obtain ⟨root, parts⟩ := p
  induction parts using List.reverseRecOn with
  | nil =>
    intro loc ha hd
    obtain ⟨hr, k, -, hway⟩ := exists_way_of_status ha
    cases hway
    exact status_of_way hr (Nat.zero_le _) (.arrived _) hd
  | append_singleton parts part ih =>
    have hname : IsEntryName part.name := ⟨part.isPart, fun he => h ⟨part, by simp, he⟩⟩
    have hparts : ¬LeadsUp ⟨root, parts⟩ := fun ⟨other, hm, he⟩ => h ⟨other, List.mem_append_left _ hm, he⟩
    have hdiv := (ih hparts).div hfree hname
    rwa [Path.div_of_isPart _ part.isPart] at hdiv

/-- The directory of global plugins was led to before if the home directory was, or if its path only leads down. -/
theorem ledBefore_globalPlugins (version : Text) (hfree : LinkFree a) (h : LedBefore cwd home b a) :
    LedBefore cwd (Layout.globalPlugins version home) b a := by
  have hline : IsEntryName (if (Text.ofString "0.13").isPrefixOf version then "0.13" else "1.0") := by
    split <;> decide
  exact ((h.div hfree (by decide)).div hfree hline).div hfree (by decide)

/-! ## What provisioning retains -/

/-- What a command line depends on is retained, and with it the directories and the descriptors of global plugins. -/
structure Retained (cwd : Location) (workspace : Path) (b a : FileSystem) : Prop where
  linkFree : LinkFree a
  ways : KeepsWays b a
  options : ∀ file ∈ Layout.optionFiles workspace, a.probe cwd file.route = b.probe cwd file.route
  plugins : ∀ loc, a.lookup (Layout.descriptorName :: "plugins" :: loc) =
    b.lookup (Layout.descriptorName :: "plugins" :: loc)

theorem Provisioned.lookup_plugins {bytes : Bytes} {n : Nat} (h : Provisioned cwd workspace loc bytes n b a)
    (inner : Location) : a.lookup (Layout.descriptorName :: "plugins" :: inner) =
      b.lookup (Layout.descriptorName :: "plugins" :: inner) := by
  refine h.other _ fun i h₁ _ => ?_
  obtain ⟨k, rfl⟩ : ∃ k, i = k + 1 := ⟨i - 1, by omega⟩
  refine ⟨fun he => absurd (List.cons.inj he).1 (by decide), fun he => ?_⟩
  exact absurd (List.cons.inj (List.cons.inj he).2).1 (by decide)

theorem retained_of_provision {config : Config} {files : List Path} (hfree : LinkFree m.files)
    (h : (Descriptor.provision workspace config).run c m = (.ok files, m')) :
    Retained c.cwd workspace m.files m'.files := by
  cases hi : config.bloopInstalled with
  | true =>
    unfold Descriptor.provision at h
    rw [if_pos hi] at h
    cases h
    exact ⟨hfree, fun _ _ hn _ => hn, fun _ _ => rfl, fun _ => rfl⟩
  | false =>
    obtain ⟨loc, -, hw, -, -, hsteps, -⟩ := provision_spec hi hfree.linksLead h
    obtain ⟨_, _, _, _, hprovisioned⟩ := provisioned_of_run hfree hi h
    have hspared := spared_of_steps (writesOnly_descriptor _).all hfree hsteps
    refine ⟨hspared.linkFree, hspared.grown.keepsWays, fun file hf => ?_, hprovisioned.lookup_plugins⟩
    obtain ⟨name, rfl, hname, hn, hne⟩ := exists_name_of_mem_optionFiles hf
    rw [probe, probe, status_child_eq hfree hspared hw hname hn hne]

/-- The global descriptor is left only where the path of the home directory leads up, and led to no directory when it
was to be removed. -/
theorem Cleared.of_found {mid : FileSystem} (h : Cleared cwd (Legacy.descriptor version home) b mid)
    (hkept : Retained cwd workspace mid a) (hfree : LinkFree b)
    (hf : a.resolve cwd .kept (Legacy.descriptor version home).route = .ok (.found loc node))
    (hn : node ≠ .directory) :
    LeadsUp home ∧ ∀ loc, b.status cwd home.route ≠ .ok (loc, .directory) := by
  have hname : IsEntryName Layout.descriptorName := by decide
  obtain ⟨parent, hp, -, ht⟩ := exists_parent_of_resolve hkept.linkFree hname hf
  obtain ⟨inner, rfl⟩ := location_of_resolve hkept.linkFree (by decide) (resolve_of_status hp)
  have hl : a.lookup (Layout.descriptorName :: "plugins" :: inner) = some node := by
    split at ht <;> cases ht
    assumption
  rw [hkept.plugins] at hl
  cases h with
  | gone h =>
    obtain ⟨parent, old, hreach, hold, hplain, rfl⟩ := of_unlink hfree hname h
    have hgone := hreach.mono (beside_remove hold hplain).keepsWays
    cases (status_directory_mono hgone.status_eq hkept.ways).symm.trans hp
    rw [lookup_remove, if_pos ⟨List.cons_ne_nil _ _, List.suffix_rfl⟩] at hl
    cases hl
  | left h =>
    by_contra hno
    have hled : LedBefore cwd home b a := by
      by_cases hup : LeadsUp home
      · obtain ⟨loc, hs⟩ : ∃ loc, b.status cwd home.route = .ok (loc, .directory) := by
          by_contra hnone
          exact hno ⟨hup, fun loc hs => hnone ⟨loc, hs⟩⟩
        exact ledBefore_of_status hkept.ways hs
      · exact ledBefore_of_not_leadsUp hkept.linkFree hup
    -- the path led to the file when it was to be removed, so the removal did not fail
    have hd : b.lookup ("plugins" :: inner) = some .directory := lookup_parent (by rw [hl]; rfl)
    have hp' := ledBefore_globalPlugins version hkept.linkFree hled _ hp hd
    have hres := resolve_child_congr hfree hkept.linkFree hp' hp hname (hkept.plugins inner) .kept
    have hok := unlink_eq_ok (hres.symm.trans hf) hn
    cases h.symm.trans hok

/-! ## The preparation -/

/-- A preparation that succeeds removes the global descriptor, if it can, and provisions the workspace. -/
theorem exists_of_run_prepare {files : List Path} (h : (t.prepare workspace).run c m = (.ok files, m')) :
    ∃ home m₁, t.config.homeIn? c.env = some home ∧
      Cleared c.cwd (Legacy.descriptor t.version home) m.files m₁.files ∧
      (Descriptor.provision workspace t.config).run c m₁ = (.ok files, m') := by
  unfold Tool.prepare at h
  obtain ⟨home, _, hknown, hrest⟩ := exists_of_run_bind h
  obtain ⟨hhome, rfl⟩ := of_run_known hknown
  obtain ⟨_, m₁, hremove, hprovision⟩ := exists_of_run_bind hrest
  have hclear (m : Machine) : Ends c m (discard (Legacy.remove t.version home))
      (fun _ m' => Cleared c.cwd (Legacy.descriptor t.version home) m.files m'.files) fun _ _ => True :=
    .discard ((ends_remove_cleared t.version home).mono (fun _ _ h => h) fun _ _ _ => trivial)
  exact ⟨home, m₁, hhome, (hclear _).post_of_run hremove, hprovision⟩

/-- What is told of a workspace whose preparation succeeded. The global descriptor is gone, unless the path of the
home directory leads up and led to no directory before. Unless the user manages sbt-bloop, the same meta-builds are
found before and after, and each of them is provisioned. -/
structure Prepared (t : Tool) (workspace : Path) (c : Context) (b a : FileSystem) : Prop where
  global : ∃ home, t.config.homeIn? c.env = some home ∧ ∀ loc node,
    a.resolve c.cwd .kept (Legacy.descriptor t.version home).route = .ok (.found loc node) →
    node ≠ .directory → LeadsUp home ∧ ∀ loc, b.status c.cwd home.route ≠ .ok (loc, .directory)
  provisioned : t.config.bloopInstalled = false → ∃ directories,
    discover b c.cwd workspace = .ok directories ∧ discover a c.cwd workspace = .ok directories ∧
      ∀ directory ∈ directories,
        IsProvisioned a c.cwd (Utf8.encode (Descriptor.content t.config.bloopVersion)) directory

theorem prepared_of_run {files : List Path} (hfree : LinkFree m.files)
    (h : (t.prepare workspace).run c m = (.ok files, m')) :
    Prepared t workspace c m.files m'.files ∧
      ∀ file ∈ Layout.optionFiles workspace, m'.files.probe c.cwd file.route = m.files.probe c.cwd file.route := by
  obtain ⟨home, m₁, hhome, hclear, hprovision⟩ := exists_of_run_prepare h
  obtain ⟨-, -, -, hfree₁⟩ := hclear.beside hfree
  have hkept := retained_of_provision hfree₁ hprovision
  refine ⟨⟨⟨home, hhome, fun loc node hf hn => hclear.of_found hkept hfree hf hn⟩, fun hi => ?_⟩, fun file hm => ?_⟩
  · obtain ⟨_, directories, -, hd, hd', -, hall⟩ := provision_spec hi hfree₁.linksLead hprovision
    exact ⟨directories, (hclear.discover_eq hfree).symm.trans hd, hd', hall⟩
  · exact (hkept.options file hm).trans (hclear.probe_optionFiles hfree file hm)

/-- A command line that exports the build comes with a workspace that is prepared for it. It is the one that is put
together without a preparation, before and after; where that cannot be put together, the failure is the same and
nothing was changed. -/
theorem prepared_of_exportPrepared (t : Tool) (workspace : Path) (hfree : LinkFree m.files) :
    (∀ e, (t.exportCommand workspace).result c m.files = .error e →
      ∃ m', (t.exportPrepared workspace).run c m = (.error e, m') ∧ m'.files = m.files) ∧
    ∀ args m', (t.exportPrepared workspace).run c m = (.ok args, m') →
      (t.exportCommand workspace).result c m.files = .ok args ∧
      (t.exportCommand workspace).result c m'.files = .ok args ∧
      Prepared t workspace c m.files m'.files := by
  obtain ⟨m₁, hcommand, hm₁⟩ := run_exportCommand (c := c) t workspace m
  refine ⟨fun e he => ⟨m₁, ?_, hm₁⟩, fun args m' h => ?_⟩
  · rw [Tool.exportPrepared, run_bind, hcommand, he]
  · rw [Tool.exportPrepared, run_bind, hcommand] at h
    cases hr : (t.exportCommand workspace).result c m.files with
    | error e =>
      rw [hr] at h
      cases h
    | ok found =>
      rw [hr] at h
      obtain ⟨_, m₂, hprepare, hargs⟩ := exists_of_run_bind h
      cases hargs
      obtain ⟨_, _, hprepare, hm₂⟩ := exists_of_run_bind hprepare
      cases hm₂
      obtain ⟨hprepared, hoptions⟩ := prepared_of_run (hm₁ ▸ hfree) hprepare
      rw [hm₁] at hprepared hoptions
      exact ⟨rfl, (result_exportCommand_eq t hoptions).trans hr, hprepared⟩

/-- A home directory with the global descriptor of former releases, and a workspace with an option file. -/
def outdatedWith (options : Bytes) : FileSystem :=
  outdated.place [] "ws" .directory
    |>.place ["ws"] ".jvmopts" (.file options false)

/-- Where the option file can be read, the workspace is prepared; where it cannot, nothing is changed. -/
theorem prepared_of_exportPrepared_outdated :
    (LinkFree (outdatedWith (Utf8.encode "-Xmx1G\n")) ∧ ∃ m',
      (pinning.exportPrepared (.parse "ws")).run athome { files := outdatedWith (Utf8.encode "-Xmx1G\n") } =
        (.ok ("java" :: Tool.javaFlags ++ ["-Xmx1G", "-jar", "/h/.cache/sbtctl/sbt-launch.jar"] ++
          Tool.exportTasks), m') ∧
      Prepared pinning (.parse "ws") athome (outdatedWith (Utf8.encode "-Xmx1G\n")) m'.files) ∧
    LinkFree (outdatedWith [0xff]) ∧ ∃ m',
      (pinning.exportPrepared (.parse "ws")).run athome { files := outdatedWith [0xff] } =
        (.error (.notText (.invalidStart 0xff 0)), m') ∧ m'.files = outdatedWith [0xff] := by
  have hfree : LinkFree (outdatedWith (Utf8.encode "-Xmx1G\n")) := by decide +kernel
  have hrun : ((pinning.exportPrepared (.parse "ws")).run athome
      { files := outdatedWith (Utf8.encode "-Xmx1G\n") }).1 =
        .ok ("java" :: Tool.javaFlags ++ ["-Xmx1G", "-jar", "/h/.cache/sbtctl/sbt-launch.jar"] ++
          Tool.exportTasks) := by
    decide +kernel
  have hfree' : LinkFree (outdatedWith [0xff]) := by decide +kernel
  have hfailed : (pinning.exportCommand (.parse "ws")).result athome (outdatedWith [0xff]) =
      .error (.notText (.invalidStart 0xff 0)) := by
    decide +kernel
  obtain ⟨-, hprepared⟩ := prepared_of_exportPrepared (c := athome)
    (m := { files := outdatedWith (Utf8.encode "-Xmx1G\n") }) pinning (.parse "ws") hfree
  obtain ⟨hunchanged, -⟩ := prepared_of_exportPrepared (c := athome) (m := { files := outdatedWith [0xff] }) pinning
    (.parse "ws") hfree'
  have hrun := run_eq_of_fst hrun
  exact ⟨⟨hfree, _, hrun, (hprepared _ _ hrun).2.2⟩, hfree', hunchanged _ hfailed⟩

/-- A home directory with the global descriptor of former releases, in a workspace. -/
def enclosed : FileSystem :=
  FileSystem.empty.place [] "ws" .directory
    |>.place ["ws"] "h" .directory
    |>.place ["h", "ws"] ".sbt" .directory
    |>.place [".sbt", "h", "ws"] "1.0" .directory
    |>.place ["1.0", ".sbt", "h", "ws"] "plugins" .directory
    |>.place ["plugins", "1.0", ".sbt", "h", "ws"] "sbtctl.sbt" (.file [] false)

/-- sbt for a user who gives the home directory by a path up from the main meta-build. -/
def roundabout : Tool :=
  { pinning with config := { Config.default with homeDir := some (.parse "ws/project/../h") } }

/-- A workspace with a device in the place of its descriptor. -/
def drained : FileSystem :=
  FileSystem.empty.place [] "ws" .directory
    |>.place ["ws"] "project" .directory
    |>.place ["project", "ws"] "sbtctl.sbt" (.device .null)

/-- The global descriptor is left where its path leads up from a directory that is made only after the removal; and
a device keeps no descriptor. -/
theorem prepared_roundabout :
    (LinkFree enclosed ∧
      ((roundabout.exportPrepared (.parse "ws")).run athome { files := enclosed }).1 =
        .ok ("java" :: Tool.javaFlags ++ ["-jar", "/h/.cache/sbtctl/sbt-launch.jar"] ++ Tool.exportTasks) ∧
      roundabout.config.homeIn? athome.env = some (.parse "ws/project/../h") ∧
      ((roundabout.exportPrepared (.parse "ws")).run athome { files := enclosed }).2.files.resolve [] .kept
        (Legacy.descriptor roundabout.version (.parse "ws/project/../h")).route =
          .ok (.found ["sbtctl.sbt", "plugins", "1.0", ".sbt", "h", "ws"] (.file [] false))) ∧
    LinkFree drained ∧
      ((pinning.exportPrepared (.parse "ws")).run athome { files := drained }).1 =
        .ok ("java" :: Tool.javaFlags ++ ["-jar", "/h/.cache/sbtctl/sbt-launch.jar"] ++ Tool.exportTasks) ∧
      discover drained [] (.parse "ws") = .ok (chain (.parse "ws") 2) ∧
      ((pinning.exportPrepared (.parse "ws")).run athome { files := drained }).2.files.read []
        (Layout.descriptor (Layout.projectDir (.parse "ws"))).route = .ok [] := by
  decide +kernel

end SbtWorkspace.Provision
