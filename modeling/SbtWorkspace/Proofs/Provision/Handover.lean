import SbtWorkspace.Proofs.FileSystem.Extension
import SbtWorkspace.Proofs.Provision.Failing
import SbtWorkspace.Proofs.Provision.Spared

/-! What a preparation that fails leaves behind, whatever the links of the file system are. The global
descriptor of former releases goes before the descriptor of the workspace comes, and between the two a
failure leaves neither. Main statement: `handover_of_error`. -/

namespace SbtWorkspace.Provision
open FileSystem MetaBuild SbtWorkspace.Action

variable {c : Context} {m m' : Machine} {fs b a : FileSystem} {loc : Location} {node : Node} {t : Tool}
  {home workspace : Path} {text : String} {bytes : Bytes}

/-! ## The global descriptor -/

theorem ends_remove_found {version : Text}
    (hl : m.files.resolve c.cwd .kept (Legacy.descriptor version home).route = .ok (.found loc node))
    (hn : node ≠ .directory) :
    Ends c m (Legacy.remove version home) (fun _ m' => m'.files = m.files.remove loc) fun _ _ => False := by
  have hok := unlink_eq_ok hl hn
  refine (ends_remove_cleared version home).mono (fun _ m' hm' => ?_) fun _ _ ⟨herror, _⟩ => ?_
  · generalize m'.files = fs at hm'
    cases hm' with
    | gone h => exact Except.ok.inj (h.symm.trans hok)
    | left h => cases h.symm.trans hok
  · cases herror.symm.trans hok

/-! ## The descriptor of the workspace -/

theorem HoldsOrDevice.of_extends {route : Route} {cwd : Location} (h : HoldsOrDevice b cwd route bytes)
    (he : Extends (· = bytes) b a) : HoldsOrDevice a cwd route bytes := by
  obtain ⟨goal, executable, hs⟩ | ⟨goal, kind, hs⟩ := h
  · obtain ⟨node, ha, hnode⟩ := he.status hs
    refine .inl ⟨goal, executable, ?_⟩
    rw [ha]
    cases hnode with
    | same => rfl
    | content hbytes => rw [hbytes]
  · obtain ⟨node, ha, hnode⟩ := he.status hs
    cases hnode with
    | same => exact .inr ⟨goal, kind, ha⟩

/-- Whatever comes of it, a descriptor that is written takes nothing away. -/
theorem extends_descriptor (directory : Path) (text : String) :
    Meets (Extends (· = Utf8.encode text)) c fs (Descriptor.write directory text) fun _ _ => True := by
  have hmake : Meets (Extends (· = Utf8.encode text)) c fs (ensurePath directory) _ :=
    leads_ensurePath fun _ _ _ _ h => extends_makeDirectory h
  refine hmake.bind fun _ fs _ _ => (meets_isCurrent (Layout.descriptor directory)).bind fun current fs _ _ => ?_
  split
  · exact .report_pure trivial
  · have hwrite : Meets (Extends (· = Utf8.encode text)) c fs
        (writeFile (Layout.descriptor directory) (Utf8.encode text)) fun _ _ => True :=
      .change fun other h => ⟨extends_write h rfl, trivial⟩
    exact hwrite.bind fun _ _ _ _ => .report_pure trivial

theorem extends_descriptors (directories : List Path) (text : String) :
    Meets (Extends (· = Utf8.encode text)) c fs (Descriptor.writeAll text directories) fun _ _ => True := by
  induction directories generalizing fs with
  | nil => exact .pure trivial
  | cons directory rest ih =>
    exact (extends_descriptor directory text).bind fun _ _ _ _ => ih.bind fun _ _ _ _ => .pure trivial

/-- A descriptor is in place, or only directories were made for it. -/
theorem ends_descriptor (directory : Path) (text : String) :
    Ends c m (Descriptor.write directory text)
      (fun _ m' => HoldsOrDevice m'.files c.cwd (Layout.descriptor directory).route (Utf8.encode text))
      fun _ m' => Extends (fun _ => False) m.files m'.files := by
  have hmake : Meets (Extends fun _ => False) c m.files (ensurePath directory) _ :=
    leads_ensurePath fun _ _ _ _ h => extends_makeDirectory h
  refine ((Ends.of_meets hmake).mono (fun _ _ h => h.1.1) fun _ _ h => h.1).bind fun _ m₁ hm₁ => ?_
  have hcurrent : Meets (Extends fun _ => False) c m₁.files
      (Descriptor.isCurrent (Layout.descriptor directory) (Utf8.encode text)) _ :=
    meets_isCurrent (Layout.descriptor directory)
  refine ((Ends.of_meets hcurrent).mono (fun _ _ h => h) fun _ _ h => Accumulates.trans hm₁ h.1).bind ?_
  rintro current m₂ ⟨-, hm₂, hfound⟩
  split
  · obtain ⟨goal, executable, hs⟩ := hfound ‹_›
    exact .bind (.report (.inl ⟨goal, executable, hm₂ ▸ hs⟩)) fun _ _ h => .pure h
  · have hwrite : Ends c m₂ (writeFile (Layout.descriptor directory) (Utf8.encode text))
        (fun _ m' => HoldsOrDevice m'.files c.cwd (Layout.descriptor directory).route (Utf8.encode text))
        fun _ m' => Extends (fun _ => False) m.files m'.files :=
      .change (fun _ h => status_of_write h) fun _ _ => hm₂ ▸ hm₁
    exact hwrite.bind fun _ _ h => .bind (.report h) fun _ _ h => .pure h

/-! ## Preparations that fail -/

/-- How provisioning fails before a workspace has its first descriptor: the workspace cannot be looked at or
is no directory, its meta-builds cannot be looked through, or the descriptor cannot be written, for which
directories may have been made. -/
inductive Unprovided (c : Context) (workspace : Path) (text : String) (m m' : Machine) : Failure → Prop
  | unseen {fault : Fault} : m'.files = m.files →
    m.files.isDirectory c.cwd workspace.route = .error fault →
    Unprovided c workspace text m m' (.system ⟨fault, workspace.render, none⟩)
  | absent : m'.files = m.files → m.files.isDirectory c.cwd workspace.route = .ok false →
    Unprovided c workspace text m m' (.notDirectory workspace)
  | unsearched {cause : SystemError} : m'.files = m.files →
    discover m.files c.cwd workspace = .error cause → Unprovided c workspace text m m' (.system cause)
  | unwritten {e : Failure} : Extends (fun _ => False) m.files m'.files →
    (Descriptor.write (Layout.projectDir workspace) text).run c m = (.error e, m') →
    Unprovided c workspace text m m' e

def ProvidedOrNot (c : Context) (workspace : Path) (text : String) (m : Machine) (e : Failure) (m' : Machine) :
    Prop :=
  HoldsOrDevice m'.files c.cwd (Layout.descriptor (Layout.projectDir workspace)).route (Utf8.encode text) ∨
    Unprovided c workspace text m m' e

theorem ends_writeAll_first (rest : List Path) :
    Ends c m (Descriptor.writeAll text (Layout.projectDir workspace :: rest)) (fun _ _ => True)
      (ProvidedOrNot c workspace text m) := by
  unfold Descriptor.writeAll
  refine ((ends_descriptor (Layout.projectDir workspace) text).lost_run.mono (fun _ _ h => h) ?_).bind ?_
  · rintro e m' ⟨he, hrun⟩
    exact .inr (.unwritten he hrun)
  · intro _ m₁ hfirst
    refine ((Ends.of_meets (extends_descriptors rest text)).mono (fun _ _ _ => trivial) ?_).bind fun _ _ _ => .pure trivial
    exact fun _ _ h => .inl (hfirst.of_extends h.1)

theorem ends_provision_first {config : Config} (hi : config.bloopInstalled = false) :
    Ends c m (Descriptor.provision workspace config) (fun _ _ => True)
      (ProvidedOrNot c workspace (Descriptor.content config.bloopVersion) m) := by
  unfold Descriptor.provision
  rw [if_neg (by simp [hi])]
  have hlook : Ends c m (isDirectory workspace)
      (fun found m' => m' = m ∧ m.files.isDirectory c.cwd workspace.route = .ok found)
      (ProvidedOrNot c workspace (Descriptor.content config.bloopVersion) m) :=
    .look (fun _ h => ⟨rfl, h⟩) fun _ h => .inr (.unseen rfl h)
  refine hlook.bind ?_
  rintro found m' ⟨rfl, hfound⟩
  cases found with
  | false => exact .throw (.inr (.absent rfl hfound))
  | true =>
    have hsearch : Ends c m' (ofExcept .system (discover m'.files c.cwd workspace))
        (fun directories m₁ => m₁ = m' ∧ discover m'.files c.cwd workspace = .ok directories)
        (ProvidedOrNot c workspace (Descriptor.content config.bloopVersion) m') :=
      .ofExcept (fun _ h => ⟨rfl, h⟩) fun _ h => .inr (.unsearched rfl h)
    have hrun : (Descriptor.metaBuilds workspace).run c m' =
        (ofExcept .system (discover m'.files c.cwd workspace) : Action (List Path)).run c m' := rfl
    refine Ends.bind (.of_run_eq hrun hsearch) ?_
    rintro directories m₁ ⟨rfl, hd⟩
    obtain ⟨n, -, -, rfl, -⟩ := exists_chain_of_discover hd
    have hdescends := descends_chain workspace n
    cases hchain : chain workspace n with
    | nil => exact .pure trivial
    | cons directory rest =>
      rw [hchain] at hdescends
      obtain ⟨rfl, -⟩ := hdescends
      exact ends_writeAll_first rest

/-- Whether a failure left everything as it was, or the descriptor at a location was removed and the workspace
has its own one or failed to get it. -/
def LeftAfter (c : Context) (workspace : Path) (text : String) (loc : Location) (m : Machine) (e : Failure)
    (m' : Machine) : Prop :=
  m'.files = m.files ∨ ∃ m₁ : Machine, m₁.files = m.files.remove loc ∧ ProvidedOrNot c workspace text m₁ e m'

/-- The global descriptor goes, and then the workspace is provisioned. -/
theorem ends_prepare_first (hi : t.config.bloopInstalled = false) (hhome : t.config.homeIn? c.env = some home)
    (hl : m.files.resolve c.cwd .kept (Legacy.descriptor t.version home).route = .ok (.found loc node))
    (hn : node ≠ .directory) :
    Ends c m (t.prepare workspace) (fun _ _ => True)
      (LeftAfter c workspace (Descriptor.content t.config.bloopVersion) loc m) := by
  unfold Tool.prepare
  have hknown : Ends c m (known t.config.homeIn?) (fun found m' => found = home ∧ m' = m)
      (LeftAfter c workspace (Descriptor.content t.config.bloopVersion) loc m) := by
    refine .known (fun found h => ⟨?_, rfl⟩) fun h => ?_
    · rw [hhome] at h
      exact (Option.some.inj h).symm
    · rw [hhome] at h
      cases h
  refine hknown.bind ?_
  rintro home m ⟨rfl, rfl⟩
  have hremove : Ends c m (discard (Legacy.remove t.version home))
      (fun _ m₁ => m₁.files = m.files.remove loc)
      (LeftAfter c workspace (Descriptor.content t.config.bloopVersion) loc m) :=
    .discard ((ends_remove_found hl hn).mono (fun _ _ h => h) fun _ _ h => h.elim)
  refine Ends.bind hremove fun _ m₁ hm₁ => ?_
  exact (ends_provision_first hi).mono (fun _ _ h => h) fun e m' h => .inr ⟨m₁, hm₁, h⟩

/-- Before the preparation only option files are read. -/
theorem ends_exportPrepared_first (hi : t.config.bloopInstalled = false)
    (hhome : t.config.homeIn? c.env = some home)
    (hl : m.files.resolve c.cwd .kept (Legacy.descriptor t.version home).route = .ok (.found loc node))
    (hn : node ≠ .directory) :
    Ends c m (t.exportPrepared workspace) (fun _ _ => True)
      (LeftAfter c workspace (Descriptor.content t.config.bloopVersion) loc m) := by
  have hcommand : Ends c m (t.exportCommand workspace) (fun _ m' => m'.files = m.files)
      fun _ m' => m'.files = m.files :=
    .of_alike (alike_commandLine t workspace Tool.exportTasks true)
  refine (hcommand.mono (fun _ _ h => h) fun _ _ h => .inl h).bind fun _ m₁ hm₁ => ?_
  have hprepare : Ends c m₁ (discard (t.prepare workspace)) (fun _ _ => True)
      (LeftAfter c workspace (Descriptor.content t.config.bloopVersion) loc m) := by
    unfold LeftAfter
    rw [← hm₁] at hl ⊢
    exact .discard (ends_prepare_first hi hhome hl hn)
  exact Ends.bind hprepare fun _ _ _ => .pure trivial

/-- A preparation that fails left everything as it was, the global descriptor included, or it removed that;
and then the workspace has its descriptor, unless the failure was that it did not get it. -/
theorem handover_of_error (hi : t.config.bloopInstalled = false) (hhome : t.config.homeIn? c.env = some home)
    (hl : m.files.resolve c.cwd .kept (Legacy.descriptor t.version home).route = .ok (.found loc node))
    (hn : node ≠ .directory) {e : Failure}
    (h : (t.prepare workspace).run c m = (.error e, m') ∨
      (t.exportPrepared workspace).run c m = (.error e, m')) :
    m'.files = m.files ∨ ∃ m₁ : Machine, m₁.files = m.files.remove loc ∧
      (HoldsOrDevice m'.files c.cwd (Layout.descriptor (Layout.projectDir workspace)).route
          (Utf8.encode (Descriptor.content t.config.bloopVersion)) ∨
        Unprovided c workspace (Descriptor.content t.config.bloopVersion) m₁ m' e) := by
  obtain h | h := h
  · exact (ends_prepare_first hi hhome hl hn).lost_of_run h
  · exact (ends_exportPrepared_first hi hhome hl hn).lost_of_run h

/-- A home directory with the global descriptor of former releases. -/
def outdated : FileSystem :=
  FileSystem.empty.place [] "h" .directory
    |>.place ["h"] ".sbt" .directory
    |>.place [".sbt", "h"] "1.0" .directory
    |>.place ["1.0", ".sbt", "h"] "plugins" .directory
    |>.place ["plugins", "1.0", ".sbt", "h"] "sbtctl.sbt" (.file [] false)

/-- A workspace besides, with a file where its second meta-build would be. -/
def blocked : FileSystem :=
  outdated.place [] "ws" .directory
    |>.place ["ws"] "project" .directory
    |>.place ["project", "ws"] "project" (.file [] false)

/-- sbt for a workspace that pins a version, with the default settings. -/
def pinning : Tool := ⟨some (Text.ofString "1.5.0"), .default⟩

/-- The home directory is in the environment. -/
def athome : Context := .ofHome "/h"

theorem resolve_blocked : blocked.resolve [] .kept (Legacy.descriptor pinning.version (Path.parse "/h")).route =
    .ok (.found ["sbtctl.sbt", "plugins", "1.0", ".sbt", "h"] (.file [] false)) := by
  decide +kernel

theorem run_prepare_blocked :
    ((pinning.prepare (Path.parse "ws")).run athome { files := blocked }).1 =
      .error (.system ⟨.alreadyExists, "ws/project/project", none⟩) := by
  decide +kernel

/-- The second meta-build cannot be made. -/
theorem handover_blocked : ∃ m' m₁ : Machine,
    (pinning.prepare (Path.parse "ws")).run athome { files := blocked } =
      (.error (.system ⟨.alreadyExists, "ws/project/project", none⟩), m') ∧
    m₁.files = blocked.remove ["sbtctl.sbt", "plugins", "1.0", ".sbt", "h"] ∧
    (HoldsOrDevice m'.files [] (Layout.descriptor (Layout.projectDir (Path.parse "ws"))).route
        (Utf8.encode (Descriptor.content pinning.config.bloopVersion)) ∨
      Unprovided athome (Path.parse "ws") (Descriptor.content pinning.config.bloopVersion) m₁ m'
        (.system ⟨.alreadyExists, "ws/project/project", none⟩)) := by
  have hrun := run_eq_of_fst run_prepare_blocked
  have hgone : ((pinning.prepare (Path.parse "ws")).run athome { files := blocked }).2.files.lookup
      ["sbtctl.sbt", "plugins", "1.0", ".sbt", "h"] = none := by
    decide +kernel
  have hhome : pinning.config.homeIn? athome.env = some (Path.parse "/h") := by decide +kernel
  obtain h | ⟨m₁, hm₁, h⟩ :=
    handover_of_error (m := { files := blocked }) rfl hhome resolve_blocked (by simp) (.inl hrun)
  · rw [h] at hgone
    exact absurd hgone (by decide +kernel)
  · exact ⟨_, m₁, hrun, hm₁, h⟩

/-- A workspace whose descriptor is a link to a device besides. -/
def blockedDevice : FileSystem :=
  blocked.place [] "dev" .directory
    |>.place ["dev"] "null" (.device .null)
    |>.place ["project", "ws"] "sbtctl.sbt" (.link "/dev/null")

/-- The global descriptor is lost where there is no workspace, and where its descriptor is written to a device
before the next one fails. -/
theorem handover_lost :
    (((pinning.prepare (Path.parse "ws")).run athome { files := outdated }).1 =
        .error (.notDirectory (Path.parse "ws")) ∧
      outdated.read [] (Legacy.descriptor pinning.version (Path.parse "/h")).route = .ok [] ∧
      ((pinning.prepare (Path.parse "ws")).run athome { files := outdated }).2.files.read []
        (Legacy.descriptor pinning.version (Path.parse "/h")).route = .error .noEntry ∧
      ((pinning.prepare (Path.parse "ws")).run athome { files := outdated }).2.files.read []
        (Layout.descriptor (Layout.projectDir (Path.parse "ws"))).route = .error .noEntry) ∧
    ((pinning.prepare (Path.parse "ws")).run athome { files := blockedDevice }).1 =
        .error (.system ⟨.alreadyExists, "ws/project/project", none⟩) ∧
      blockedDevice.read [] (Legacy.descriptor pinning.version (Path.parse "/h")).route = .ok [] ∧
      ((pinning.prepare (Path.parse "ws")).run athome { files := blockedDevice }).2.files.read []
        (Legacy.descriptor pinning.version (Path.parse "/h")).route = .error .noEntry ∧
      ((pinning.prepare (Path.parse "ws")).run athome { files := blockedDevice }).2.files.read []
        (Layout.descriptor (Layout.projectDir (Path.parse "ws"))).route = .ok [] := by
  decide +kernel

end SbtWorkspace.Provision
