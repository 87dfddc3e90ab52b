import SbtWorkspace.Proofs.Provision.Abreast
import SbtWorkspace.Proofs.Provision.Idempotence
import SbtWorkspace.Proofs.Provision.Reading

/-! The order in which a workspace is prepared and its bridge is installed does not matter. Preparation keeps
what the bridge depends on: the pinned version, the directories, and every file under the name of the bridge. The
bridge in turn is nothing that preparation depends on. Main statement: `supportsBsp_prepare_comm`. -/

namespace SbtWorkspace.Provision
open FileSystem MetaBuild SbtWorkspace.Action

variable {c : Context} {m : Machine} {fs b a : FileSystem} {cwd loc : Location} {workspace : Path}
  {bytes : Bytes}

/-! ## What preparation keeps -/

structure Kept (cwd : Location) (workspace : Path) (b a : FileSystem) : Prop where
  linkFree : LinkFree a
  ways : KeepsWays b a
  pinned : a.probe cwd (Layout.buildProperties workspace).route =
    b.probe cwd (Layout.buildProperties workspace).route
  bridges : ∀ parent, a.lookup (Layout.bridgeName :: parent) = b.lookup (Layout.bridgeName :: parent)

def Keeps (cwd : Location) (workspace : Path) (b a : FileSystem) : Prop :=
  LinkFree b → Kept cwd workspace b a

instance : Accumulates (Keeps cwd workspace) where
  refl _ hfree := ⟨hfree, fun _ _ hn _ => hn, rfl, fun _ => rfl⟩
  trans h₁ h₂ hfree := by
    have h₁ := h₁ hfree
    have h₂ := h₂ h₁.linkFree
    refine ⟨h₂.linkFree, ?_, h₂.pinned.trans h₁.pinned, fun parent => (h₂.bridges parent).trans (h₁.bridges parent)⟩
    exact fun q node hn hway => h₂.ways q node (h₁.ways q node hn hway) hway

/-- Without a descriptor all that the bridge depends on is still there. -/
theorem keeps_unlink {directory : Path}
    (h : fs.unlink c.cwd (Layout.descriptor directory).route = .ok a) : Keeps c.cwd workspace fs a := by
  intro hfree
  obtain ⟨parent, node, -, hn, hplain, rfl⟩ := of_unlink hfree (by decide) h
  have hbeside := beside_remove hn hplain
  have hother {name : String} (hne : name ≠ Layout.descriptorName) (loc : Location) :
      name :: loc ∉ [Layout.descriptorName :: parent] := by
    intro he
    exact hne (List.cons.inj (List.mem_singleton.1 he)).1
  exact ⟨linkFree_remove hfree _, hbeside.keepsWays,
    probe_eq_of_beside hbeside hfree (by decide) (hother (by decide)),
    fun loc => hbeside.others _ (hother (by decide) loc)⟩

/-- Steps that write descriptors for a workspace that is there. -/
theorem keeps_of_provisions (hw : fs.status cwd workspace.route = .ok (loc, .directory))
    (h : Provisions (writesDescriptor bytes) fs a) : Keeps cwd workspace fs a := by
  intro hfree
  have hwrites := writesOnly_descriptor bytes
  have hsteps := (h hfree.linksLead).1
  have hspared := spared_of_steps hwrites.all hfree hsteps
  have hstatus : a.status cwd (Layout.buildProperties workspace).route =
      fs.status cwd (Layout.buildProperties workspace).route :=
    status_nested_eq hfree hspared hw (by decide) (by decide) (by decide) (by decide)
  refine ⟨hspared.linkFree, hspared.grown.keepsWays, by simp only [probe, hstatus], fun parent => ?_⟩
  exact (unharmed_of_steps hwrites hfree hsteps (by decide) parent).eq_of_ne (by decide)

/-- Where the workspace is no directory, provisioning changes nothing. -/
theorem meets_provision_keeps (hfree : LinkFree fs) (config : Config) :
    Meets (Keeps c.cwd workspace) c fs (Descriptor.provision workspace config) fun _ _ => True := by
  by_cases hw : ∃ loc, fs.status c.cwd workspace.route = .ok (loc, .directory)
  · obtain ⟨loc, hw⟩ := hw
    exact (meets_provision hfree.linksLead).mono (fun _ h => keeps_of_provisions hw h) fun _ _ _ => trivial
  · unfold Descriptor.provision
    split
    · exact .report_pure trivial
    refine (meets_isDirectory workspace).bind ?_
    rintro found _ _ ⟨rfl, hfound⟩
    split
    · exact absurd (hfound ‹_›) hw
    · exact .throw _

theorem meets_prepare (hfree : LinkFree fs) (t : Tool) :
    Meets (Keeps c.cwd workspace) c fs (t.prepare workspace) fun _ _ => True := by
  have hknown : Meets (Keeps c.cwd workspace) c fs (Action.known t.config.homeIn?) fun _ _ => True :=
    .known fun _ => trivial
  refine hknown.bind fun home fs₁ h _ => ?_
  have hremove : Meets (Keeps c.cwd workspace) c fs₁
      (discard (Legacy.remove t.version home)) fun _ _ => True :=
    .discard (meets_remove fun _ h => keeps_unlink h)
  refine .bind hremove fun _ fs₂ h' _ => ?_
  exact meets_provision_keeps (h' (h hfree).linkFree).linkFree t.config

theorem kept_of_run (hfree : LinkFree m.files) (t : Tool) :
    Kept c.cwd workspace m.files ((t.prepare workspace).run c m).2.files :=
  have hmeets : Meets (Keeps c.cwd workspace) c m.files (t.prepare workspace) fun _ _ => True :=
    meets_prepare hfree t
  (hmeets m rfl).1 hfree

/-! ## The installation of the bridge -/

/-- The bridge was installed in two file systems alike, or in none. -/
inductive Installed (cwd : Location) (workspace : Path) (b a : FileSystem) :
    FileSystem → FileSystem → Prop
  | unchanged : Installed cwd workspace b a b a
  | placed {loc : Location} {node : Node} : b.status cwd workspace.route = .ok (loc, .directory) →
    (Layout.bridge workspace).route.refusal = none → b.lookup ("project" :: loc) = some .directory →
      IsPlain (b.lookup (Layout.bridgeName :: "project" :: loc)) → IsPlain (some node) →
        Installed cwd workspace b a (b.place ("project" :: loc) Layout.bridgeName node)
          (a.place ("project" :: loc) Layout.bridgeName node)

/-- Whether a workspace and its main meta-build are directories, one in the other. -/
structure IsBuild (cwd : Location) (workspace : Path) (loc : Location) (fs : FileSystem) : Prop where
  top : fs.status cwd workspace.route = .ok (loc, .directory)
  project : fs.status cwd (workspace / "project").route = .ok ("project" :: loc, .directory)

theorem IsBuild.kept (h : IsBuild cwd workspace loc b) (hkept : Kept cwd workspace b a) :
    IsBuild cwd workspace loc a :=
  ⟨status_directory_mono h.top hkept.ways, status_directory_mono h.project hkept.ways⟩

/-- Where a version is pinned, the main meta-build is a directory of the workspace. -/
theorem isBuild_of_load {m' : Machine} {version : Text} (hfree : LinkFree m.files)
    (h : (PinnedVersion.load workspace).run c m = (.ok (some version), m')) :
    ∃ loc, IsBuild c.cwd workspace loc m.files := by
  obtain ⟨_, _, _, hs, -⟩ := status_of_load h
  obtain ⟨goal, hproject⟩ := exists_directory_of_resolve (by decide) (resolve_of_status hs)
  obtain ⟨loc, hworkspace, -, ht⟩ := exists_parent_of_resolve hfree (by decide) (resolve_of_status hproject)
  refine ⟨loc, hworkspace, ?_⟩
  have hgoal : goal = "project" :: loc := by
    split at ht <;> cases ht
    rfl
  exact hgoal ▸ hproject

theorem IsBuild.resolve_bridge (h : IsBuild cwd workspace loc b) (hfree : LinkFree b)
    (hkept : Kept cwd workspace b a) (last : LastName) :
    a.resolve cwd last (Layout.bridge workspace).route = b.resolve cwd last (Layout.bridge workspace).route :=
  resolve_child_congr hfree hkept.linkFree h.project (h.kept hkept).project (by decide) (hkept.bridges _) last

theorem paired_writeBridge (hfree : LinkFree b) (hkept : Kept c.cwd workspace b a)
    (hbuild : IsBuild c.cwd workspace loc b) :
    Paired (Installed c.cwd workspace b a) c b a (writeFile (Layout.bridge workspace) bytes) := by
  refine .change ?_ .unchanged
  have hres := hbuild.resolve_bridge hfree hkept .written
  simp only [FileSystem.write, hres]
  cases hb : b.resolve c.cwd .written (Layout.bridge workspace).route with
  | error fault => exact .refused fault
  | ok t =>
    obtain ⟨parent, hparent, hr, rfl⟩ := exists_parent_of_resolve hfree (by decide) hb
    cases hbuild.project.symm.trans hparent
    have hd := lookup_of_status hbuild.project
    have hplaced (executable : Bool) (hn : IsPlain (b.lookup (Layout.bridgeName :: "project" :: loc))) :
        Installed c.cwd workspace b a
          (b.place ("project" :: loc) Layout.bridgeName (.file bytes executable))
          (a.place ("project" :: loc) Layout.bridgeName (.file bytes executable)) :=
      .placed hbuild.top hr hd hn ⟨by simp, by simp⟩
    cases hn : b.lookup (Layout.bridgeName :: "project" :: loc) with
    | none => exact .changed (hplaced false (by simp [hn, IsPlain]))
    | some node =>
      cases node with
      | file old executable => exact .changed (hplaced executable (by simp [hn, IsPlain]))
      | device => exact .changed .unchanged
      | directory | sealed | link => exact .refused _

theorem paired_install (hfree : LinkFree b) (hkept : Kept c.cwd workspace b a)
    (hbuild : IsBuild c.cwd workspace loc b) :
    Paired (Installed c.cwd workspace b a) c b a (Bridge.install workspace) := by
  have hbuild' := hbuild.kept hkept
  have hres := hbuild.resolve_bridge hfree hkept .followed
  have hlook : a.isFile c.cwd (Layout.bridge workspace).route =
      b.isFile c.cwd (Layout.bridge workspace).route := by
    simp only [FileSystem.isFile, probe, status, hres]
  unfold Bridge.install
  refine .look_bind hlook .unchanged fun found _ => ?_
  split
  · exact .bind (.report _ .unchanged) fun _ _ _ h => .pure _ h
  have htop : a.isDirectory c.cwd workspace.route = b.isDirectory c.cwd workspace.route := by
    rw [isDirectory_eq_true_iff.2 ⟨_, hbuild.top⟩, isDirectory_eq_true_iff.2 ⟨_, hbuild'.top⟩]
  refine .look_bind htop .unchanged fun there _ => ?_
  split
  · rw [parent_bridge]
    have hmake : Paired (Still b a) c b a (ensurePath (workspace / "project")) :=
      .of_run (answers_ensurePath hbuild.top hbuild.project)
        (answers_ensurePath hbuild'.top hbuild'.project) ⟨rfl, rfl⟩
    refine .still_bind hmake .unchanged fun _ _ _ _ _ => ?_
    exact .bind (paired_writeBridge hfree hkept hbuild) fun _ _ _ h =>
      .bind (.report _ h) fun _ _ _ h => .pure _ h
  · exact .throw _ .unchanged

/-- Whether the version that is pinned can serve BSP is answered alike, and the bridge installed alike. -/
theorem paired_supportsBsp (hfree : LinkFree b) (hkept : Kept c.cwd workspace b a) :
    Paired (Installed c.cwd workspace b a) c b a (Tool.supportsBsp workspace) := by
  unfold Tool.supportsBsp
  refine .still_bind (paired_load hkept.pinned) .unchanged fun pinned m m' hm hload => ?_
  cases pinned with
  | none => exact .bind (.report _ .unchanged) fun _ _ _ h => .pure _ h
  | some version =>
    obtain ⟨loc, hbuild⟩ := isBuild_of_load (hm ▸ hfree) hload
    rw [hm] at hbuild
    refine .still_bind (.report _ ⟨rfl, rfl⟩) .unchanged fun _ _ _ _ _ => ?_
    split
    · exact .bind (.report _ .unchanged) fun _ _ _ h => .pure _ h
    · exact .bind (.report _ .unchanged) fun _ _ _ h => .pure _ h
    · exact .bind (.discard (paired_install hfree hkept hbuild)) fun _ _ _ h => .pure _ h

/-! ## Both orders -/

/-- A file system with the bridge is the one without it, but for the bridge. -/
theorem abreast_place {node : Node} (hfree : LinkFree b)
    (hw : b.status cwd workspace.route = .ok (loc, .directory))
    (hr : (Layout.bridge workspace).route.refusal = none) (hd : b.lookup ("project" :: loc) = some .directory)
    (hn : IsPlain (b.lookup (Layout.bridgeName :: "project" :: loc))) (hnode : IsPlain (some node)) :
    Abreast [Layout.bridgeName :: "project" :: loc] cwd workspace b
      (b.place ("project" :: loc) Layout.bridgeName node) := by
  refine ⟨beside_place (by decide) hd hn hnode, hfree, ?_, fun place hm => ?_⟩
  · exact linkFree_place hfree (by decide) hd hn.1 fun target he => hnode.2 target (congrArg some he)
  · exact ⟨loc, List.mem_singleton.1 hm, hw, hr⟩

/-- In a file system without links it does not matter whether a workspace is prepared before or after its BSP
bridge is installed. Each of the two comes to the same result or the same failure in both orders, and at the
end the same stands at every place. -/
theorem supportsBsp_prepare_comm (hfree : LinkFree m.files) (t : Tool) (workspace : Path) :
    let served := (Tool.supportsBsp workspace).run c m
    let servedPrepared := (t.prepare workspace).run c served.2
    let prepared := (t.prepare workspace).run c m
    let preparedServed := (Tool.supportsBsp workspace).run c prepared.2
    preparedServed.1 = served.1 ∧ servedPrepared.1 = prepared.1 ∧
      ∀ loc, servedPrepared.2.files.lookup loc = preparedServed.2.files.lookup loc := by
  intro served servedPrepared prepared preparedServed
  have hkept : Kept c.cwd workspace m.files prepared.2.files := kept_of_run hfree t
  obtain ⟨hanswer, hinstalled⟩ := paired_supportsBsp hfree hkept m prepared.2 rfl rfl
  refine ⟨hanswer, ?_⟩
  change Installed c.cwd workspace m.files prepared.2.files served.2.files preparedServed.2.files at hinstalled
  generalize hs : served.2.files = fs at hinstalled
  generalize hps : preparedServed.2.files = fs' at hinstalled
  cases hinstalled with
  | unchanged =>
    obtain ⟨hresult, h⟩ := paired_prepare (Abreast.refl hfree) t m served.2 rfl hs
    exact ⟨hresult, fun q => h.beside.others q List.not_mem_nil⟩
  | placed hw hr hd hn hnode =>
    have habreast := abreast_place hfree hw hr hd hn hnode
    obtain ⟨hresult, h⟩ := paired_prepare habreast t m served.2 rfl hs
    have hkept' : Kept c.cwd workspace served.2.files servedPrepared.2.files :=
      kept_of_run (hs ▸ habreast.after) t
    refine ⟨hresult, fun q => ?_⟩
    rw [lookup_place (by decide) (hkept.ways.directory hd) (hkept.bridges _ ▸ hn.1)]
    split
    · -- in its place the bridge stands in both orders
      rename_i hq
      rw [hq, hkept'.bridges, hs, lookup_place (by decide) hd hn.1, if_pos rfl]
    · exact h.beside.others q fun hm => absurd (List.mem_singleton.1 hm) ‹_›

def atHome : Context := .ofHome "/home"

theorem run_supportsBsp_plain :
    ((Tool.supportsBsp (Path.parse "ws")).run atHome { files := plain }).1 = .ok true := by
  decide +kernel

theorem run_prepare_plain :
    (((⟨none, {}⟩ : Tool).prepare (Path.parse "ws")).run atHome { files := plain }).1 =
      .ok [Path.parse "ws/project/sbtctl.sbt", Path.parse "ws/project/project/sbtctl.sbt"] := by
  decide +kernel

def HasBoth (fs : FileSystem) : Prop :=
  (fs.lookup [Layout.bridgeName, "project", "ws"]).map Node.isRegular = some true ∧
    fs.lookup ["sbtctl.sbt", "project", "ws"] = some (.file (Utf8.encode (Descriptor.content "1.5.6")) false) ∧
    fs.lookup ["sbtctl.sbt", "project", "project", "ws"] =
      some (.file (Utf8.encode (Descriptor.content "1.5.6")) false) ∧
    fs.lookup ["build.sbt", "project", "ws"] = some (.file [] false)

instance : Decidable (HasBoth fs) := inferInstanceAs (Decidable (_ ∧ _))

theorem hasBoth_plain :
    HasBoth ((Tool.supportsBsp (Path.parse "ws")).run atHome
      (((⟨none, {}⟩ : Tool).prepare (Path.parse "ws")).run atHome { files := plain }).2).2.files := by
  decide +kernel

/-- In a workspace that can serve BSP, the second operation answers as it would have as the first, and the
bridge and the two descriptors are there after both, in either order. -/
theorem supportsBsp_prepare_comm_plain :
    let served := ((Tool.supportsBsp (Path.parse "ws")).run atHome { files := plain }).2
    let servedPrepared := ((⟨none, {}⟩ : Tool).prepare (Path.parse "ws")).run atHome served
    let prepared := (((⟨none, {}⟩ : Tool).prepare (Path.parse "ws")).run atHome { files := plain }).2
    let preparedServed := (Tool.supportsBsp (Path.parse "ws")).run atHome prepared
    LinkFree plain ∧ preparedServed.1 = .ok true ∧
      servedPrepared.1 =
        .ok [Path.parse "ws/project/sbtctl.sbt", Path.parse "ws/project/project/sbtctl.sbt"] ∧
      HasBoth preparedServed.2.files ∧ HasBoth servedPrepared.2.files := by
  intro served servedPrepared prepared preparedServed
  have hfree : LinkFree plain := by decide +kernel
  obtain ⟨hanswer, hresult, hfiles⟩ :=
    @supportsBsp_prepare_comm atHome { files := plain } hfree ⟨none, {}⟩ (Path.parse "ws")
  refine ⟨hfree, hanswer.trans run_supportsBsp_plain, hresult.trans run_prepare_plain, hasBoth_plain, ?_⟩
  simp only [HasBoth, servedPrepared, served, hfiles]
  exact hasBoth_plain

end SbtWorkspace.Provision
