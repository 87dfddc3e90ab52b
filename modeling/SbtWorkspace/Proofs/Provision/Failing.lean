import SbtWorkspace.Invocation.Tool
import SbtWorkspace.Proofs.MetaBuild.Chain
import SbtWorkspace.Proofs.Provision.Removal

/-! Why an operation on a workspace fails. Provisioning fails for reasons of the system only; what is left
are option files that are refused or are not text, a home directory that is not known, and one whose path has a
null byte. Main statements: `ends_supportsBsp`, `ends_commandLine` and `ends_prepare`. -/

namespace SbtWorkspace.Provision
open FileSystem MetaBuild SbtWorkspace.Action

variable {α : Type} {c : Context} {m : Machine} {fs : FileSystem} {cwd : Location} {workspace : Path}
  {t : Tool}

/-- A path to something that is there has no null byte. -/
theorem nulFree_of_status {p : Path} {found : Location × Node} (h : fs.status cwd p.route = .ok found) :
    p.NulFree :=
  (refusal_eq_none_iff.1 (exists_way_of_status h).1).1

theorem nulFree_level (h : workspace.NulFree) (k : Nat) : (level workspace k).NulFree := by
  induction k with
  | zero => exact h
  | succ k ih => exact ih.div isPart_project (by decide)

/-- The file of a look that found one can be read, unless it is sealed. -/
theorem ends_readFile_of_isFile {p : Path}
    (h : ∃ loc node, m.files.status c.cwd p.route = .ok (loc, node) ∧ node.isRegular = true) :
    Ends c m (readFile p) (fun bytes m' => m' = m ∧ m.files.read c.cwd p.route = .ok bytes)
      fun e m' => m' = m ∧ e = sealedAway p ∧ m.files.read c.cwd p.route = .error .accessDenied := by
  obtain ⟨loc, node, hs, hnode⟩ := h
  refine .look (fun found hf => ⟨rfl, hf⟩) fun fault hf => ?_
  obtain ⟨bytes, executable, rfl⟩ | rfl := Node.isRegular_iff.1 hnode
  · simp [FileSystem.read, hs] at hf
  · have hfault : fault = .accessDenied := by simpa [FileSystem.read, hs] using hf.symm
    subst hfault
    exact ⟨rfl, rfl, hf⟩

/-! ## What is read -/

/-- Why the pinned version is not read: the path of its file is too long, the file is sealed, or a value in the file
is malformed. -/
inductive VersionFault (fs : FileSystem) (cwd : Location) (workspace : Path) : Failure → Prop
  | unseen : fs.probe cwd (Layout.buildProperties workspace).route = .error .nameTooLong →
    VersionFault fs cwd workspace (tooLong (Layout.buildProperties workspace))
  | denied : fs.read cwd (Layout.buildProperties workspace).route = .error .accessDenied →
    VersionFault fs cwd workspace (.unreadableProperties (Layout.buildProperties workspace)
      ⟨.accessDenied, (Layout.buildProperties workspace).render, none⟩)
  | malformed {bytes : Bytes} {cause : Properties.Error} :
    fs.read cwd (Layout.buildProperties workspace).route = .ok bytes →
    PinnedVersion.pinnedIn (PinnedVersion.latin1 bytes) = .error cause →
    VersionFault fs cwd workspace (.properties cause)

theorem VersionFault.isSystem {e : Failure} (h : VersionFault fs cwd workspace e) : e.isSystem = true := by
  cases h <;> rfl

/-- The version is read, or is not for a reason that the file system shows, and nothing is changed. -/
theorem ends_load_fault (workspace : Path) :
    Ends c m (PinnedVersion.load workspace) (fun _ m' => m'.files = m.files)
      fun e m' => m'.files = m.files ∧ VersionFault m.files c.cwd workspace e := by
  unfold PinnedVersion.load
  refine (ends_isFile.mono (fun _ _ h => h) ?_).bind ?_
  · rintro e _ ⟨rfl, rfl, hp⟩
    exact ⟨rfl, .unseen hp⟩
  rintro found m' ⟨rfl, hfound⟩
  split
  · refine (Ends.tryCatch (ends_readFile_of_isFile (hfound ‹_›)) ?_).bind ?_
    · rintro e _ ⟨rfl, rfl, hdenied⟩
      exact .throw ⟨rfl, .denied hdenied⟩
    rintro bytes m' ⟨rfl, hbytes⟩
    have hpinned : Ends c m' (ofExcept .properties (PinnedVersion.pinnedIn (PinnedVersion.latin1 bytes)))
        (fun _ after => after.files = m'.files)
        fun e after => after.files = m'.files ∧ VersionFault m'.files c.cwd workspace e :=
      .ofExcept (fun _ _ => rfl) fun e he => ⟨rfl, .malformed hbytes he⟩
    refine hpinned.bind fun version m' hm => ?_
    split
    · exact .pure hm
    · exact .bind (.report hm) fun _ _ h => .pure h
  · exact .bind (.report rfl) fun _ _ h => .pure h

/-- A pinned version that cannot be read is a failure that commands report. -/
theorem ends_load (workspace : Path) :
    Ends c m (PinnedVersion.load workspace) (fun _ m' => m'.files = m.files)
      fun e _ => e.isSystem = true :=
  (ends_load_fault workspace).mono (fun _ _ h => h) fun _ _ h => h.2.isSystem

/-- Why the options in a file are not read: a look at the file is refused, or the read of it is, or it is not text. -/
inductive OptionFault (fs : FileSystem) (cwd : Location) (file : Path) : Failure → Prop
  | unseen {fault : Fault} : fs.probe cwd file.route = .error fault →
    OptionFault fs cwd file (.system ⟨fault, file.render, none⟩)
  | unread {fault : Fault} : fs.isFile cwd file.route = .ok true → fs.read cwd file.route = .error fault →
    OptionFault fs cwd file (.system ⟨fault, file.render, none⟩)
  | notText {bytes : Bytes} {cause : Utf8.Error} : fs.read cwd file.route = .ok bytes →
    Utf8.decodeStream bytes = .error cause → OptionFault fs cwd file (.notText cause)

theorem isSystem_of_refused {file : Path} {fault : Fault} (h : fs.probe cwd file.route = .error fault ∨
    fs.isFile cwd file.route = .ok true ∧ fs.read cwd file.route = .error fault) :
    (Failure.system ⟨fault, file.render, none⟩).isSystem = true := by
  obtain h | ⟨hfile, h⟩ := h
  · rw [fault_of_probe h]
    rfl
  · obtain ⟨_, node, hs, hnode⟩ := isFile_eq_true_iff.1 hfile
    obtain ⟨_, _, rfl⟩ | rfl := Node.isRegular_iff.1 hnode
    · simp [FileSystem.read, hs] at h
    · obtain rfl : Fault.accessDenied = fault := by simpa [FileSystem.read, hs] using h
      rfl

theorem ends_ofFile (file : Path) :
    Ends c m (Options.ofFile file) (fun _ m' => m'.files = m.files)
      fun e _ => OptionFault m.files c.cwd file e := by
  unfold Options.ofFile
  refine (ends_isFile.mono (fun _ _ h => h) ?_).bind ?_
  · rintro e _ ⟨-, rfl, hp⟩
    exact .unseen hp
  rintro found m' ⟨rfl, hfound⟩
  split
  · refine ((ends_readFile_of_isFile (hfound ‹_›)).mono (fun _ _ h => h) ?_).bind ?_
    · rintro e _ ⟨-, rfl, hdenied⟩
      exact .unread (isFile_eq_true_iff.2 (hfound ‹_›)) hdenied
    rintro bytes m' ⟨rfl, hbytes⟩
    have htext : Ends c m' (ofExcept .notText (Utf8.decodeStream bytes))
        (fun _ after => after.files = m'.files) fun e _ => OptionFault m'.files c.cwd file e :=
      .ofExcept (fun _ _ => rfl) fun e he => .notText hbytes he
    exact htext.bind fun _ _ h => .bind (.report h) fun _ _ h => .pure h
  · exact .pure rfl

theorem ends_readAll (files : List Path) (m : Machine) :
    Ends c m (Options.readAll files) (fun _ m' => m'.files = m.files)
      fun e _ => ∃ file ∈ files, OptionFault m.files c.cwd file e := by
  induction files generalizing m with
  | nil => exact .pure rfl
  | cons file rest ih =>
    refine ((ends_ofFile file).mono (fun _ _ h => h) ?_).bind fun options m₁ hm₁ => ?_
    · exact fun e _ he => ⟨file, List.mem_cons_self .., he⟩
    refine ((ih m₁).mono (fun _ _ h => h) ?_).bind fun more m₂ hm₂ => ?_
    · rintro e _ ⟨other, ho, he⟩
      exact ⟨other, List.mem_cons_of_mem _ ho, hm₁ ▸ he⟩
    · exact .pure (hm₂.trans hm₁)

theorem home?_eq_none_of_launcherIn? {config : Config} {env : Environment}
    (h : config.launcherIn? env = none) : env.home? = none := by
  simp only [Config.launcherIn?, Option.or_eq_none_iff, Environment.launcherPath?, Option.map_eq_none_iff,
    Environment.cacheDir?, Environment.applicationDir?] at h
  split at h <;> simp_all

/-- Why a command line of the tool is not put together: it takes options of the workspace that are not
read, or the launcher in a home directory that is not known. -/
def CommandLineFault (t : Tool) (workspace : Path) (c : Context) (fs : FileSystem) (e : Failure) : Prop :=
  t.config.sbtScript = none ∧ ((∃ file ∈ Layout.optionFiles workspace, OptionFault fs c.cwd file e) ∨
    e = .unknownHome ∧ c.env.home? = none)

theorem ends_commandLine (tasks : List String) (pin : Bool) :
    Ends c m (t.commandLine workspace tasks pin) (fun _ m' => m'.files = m.files)
      fun e _ => CommandLineFault t workspace c m.files e := by
  unfold Tool.commandLine
  split
  · exact .pure rfl
  rename_i hscript
  have hc : Ends c m Action.context (fun c' m' => c' = c ∧ m' = m)
      fun e _ => CommandLineFault t workspace c m.files e := .context ⟨rfl, rfl⟩
  refine hc.bind ?_
  rintro c' m' ⟨rfl, rfl⟩
  refine ((ends_readAll (Layout.optionFiles workspace) m').mono (fun _ _ h => h) ?_).bind
    fun options m₁ hm₁ => ?_
  · exact fun e _ he => ⟨hscript, .inl he⟩
  have hlauncher : Ends c' m₁ (known t.config.launcherIn?) (fun _ m₂ => m₂.files = m'.files)
      fun e _ => CommandLineFault t workspace c' m'.files e :=
    .known (fun _ _ => hm₁) fun hn => ⟨hscript, .inr ⟨rfl, home?_eq_none_of_launcherIn? hn⟩⟩
  exact hlauncher.bind fun _ _ h => .pure h

/-! ## What is provisioned -/

/-- In a directory that is there, the bridge is installed or a failure is reported. -/
theorem ends_install (hw : workspace.NulFree) :
    Ends c m (Bridge.install workspace) (fun _ _ => True) fun e _ => e.isSystem = true := by
  have hproject : (workspace / "project").NulFree := hw.div isPart_project (by decide)
  have htarget : (Layout.bridge workspace).NulFree := hproject.div (by decide) (by decide)
  unfold Bridge.install
  refine (ends_isFile.mono (fun _ _ h => h) ?_).bind fun found m₁ _ => ?_
  · rintro e _ ⟨-, rfl, -⟩
    rfl
  split
  · exact .bind (.report trivial) fun _ _ h => .pure h
  refine (ends_isDirectory.mono (fun _ _ h => h) ?_).bind fun found m₂ _ => ?_
  · rintro e _ ⟨-, rfl, -⟩
    rfl
  split
  · have hparent : (Layout.bridge workspace).parent.NulFree := by
      unfold Layout.bridge Layout.projectDir
      rw [Path.div_of_isPart _ (by decide)]
      simpa [Path.parent] using hproject
    refine (ends_ensurePath.mono (fun _ _ h => h) fun e _ he => he.isSystem hparent).bind fun _ m₃ _ => ?_
    refine ((ends_writeFile _).mono (fun _ _ h => h) fun e _ he => he.isSystem htarget).bind fun _ m₄ _ => ?_
    exact .bind (.report trivial) fun _ _ h => .pure h
  · exact .throw rfl

theorem ends_supportsBsp (hw : workspace.NulFree) :
    Ends c m (Tool.supportsBsp workspace) (fun _ _ => True) fun e _ => e.isSystem = true := by
  unfold Tool.supportsBsp
  refine (ends_load workspace).bind fun version m₁ _ => ?_
  split
  · exact .bind (.report trivial) fun _ _ h => .pure h
  have hreport (e : Event) : Ends c m₁ (report e) (fun _ _ => True) fun e _ => e.isSystem = true :=
    .report trivial
  refine (hreport _).bind fun _ m₂ _ => ?_
  split
  · exact .bind (.report trivial) fun _ _ h => .pure h
  · exact .bind (.report trivial) fun _ _ h => .pure h
  · have hinstall : Ends c m₂ (discard (Bridge.install workspace)) (fun _ _ => True)
        fun e _ => e.isSystem = true := .discard (ends_install hw)
    exact hinstall.bind fun _ _ _ => .pure trivial

def NulHome (home : Path) (e : Failure) : Prop :=
  ∃ cause : SystemError, e = .system cause ∧ cause.fault = .nullByte ∧ ¬ home.NulFree

/-- The global descriptor is left where it cannot be removed; only a null byte in the path of the home
directory is a failure. -/
theorem ends_remove (version : Text) (home : Path) :
    Ends c m (Legacy.remove version home) (fun _ _ => True) fun e _ => NulHome home e := by
  have hfile (h : home.NulFree) : (Legacy.descriptor version home).NulFree := by
    unfold Legacy.descriptor Layout.descriptor Layout.globalPlugins
    refine (((h.div (by decide) (by decide)).div ?_ ?_).div (by decide) (by decide)).div (by decide)
      (by decide) <;> split <;> decide
  refine (ends_remove_cleared version home).mono (fun _ _ _ => trivial) ?_
  rintro _ _ ⟨hu, rfl⟩
  exact ⟨_, rfl, rfl, fun h => ne_nullByte_of_unlink (hfile h) hu rfl⟩

/-- A descriptor is not written for reasons of the system only. -/
theorem ends_write (content : String) {directory : Path} (hd : directory.NulFree) :
    Ends c m (Descriptor.write directory content) (fun _ _ => True) fun e _ => e.isSystem = true := by
  have hfile : (Layout.descriptor directory).NulFree := hd.div (by decide) (by decide)
  unfold Descriptor.write
  refine (ends_ensurePath.mono (fun _ _ h => h) fun e _ he => he.isSystem hd).bind fun _ m₁ _ => ?_
  have hcurrent : Ends c m₁ (Descriptor.isCurrent (Layout.descriptor directory) (Utf8.encode content))
      (fun _ _ => True) fun e _ => e.isSystem = true := by
    unfold Descriptor.isCurrent
    refine (ends_isFile.mono (fun _ _ h => h) ?_).bind ?_
    · rintro e _ ⟨-, rfl, -⟩
      rfl
    rintro found m' ⟨rfl, hfound⟩
    split
    · refine ((ends_readFile_of_isFile (hfound ‹_›)).mono (fun _ _ h => h) ?_).bind fun _ _ _ => .pure trivial
      rintro e _ ⟨-, rfl, -⟩
      rfl
    · exact .pure trivial
  refine hcurrent.bind fun current m₂ _ => ?_
  split
  · exact .bind (.report trivial) fun _ _ h => .pure h
  · refine ((ends_writeFile _).mono (fun _ _ h => h) fun e _ he => he.isSystem hfile).bind fun _ m₃ _ => ?_
    exact .bind (.report trivial) fun _ _ h => .pure h

theorem ends_writeAll (content : String) (directories : List Path)
    (hd : ∀ directory ∈ directories, directory.NulFree) (m : Machine) :
    Ends c m (Descriptor.writeAll content directories) (fun _ _ => True) fun e _ => e.isSystem = true := by
  induction directories generalizing m with
  | nil => exact .pure trivial
  | cons directory rest ih =>
    refine (ends_write content (hd directory (List.mem_cons_self ..))).bind fun written m₁ _ => ?_
    refine (ih (fun other ho => hd other (List.mem_cons_of_mem _ ho)) m₁).bind fun more m₂ _ => ?_
    exact .pure trivial

theorem fault_of_anySource {directory : Path} {names : List String} {e : SystemError}
    (h : anySource fs cwd directory names = .error e) : e.fault = .nameTooLong := by
  induction names with
  | nil => cases h
  | cons name rest ih =>
    rw [anySource_cons] at h
    split at h
    · rename_i e' hs
      cases h
      rw [isSource_eq] at hs
      split at hs <;> cases hs
      rename_i fault hf
      cases hp : fs.probe cwd (directory / name).route with
      | error fault' =>
        obtain rfl := fault_of_probe hp
        simpa [FileSystem.isFile, hp, Except.map] using hf.symm
      | ok found => simp [FileSystem.isFile, hp, Except.map] at hf
    · cases h
    · exact ih h

theorem fault_of_below {walked : List Location} {current : Path} {e : SystemError}
    (h : below fs cwd walked current = .error e) : e.fault = .nameTooLong := by
  fun_induction below fs cwd walked current with
  | case1 _ _ _ hp =>
    cases h
    exact fault_of_probe hp
  | case2 => cases h
  | case3 _ _ _ _ _ _ _ ha =>
    cases h
    exact fault_of_anySource ha
  | case4 => cases h
  | case5 walked current loc hp hw _ ha ih =>
    cases hb : below fs cwd (loc :: walked) (current / "project") with
    | error e' => exact ih (by simpa [hb, Except.map] using h)
    | ok nested => simp [hb, Except.map] at h
  | case6 => cases h

theorem ends_provision (hw : workspace.NulFree) (config : Config) :
    Ends c m (Descriptor.provision workspace config) (fun _ _ => True) fun e _ => e.isSystem = true := by
  unfold Descriptor.provision
  split
  · exact .bind (.report trivial) fun _ _ h => .pure h
  refine (ends_isDirectory.mono (fun _ _ h => h) ?_).bind fun found m₁ _ => ?_
  · rintro e _ ⟨-, rfl, -⟩
    rfl
  split
  · have hfound : Ends c m₁ (Descriptor.metaBuilds workspace)
        (fun directories _ => ∀ directory ∈ directories, directory.NulFree) fun e _ => e.isSystem = true := by
      have hrun : (Descriptor.metaBuilds workspace).run c m₁ =
          (ofExcept .system (discover m₁.files c.cwd workspace) : Action (List Path)).run c m₁ := rfl
      refine .of_run_eq hrun ?_
      refine .ofExcept (fun directories hf directory hm => ?_) fun e he => ?_
      · obtain ⟨n, -, -, rfl, -⟩ := exists_chain_of_discover hf
        obtain ⟨i, -, rfl⟩ := List.mem_map.1 hm
        exact nulFree_level hw (i + 1)
      · rw [discover_eq] at he
        cases hb : below m₁.files c.cwd [] (level workspace 1) with
        | ok nested => simp [hb, Except.map] at he
        | error e' =>
          simp only [hb, Except.map, Except.error.injEq] at he
          simp [Failure.isSystem, ← he, fault_of_below hb]
    exact hfound.bind fun directories m₂ hd => ends_writeAll _ directories hd m₂
  · exact .throw rfl

def PrepareFault (t : Tool) (c : Context) (e : Failure) : Prop :=
  e.isSystem = true ∨ (e = .unknownHome ∧ c.env.home? = none) ∨
    ∃ home, t.config.homeIn? c.env = some home ∧ NulHome home e

theorem ends_prepare (hw : workspace.NulFree) :
    Ends c m (t.prepare workspace) (fun _ _ => True) fun e _ => PrepareFault t c e := by
  unfold Tool.prepare
  have hknown : Ends c m (known t.config.homeIn?) (fun home _ => t.config.homeIn? c.env = some home)
      fun e _ => PrepareFault t c e := by
    refine .known (fun _ h => h) fun hn => ?_
    rw [Config.homeIn?, Option.or_eq_none_iff] at hn
    exact .inr (.inl ⟨rfl, hn.2⟩)
  refine hknown.bind fun home m₁ hhome => ?_
  have hremove : Ends c m₁ (discard (Legacy.remove t.version home)) (fun _ _ => True)
      fun e _ => PrepareFault t c e :=
    .discard ((ends_remove t.version home).mono (fun _ _ h => h) fun e _ he => .inr (.inr ⟨home, hhome, he⟩))
  refine Ends.bind hremove fun _ m₂ _ => ?_
  exact (ends_provision hw t.config).mono (fun _ _ h => h) fun e _ he => .inl he

end SbtWorkspace.Provision
