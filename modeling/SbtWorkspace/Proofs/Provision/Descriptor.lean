import SbtWorkspace.Proofs.Provision.Write
import SbtWorkspace.Provision.Descriptor

/-! What provisioning the meta-builds of a workspace does, on every exit: steps that write the
descriptor, and after a result every meta-build is a directory whose descriptor holds the content, unless
a device stands there. Main statements: `meets_writeAll` and `meets_provision`. -/

namespace SbtWorkspace.Provision
open FileSystem MetaBuild SbtWorkspace.Action

variable {c : Context} {fs b a : FileSystem} {loc : Location} {q : Path} {bytes : Bytes}

def writesDescriptor (bytes : Bytes) (name : String) (written : Bytes) : Prop :=
  name = Layout.descriptorName ∧ written = bytes

theorem writesOnly_descriptor (bytes : Bytes) :
    WritesOnly (writesDescriptor bytes) [Layout.descriptorName] where
  generated_subset := by simp [generatedNames]
  mem := by
    rintro name written ⟨rfl, _⟩
    exact List.mem_cons_self ..

/-! ## What later steps keep of earlier ones -/

theorem file_of_steps (h : Steps (writesDescriptor bytes) b a) {executable : Bool}
    (hl : b.lookup loc = some (.file bytes executable)) :
    ∃ executable', a.lookup loc = some (.file bytes executable') := by
  induction h with
  | refl => exact ⟨executable, hl⟩
  | @tail m a _ hs ih =>
    obtain ⟨x, hm⟩ := ih
    obtain ⟨name, parent, _, ⟨_, _, hq⟩ | ⟨written, new, x', hwr, _, hq⟩⟩ :=
      hs.lookup (writesOnly_descriptor bytes)
    · refine ⟨x, ?_⟩
      rw [hq, if_neg, hm]
      rintro rfl
      simp_all
    · rw [hq]
      split
      · exact ⟨x', by rw [hwr.2]⟩
      · exact ⟨x, hm⟩

theorem HoldsOrDevice.of_steps {route : Route} {cwd : Location}
    (h : HoldsOrDevice b cwd route bytes) (hs : Steps (writesDescriptor bytes) b a) :
    HoldsOrDevice a cwd route bytes := by
  have hw := writesOnly_descriptor bytes
  have hkeep := (grown_of_steps hw hs).keepsWays
  obtain ⟨goal, executable, h⟩ | ⟨goal, kind, h⟩ := h
  · obtain ⟨executable', ha⟩ := file_of_steps hs (lookup_of_status h)
    exact .inl ⟨goal, executable', status_mono h hkeep ha fun _ => by simp⟩
  · have hn := lookup_of_status h
    have hl := lasts_of_steps hw hs goal (by simp [hn])
    obtain ⟨node, ha, hnode⟩ := hl.exists_eq_some hn
    cases node with
    | device kind' => exact .inr ⟨goal, kind', status_mono h hkeep ha fun _ => by simp⟩
    | directory | file | sealed | link => cases hnode

/-! ## One meta-build -/

def IsProvisioned (fs : FileSystem) (cwd : Location) (bytes : Bytes) (directory : Path) : Prop :=
  (∃ goal, fs.status cwd directory.route = .ok (goal, .directory)) ∧
    HoldsOrDevice fs cwd (Layout.descriptor directory).route bytes

theorem IsProvisioned.of_steps {cwd : Location} {directory : Path}
    (h : IsProvisioned b cwd bytes directory) (hs : Steps (writesDescriptor bytes) b a) :
    IsProvisioned a cwd bytes directory := by
  obtain ⟨⟨goal, hd⟩, hf⟩ := h
  exact ⟨⟨goal, status_directory_mono hd (grown_of_steps (writesOnly_descriptor bytes) hs).keepsWays⟩,
    hf.of_steps hs⟩

theorem meets_isCurrent {R : FileSystem → FileSystem → Prop} [Accumulates R] (file : Path) :
    Meets R c fs (Descriptor.isCurrent file bytes) fun current other => other = fs ∧
      (current = true → ∃ goal executable,
        fs.status c.cwd file.route = .ok (goal, .file bytes executable)) := by
  have hfile : Meets R c fs (Action.isFile file) fun found other =>
      other = fs ∧ fs.isFile c.cwd file.route = .ok found := .look fun found hf => ⟨rfl, hf⟩
  refine hfile.bind ?_
  rintro found fs _ ⟨rfl, hf⟩
  split
  · rename_i hfound
    obtain rfl := hfound
    have hread : Meets R c fs (readFile file) fun content other =>
        other = fs ∧ fs.read c.cwd file.route = .ok content := .look fun content hr => ⟨rfl, hr⟩
    refine hread.bind ?_
    rintro content fs _ ⟨rfl, hr⟩
    refine .pure ⟨rfl, fun hcurrent => ?_⟩
    obtain ⟨goal, executable, hs⟩ := status_of_read hf hr
    exact ⟨goal, executable, by rw [hs, of_decide_eq_true hcurrent]⟩
  · exact .pure ⟨rfl, fun h => Bool.noConfusion h⟩

/-- The meta-build below a directory is provisioned. -/
theorem meets_write (text : String) (hlead : LinksLead fs)
    (hq : fs.status c.cwd q.route = .ok (loc, .directory)) :
    Meets (Provisions (writesDescriptor (Utf8.encode text))) c fs (Descriptor.write (q / "project") text)
      fun _ other => IsProvisioned other c.cwd (Utf8.encode text) (q / "project") := by
  have hw := writesOnly_descriptor (Utf8.encode text)
  unfold Descriptor.write
  refine (meets_ensurePath hw hq).bind ?_
  rintro _ m hm ⟨goal, hd⟩
  have hlead' := (hm hlead).2
  refine (meets_isCurrent (Layout.descriptor (q / "project"))).bind ?_
  rintro current m _ ⟨rfl, hcurrent⟩
  split
  · obtain ⟨goal', executable, hf⟩ := hcurrent ‹_›
    exact .report_pure ⟨⟨goal, hd⟩, .inl ⟨goal', executable, hf⟩⟩
  · refine (meets_writeFile hw hlead' hd ⟨rfl, rfl⟩).bind ?_
    intro _ other hstep hf
    have hkeep := (grown_of_steps hw (hstep hlead').1).keepsWays
    exact .report_pure ⟨⟨goal, status_directory_mono hd hkeep⟩, hf⟩

/-! ## All of them -/

def Descends : Path → List Path → Prop
  | _, [] => True
  | p, directory :: rest => directory = p / "project" ∧ Descends directory rest

theorem descends_chain (workspace : Path) (n : Nat) : Descends workspace (chain workspace n) := by
  have h : ∀ n k, Descends (level workspace k) ((List.range n).map fun i => level workspace (k + i + 1)) := by
    intro n
    induction n with
    | zero => exact fun _ => trivial
    | succ n ih =>
      intro k
      rw [List.range_succ_eq_map, List.map_cons, List.map_map]
      refine ⟨rfl, ?_⟩
      have hk := ih (k + 1)
      simp only [Nat.add_right_comm k 1] at hk
      exact hk
  have h₀ := h n 0
  simp only [Nat.zero_add] at h₀
  exact h₀

theorem meets_writeAll (text : String) (directories : List Path) (hlead : LinksLead fs)
    (hq : fs.status c.cwd q.route = .ok (loc, .directory)) (hd : Descends q directories) :
    Meets (Provisions (writesDescriptor (Utf8.encode text))) c fs (Descriptor.writeAll text directories)
      fun _ other => ∀ directory ∈ directories,
        IsProvisioned other c.cwd (Utf8.encode text) directory := by
  induction directories generalizing fs q loc with
  | nil => exact .pure fun _ h => absurd h List.not_mem_nil
  | cons directory rest ih =>
    obtain ⟨rfl, hd⟩ := hd
    refine (meets_write text hlead hq).bind ?_
    intro written m hm hfirst
    have hlead' := (hm hlead).2
    obtain ⟨⟨goal, hp⟩, _⟩ := id hfirst
    refine (ih hlead' hp hd).related.bind ?_
    rintro more other _ ⟨hsteps, hrest⟩
    refine .pure fun d hm => ?_
    obtain rfl | hm := List.mem_cons.1 hm
    · exact hfirst.of_steps (hsteps hlead').1
    · exact hrest d hm

theorem meets_discover {R : FileSystem → FileSystem → Prop} [Accumulates R] (fs : FileSystem)
    (workspace : Path) :
    Meets R c fs (Descriptor.metaBuilds workspace) fun directories other =>
      other = fs ∧ discover fs c.cwd workspace = .ok directories := by
  have hc : Meets R c fs Action.context fun c' other => c' = c ∧ other = fs := .context ⟨rfl, rfl⟩
  refine hc.bind ?_
  rintro c fs _ ⟨rfl, rfl⟩
  have hf : Meets R c fs Action.files fun fs' other => fs' = fs ∧ other = fs := .files ⟨rfl, rfl⟩
  refine hf.bind ?_
  rintro _ fs _ ⟨rfl, rfl⟩
  exact .ofExcept fun directories hd => ⟨rfl, hd⟩

/-- Provisioning takes steps that write the descriptor, and where it succeeds every meta-build that was
found is provisioned. -/
theorem meets_provision {workspace : Path} {config : Config} (hlead : LinksLead fs) :
    Meets (Provisions (writesDescriptor (Utf8.encode (Descriptor.content config.bloopVersion)))) c fs
      (Descriptor.provision workspace config) fun _ other => config.bloopInstalled = false →
        ∃ loc directories, fs.status c.cwd workspace.route = .ok (loc, .directory) ∧
          discover fs c.cwd workspace = .ok directories ∧
          ∀ directory ∈ directories, IsProvisioned other c.cwd
            (Utf8.encode (Descriptor.content config.bloopVersion)) directory := by
  unfold Descriptor.provision
  split
  · rename_i hi
    exact .report_pure fun hn => by simp [hi] at hn
  refine (meets_isDirectory workspace).bind ?_
  rintro found fs _ ⟨rfl, hfound⟩
  split
  · obtain ⟨loc, hs⟩ := hfound ‹_›
    have hfound := meets_discover (R := Provisions
      (writesDescriptor (Utf8.encode (Descriptor.content config.bloopVersion)))) (c := c) fs workspace
    refine hfound.bind ?_
    rintro directories fs _ ⟨rfl, hd⟩
    obtain ⟨n, _, _, rfl, _⟩ := exists_chain_of_discover hd
    refine (meets_writeAll _ _ hlead hs (descends_chain workspace n)).mono (fun _ h => h) ?_
    exact fun _ _ h _ => ⟨loc, _, hs, hd, h⟩
  · exact .throw _

end SbtWorkspace.Provision
