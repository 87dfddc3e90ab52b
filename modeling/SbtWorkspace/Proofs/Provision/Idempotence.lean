import SbtWorkspace.Proofs.Provision.Descriptor

/-! Provisioning twice. The first run makes directories and files in the very chain that the second one
walks, and links may lead several meta-builds to one descriptor; still both walk the same chain, and the
second writes if and only if it is for another version, unless a device takes a descriptor and keeps nothing.
Main statement: `provision_twice`. -/

namespace SbtWorkspace.Provision
open FileSystem MetaBuild SbtWorkspace.Action

variable {c : Context} {fs b a : FileSystem} {loc goal : Location} {q workspace : Path} {bytes : Bytes}
  {name : String} {node : Node}

/-! ## The content -/

theorem resolvers_eq (v : String) :
    Descriptor.resolvers v = Descriptor.snapshotResolver ∨ Descriptor.resolvers v = "" := by
  unfold Descriptor.resolvers
  split
  · exact .inl rfl
  · exact .inr rfl

/-- The line of resolvers ends at its line feed, so what follows it is told apart. -/
theorem resolvers_append_cancel {v w : String} {rest rest' : List Char}
    (h : (Descriptor.resolvers v).toList ++ '\n' :: rest = (Descriptor.resolvers w).toList ++ '\n' :: rest') :
    rest = rest' := by
  have hr : Descriptor.snapshotResolver.toList = 'r' :: Descriptor.snapshotResolver.toList.tail := by
    decide +kernel
  obtain hv | hv := resolvers_eq v <;> obtain hw | hw := resolvers_eq w <;> rw [hv, hw] at h
  · exact (List.cons.inj (List.append_cancel_left h)).2
  · rw [hr] at h
    exact absurd (List.cons.inj h).1 (by decide)
  · rw [hr] at h
    exact absurd (List.cons.inj h).1 (by decide)
  · exact (List.cons.inj h).2

theorem content_injective {v w : String} (h : Descriptor.content v = Descriptor.content w) : v = w := by
  have hl : ∀ u, (Descriptor.content u).toList =
      Descriptor.header.toList ++ ((Descriptor.resolvers u).toList ++
        '\n' :: (Descriptor.opening.toList ++ (u.toList ++ Descriptor.closing.toList))) := by
    intro u
    rw [Descriptor.content]
    simp only [String.toList_append, List.append_assoc]
    rfl
  have h := congrArg String.toList h
  rw [hl, hl] at h
  have h := List.append_cancel_left (resolvers_append_cancel (List.append_cancel_left h))
  exact String.toList_inj.1 (List.append_cancel_right h)

/-! ## The chain after a run -/

theorem isPart_descriptor : Path.IsPart Layout.descriptorName := by decide

/-- Where a descriptor was written there is room for every name that is made. -/
theorem refusal_of_provisioned {cwd : Location} {directory : Path}
    (h : IsProvisioned fs cwd bytes directory) (hk : isKept [Layout.descriptorName] name = false) :
    (directory / name).route.refusal ≠ some .nameTooLong := by
  have hr : (Layout.descriptor directory).route.refusal = none := by
    obtain ⟨_, ⟨goal, executable, hs⟩ | ⟨goal, kind, hs⟩⟩ := h
    · exact (exists_way_of_status hs).1
    · exact (exists_way_of_status hs).1
  exact refusal_of_not_kept isPart_descriptor (by decide) (size_le_of_refusal hr) hk

/-- After a run that provisioned what was found, the same is found. -/
theorem discover_eq_of_provisioned {cwd : Location} {directories : List Path} (hlead : LinksLead b)
    (hs : Steps (writesDescriptor bytes) b a) (hp : b.status cwd workspace.route = .ok (loc, .directory))
    (hd : discover b cwd workspace = .ok directories)
    (hall : ∀ directory ∈ directories, IsProvisioned a cwd bytes directory) :
    discover a cwd workspace = discover b cwd workspace := by
  refine discover_eq_of_grown (regrown_of_steps (writesOnly_descriptor bytes) hlead hs) ?_ hp
  intro k hk hr name hname
  exact refusal_of_provisioned (hall _ (level_mem_of_reached hd hk hr)) hname

/-! ## Devices -/

theorem device_of_steps {kind : Device} (hs : Steps (writesDescriptor bytes) b a)
    (ha : a.lookup loc = some (.device kind)) : b.lookup loc = some (.device kind) := by
  induction hs with
  | refl => exact ha
  | tail _ hs ih =>
    refine ih ?_
    obtain ⟨name, parent, _, ⟨_, _, hq⟩ | ⟨_, _, _, _, _, hq⟩⟩ :=
      hs.lookup (writesOnly_descriptor bytes)
    · rw [hq] at ha
      split at ha
      · cases ha
      · exact ha
    · rw [hq] at ha
      split at ha
      · cases ha
      · exact ha

/-- What a name in a directory leads to stands under the name there, unless that is a link. -/
theorem status_child_inv {cwd : Location} (hq : fs.status cwd q.route = .ok (loc, .directory))
    (hname : IsEntryName name) (hlink : ∀ target, fs.lookup (name :: loc) ≠ some (.link target))
    (h : fs.status cwd (q / name).route = .ok (goal, node)) : goal = name :: loc := by
  have hd := lookup_of_status hq
  obtain ⟨_, k, hle, hw⟩ := exists_way_of_status hq
  have hres : fs.resolve cwd .followed (q / name).route = .ok (.found goal node) := resolve_of_status h
  rw [resolve_child hle hw hname.1, (exists_way_of_status h).1] at hres
  by_cases hl : maxNameLength < name.utf8ByteSize
  · rw [walkLinks_child_long hd hname.isName hl] at hres
    cases hres
  have hl : name.utf8ByteSize ≤ maxNameLength := Nat.le_of_not_lt hl
  cases standing (fs.lookup (name :: loc)) with
  | free hn =>
    rw [walkLinks_child_none hd hname.isName hl hn] at hres
    cases hres
  | @link target hn => exact absurd hn (hlink target)
  | other hn hne =>
    rw [walkLinks_child_some hd hname.isName hl hn hne] at hres
    cases hres
    rfl

def WasOrMade (b : FileSystem) (cwd : Location) (p : Path) (loc : Location) (node : Node) : Prop :=
  b.status cwd p.route = .ok (loc, node) ∨ b.lookup loc = none

/-- What a name in a directory leads to was there before if the directory was, or stands where nothing
was. -/
theorem wasOrMade_child {cwd : Location} (hlead : LinksLead b) (hs : Steps (writesDescriptor bytes) b a)
    (hq : a.status cwd q.route = .ok (loc, .directory)) (hb : WasOrMade b cwd q loc .directory)
    (hname : IsEntryName name) (hnode : ∀ bytes executable, node ≠ .file bytes executable)
    (h : a.status cwd (q / name).route = .ok (goal, node)) : WasOrMade b cwd (q / name) goal node := by
  have hw := writesOnly_descriptor bytes
  have hregrown := regrown_of_steps hw hlead hs
  cases hn : b.lookup (name :: loc) with
  | none =>
    -- no link is ever made, so what the name leads to stands under the name itself
    have hlink : ∀ target, a.lookup (name :: loc) ≠ some (.link target) := by
      intro target ha
      cases hn.symm.trans ((hregrown.grown.changes name loc).of_eq_link ha)
    obtain rfl := status_child_inv hq hname hlink h
    exact .inr hn
  | some old =>
    obtain hb | hb := hb
    · have hseen := seen_child_eq hregrown.grown.keepsWays hregrown.settled hb hname
        (lasts_of_steps hw hs (name :: loc) (by simp [hn]))
      rw [seen, seen, h] at hseen
      cases hbs : b.status cwd (q / name).route with
      | error fault => simp [hbs, Except.map] at hseen
      | ok found =>
        obtain ⟨goal', node'⟩ := found
        simp only [hbs, Except.map, Except.ok.injEq, Prod.mk.injEq] at hseen
        obtain ⟨rfl, hseen⟩ := hseen
        have : node' = node := by
          cases node <;> cases node' <;> simp_all [Node.shape]
        exact .inl (this ▸ hbs)
    · have hnone : b.lookup (name :: loc) = none :=
        lookup_child_of_not_directory name (by simp [hb])
      rw [hnone] at hn
      cases hn

/-- A descriptor that leads to a device after a run led there before. -/
theorem device_before {cwd : Location} {directories : List Path} (hlead : LinksLead b)
    (hs : Steps (writesDescriptor bytes) b a) (hq : a.status cwd q.route = .ok (loc, .directory))
    (hb : WasOrMade b cwd q loc .directory) (hd : Descends q directories)
    (hall : ∀ directory ∈ directories, IsProvisioned a cwd bytes directory) {directory : Path}
    (hm : directory ∈ directories) {kind : Device}
    (h : a.status cwd (Layout.descriptor directory).route = .ok (goal, .device kind)) :
    b.status cwd (Layout.descriptor directory).route = .ok (goal, .device kind) := by
  induction directories generalizing q loc with
  | nil => cases hm
  | cons first rest ih =>
    obtain ⟨rfl, hd⟩ := hd
    obtain ⟨⟨inner, hp⟩, _⟩ := hall _ (List.mem_cons_self ..)
    have hbp := wasOrMade_child hlead hs hq hb (by decide) (by simp) hp
    obtain rfl | hm := List.mem_cons.1 hm
    · obtain hdev | hnone := wasOrMade_child hlead hs hp hbp (by decide) (by simp) h
      · exact hdev
      · rw [device_of_steps hs (lookup_of_status h)] at hnone
        cases hnone
    · exact ih hp hbp hd (fun d hd => hall d (List.mem_cons_of_mem _ hd)) hm

/-! ## A run that changes nothing -/

def IsCurrent (fs : FileSystem) (cwd : Location) (bytes : Bytes) (directory : Path) : Prop :=
  (∃ goal, fs.status cwd directory.route = .ok (goal, .directory)) ∧
    ∃ goal executable,
      fs.status cwd (Layout.descriptor directory).route = .ok (goal, .file bytes executable)

theorem answers_isDirectory {p : Path} (h : fs.status c.cwd p.route = .ok (loc, .directory)) :
    Answers c fs (Action.isDirectory p) true :=
  .look (by simp [FileSystem.isDirectory, probe, h, Except.map])

theorem answers_ensurePath {inner : Location} (hq : fs.status c.cwd q.route = .ok (loc, .directory))
    (hp : fs.status c.cwd (q / "project").route = .ok (inner, .directory)) :
    Answers c fs (ensurePath (q / "project")) () := by
  rintro m rfl
  have hne : m.files.lookup ("project" :: loc) ≠ none := by
    intro hn
    have hlink : ∀ target, m.files.lookup ("project" :: loc) ≠ some (.link target) := by simp [hn]
    obtain rfl := status_child_inv hq (by decide) hlink hp
    rw [lookup_of_status hp] at hn
    cases hn
  have hm : m.files.makeDirectory c.cwd (q / "project").route = .error .alreadyExists := by
    rw [makeDirectory_child hq, (exists_way_of_status hp).1]
    exact if_neg hne
  rw [run_ensurePath hq, ensureDirectory, run_tryCatch, Action.makeDirectory, run_change, hm]
  exact (answers_isDirectory hp).bind (.pure ()) m rfl

theorem answers_isCurrent {file : Path} {executable : Bool}
    (h : fs.status c.cwd file.route = .ok (goal, .file bytes executable)) :
    Answers c fs (Descriptor.isCurrent file bytes) true := by
  have hf : Answers c fs (Action.isFile file) true := .look (isFile_of_status h)
  have hr : Answers c fs (readFile file) bytes := .look (by simp [FileSystem.read, h])
  refine hf.bind (hr.bind ?_)
  simpa using Answers.pure true

theorem answers_write {text : String} (hq : fs.status c.cwd q.route = .ok (loc, .directory))
    (h : IsCurrent fs c.cwd (Utf8.encode text) (q / "project")) :
    Answers c fs (Descriptor.write (q / "project") text) false := by
  obtain ⟨⟨inner, hp⟩, _, _, hf⟩ := h
  unfold Descriptor.write
  exact (answers_ensurePath hq hp).bind ((answers_isCurrent hf).bind (.report_pure _ false))

theorem answers_writeAll {text : String} {directories : List Path}
    (hq : fs.status c.cwd q.route = .ok (loc, .directory)) (hd : Descends q directories)
    (hall : ∀ directory ∈ directories, IsCurrent fs c.cwd (Utf8.encode text) directory) :
    Answers c fs (Descriptor.writeAll text directories) [] := by
  induction directories generalizing q loc with
  | nil => exact .pure []
  | cons directory rest ih =>
    obtain ⟨rfl, hd⟩ := hd
    have hfirst := hall _ (List.mem_cons_self ..)
    obtain ⟨⟨inner, hp⟩, _⟩ := id hfirst
    have hrest := ih hp hd fun d hm => hall d (List.mem_cons_of_mem _ hm)
    exact (answers_write hq hfirst).bind (hrest.bind (.pure []))

/-- Where every descriptor is current, provisioning writes nothing. -/
theorem answers_provision {config : Config} {directories : List Path}
    (hi : config.bloopInstalled = false) (hs : fs.status c.cwd workspace.route = .ok (loc, .directory))
    (hd : discover fs c.cwd workspace = .ok directories)
    (hall : ∀ directory ∈ directories,
      IsCurrent fs c.cwd (Utf8.encode (Descriptor.content config.bloopVersion)) directory) :
    Answers c fs (Descriptor.provision workspace config) [] := by
  obtain ⟨n, _, _, rfl, _⟩ := exists_chain_of_discover hd
  have hmeta : Answers c fs (Descriptor.metaBuilds workspace) (chain workspace n) := by
    rintro m rfl
    refine ⟨m, ?_, rfl⟩
    show (ofExcept _ (discover m.files c.cwd workspace)).run c m = _
    rw [hd]
    rfl
  unfold Descriptor.provision
  rw [if_neg (by simp [hi])]
  exact (answers_isDirectory hs).bind (hmeta.bind (answers_writeAll hs (descends_chain workspace n) hall))

/-! ## Both runs -/

/-- A run that succeeds: what it found, what it left, and that the same is found again. -/
theorem provision_spec {m m' : Machine} {config : Config} {written : List Path}
    (hi : config.bloopInstalled = false) (hlead : LinksLead m.files)
    (h : (Descriptor.provision workspace config).run c m = (.ok written, m')) :
    ∃ loc directories, m.files.status c.cwd workspace.route = .ok (loc, .directory) ∧
      discover m.files c.cwd workspace = .ok directories ∧
      discover m'.files c.cwd workspace = .ok directories ∧
      Steps (writesDescriptor (Utf8.encode (Descriptor.content config.bloopVersion))) m.files m'.files ∧
      ∀ directory ∈ directories, IsProvisioned m'.files c.cwd
        (Utf8.encode (Descriptor.content config.bloopVersion)) directory := by
  have hmeets : Meets _ c m.files (Descriptor.provision workspace config) _ := meets_provision hlead
  obtain ⟨hR, _, hpost⟩ := hmeets m rfl
  rw [h] at hR hpost
  obtain ⟨loc, directories, hs, hd, hall⟩ := hpost written rfl hi
  have hsteps := (hR hlead).1
  exact ⟨loc, directories, hs, hd, (discover_eq_of_provisioned hlead hsteps hs hd hall).trans hd,
    hsteps, hall⟩

/-- Whether the descriptor of none of the meta-builds that are found leads to a device. -/
def NoDevice (fs : FileSystem) (cwd : Location) (workspace : Path) : Prop :=
  ∀ directories, discover fs cwd workspace = .ok directories → ∀ directory ∈ directories,
    ∀ goal kind, fs.status cwd (Layout.descriptor directory).route ≠ .ok (goal, .device kind)

/-- After a run that succeeds, every descriptor is a file that holds the content. -/
theorem isCurrent_of_provision {m m' : Machine} {config : Config} {written : List Path}
    (hi : config.bloopInstalled = false) (hlead : LinksLead m.files)
    (hdevice : NoDevice m.files c.cwd workspace)
    (h : (Descriptor.provision workspace config).run c m = (.ok written, m')) :
    ∃ loc directories, m.files.status c.cwd workspace.route = .ok (loc, .directory) ∧
      discover m.files c.cwd workspace = .ok directories ∧
      discover m'.files c.cwd workspace = .ok directories ∧
      Steps (writesDescriptor (Utf8.encode (Descriptor.content config.bloopVersion))) m.files m'.files ∧
      ∀ directory ∈ directories, IsCurrent m'.files c.cwd
        (Utf8.encode (Descriptor.content config.bloopVersion)) directory := by
  obtain ⟨loc, directories, hs, hd, hd', hsteps, hall⟩ := provision_spec hi hlead h
  refine ⟨loc, directories, hs, hd, hd', hsteps, fun directory hm => ⟨(hall directory hm).1, ?_⟩⟩
  obtain ⟨_, hfile | ⟨goal, kind, hdev⟩⟩ := hall directory hm
  · exact hfile
  · have hw := writesOnly_descriptor (Utf8.encode (Descriptor.content config.bloopVersion))
    have hq := status_directory_mono hs (grown_of_steps hw hsteps).keepsWays
    obtain ⟨n, _, _, rfl, _⟩ := exists_chain_of_discover hd
    exact absurd (device_before hlead hsteps hq (.inl hs) (descends_chain workspace n) hall hm hdev)
      (hdevice _ hd directory hm goal kind)

section Again

variable {m m₁ m₂ : Machine} {c₁ c₂ : Config} {written again : List Path}

theorem linksLead_of_provision (hlead : LinksLead m.files) (h₁ : c₁.bloopInstalled = false)
    (h : (Descriptor.provision workspace c₁).run c m = (.ok written, m₁)) : LinksLead m₁.files := by
  obtain ⟨_, _, _, _, _, hsteps, _⟩ := provision_spec h₁ hlead h
  exact linksLead_of_steps (writesOnly_descriptor _) hlead hsteps

/-- Where no device was in the place of a descriptor, none is there after a run either. -/
theorem noDevice_of_provision (hlead : LinksLead m.files) (hdevice : NoDevice m.files c.cwd workspace)
    (h₁ : c₁.bloopInstalled = false)
    (h : (Descriptor.provision workspace c₁).run c m = (.ok written, m₁)) :
    NoDevice m₁.files c.cwd workspace := by
  obtain ⟨_, directories, _, _, hd₁, _, hall⟩ := isCurrent_of_provision h₁ hlead hdevice h
  intro found hf directory hm goal kind hdev
  rw [hd₁] at hf
  cases hf
  obtain ⟨_, _, _, hfile⟩ := hall directory hm
  rw [hfile] at hdev
  cases hdev

/-- A run that changes nothing leaves the content for the first version, which then is that for both. -/
theorem bloopVersion_eq_of_unchanged (hlead : LinksLead m.files) (hdevice : NoDevice m.files c.cwd workspace)
    (h₁ : c₁.bloopInstalled = false) (h₂ : c₂.bloopInstalled = false)
    (h : (Descriptor.provision workspace c₁).run c m = (.ok written, m₁))
    (h' : (Descriptor.provision workspace c₂).run c m₁ = (.ok again, m₂)) (hsame : m₂.files = m₁.files) :
    c₁.bloopVersion = c₂.bloopVersion := by
  obtain ⟨_, directories, _, hd, hd₁, _, hone⟩ := isCurrent_of_provision h₁ hlead hdevice h
  obtain ⟨_, found, _, hf, _, _, htwo⟩ := isCurrent_of_provision h₂ (linksLead_of_provision hlead h₁ h)
    (noDevice_of_provision hlead hdevice h₁ h) h'
  rw [hd₁] at hf
  cases hf
  obtain ⟨n, hn, _, rfl, _⟩ := exists_chain_of_discover hd
  have hfirst : level workspace 1 ∈ chain workspace n := level_mem_chain.2 ⟨by omega, by omega⟩
  obtain ⟨_, goal, executable, hone⟩ := hone _ hfirst
  obtain ⟨_, goal', executable', htwo⟩ := htwo _ hfirst
  rw [hsame, hone] at htwo
  have hbytes := (Node.file.inj (Prod.mk.inj (Except.ok.inj htwo)).2).1
  exact content_injective (Utf8.encode_injective hbytes)

theorem provision_again (hlead : LinksLead m.files) (hdevice : NoDevice m.files c.cwd workspace)
    (h₁ : c₁.bloopInstalled = false) (h₂ : c₂.bloopInstalled = false)
    (h : (Descriptor.provision workspace c₁).run c m = (.ok written, m₁))
    (hv : c₁.bloopVersion = c₂.bloopVersion) :
    ((Descriptor.provision workspace c₂).run c m₁).1 = .ok [] ∧
      ((Descriptor.provision workspace c₂).run c m₁).2.files = m₁.files := by
  obtain ⟨_, _, hs, _, hd₁, hsteps, hall⟩ := isCurrent_of_provision h₁ hlead hdevice h
  have hs₁ := status_directory_mono hs (grown_of_steps (writesOnly_descriptor _) hsteps).keepsWays
  rw [hv] at hall
  obtain ⟨m₂, hr, hm₂⟩ := answers_provision h₂ hs₁ hd₁ hall m₁ rfl
  rw [hr]
  exact ⟨rfl, hm₂⟩

/-- After a second run every descriptor of the first has the content for the second version. -/
theorem read_of_provision_again (hlead : LinksLead m.files) (hdevice : NoDevice m.files c.cwd workspace)
    (h₁ : c₁.bloopInstalled = false) (h₂ : c₂.bloopInstalled = false)
    (h : (Descriptor.provision workspace c₁).run c m = (.ok written, m₁))
    (h' : (Descriptor.provision workspace c₂).run c m₁ = (.ok again, m₂)) :
    ∃ directories, discover m.files c.cwd workspace = .ok directories ∧
      discover m₂.files c.cwd workspace = .ok directories ∧
      ∀ directory ∈ directories, m₂.files.read c.cwd (Layout.descriptor directory).route =
        .ok (Utf8.encode (Descriptor.content c₂.bloopVersion)) := by
  obtain ⟨_, directories, _, hd, hd₁, _, _⟩ := provision_spec h₁ hlead h
  obtain ⟨_, found, _, hf, hd₂, _, hall⟩ := isCurrent_of_provision h₂ (linksLead_of_provision hlead h₁ h)
    (noDevice_of_provision hlead hdevice h₁ h) h'
  rw [hd₁] at hf
  cases hf
  refine ⟨directories, hd, hd₂, fun directory hm => ?_⟩
  obtain ⟨_, goal, executable, hfile⟩ := hall directory hm
  simp only [FileSystem.read, hfile]

end Again

/-- Provisioning is idempotent and depends on the version alone. After a run that succeeds the same
meta-builds are found as before. Where no device is in the place of a descriptor, a second run writes nothing and
changes nothing if and only if it is for the same version; and where it is for another and succeeds, every descriptor
holds exactly the content for that one. -/
theorem provision_twice {m m₁ : Machine} {c₁ c₂ : Config} {written : List Path} (hlead : LinksLead m.files)
    (h₁ : c₁.bloopInstalled = false) (h₂ : c₂.bloopInstalled = false)
    (h : (Descriptor.provision workspace c₁).run c m = (.ok written, m₁)) :
    discover m₁.files c.cwd workspace = discover m.files c.cwd workspace ∧
      (NoDevice m.files c.cwd workspace →
        (((Descriptor.provision workspace c₂).run c m₁).1 = .ok [] ∧
          ((Descriptor.provision workspace c₂).run c m₁).2.files = m₁.files ↔
            c₁.bloopVersion = c₂.bloopVersion) ∧
        (c₁.bloopVersion ≠ c₂.bloopVersion → ∀ again m₂,
          (Descriptor.provision workspace c₂).run c m₁ = (.ok again, m₂) →
            ∃ directories, discover m.files c.cwd workspace = .ok directories ∧
              discover m₂.files c.cwd workspace = .ok directories ∧
              ∀ directory ∈ directories, m₂.files.read c.cwd (Layout.descriptor directory).route =
                .ok (Utf8.encode (Descriptor.content c₂.bloopVersion)))) := by
  obtain ⟨_, directories, _, hd, hd₁, _, _⟩ := provision_spec h₁ hlead h
  refine ⟨hd₁.trans hd.symm, fun hdevice => ⟨⟨?_, provision_again hlead hdevice h₁ h₂ h⟩, fun _ again m₂ h' => ?_⟩⟩
  · rintro ⟨hr, hsame⟩
    exact bloopVersion_eq_of_unchanged hlead hdevice h₁ h₂ h (Prod.ext hr rfl) hsame
  · exact read_of_provision_again hlead hdevice h₁ h₂ h h'

theorem linksLead_looped : LinksLead looped := by
  decide +kernel

theorem discover_looped_eq : discover looped [] here = .ok (chain here 3) := by
  decide +kernel

theorem run_provision_looped : ((Descriptor.provision here {}).run .bare { files := looped }).1 =
    .ok [Layout.descriptor (level here 1), Layout.descriptor (level here 2)] := by
  decide +kernel

/-- A link back up the chain does no harm. -/
theorem provision_twice_looped :
    LinksLead looped ∧ NoDevice looped [] here ∧ ∃ written m₁,
      (Descriptor.provision here {}).run .bare { files := looped } = (.ok written, m₁) ∧
      discover m₁.files [] here = discover looped [] here ∧
      ((Descriptor.provision here {}).run .bare m₁).1 = .ok [] ∧
      ((Descriptor.provision here {}).run .bare m₁).2.files = m₁.files := by
  have hlead := linksLead_looped
  have hdevice : NoDevice looped [] here := by
    intro directories hd directory hm goal kind hdev
    rw [discover_looped_eq] at hd
    cases hd
    have hnone : ∀ directory ∈ chain here 3,
        looped.status [] (Layout.descriptor directory).route = .error .noEntry := by
      decide +kernel
    rw [hnone directory hm] at hdev
    cases hdev
  have hrun := run_provision_looped
  have hinstalled : ({} : Config).bloopInstalled = false := rfl
  obtain ⟨hfound, hagain⟩ := provision_twice hlead hinstalled hinstalled (Prod.ext hrun rfl)
  obtain ⟨h₁, h₂⟩ := (hagain hdevice).1.2 rfl
  exact ⟨hlead, hdevice, _, _, Prod.ext hrun rfl, hfound, h₁, h₂⟩

/-- A workspace whose descriptor is a link to a device. -/
def diverted : FileSystem :=
  FileSystem.empty.place [] "dev" .directory
    |>.place ["dev"] "null" (.device .null)
    |>.place [] "ws" .directory
    |>.place ["ws"] "project" .directory
    |>.place ["project", "ws"] "sbtctl.sbt" (.link "/dev/null")

theorem linksLead_diverted : LinksLead diverted := by
  decide +kernel

theorem run_provision_diverted :
    ((Descriptor.provision (Path.parse "ws") {}).run .bare { files := diverted }).1 =
      .ok [Path.parse "ws/project/sbtctl.sbt", Path.parse "ws/project/project/sbtctl.sbt"] := by
  decide +kernel

/-- A device keeps no content, so a descriptor that leads to one is written every time, for the same
version too. -/
theorem provision_diverted :
    LinksLead diverted ∧ diverted.isDirectory [] (Path.parse "ws").route = .ok true ∧
      ∃ written m₁,
        (Descriptor.provision (Path.parse "ws") {}).run .bare { files := diverted } =
          (.ok written, m₁) ∧
        ((Descriptor.provision (Path.parse "ws") {}).run .bare m₁).1 =
          .ok [Path.parse "ws/project/sbtctl.sbt"] ∧
        ((Descriptor.provision (Path.parse "ws") {}).run .bare m₁).1 ≠ .ok [] := by
  have hrun := run_provision_diverted
  have hagain : ((Descriptor.provision (Path.parse "ws") {}).run .bare
      ((Descriptor.provision (Path.parse "ws") {}).run .bare { files := diverted }).2).1 =
        .ok [Path.parse "ws/project/sbtctl.sbt"] := by
    decide +kernel
  refine ⟨linksLead_diverted, by decide +kernel, _, _, Prod.ext hrun rfl, hagain, ?_⟩
  rw [hagain]
  simp

end SbtWorkspace.Provision
