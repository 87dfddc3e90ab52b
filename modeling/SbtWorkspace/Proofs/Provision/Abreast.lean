import SbtWorkspace.Proofs.Paired
import SbtWorkspace.Proofs.Provision.Unobserved
import SbtWorkspace.Proofs.Provision.Unsourced

/-! Preparing a workspace with and without its bridge. Of two file systems without links, one may have the
bridge of the workspace and the other may not: no path that is taken ends at the bridge, and it counts as
no build source. So both preparations come to the same result and make the same changes.
Main statement: `paired_prepare`. -/

namespace SbtWorkspace.Provision
open FileSystem MetaBuild SbtWorkspace.Action

variable {hidden : List Location} {c : Context} {fs b a : FileSystem} {cwd loc : Location}
  {workspace p q : Path} {name : String} {bytes : Bytes}

/-! ## Looks beside the hidden places -/

/-- What two walks to a name come to that is at no hidden place: the same, or neither goes on. -/
inductive Alongside : Except Fault Target → Except Fault Target → Prop
  | same (r : Except Fault Target) : Alongside r r
  | past {fault fault' : Fault} : fault = .noEntry ∨ fault = .notDirectory →
    fault' = .noEntry ∨ fault' = .notDirectory → Alongside (.error fault) (.error fault')

theorem alongside_resolve (h : Beside hidden b a) (hfree : LinkFree b) (hname : IsEntryName name)
    (hq : ∀ parent, name :: parent ∉ hidden) (last : LastName) :
    Alongside (b.resolve cwd last (p / name).route) (a.resolve cwd last (p / name).route) := by
  have hnear : Near hidden (b.resolve cwd last (p / name).route) (a.resolve cwd last (p / name).route) :=
    near_resolve h last fun hs => by simp [steps_div p hname.1] at hs
  have hplace {t : Target} (ht : b.resolve cwd last (p / name).route = .ok t) : t.location ∉ hidden := by
    obtain ⟨loc, hl⟩ := location_of_resolve hfree hname ht
    exact hl ▸ hq loc
  generalize b.resolve cwd last (p / name).route = r at hnear hplace
  generalize a.resolve cwd last (p / name).route = r' at hnear
  cases hnear with
  | same => exact .same r
  | there ht => exact absurd ht (hplace rfl)
  | past hf hf' => exact .past hf hf'

/-- A look at a name that is at no hidden place finds the same. -/
theorem probe_eq_of_beside (h : Beside hidden b a) (hfree : LinkFree b) (hname : IsEntryName name)
    (hq : ∀ parent, name :: parent ∉ hidden) :
    a.probe cwd (p / name).route = b.probe cwd (p / name).route := by
  have halong : Alongside (b.resolve cwd .followed (p / name).route)
      (a.resolve cwd .followed (p / name).route) := alongside_resolve h hfree hname hq .followed
  rw [probe, probe, status, status]
  generalize b.resolve cwd .followed (p / name).route = r at halong
  generalize a.resolve cwd .followed (p / name).route = r' at halong
  cases halong with
  | same => rfl
  | past hf hf' => obtain rfl | rfl := hf <;> obtain rfl | rfl := hf' <;> rfl

/-! ## Two file systems with and without the bridge -/

/-- Two file systems without links are the same, but for what stands in the place of the bridge of a
workspace. -/
structure Abreast (hidden : List Location) (cwd : Location) (workspace : Path) (b a : FileSystem) : Prop where
  beside : Beside hidden b a
  before : LinkFree b
  after : LinkFree a
  bridge : ∀ place, place ∈ hidden → ∃ loc, place = Layout.bridgeName :: "project" :: loc ∧
    b.status cwd workspace.route = .ok (loc, .directory) ∧ (Layout.bridge workspace).route.refusal = none

theorem Abreast.refl (hfree : LinkFree fs) : Abreast [] cwd workspace fs fs :=
  ⟨.refl fs, hfree, hfree, fun _ h => absurd h List.not_mem_nil⟩

theorem Abreast.not_hidden (h : Abreast hidden cwd workspace b a) (hn : name ≠ Layout.bridgeName)
    (parent : Location) : name :: parent ∉ hidden := by
  intro hm
  obtain ⟨loc, he, -⟩ := h.bridge _ hm
  exact hn (List.cons.inj he).1

theorem Abreast.place {parent : Location} {node : Node} (h : Abreast hidden cwd workspace b a)
    (hname : IsEntryName name) (hp : b.lookup parent = some .directory)
    (hn : b.lookup (name :: parent) ≠ some .directory) (hne : name ≠ Layout.bridgeName)
    (hnode : ∀ target, node ≠ .link target) :
    Abreast hidden cwd workspace (b.place parent name node) (a.place parent name node) := by
  have hq := h.not_hidden hne parent
  have hp' := h.beside.keepsWays.directory hp
  have hn' : a.lookup (name :: parent) ≠ some .directory := h.beside.others _ hq ▸ hn
  refine ⟨h.beside.place hname hp hn hq, linkFree_place h.before hname hp hn hnode,
    linkFree_place h.after hname hp' hn' hnode, fun place hm => ?_⟩
  obtain ⟨loc, he, hs, hr⟩ := h.bridge place hm
  have hkeep : KeepsWays b (b.place parent name node) := by
    refine keepsWays_of_lookup_eq (fun q => lookup_place hname hp hn q) ⟨hn, ?_⟩
    exact h.before (name :: parent)
  exact ⟨loc, he, status_directory_mono hs hkeep, hr⟩

theorem Abreast.remove {node : Node} (h : Abreast hidden cwd workspace b a)
    (hn : b.lookup (name :: loc) = some node) (hd : node ≠ .directory) (hne : name ≠ Layout.bridgeName) :
    Abreast hidden cwd workspace (b.remove (name :: loc)) (a.remove (name :: loc)) := by
  refine ⟨h.beside.remove hn hd (h.not_hidden hne loc), linkFree_remove h.before _,
    linkFree_remove h.after _, fun place hm => ?_⟩
  obtain ⟨inner, he, hs, hr⟩ := h.bridge place hm
  have hkeep : KeepsWays b (b.remove (name :: loc)) := by
    refine keepsWays_of_lookup_eq (lookup_remove_of_not_directory hn hd) ⟨?_, h.before _⟩
    exact fun he => hd (Option.some.inj (hn.symm.trans he))
  exact ⟨inner, he, status_directory_mono hs hkeep, hr⟩

theorem Abreast.status_directory (h : Abreast hidden cwd workspace b a)
    (hs : b.status cwd p.route = .ok (loc, .directory)) : a.status cwd p.route = .ok (loc, .directory) :=
  h.beside.status_directory hs

theorem Abreast.resolve_eq (h : Abreast hidden cwd workspace b a)
    (hp : b.status cwd p.route = .ok (loc, .directory)) (hname : IsEntryName name)
    (hq : name :: loc ∉ hidden) (last : LastName) :
    a.resolve cwd last (p / name).route = b.resolve cwd last (p / name).route :=
  resolve_child_congr h.before h.after hp (h.status_directory hp) hname (h.beside.others _ hq) last

/-! ## The meta-builds -/

/-- Of the levels only the first can hold the bridge, and there it is no source. -/
theorem isSource_of_hidden {k : Nat} (hfree : LinkFree fs)
    (hbridge : ∃ inner, name :: loc = Layout.bridgeName :: "project" :: inner ∧
      fs.status cwd workspace.route = .ok (inner, .directory) ∧ (Layout.bridge workspace).route.refusal = none)
    (hp : fs.status cwd (level workspace (k + 1)).route = .ok (loc, .directory)) :
    isSource fs cwd (level workspace (k + 1)) name = .ok false := by
  obtain ⟨inner, he, hs, hr⟩ := hbridge
  obtain ⟨rfl, rfl⟩ := List.cons.inj he
  have hlength := length_of_status_level hfree hs hp
  obtain rfl : k = 0 := by
    rw [List.length_cons] at hlength
    omega
  have hne : (level workspace 1 / Layout.bridgeName).route.refusal ≠ some .nameTooLong := by
    have hr : (level workspace 1 / Layout.bridgeName).route.refusal = none := hr
    simp [hr]
  exact isSource_eq_false (probe_child_ne_error hfree.linksLead hp (by decide) (by decide) hne) (by decide)

theorem Abreast.unsourced (h : Abreast hidden cwd workspace b a) : Unsourced hidden cwd workspace b a where
  beside := h.beside
  before := h.before
  after := h.after
  isSource_before _ _ _ hm hp := isSource_of_hidden h.before (h.bridge _ hm) hp
  isSource_after _ _ _ hm hp := by
    obtain ⟨inner, he, hs, hr⟩ := h.bridge _ hm
    exact isSource_of_hidden h.after ⟨inner, he, h.status_directory hs, hr⟩ hp

/-- The same meta-builds are found. -/
theorem Abreast.discover_eq (h : Abreast hidden cwd workspace b a) :
    discover a cwd workspace = discover b cwd workspace :=
  h.unsourced.discover_eq

/-! ## Calls -/

theorem paired_isDirectory (h : Abreast hidden c.cwd workspace b a) (p : Path) :
    Paired (Abreast hidden c.cwd workspace) c b a (isDirectory p) :=
  .look (h.beside.isDirectory_eq c.cwd p.route) h

theorem paired_makeDirectory (h : Abreast hidden c.cwd workspace b a)
    (hq : b.status c.cwd q.route = .ok (loc, .directory)) :
    Paired (Abreast hidden c.cwd workspace) c b a (Action.makeDirectory (q / "project")) := by
  have hsame : a.lookup ("project" :: loc) = b.lookup ("project" :: loc) :=
    h.beside.others _ (h.not_hidden (by decide) loc)
  refine .change ?_ h
  rw [makeDirectory_child hq, makeDirectory_child (h.status_directory hq), hsame]
  split
  · exact .refused _
  split
  · rename_i hn
    exact .changed (h.place (by decide) (lookup_of_status hq) (by simp [hn]) (by decide) fun _ => by simp)
  · exact .refused _

theorem paired_ensurePath (h : Abreast hidden c.cwd workspace b a)
    (hq : b.status c.cwd q.route = .ok (loc, .directory)) :
    Paired (Abreast hidden c.cwd workspace) c b a (ensurePath (q / "project")) := by
  have hensure : Paired (Abreast hidden c.cwd workspace) c b a (ensureDirectory (q / "project")) := by
    refine .tryCatch (paired_makeDirectory h hq) fun e b' a' h' => ?_
    cases e with
    | system e =>
      dsimp only
      split
      · exact .throw _ h'
      · refine .bind (paired_isDirectory h' _) fun found _ _ h' => ?_
        split
        · exact .pure _ h'
        · exact .throw _ h'
    | _ => exact .throw _ h'
  intro m m' hm hm'
  have hb := run_ensurePath (hm ▸ hq)
  have ha := run_ensurePath (hm' ▸ h.status_directory hq)
  rw [hb, ha]
  exact hensure m m' hm hm'

theorem paired_writeFile (h : Abreast hidden c.cwd workspace b a)
    (hp : b.status c.cwd p.route = .ok (loc, .directory)) (hname : IsEntryName name)
    (hne : name ≠ Layout.bridgeName) :
    Paired (Abreast hidden c.cwd workspace) c b a (writeFile (p / name) bytes) := by
  refine .change ?_ h
  have hres := h.resolve_eq hp hname (h.not_hidden hne loc) .written
  simp only [FileSystem.write, hres]
  cases hb : b.resolve c.cwd .written (p / name).route with
  | error fault => exact .refused fault
  | ok t =>
    obtain ⟨parent, hparent, -, rfl⟩ := exists_parent_of_resolve h.before hname hb
    have hput (executable : Bool) (hn : b.lookup (name :: parent) ≠ some .directory) :
        Abreast hidden c.cwd workspace (b.place parent name (.file bytes executable))
          (a.place parent name (.file bytes executable)) :=
      h.place hname (lookup_of_status hparent) hn hne fun _ => by simp
    cases hn : b.lookup (name :: parent) with
    | none => exact .changed (hput false (by simp [hn]))
    | some node =>
      cases node with
      | file old executable => exact .changed (hput executable (by simp [hn]))
      | device => exact .changed h
      | directory | sealed | link => exact .refused _

theorem paired_unlink (h : Abreast hidden c.cwd workspace b a) (hname : IsEntryName name)
    (hne : name ≠ Layout.bridgeName)
    (hres : a.resolve c.cwd .kept (p / name).route = b.resolve c.cwd .kept (p / name).route) :
    Paired (Abreast hidden c.cwd workspace) c b a (Action.unlink (p / name)) := by
  refine .change ?_ h
  simp only [FileSystem.unlink, hres]
  cases hb : b.resolve c.cwd .kept (p / name).route with
  | error fault => exact .refused fault
  | ok t =>
    obtain ⟨parent, -, -, rfl⟩ := exists_parent_of_resolve h.before hname hb
    cases hn : b.lookup (name :: parent) with
    | none => exact .refused _
    | some node =>
      cases node with
      | directory => exact .refused _
      | file | sealed | link | device => exact .changed (h.remove hn (by simp) hne)

/-! ## Preparation -/

/-- Where the global descriptor cannot be there, nothing is removed, and that is no failure. -/
theorem answers_remove {version : Text} {home : Path} {fault : Fault}
    (h : fs.resolve c.cwd .kept (Legacy.descriptor version home).route = .error fault)
    (hf : fault = .noEntry ∨ fault = .notDirectory) : Answers c fs (Legacy.remove version home) false := by
  rintro m rfl
  have hunlink : m.files.unlink c.cwd (Legacy.descriptor version home).route = .error fault := by
    simp only [FileSystem.unlink, h]
  have hrun := run_remove version home c m
  rw [hunlink] at hrun
  obtain rfl | rfl := hf <;> exact ⟨_, hrun, rfl⟩

theorem paired_remove (h : Abreast hidden c.cwd workspace b a) (version : Text) (home : Path) :
    Paired (Abreast hidden c.cwd workspace) c b a (Legacy.remove version home) := by
  have hname : IsEntryName Layout.descriptorName := by decide
  have hne : Layout.descriptorName ≠ Layout.bridgeName := by decide
  have halong : Alongside (b.resolve c.cwd .kept (Legacy.descriptor version home).route)
      (a.resolve c.cwd .kept (Legacy.descriptor version home).route) :=
    alongside_resolve h.beside h.before hname (h.not_hidden hne) .kept
  generalize hb : b.resolve c.cwd .kept (Legacy.descriptor version home).route = r at halong
  generalize ha : a.resolve c.cwd .kept (Legacy.descriptor version home).route = r' at halong
  cases halong with
  | same =>
    refine .bind (.tryCatch (.bind (paired_unlink h hname hne (ha.trans hb.symm)) fun _ _ _ h => .pure _ h)
      fun e b' a' h => ?_) fun removed _ _ h => ?_
    · cases e with
      | system e =>
        dsimp only
        split
        · exact .throw _ h
        split
        · exact .bind (.report _ h) fun _ _ _ h => .pure _ h
        · exact .pure _ h
      | _ => exact .throw _ h
    · split
      · exact .bind (.report _ h) fun _ _ _ h => .pure _ h
      · exact .pure _ h
  | past hf hf' =>
    exact .of_run (answers_remove hb hf) (answers_remove ha hf') h

theorem paired_isCurrent {file : Path} (h : a.status c.cwd file.route = b.status c.cwd file.route) :
    Paired (Still b a) c b a (Descriptor.isCurrent file bytes) := by
  have hlook : a.isFile c.cwd file.route = b.isFile c.cwd file.route := by
    simp only [FileSystem.isFile, probe, h]
  have hread : a.read c.cwd file.route = b.read c.cwd file.route := by simp only [FileSystem.read, h]
  refine .look_bind hlook ⟨rfl, rfl⟩ fun found _ => ?_
  split
  · exact .look_bind hread ⟨rfl, rfl⟩ fun _ _ => .pure _ ⟨rfl, rfl⟩
  · exact .pure _ ⟨rfl, rfl⟩

theorem paired_write (h : Abreast hidden c.cwd workspace b a) (text : String)
    (hq : b.status c.cwd q.route = .ok (loc, .directory)) :
    Paired (Abreast hidden c.cwd workspace) c b a (Descriptor.write (q / "project") text) := by
  have hname : IsEntryName Layout.descriptorName := by decide
  have hne : Layout.descriptorName ≠ Layout.bridgeName := by decide
  unfold Descriptor.write
  refine .bind_of_meets (paired_ensurePath h hq)
    (meets_ensurePath (writesOnly_descriptor (Utf8.encode text)) hq) fun _ b' a' h ⟨goal, hp⟩ => ?_
  have hres := h.resolve_eq hp hname (h.not_hidden hne goal) .followed
  have hstatus : a'.status c.cwd (Layout.descriptor (q / "project")).route =
      b'.status c.cwd (Layout.descriptor (q / "project")).route := by
    simp only [status, Layout.descriptor, hres]
  refine .still_bind (paired_isCurrent hstatus) h fun current _ _ _ _ => ?_
  split
  · exact .bind (.report _ h) fun _ _ _ h => .pure _ h
  · exact .bind (paired_writeFile h hp hname hne) fun _ _ _ h => .bind (.report _ h) fun _ _ _ h => .pure _ h

theorem paired_writeAll (h : Abreast hidden c.cwd workspace b a) (text : String) (directories : List Path)
    (hq : b.status c.cwd q.route = .ok (loc, .directory)) (hd : Descends q directories) :
    Paired (Abreast hidden c.cwd workspace) c b a (Descriptor.writeAll text directories) := by
  induction directories generalizing b a q loc with
  | nil => exact .pure _ h
  | cons directory rest ih =>
    obtain ⟨rfl, hd⟩ := hd
    refine .bind_of_meets (paired_write h text hq) (meets_write text h.before.linksLead hq)
      fun written b' a' h ⟨⟨goal, hp⟩, _⟩ => ?_
    exact .bind (ih h hp hd) fun _ _ _ h => .pure _ h

theorem paired_metaBuilds (h : Abreast hidden c.cwd workspace b a) :
    Paired (Abreast hidden c.cwd workspace) c b a (Descriptor.metaBuilds workspace) := by
  have hfind : Paired (Abreast hidden c.cwd workspace) c b a
      (ofExcept .system (discover b c.cwd workspace)) := .ofExcept _ _ h
  rintro m m' rfl rfl
  have hrun (m : Machine) : (Descriptor.metaBuilds workspace).run c m =
      (ofExcept .system (discover m.files c.cwd workspace)).run c m := rfl
  rw [hrun, hrun, h.discover_eq]
  exact hfind m m' rfl rfl

theorem paired_provision (h : Abreast hidden c.cwd workspace b a) (config : Config) :
    Paired (Abreast hidden c.cwd workspace) c b a (Descriptor.provision workspace config) := by
  unfold Descriptor.provision
  split
  · exact .bind (.report _ h) fun _ _ _ h => .pure _ h
  refine .look_bind (h.beside.isDirectory_eq _ _) h fun found hfound => ?_
  split
  · rename_i hf
    subst hf
    obtain ⟨loc, hw⟩ := isDirectory_eq_true_iff.1 hfound
    refine .bind_of_meets (paired_metaBuilds h) (meets_discover (R := Provisions fun _ _ => False) b workspace) ?_
    rintro directories _ a' h' ⟨rfl, hd⟩
    obtain ⟨n, _, _, rfl, _⟩ := exists_chain_of_discover hd
    exact paired_writeAll h' _ _ hw (descends_chain workspace n)
  · exact .throw _ h

/-- Preparation comes to the same and makes the same changes, whether the bridge is there or not. -/
theorem paired_prepare (h : Abreast hidden c.cwd workspace b a) (t : Tool) :
    Paired (Abreast hidden c.cwd workspace) c b a (t.prepare workspace) := by
  unfold Tool.prepare
  refine .bind (.known _ h) fun home _ _ h => ?_
  exact .bind (.discard (paired_remove h t.version home)) fun _ _ _ h => paired_provision h t.config

end SbtWorkspace.Provision
