import SbtWorkspace.Proofs.Outcome
import SbtWorkspace.Proofs.Provision.Descriptor
import SbtWorkspace.Proofs.Provision.Names

/-! What provisioning does, in a file system without links, to the last entry. What stands in the way of a
meta-build can be told from the file system that was found, since the meta-builds above it put nothing there.
Main statement: `effect_of_provision`, by which either nothing is in the way and every descriptor is written, or
all above the first obstacle are and the failure is that of the obstacle. -/

namespace SbtWorkspace.Provision
open FileSystem MetaBuild SbtWorkspace.Action

variable {c : Context} {m : Machine} {fs b a : FileSystem} {cwd loc : Location} {p q workspace : Path}
  {name : String} {bytes : Bytes} {k n : Nat}

/-! ## Calls that take a name in a directory -/

/-- A name below a path that is walked is refused only where there is no room for it. -/
theorem refusal_child (hr : p.route.refusal = none) (hname : Path.IsPart name) (hn : '\x00' ∉ name.toList) :
    (p / name).route.refusal = none ∨ (p / name).route.refusal = some .nameTooLong := by
  by_cases hl : (p / name).render.utf8ByteSize ≤ maxPathLength
  · exact .inl (refusal_div hname hn hr hl)
  · have hnul : '\x00' ∉ (p / name).route.text.toList := fun hm =>
      (Path.mem_render_div hname (by decide) hm).elim (refusal_eq_none_iff.1 hr).1 hn
    have hne : (p / name).route.text ≠ "" := (p / name).render_ne_empty
    have hl : maxPathLength < (p / name).route.text.utf8ByteSize := Nat.lt_of_not_le hl
    exact .inr (by rw [Route.refusal, if_neg hnul, if_neg hne, if_pos hl])

theorem probe_child_long (hp : fs.status cwd p.route = .ok (loc, .directory)) (hname : IsEntryName name)
    (hn : '\x00' ∉ name.toList) (hl : maxNameLength < name.utf8ByteSize) :
    fs.probe cwd (p / name).route = .error .nameTooLong := by
  obtain ⟨hr, k, hle, hw⟩ := exists_way_of_status hp
  obtain hr | hr := refusal_child hr hname.1 hn
  · rw [probe, status, resolve_child hle hw hname.1, hr]
    simp only [walkLinks_child_long (lookup_of_status hp) hname.isName hl]
    rfl
  · exact probe_of_refusal hr

/-! ## What is in the way -/

/-- The fault of what stands in the place of a descriptor and cannot be replaced: a directory is not written, and a
sealed file is not even read. -/
def blockage : Option Node → Option Fault
  | some .directory => some .isDirectory
  | some .sealed => some .accessDenied
  | _ => none

theorem blockage_eq_none_iff {node : Option Node} :
    blockage node = none ↔ node ≠ some .directory ∧ node ≠ some .sealed := by
  rcases node with _ | _ | _ | _ | _ | _ <;> simp [blockage]

/-- What keeps a descriptor out of a meta-build with its place, and the failure that it makes: there is no room for
the path of either, or something else stands in the place of either. -/
def obstacle (fs : FileSystem) (place : Location) (directory : Path) : Option SystemError :=
  if directory.route.refusal ≠ none then some ⟨.nameTooLong, directory.render, none⟩
  else if fs.lookup place ≠ none ∧ fs.lookup place ≠ some .directory then
    some ⟨.alreadyExists, directory.render, none⟩
  else if (Layout.descriptor directory).route.refusal ≠ none then
    some ⟨.nameTooLong, (Layout.descriptor directory).render, none⟩
  else (blockage (fs.lookup (Layout.descriptorName :: place))).map fun fault =>
    ⟨fault, (Layout.descriptor directory).render, none⟩

theorem obstacle_eq_none_iff {place : Location} {directory : Path} :
    obstacle fs place directory = none ↔ directory.route.refusal = none ∧
      (fs.lookup place = none ∨ fs.lookup place = some .directory) ∧
      (Layout.descriptor directory).route.refusal = none ∧
      fs.lookup (Layout.descriptorName :: place) ≠ some .directory ∧
      fs.lookup (Layout.descriptorName :: place) ≠ some .sealed := by
  rw [← blockage_eq_none_iff]
  unfold obstacle
  grind [Option.map_eq_none_iff]

/-- After a directory with its place was made or found, where no other thing was in the way. -/
structure Entered (directory : Path) (place : Location) (b a : FileSystem) : Prop where
  refusal : directory.route.refusal = none
  free : b.lookup place = none ∨ b.lookup place = some .directory
  lookup : ∀ loc, a.lookup loc = if loc = place then some .directory else b.lookup loc

theorem ends_isDirectory_child {lost : Failure → Machine → Prop} (hreach : m.files.Reaches c.cwd p name loc)
    (hlink : ∀ target, m.files.lookup (name :: loc) ≠ some (.link target)) :
    Ends c m (Action.isDirectory (p / name))
      (fun found m' => m' = m ∧ (found = true ↔ m.files.lookup (name :: loc) = some .directory)) lost := by
  have hprobe := hreach.probe_eq hlink
  refine .look (fun found hf => ⟨rfl, ?_⟩) fun fault hf => ?_
  · simp only [FileSystem.isDirectory, hprobe, Except.map, Except.ok.injEq] at hf
    rw [← hf]
    rcases m.files.lookup (name :: loc) with _ | _ | _ | _ | _ | _ <;> simp
  · simp only [FileSystem.isDirectory, hprobe, Except.map] at hf
    cases hf

theorem ends_makeDirectory_child (hq : m.files.status c.cwd q.route = .ok (loc, .directory)) :
    Ends c m (Action.makeDirectory (q / "project"))
      (fun _ m' => Entered (q / "project") ("project" :: loc) m.files m'.files)
      fun e m' => m' = m ∧ ∃ fault, m.files.makeDirectory c.cwd (q / "project").route = .error fault ∧
        e = .system ⟨fault, (q / "project").render, none⟩ := by
  refine .change (fun fs hf => ?_) fun fault hf => ⟨rfl, fault, hf, rfl⟩
  rw [makeDirectory_child hq] at hf
  split at hf
  · cases hf
  rename_i hr
  split at hf
  · rename_i hn
    cases hf
    exact ⟨hr, .inl hn, lookup_place (by decide) (lookup_of_status hq) (by simp [hn])⟩
  · cases hf

theorem ends_ensurePath_child (hfree : LinkFree m.files)
    (hq : m.files.status c.cwd q.route = .ok (loc, .directory)) :
    Ends c m (ensurePath (q / "project"))
      (fun _ m' => Entered (q / "project") ("project" :: loc) m.files m'.files)
      fun e m' => m' = m ∧
        ∃ error, obstacle m.files ("project" :: loc) (q / "project") = some error ∧ e = .system error := by
  have hmake := makeDirectory_child hq
  refine .of_run_eq (run_ensurePath hq) ((ends_makeDirectory_child hq).tryCatch ?_)
  rintro _ m ⟨rfl, fault, hf, rfl⟩
  obtain hr | hr := refusal_child (exists_way_of_status hq).1 isPart_project (by decide)
  · -- something stands there, which is a directory or stays in the way
    rw [hmake, hr] at hf
    dsimp only at hf
    split at hf
    · cases hf
    rename_i hn
    cases hf
    simp only [reduceCtorEq, if_false]
    refine .bind (ends_isDirectory_child ⟨by decide, hq, hr, by decide⟩ (hfree _)) ?_
    rintro found m ⟨rfl, hfound⟩
    split
    · have hl := hfound.1 ‹_›
      refine .pure ⟨hr, .inr hl, fun place => ?_⟩
      split
      · rw [‹place = _›, hl]
      · rfl
    · rename_i hne
      refine .throw ⟨rfl, _, ?_, rfl⟩
      rw [obstacle, if_neg (not_not.2 hr), if_pos ⟨hn, fun hd => hne (hfound.2 hd)⟩]
  · rw [hmake, hr] at hf
    cases hf
    have hobstacle : obstacle m.files ("project" :: loc) (q / "project") =
        some ⟨.nameTooLong, (q / "project").render, none⟩ := by
      rw [obstacle, if_pos (by simp [hr])]
    simp only [reduceCtorEq, if_false]
    have hlook : Ends c m (Action.isDirectory (q / "project")) (fun _ _ => False) _ := ends_look_tooLong hr
    refine (hlook.mono (fun _ _ h => h) ?_).bind fun _ _ hfalse => hfalse.elim
    rintro e _ ⟨rfl, rfl⟩
    exact ⟨rfl, _, hobstacle, rfl⟩

theorem Entered.linkFree {directory : Path} {place : Location} (h : Entered directory place b a)
    (hfree : LinkFree b) : LinkFree a := by
  intro loc target hl
  rw [h.lookup] at hl
  split at hl
  · cases hl
  · exact hfree loc target hl

theorem Entered.status (h : Entered (q / "project") ("project" :: loc) b a) (hfree : LinkFree b)
    (hq : b.status cwd q.route = .ok (loc, .directory)) :
    a.status cwd (q / "project").route = .ok ("project" :: loc, .directory) := by
  have hkeep : KeepsWays b a := by
    rintro place node hn (rfl | ⟨target, rfl⟩)
    · rw [h.lookup]
      split
      · rfl
      · exact hn
    · exact absurd hn (hfree place target)
  exact status_child (status_directory_mono hq hkeep) (by decide) (by decide) h.refusal
    (by rw [h.lookup, if_pos rfl]) fun _ => by simp

theorem Entered.lookup_descriptor {directory : Path} {place : Location} (h : Entered directory place b a) :
    a.lookup (Layout.descriptorName :: place) = b.lookup (Layout.descriptorName :: place) := by
  rw [h.lookup, if_neg (List.cons_ne_self _ _)]

/-- What is in the way after the directory was entered is in the way of its descriptor. -/
theorem Entered.obstacle_eq {directory : Path} {place : Location} (h : Entered directory place b a) :
    obstacle b place directory =
      if (Layout.descriptor directory).route.refusal ≠ none then
        some ⟨.nameTooLong, (Layout.descriptor directory).render, none⟩
      else (blockage (b.lookup (Layout.descriptorName :: place))).map fun fault =>
        ⟨fault, (Layout.descriptor directory).render, none⟩ := by
  have hfree : ¬(b.lookup place ≠ none ∧ b.lookup place ≠ some .directory) := by
    obtain hn | hn := h.free <;> simp [hn]
  rw [obstacle, if_neg (not_not.2 h.refusal), if_neg hfree]

/-! ## One meta-build -/

/-- Whether a regular file with some content stands in a place. -/
def holds (bytes : Bytes) : Option Node → Bool
  | some (.file old _) => old = bytes
  | _ => false

theorem exists_of_holds {node : Option Node} (h : holds bytes node = true) :
    ∃ executable, node = some (.file bytes executable) := by
  unfold holds at h
  split at h
  · exact ⟨_, by rw [of_decide_eq_true h]⟩
  · cases h

/-- What stands in a place where some content is written: a file keeps its mode, and a device stays. -/
def written (bytes : Bytes) : Option Node → Node
  | some (.file _ executable) => .file bytes executable
  | some (.device kind) => .device kind
  | _ => .file bytes false

/-- The descriptor is written into the meta-build with its place, and nothing else happens. -/
structure Rewrites (place : Location) (bytes : Bytes) (b a : FileSystem) : Prop where
  directory : a.lookup place = some .directory
  descriptor : a.lookup (Layout.descriptorName :: place) =
    some (written bytes (b.lookup (Layout.descriptorName :: place)))
  other : ∀ loc, loc ≠ place → loc ≠ Layout.descriptorName :: place → a.lookup loc = b.lookup loc

theorem answers_isCurrent_child (hreach : fs.Reaches c.cwd p name loc)
    (hlink : ∀ target, fs.lookup (name :: loc) ≠ some (.link target))
    (hsealed : fs.lookup (name :: loc) ≠ some .sealed) :
    Answers c fs (Descriptor.isCurrent (p / name) bytes) (holds bytes (fs.lookup (name :: loc))) := by
  have hprobe := hreach.probe_eq hlink
  have hother (hfile : ∀ node, fs.lookup (name :: loc) = some node → node.isRegular = false) :
      Answers c fs (Descriptor.isCurrent (p / name) bytes) false := by
    have hfound : Answers c fs (Action.isFile (p / name)) false := by
      refine .look ?_
      rw [FileSystem.isFile, hprobe]
      cases hn : fs.lookup (name :: loc) with
      | none => rfl
      | some node => exact congrArg Except.ok (hfile node hn)
    exact hfound.bind (.pure false)
  rcases hn : fs.lookup (name :: loc) with _ | _ | ⟨old, executable⟩ | _ | _ | _
  case some.file =>
    rw [hn] at hprobe
    have hs := status_of_probe hprobe
    have hfound : Answers c fs (Action.isFile (p / name)) true := .look (isFile_of_status hs)
    have hread : Answers c fs (readFile (p / name)) old := .look (by rw [FileSystem.read, hs])
    exact hfound.bind (hread.bind (.pure _))
  case none =>
    refine hother fun node he => ?_
    cases hn.symm.trans he
  case some.sealed => exact absurd hn hsealed
  all_goals
    refine hother fun node he => ?_
    cases hn.symm.trans he
    rfl

theorem ends_isCurrent_sealed {post : Bool → Machine → Prop} (hreach : m.files.Reaches c.cwd p name loc)
    (hsealed : m.files.lookup (name :: loc) = some .sealed) :
    Ends c m (Descriptor.isCurrent (p / name) bytes) post fun e m' => m' = m ∧ e = sealedAway (p / name) := by
  have hlink (target : String) : m.files.lookup (name :: loc) ≠ some (.link target) := by simp [hsealed]
  have hprobe := hreach.probe_eq hlink
  rw [hsealed] at hprobe
  have hs := status_of_probe hprobe
  have hfound : (Action.isFile (p / name)).run c m = (.ok true, m) := by
    have hfile : m.files.isFile c.cwd (p / name).route = .ok true := isFile_eq_true_iff.2 ⟨_, _, hs, rfl⟩
    rw [Action.isFile, run_look, hfile]
  have hread : (readFile (p / name)).run c m = (.error (sealedAway (p / name)), m) := by
    have hdenied : m.files.read c.cwd (p / name).route = .error .accessDenied := by rw [FileSystem.read, hs]
    rw [readFile, run_look, hdenied]
    rfl
  have hrun : (Descriptor.isCurrent (p / name) bytes).run c m = (.error (sealedAway (p / name)), m) := by
    rw [Descriptor.isCurrent, run_bind, hfound]
    dsimp only
    rw [if_pos rfl, run_bind, hread]
  exact .of_run hrun (fun _ ha => by cases ha) fun _ he => ⟨rfl, (Except.error.inj he).symm⟩

/-- A descriptor for which there is no room cannot be looked at. -/
theorem ends_isCurrent_tooLong {post : Bool → Machine → Prop} (hr : p.route.refusal = some .nameTooLong) :
    Ends c m (Descriptor.isCurrent p bytes) post fun e m' => m' = m ∧ e = tooLong p := by
  have hlook : Ends c m (Action.isFile p) (fun _ _ => False) _ := ends_look_tooLong hr
  exact hlook.bind fun _ _ hfalse => hfalse.elim

theorem ends_writeFile_child (hreach : m.files.Reaches c.cwd p name loc)
    (hlink : ∀ target, m.files.lookup (name :: loc) ≠ some (.link target))
    (hsealed : m.files.lookup (name :: loc) ≠ some .sealed) :
    Ends c m (writeFile (p / name) bytes)
      (fun _ m' => m.files.lookup (name :: loc) ≠ some .directory ∧ ∀ place, m'.files.lookup place =
        if place = name :: loc then some (written bytes (m.files.lookup (name :: loc))) else m.files.lookup place)
      fun e m' => m' = m ∧ m.files.lookup (name :: loc) = some .directory ∧
        e = .system ⟨.isDirectory, (p / name).render, none⟩ := by
  have hd := lookup_of_status hreach.status_eq
  refine .change (fun fs h => ?_) fun fault h => ?_
  · rw [hreach.write_eq hlink] at h
    split at h <;> cases h
    · rename_i hn
      exact ⟨by simp [hn], fun place => by rw [hn]; exact lookup_place hreach.isEntryName hd (by simp [hn]) place⟩
    · rename_i hn
      exact ⟨by simp [hn], fun place => by rw [hn]; exact lookup_place hreach.isEntryName hd (by simp [hn]) place⟩
    · rename_i kind hn
      refine ⟨by simp [hn], fun place => ?_⟩
      split
      · rename_i he
        rw [he, hn]
        exact hn
      · rfl
  · rw [hreach.write_eq hlink] at h
    split at h <;> cases h
    · exact absurd ‹_› hsealed
    · exact ⟨rfl, ‹_›, rfl⟩
    · exact absurd ‹_› (hlink _)

theorem Entered.obstacle_of_blockage {directory : Path} {place : Location} (h : Entered directory place b a)
    (hr : (Layout.descriptor directory).route.refusal = none) {fault : Fault}
    (hf : blockage (b.lookup (Layout.descriptorName :: place)) = some fault) :
    obstacle b place directory = some ⟨fault, (Layout.descriptor directory).render, none⟩ := by
  rw [h.obstacle_eq, if_neg (not_not.2 hr), hf]
  rfl

theorem Entered.rewrites {directory : Path} {place : Location} {fs : FileSystem} (h : Entered directory place b fs)
    (hw : ∀ loc, a.lookup loc = if loc = Layout.descriptorName :: place then
      some (written bytes (b.lookup (Layout.descriptorName :: place))) else fs.lookup loc) :
    Rewrites place bytes b a where
  directory := by rw [hw, if_neg (List.cons_ne_self _ _).symm, h.lookup, if_pos rfl]
  descriptor := by rw [hw, if_pos rfl]
  other loc hne hned := by rw [hw, if_neg hned, h.lookup, if_neg hne]

/-- In a directory that was entered the descriptor is looked at, unless something is in its way already. -/
theorem ends_isCurrent_entered (hfree : LinkFree b) (hq : b.status c.cwd q.route = .ok (loc, .directory))
    (h : Entered (q / "project") ("project" :: loc) b m.files) :
    Ends c m (Descriptor.isCurrent (Layout.descriptor (q / "project")) bytes)
      (fun current m' => m'.files = m.files ∧
        m.files.Reaches c.cwd (q / "project") Layout.descriptorName ("project" :: loc) ∧
        m.files.lookup (Layout.descriptorName :: "project" :: loc) ≠ some .sealed ∧
        current = holds bytes (m.files.lookup (Layout.descriptorName :: "project" :: loc)))
      fun e m' => m' = m ∧ ∃ error, obstacle b ("project" :: loc) (q / "project") = some error ∧
        e = .system error := by
  have hname : IsEntryName Layout.descriptorName := by decide
  obtain hr | hr := refusal_child h.refusal hname.1 (by decide)
  · have hreach : m.files.Reaches c.cwd (q / "project") Layout.descriptorName ("project" :: loc) :=
      ⟨hname, h.status hfree hq, hr, by decide⟩
    by_cases hsealed : m.files.lookup (Layout.descriptorName :: "project" :: loc) = some .sealed
    · refine (ends_isCurrent_sealed hreach hsealed).mono (fun _ _ h => h) ?_
      rintro e _ ⟨rfl, rfl⟩
      rw [h.lookup_descriptor] at hsealed
      exact ⟨rfl, _, h.obstacle_of_blockage hr (by rw [hsealed]; rfl), rfl⟩
    · refine (Ends.of_answers (answers_isCurrent_child hreach (h.linkFree hfree _) hsealed)).mono ?_ fun _ _ h => h
      rintro current m' ⟨hcurrent, hm'⟩
      exact ⟨hm', hreach, hsealed, hcurrent⟩
  · refine (ends_isCurrent_tooLong hr).mono (fun _ _ h => h) ?_
    rintro e _ ⟨rfl, rfl⟩
    refine ⟨rfl, _, ?_, rfl⟩
    rw [h.obstacle_eq, Layout.descriptor, if_pos (by simp [hr])]

/-- A descriptor is written or current, or something is in the way. -/
theorem ends_write_child (hfree : LinkFree m.files)
    (hq : m.files.status c.cwd q.route = .ok (loc, .directory)) (text : String) :
    Ends c m (Descriptor.write (q / "project") text)
      (fun new m' => obstacle m.files ("project" :: loc) (q / "project") = none ∧
        Rewrites ("project" :: loc) (Utf8.encode text) m.files m'.files ∧
        new = !holds (Utf8.encode text) (m.files.lookup (Layout.descriptorName :: "project" :: loc)))
      fun e m' => (m'.files = m.files ∨ Entered (q / "project") ("project" :: loc) m.files m'.files) ∧
        ∃ error, obstacle m.files ("project" :: loc) (q / "project") = some error ∧ e = .system error := by
  unfold Descriptor.write
  refine ((ends_ensurePath_child hfree hq).mono (fun _ _ h => h) ?_).bind ?_
  · rintro e m' ⟨rfl, herror⟩
    exact ⟨.inl rfl, herror⟩
  rintro _ m₁ hm₁
  have hplace := hm₁.lookup_descriptor
  refine ((ends_isCurrent_entered hfree hq hm₁).mono (fun _ _ h => h) ?_).bind ?_
  · rintro e _ ⟨rfl, herror⟩
    exact ⟨.inr hm₁, herror⟩
  rintro current m₂ ⟨hm₂, hreach, hsealed, hcurrent⟩
  have hclear (hd : m.files.lookup (Layout.descriptorName :: "project" :: loc) ≠ some .directory) :
      obstacle m.files ("project" :: loc) (q / "project") = none :=
    obstacle_eq_none_iff.2 ⟨hm₁.refusal, hm₁.free, hreach.refusal_eq, hd, hplace ▸ hsealed⟩
  split
  · -- the descriptor that is there is the one to be written
    rename_i hc
    rw [hc, hplace] at hcurrent
    obtain ⟨executable, hn⟩ := exists_of_holds hcurrent.symm
    refine .report_pure fun m₃ hm₃ => ⟨hclear (by simp [hn]), hm₁.rewrites fun place => ?_, by rw [← hcurrent]; rfl⟩
    rw [hm₃, hm₂]
    split
    · rw [‹place = _›, hplace, hn]
      rfl
    · rfl
  · rename_i hc
    rw [Bool.eq_false_iff.2 hc, hplace] at hcurrent
    have hwrite : Ends c m₂ (writeFile (q / "project" / Layout.descriptorName) (Utf8.encode text)) _ _ :=
      ends_writeFile_child (hm₂ ▸ hreach) (hm₂ ▸ hm₁.linkFree hfree _) (hm₂ ▸ hsealed)
    refine (hwrite.mono (fun _ _ h => h) ?_).bind ?_
    · rintro e _ ⟨rfl, hd, rfl⟩
      rw [hm₂, hplace] at hd
      exact ⟨.inr (hm₂ ▸ hm₁), _, hm₁.obstacle_of_blockage hreach.refusal_eq (by rw [hd]; rfl), rfl⟩
    · rintro _ m₃ ⟨hd, hm₃⟩
      rw [hm₂, hplace] at hd hm₃
      refine .report_pure fun m₄ hm₄ => ⟨hclear hd, hm₁.rewrites fun place => ?_, by rw [← hcurrent]; rfl⟩
      rw [hm₄, hm₃]

/-! ## The places of the meta-builds -/

def metaBuildAt (loc : Location) (k : Nat) : Location := List.replicate k "project" ++ loc

def descriptorAt (loc : Location) (k : Nat) : Location := Layout.descriptorName :: metaBuildAt loc k

theorem metaBuildAt_succ (loc : Location) (k : Nat) : metaBuildAt loc (k + 1) = "project" :: metaBuildAt loc k := rfl

theorem length_metaBuildAt (loc : Location) (k : Nat) : (metaBuildAt loc k).length = k + loc.length := by
  simp [metaBuildAt]

theorem metaBuildAt_ne {i j : Nat} (h : i ≠ j) : metaBuildAt loc i ≠ metaBuildAt loc j := by
  intro he
  have hl := congrArg List.length he
  simp only [length_metaBuildAt] at hl
  omega

theorem descriptorAt_ne {i j : Nat} (h : i ≠ j) : descriptorAt loc i ≠ descriptorAt loc j :=
  fun he => metaBuildAt_ne h (List.cons.inj he).2

theorem descriptorAt_ne_metaBuildAt {i j : Nat} : descriptorAt loc i ≠ metaBuildAt loc (j + 1) := by
  intro he
  exact absurd (List.cons.inj he).1 (by decide)

/-- Without links the levels below a workspace are found at their places. -/
theorem location_of_status_level {inner : Location} {node : Node} (hfree : LinkFree fs)
    (hw : fs.status cwd workspace.route = .ok (loc, .directory))
    (h : fs.status cwd (level workspace k).route = .ok (inner, node)) : inner = metaBuildAt loc k := by
  induction k generalizing inner node with
  | zero =>
    cases hw.symm.trans h
    rfl
  | succ k ih =>
    obtain ⟨parent, hp, -, ht⟩ := exists_parent_of_resolve hfree (by decide) (resolve_of_status h)
    cases hn : fs.lookup ("project" :: parent) with
    | none =>
      rw [hn] at ht
      cases ht
    | some found =>
      rw [hn] at ht
      cases ht
      rw [ih hp, metaBuildAt_succ]

/-- Where a directory stands in the place of a level, the level is found, if there is room for its path. -/
theorem status_level (hw : fs.status cwd workspace.route = .ok (loc, .directory))
    (hr : (level workspace k).route.refusal = none) (hd : fs.lookup (metaBuildAt loc k) = some .directory) :
    fs.status cwd (level workspace k).route = .ok (metaBuildAt loc k, .directory) := by
  induction k with
  | zero => exact hw
  | succ k ih =>
    have hsome : (fs.lookup ("project" :: metaBuildAt loc k)).isSome := by
      rw [← metaBuildAt_succ, hd]
      rfl
    have hparent := ih (refusal_of_div isPart_project hr) (lookup_parent hsome)
    exact status_child hparent (by decide) (by decide) hr hd fun _ => by simp

def leadsToContent (fs : FileSystem) (cwd : Location) (bytes : Bytes) (p : Path) : Bool :=
  match fs.status cwd p.route with
  | .ok (_, node) => holds bytes (some node)
  | .error _ => false

/-- A descriptor for which there is room is current if its place holds the content. -/
theorem leadsToContent_descriptor (hfree : LinkFree fs) (hw : fs.status cwd workspace.route = .ok (loc, .directory))
    (hr : (Layout.descriptor (level workspace k)).route.refusal = none) :
    leadsToContent fs cwd bytes (Layout.descriptor (level workspace k)) =
      holds bytes (fs.lookup (descriptorAt loc k)) := by
  have hname : IsEntryName Layout.descriptorName := by decide
  by_cases hd : fs.lookup (metaBuildAt loc k) = some .directory
  · have hp := status_level hw (refusal_of_div hname.1 hr) hd
    have hreach : fs.Reaches cwd (level workspace k) Layout.descriptorName (metaBuildAt loc k) :=
      ⟨hname, hp, hr, by decide⟩
    have hprobe := hreach.probe_eq (hfree _)
    unfold leadsToContent descriptorAt
    rw [Layout.descriptor] at hr ⊢
    cases hs : fs.status cwd (level workspace k / Layout.descriptorName).route with
    | ok found =>
      simp only [probe, hs, Except.ok.injEq] at hprobe
      obtain ⟨node, hn, rfl⟩ := Option.map_eq_some_iff.1 hprobe.symm
      rw [hn]
    | error fault =>
      have hnone : fs.lookup (Layout.descriptorName :: metaBuildAt loc k) = none := by
        simp only [probe, hs] at hprobe
        split at hprobe
        · simpa using hprobe
        · cases hprobe
      rw [hnone]
      rfl
  · have hnone : fs.lookup (descriptorAt loc k) = none := lookup_child_of_not_directory _ hd
    rw [hnone]
    unfold leadsToContent
    split
    · rename_i goal node hs
      obtain ⟨parent, hp⟩ := exists_directory_of_resolve hname.1 (resolve_of_status hs)
      rw [location_of_status_level hfree hw hp] at hp
      exact absurd (lookup_of_status hp) hd
    · rfl

/-! ## All of them -/

/-- The first levels below a workspace are provisioned, and all else is as it was. -/
structure Provisioned (cwd : Location) (workspace : Path) (loc : Location) (bytes : Bytes) (k : Nat)
    (b a : FileSystem) : Prop where
  directory : ∀ i ≤ k, a.status cwd (level workspace i).route = .ok (metaBuildAt loc i, .directory)
  descriptor : ∀ i, 1 ≤ i → i ≤ k → a.status cwd (Layout.descriptor (level workspace i)).route =
    .ok (descriptorAt loc i, written bytes (b.lookup (descriptorAt loc i)))
  other : ∀ place, (∀ i, 1 ≤ i → i ≤ k → place ≠ metaBuildAt loc i ∧ place ≠ descriptorAt loc i) →
    a.lookup place = b.lookup place

theorem Provisioned.start (hw : fs.status cwd workspace.route = .ok (loc, .directory)) :
    Provisioned cwd workspace loc bytes 0 fs fs where
  directory i hi := by
    obtain rfl := Nat.le_zero.1 hi
    exact hw
  descriptor i h₁ h₀ := absurd h₁ (by omega)
  other _ _ := rfl

theorem Provisioned.next (h : Provisioned cwd workspace loc bytes k b a) :
    a.lookup (metaBuildAt loc (k + 1)) = b.lookup (metaBuildAt loc (k + 1)) ∧
      a.lookup (descriptorAt loc (k + 1)) = b.lookup (descriptorAt loc (k + 1)) := by
  constructor
  · refine h.other _ fun i h₁ hk => ⟨metaBuildAt_ne (by omega), fun he => ?_⟩
    exact descriptorAt_ne_metaBuildAt he.symm
  · refine h.other _ fun i h₁ hk => ⟨fun he => ?_, descriptorAt_ne (by omega)⟩
    obtain ⟨j, rfl⟩ : ∃ j, i = j + 1 := ⟨i - 1, by omega⟩
    exact descriptorAt_ne_metaBuildAt he

theorem written_ne_link {node : Option Node} {target : String} : written bytes node ≠ .link target := by
  unfold written
  split <;> simp

theorem Rewrites.linkFree {place : Location} (h : Rewrites place bytes b a) (hfree : LinkFree b) : LinkFree a := by
  intro q target hl
  by_cases hp : q = place
  · rw [hp, h.directory] at hl
    cases hl
  by_cases hd : q = Layout.descriptorName :: place
  · rw [hd, h.descriptor] at hl
    exact written_ne_link (Option.some.inj hl)
  · rw [h.other q hp hd] at hl
    exact hfree q target hl

theorem Rewrites.keepsWays {place : Location} (h : Rewrites place bytes b a) (hfree : LinkFree b)
    (hd : b.lookup (Layout.descriptorName :: place) ≠ some .directory) : KeepsWays b a := by
  rintro q node hn (rfl | ⟨target, rfl⟩)
  · by_cases hp : q = place
    · rw [hp, h.directory]
    · rw [h.other q hp fun he => hd (he ▸ hn), hn]
  · exact absurd hn (hfree q target)

theorem Provisioned.step {next : FileSystem} (h : Provisioned cwd workspace loc bytes k b a) (hfree : LinkFree a)
    (hnone : obstacle a (metaBuildAt loc (k + 1)) (level workspace (k + 1)) = none)
    (hnext : Rewrites (metaBuildAt loc (k + 1)) bytes a next) :
    Provisioned cwd workspace loc bytes (k + 1) b next := by
  obtain ⟨hr, -, hrd, hd, -⟩ := obstacle_eq_none_iff.1 hnone
  have hkeep := hnext.keepsWays hfree hd
  have hdir : next.status cwd (level workspace (k + 1)).route = .ok (metaBuildAt loc (k + 1), .directory) :=
    status_child (status_directory_mono (h.directory k (Nat.le_refl k)) hkeep) (by decide) (by decide) hr
      hnext.directory fun _ => by simp
  have hfile : next.lookup (descriptorAt loc (k + 1)) =
      some (written bytes (b.lookup (descriptorAt loc (k + 1)))) := by
    rw [← h.next.2]
    exact hnext.descriptor
  refine ⟨fun i hi => ?_, fun i h₁ hi => ?_, fun place hplace => ?_⟩
  · obtain hi | rfl := Nat.lt_succ_iff_lt_or_eq.1 (Nat.lt_succ_of_le hi)
    · exact status_directory_mono (h.directory i (Nat.le_of_lt_succ hi)) hkeep
    · exact hdir
  · obtain hi | rfl := Nat.lt_succ_iff_lt_or_eq.1 (Nat.lt_succ_of_le hi)
    · have hs := h.descriptor i h₁ (Nat.le_of_lt_succ hi)
      refine status_mono hs hkeep ?_ fun _ => written_ne_link
      rw [hnext.other _ descriptorAt_ne_metaBuildAt (descriptorAt_ne (Nat.ne_of_lt hi)), lookup_of_status hs]
    · exact status_child hdir (by decide) (by decide) hrd hfile fun _ => written_ne_link
  · obtain ⟨hne, hned⟩ := hplace (k + 1) (by omega) (Nat.le_refl _)
    rw [hnext.other place hne hned]
    exact h.other place fun i h₁ hi => hplace i h₁ (by omega)

def Unobstructed (fs : FileSystem) (workspace : Path) (loc : Location) (k : Nat) : Prop :=
  ∀ i, 1 ≤ i → i ≤ k → obstacle fs (metaBuildAt loc i) (level workspace i) = none

/-- How provisioning the first levels below a workspace ends: with the descriptors that did not hold the content; or
at the first level that something is in the way of, below levels that are provisioned. -/
inductive Effect (cwd : Location) (workspace : Path) (loc : Location) (bytes : Bytes) (n : Nat) (b : FileSystem) :
    Except Failure (List Path) → FileSystem → Prop
  | complete {a : FileSystem} : Unobstructed b workspace loc n → Provisioned cwd workspace loc bytes n b a →
    Effect cwd workspace loc bytes n b
      (.ok (((chain workspace n).map Layout.descriptor).filter (!leadsToContent b cwd bytes ·))) a
  | stopped {k : Nat} {mid a : FileSystem} {error : SystemError} : k < n → Unobstructed b workspace loc k →
    obstacle b (metaBuildAt loc (k + 1)) (level workspace (k + 1)) = some error →
    Provisioned cwd workspace loc bytes k b mid →
    a = mid ∨ Entered (level workspace (k + 1)) (metaBuildAt loc (k + 1)) mid a →
    Effect cwd workspace loc bytes n b (.error (.system error)) a

theorem chain_eq_map_range' (workspace : Path) (n : Nat) :
    chain workspace n = (List.range' 1 n).map (level workspace) := by
  rw [chain, List.range'_eq_map_range, List.map_map]
  exact List.map_congr_left fun i _ => by rw [Function.comp, Nat.add_comm]

theorem obstacle_congr {place : Location} {directory : Path} (h : a.lookup place = b.lookup place)
    (hd : a.lookup (Layout.descriptorName :: place) = b.lookup (Layout.descriptorName :: place)) :
    obstacle a place directory = obstacle b place directory := by
  rw [obstacle, obstacle, h, hd]

theorem Unobstructed.succ (h : Unobstructed fs workspace loc k)
    (hnone : obstacle fs (metaBuildAt loc (k + 1)) (level workspace (k + 1)) = none) :
    Unobstructed fs workspace loc (k + 1) := by
  intro i h₁ hi
  obtain hi | rfl := Nat.lt_succ_iff_lt_or_eq.1 (Nat.lt_succ_of_le hi)
  · exact h i h₁ (Nat.le_of_lt_succ hi)
  · exact hnone

/-- From provisioned levels, the ones below are provisioned in turn, down to the first obstacle. -/
theorem ends_writeAll_levels {text : String} (hfree : LinkFree b)
    (hw : b.status c.cwd workspace.route = .ok (loc, .directory)) (d : Nat) (hb : Unobstructed b workspace loc k)
    (hm : Provisioned c.cwd workspace loc (Utf8.encode text) k b m.files) (hfree' : LinkFree m.files) :
    Ends c m (Descriptor.writeAll text ((List.range' (k + 1) d).map (level workspace)))
      (fun files m' => Unobstructed b workspace loc (k + d) ∧
        Provisioned c.cwd workspace loc (Utf8.encode text) (k + d) b m'.files ∧
        files = (((List.range' (k + 1) d).map (level workspace)).map Layout.descriptor).filter
          (!leadsToContent b c.cwd (Utf8.encode text) ·))
      fun e m' => Effect c.cwd workspace loc (Utf8.encode text) (k + d) b (.error e) m'.files := by
  induction d generalizing k m with
  | zero => exact .pure ⟨hb, hm, rfl⟩
  | succ d ih =>
    have hobstacle : obstacle m.files (metaBuildAt loc (k + 1)) (level workspace (k + 1)) =
        obstacle b (metaBuildAt loc (k + 1)) (level workspace (k + 1)) := obstacle_congr hm.next.1 hm.next.2
    rw [List.range'_succ, List.map_cons, List.map_cons]
    refine ((ends_write_child hfree' (hm.directory k (Nat.le_refl k)) text).mono (fun _ _ h => h) ?_).bind ?_
    · rintro e m' ⟨hleft, error, herror, rfl⟩
      exact .stopped (by omega) hb (hobstacle.symm.trans herror) hm hleft
    rintro new m₁ ⟨hnone, hrewrites, hnew⟩
    have hb' := hb.succ (hobstacle.symm.trans hnone)
    have hrest := ih hb' (hm.step hfree' hnone hrewrites) (hrewrites.linkFree hfree')
    have hk : k + 1 + d = k + (d + 1) := by omega
    rw [hk] at hrest
    refine hrest.bind ?_
    rintro more m₂ ⟨hunobstructed, hprovisioned, hmore⟩
    refine .pure ⟨hunobstructed, hprovisioned, ?_⟩
    -- whether the first of them held the content can be told from the file system that was found
    have hnone : obstacle m.files (metaBuildAt loc (k + 1)) (level workspace (k + 1)) = none := hnone
    obtain ⟨-, -, hr, -⟩ := obstacle_eq_none_iff.1 hnone
    have hnew : new = !holds (Utf8.encode text) (m.files.lookup (descriptorAt loc (k + 1))) := hnew
    rw [hm.next.2, ← leadsToContent_descriptor hfree hw hr] at hnew
    rw [List.filter_cons, ← hnew, hmore]

theorem run_provision {config : Config} (hi : config.bloopInstalled = false) :
    (Descriptor.provision workspace config).run c m =
      match m.files.isDirectory c.cwd workspace.route with
      | .error fault => (.error (.system ⟨fault, workspace.render, none⟩), m)
      | .ok false => (.error (.notDirectory workspace), m)
      | .ok true =>
        match discover m.files c.cwd workspace with
        | .error e => (.error (.system e), m)
        | .ok found => (Descriptor.writeAll (Descriptor.content config.bloopVersion) found).run c m := by
  have hmeta : (Descriptor.metaBuilds workspace).run c m =
      (match discover m.files c.cwd workspace with
        | .ok found => .ok found
        | .error e => .error (.system e), m) := by
    show (Action.ofExcept _ (discover m.files c.cwd workspace)).run c m = _
    cases discover m.files c.cwd workspace <;> rfl
  unfold Descriptor.provision
  rw [if_neg (by simp [hi]), run_bind, Action.isDirectory, run_look]
  cases m.files.isDirectory c.cwd workspace.route with
  | error fault => rfl
  | ok found =>
    cases found with
    | false => rfl
    | true =>
      dsimp only
      rw [if_pos rfl, run_bind, hmeta]
      cases discover m.files c.cwd workspace <;> rfl

/-- The meta-builds that were found are provisioned, from the first one on. -/
theorem ends_writeAll_chain {text : String} (hfree : LinkFree m.files)
    (hw : m.files.status c.cwd workspace.route = .ok (loc, .directory)) (n : Nat) :
    Ends c m (Descriptor.writeAll text (chain workspace n))
      (fun files m' => Unobstructed m.files workspace loc n ∧
        Provisioned c.cwd workspace loc (Utf8.encode text) n m.files m'.files ∧
        files = ((chain workspace n).map Layout.descriptor).filter
          (!leadsToContent m.files c.cwd (Utf8.encode text) ·))
      fun e m' => Effect c.cwd workspace loc (Utf8.encode text) n m.files (.error e) m'.files := by
  have hnone : Unobstructed m.files workspace loc 0 := fun i h₁ h₀ => absurd h₁ (by omega)
  have hends : Ends c m (Descriptor.writeAll text _) _ _ :=
    ends_writeAll_levels hfree hw n hnone (.start hw) hfree
  simpa only [Nat.zero_add, ← chain_eq_map_range'] using hends

/-- A run that succeeds provisioned what was found, and nothing else happened. -/
theorem provisioned_of_run {m' : Machine} {config : Config} {files : List Path} (hfree : LinkFree m.files)
    (hi : config.bloopInstalled = false)
    (h : (Descriptor.provision workspace config).run c m = (.ok files, m')) :
    ∃ loc n, m.files.status c.cwd workspace.route = .ok (loc, .directory) ∧
      discover m.files c.cwd workspace = .ok (chain workspace n) ∧
      Provisioned c.cwd workspace loc (Utf8.encode (Descriptor.content config.bloopVersion)) n m.files m'.files := by
  rw [run_provision hi] at h
  split at h <;> try cases h
  rename_i hd
  obtain ⟨loc, hw⟩ := isDirectory_eq_true_iff.1 hd
  split at h <;> try cases h
  rename_i found hf
  obtain ⟨n, -, -, rfl, -⟩ := exists_chain_of_discover hf
  exact ⟨loc, n, hw, hf, ((ends_writeAll_chain hfree hw n).post_of_run h).2.1⟩

/-- What provisioning does is known to the last entry, on every exit. For who manages sbt-bloop alone, for a
workspace that is no directory, and where the search for meta-builds fails, nothing changes. Otherwise the
meta-builds are provisioned from the first one, down to the first that something is in the way of. -/
theorem effect_of_provision (workspace : Path) (config : Config) (hfree : LinkFree m.files) :
    let run := (Descriptor.provision workspace config).run c m
    (config.bloopInstalled = true → run.1 = .ok [] ∧ run.2.files = m.files) ∧
    (config.bloopInstalled = false →
      (m.files.isDirectory c.cwd workspace.route = .ok false →
        run.1 = .error (.notDirectory workspace) ∧ run.2.files = m.files) ∧
      (∀ fault, m.files.isDirectory c.cwd workspace.route = .error fault →
        run.1 = .error (.system ⟨fault, workspace.render, none⟩) ∧ run.2.files = m.files) ∧
      ∀ loc, m.files.status c.cwd workspace.route = .ok (loc, .directory) →
        (∀ e, discover m.files c.cwd workspace = .error e →
          run.1 = .error (.system e) ∧ run.2.files = m.files) ∧
        ∀ found, discover m.files c.cwd workspace = .ok found → ∃ n, found = chain workspace n ∧
          Effect c.cwd workspace loc (Utf8.encode (Descriptor.content config.bloopVersion)) n m.files
            run.1 run.2.files) := by
  dsimp only
  refine ⟨fun hi => ?_, fun hi => ?_⟩
  · unfold Descriptor.provision
    rw [if_pos hi]
    exact ⟨rfl, rfl⟩
  rw [run_provision hi]
  refine ⟨fun hd => ?_, fun fault hd => ?_, fun loc hw => ?_⟩
  · rw [hd]
    exact ⟨rfl, rfl⟩
  · rw [hd]
    exact ⟨rfl, rfl⟩
  rw [isDirectory_eq_true_iff.2 ⟨loc, hw⟩]
  refine ⟨fun e he => ?_, fun found hf => ?_⟩
  · rw [he]
    exact ⟨rfl, rfl⟩
  obtain ⟨n, -, -, rfl, -⟩ := exists_chain_of_discover hf
  refine ⟨n, rfl, ?_⟩
  rw [hf]
  dsimp only
  refine Ends.run (P := fun r m' => Effect c.cwd workspace loc
    (Utf8.encode (Descriptor.content config.bloopVersion)) n m.files r m'.files)
    ((ends_writeAll_chain hfree hw n).mono ?_ fun _ _ h => h)
  rintro files m' ⟨hunobstructed, hprovisioned, rfl⟩
  exact .complete hunobstructed hprovisioned

/-- A workspace whose second meta-build is a file. -/
def obstructed : FileSystem :=
  FileSystem.empty.place [] "ws" .directory
    |>.place ["ws"] "project" .directory
    |>.place ["project", "ws"] "sbtctl.sbt" (.file [] true)
    |>.place ["project", "ws"] "project" (.file [] false)

theorem linkFree_obstructed : LinkFree obstructed := by
  decide +kernel

theorem discover_obstructed : discover obstructed [] (Path.parse "ws") = .ok (chain (Path.parse "ws") 2) := by
  decide +kernel

theorem run_provision_obstructed :
    ((Descriptor.provision (Path.parse "ws") {}).run .bare { files := obstructed }).1 =
      .error (.system ⟨.alreadyExists, "ws/project/project", none⟩) := by
  decide +kernel

/-- Where the second meta-build is a file, the first one is provisioned and nothing else changes. -/
theorem effect_of_provision_obstructed :
    LinkFree obstructed ∧ discover obstructed [] (Path.parse "ws") = .ok (chain (Path.parse "ws") 2) ∧
      Effect [] (Path.parse "ws") ["ws"] (Utf8.encode (Descriptor.content ({} : Config).bloopVersion)) 2 obstructed
        (.error (.system ⟨.alreadyExists, "ws/project/project", none⟩))
        ((Descriptor.provision (Path.parse "ws") {}).run .bare { files := obstructed }).2.files := by
  obtain ⟨-, heffect⟩ := effect_of_provision (c := .bare) (m := { files := obstructed }) (Path.parse "ws") {}
    linkFree_obstructed
  obtain ⟨-, -, heffect⟩ := heffect rfl
  obtain ⟨-, heffect⟩ := heffect ["ws"] (by decide +kernel)
  obtain ⟨n, hn, heffect⟩ := heffect _ discover_obstructed
  rw [run_provision_obstructed] at heffect
  obtain rfl : n = 2 := by simpa [chain] using (congrArg List.length hn).symm
  exact ⟨linkFree_obstructed, discover_obstructed, heffect⟩

/-- A workspace whose name is too long is no directory either, but provisioning cannot look at it to tell. -/
theorem run_provision_long {config : Config} (hi : config.bloopInstalled = false)
    (hp : m.files.status c.cwd p.route = .ok (loc, .directory)) (hname : IsEntryName name)
    (hn : '\x00' ∉ name.toList) (hl : maxNameLength < name.utf8ByteSize) :
    (∀ goal, m.files.status c.cwd (p / name).route ≠ .ok (goal, .directory)) ∧
      (Descriptor.provision (p / name) config).run c m =
        (.error (.system ⟨.nameTooLong, (p / name).render, none⟩), m) := by
  have hdirectory : m.files.isDirectory c.cwd (p / name).route = .error .nameTooLong := by
    rw [FileSystem.isDirectory, probe_child_long hp hname hn hl]
    rfl
  refine ⟨fun goal hs => ?_, ?_⟩
  · rw [isDirectory_eq_true_iff.2 ⟨goal, hs⟩] at hdirectory
    cases hdirectory
  · rw [run_provision hi, hdirectory]

/-- A name of one octet more than a name may have. -/
def overlong : String := String.ofList (List.replicate 256 'x')

theorem toList_overlong : overlong.toList = List.replicate 256 'x' := String.toList_ofList

/-- So a workspace that is no directory is not always refused as one. -/
theorem provision_overlong :
    (∀ goal, FileSystem.empty.status [] (here / overlong).route ≠ .ok (goal, .directory)) ∧
      (Descriptor.provision (here / overlong) {}).run .bare { files := FileSystem.empty } =
        (.error (.system ⟨.nameTooLong, (here / overlong).render, none⟩), { files := FileSystem.empty }) := by
  have hmem {ch : Char} (h : ch ∈ overlong.toList) : ch = 'x' := by
    rw [toList_overlong] at h
    exact List.eq_of_mem_replicate h
  have hne {other : String} (h : other.toList.length ≠ 256) : overlong ≠ other := by
    rintro rfl
    rw [toList_overlong, List.length_replicate] at h
    exact h rfl
  have hlong : maxNameLength < overlong.utf8ByteSize := by decide +kernel
  have hentry : IsEntryName overlong :=
    ⟨⟨hne (by decide), hne (by decide), fun h => absurd (hmem h) (by decide)⟩, hne (by decide)⟩
  have hstatus : FileSystem.empty.status [] here.route = .ok ([], .directory) := by decide +kernel
  have hnul : '\x00' ∉ overlong.toList := fun h => absurd (hmem h) (by decide)
  have hi : ({} : Config).bloopInstalled = false := rfl
  exact @run_provision_long .bare { files := FileSystem.empty } _ here overlong _ hi hstatus hentry hnul hlong

end SbtWorkspace.Provision
