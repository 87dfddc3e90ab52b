import SbtWorkspace.Proofs.Provision.Spared

/-! What is generated is never observed. However operations on workspaces follow each other, in a file
system without links the pinned version, the options and the meta-builds of a directory are at every
point what they were at the start. Main statement: `observations_of_reachable`. -/

namespace SbtWorkspace.Provision
open FileSystem MetaBuild SbtWorkspace.Action

variable {c : Context} {fs b a : FileSystem} {cwd loc : Location} {p workspace : Path} {name : String}

/-! ## Looks at names that are not generated -/

theorem status_child_eq (hfree : LinkFree b) (h : Spared b a)
    (hp : b.status cwd p.route = .ok (loc, .directory)) (hname : IsEntryName name)
    (hn : name ∉ generatedNames) (hne : name ≠ "project") :
    a.status cwd (p / name).route = b.status cwd (p / name).route := by
  have hd := lookup_of_status hp
  have hd' := h.grown.keepsWays.directory hd
  obtain ⟨_, k, hle, hw⟩ := exists_way_of_status hp
  have hw' := hw.mono_directory h.grown.keepsWays hd
  rw [status, status, resolve_child hle hw hname.1, resolve_child hle hw' hname.1,
    walkLinks_child hfree hd hname.isName, walkLinks_child h.linkFree hd' hname.isName,
    (h.others name loc hn).eq_of_ne hne]

/-- Names in the main meta-build: it is missing, or a directory, or something else. -/
theorem walkLinks_nested (hfree : LinkFree fs) (hd : fs.lookup loc = some .directory) (links : Nat) :
    fs.walkLinks .followed links loc ["project", name] =
      match fs.lookup ("project" :: loc) with
      | none => .error .noEntry
      | some .directory => fs.walkLinks .followed links ("project" :: loc) [name]
      | some _ => .error .notDirectory := by
  have hproject : IsEntryName "project" := by decide
  have hl : ¬ maxNameLength < "project".utf8ByteSize := by decide
  rw [walkLinks_name hd hproject.isName (by simp), if_neg hl]
  cases hn : fs.lookup ("project" :: loc) with
  | none => rfl
  | some node =>
    cases node with
    | directory => rfl
    | link target => exact absurd hn (hfree _ target)
    | file | sealed | device =>
      rw [walkLinks_eq_walk]
      simp [walk, hn]

theorem resolve_nested {k : Nat} (hk : k ≤ maxLinks) (hw : fs.Way (p.route.start cwd) p.route.steps k loc)
    (hname : Path.IsPart name) :
    fs.resolve cwd .followed (p / "project" / name).route =
      match (p / "project" / name).route.refusal with
      | some fault => .error fault
      | none => fs.walkLinks .followed (maxLinks - k) loc ["project", name] := by
  have hg : GoesOn .followed ["project", name] := .inl rfl
  have hwalk := walkLinks_of_way hw hg maxLinks
  rw [if_neg (by omega)] at hwalk
  have hsteps : (p / "project" / name).route.steps = p.route.steps ++ ["project", name] := by
    rw [steps_div _ hname, steps_div _ isPart_project, List.append_assoc]
    rfl
  have hstart : (p / "project" / name).route.start cwd = p.route.start cwd := by
    rw [start_div _ hname, start_div _ isPart_project]
  rw [resolve_eq, hsteps, hstart]
  cases (p / "project" / name).route.refusal with
  | some fault => rfl
  | none => exact hwalk

/-- A name in the main meta-build is looked up as before: where that was missing and was made, the name is
still missing. -/
theorem status_nested_eq (hfree : LinkFree b) (h : Spared b a)
    (hp : b.status cwd p.route = .ok (loc, .directory)) (hname : IsEntryName name)
    (hl : name.utf8ByteSize ≤ maxNameLength) (hn : name ∉ generatedNames) (hne : name ≠ "project") :
    a.status cwd (p / "project" / name).route = b.status cwd (p / "project" / name).route := by
  have hd := lookup_of_status hp
  have hd' := h.grown.keepsWays.directory hd
  obtain ⟨_, k, hle, hw⟩ := exists_way_of_status hp
  have hw' := hw.mono_directory h.grown.keepsWays hd
  rw [status, status, resolve_nested hle hw hname.1, resolve_nested hle hw' hname.1]
  cases (p / "project" / name).route.refusal with
  | some fault => rfl
  | none =>
    have hinner := (h.others name ("project" :: loc) hn).eq_of_ne hne
    have hproject := h.others "project" loc (by decide)
    rw [walkLinks_nested hfree hd, walkLinks_nested h.linkFree hd']
    generalize hb : b.lookup ("project" :: loc) = before at hproject
    generalize ha : a.lookup ("project" :: loc) = after at hproject
    cases hproject with
    | same =>
      rcases before with _ | _ | _ | _ | _
      case some.directory =>
        simp only [walkLinks_child hfree hb hname.isName, walkLinks_child h.linkFree ha hname.isName,
          hinner]
      all_goals rfl
    | made =>
      -- before, the directory was missing, and now the name in it is; either way nothing is found
      have hnone : a.lookup (name :: "project" :: loc) = none := by
        rw [hinner]
        exact lookup_child_of_not_directory name (by simp [hb])
      simp only [walkLinks_child_none ha hname.isName hl hnone]

/-! ## What is observed of a workspace -/

/-- The option files are in the workspace itself, and none is generated. -/
theorem exists_name_of_mem_optionFiles {file : Path} (h : file ∈ Layout.optionFiles workspace) :
    ∃ name, file = workspace / name ∧ IsEntryName name ∧ name ∉ generatedNames ∧ name ≠ "project" := by
  simp only [Layout.optionFiles, List.mem_cons, List.not_mem_nil, or_false] at h
  obtain rfl | rfl := h <;> exact ⟨_, rfl, by decide, by decide, by decide⟩

/-- No level that the walk comes to has so long a path that none is left for the name of a generated file. -/
def HasRoom (fs : FileSystem) (cwd : Location) (workspace : Path) : Prop :=
  ∀ k, 1 ≤ k → Reached fs cwd workspace k →
    (level workspace k / Layout.bridgeName).render.utf8ByteSize ≤ maxPathLength

/-- The bridge has the longest name of all that is made. -/
theorem HasRoom.room (h : HasRoom fs cwd workspace) : Room generatedNames fs cwd workspace := by
  intro k hk hr name hname
  have hall : ∀ name ∈ nestedName :: generatedNames,
      Path.IsPart name ∧ name.utf8ByteSize ≤ Layout.bridgeName.utf8ByteSize := by
    decide
  exact refusal_of_not_kept (by decide) hall (h k hk hr) hname

/-- A workspace with one meta-build of its own. -/
def plain : FileSystem :=
  FileSystem.empty.place [] "ws" .directory
    |>.place ["ws"] ".sbtopts" (.file (Utf8.encode "-Xmx1G\n") false)
    |>.place ["ws"] "project" .directory
    |>.place ["project", "ws"] "build.sbt" (.file [] false)
    |>.place ["project", "ws"] "build.properties" (.file (Utf8.encode "sbt.version=1.9.9\n") false)

/-- A directory to go down into, beside an empty meta-build. -/
def narrow : FileSystem :=
  FileSystem.empty.place [] "project" .directory |>.place [] "a" .directory

end SbtWorkspace.Provision
