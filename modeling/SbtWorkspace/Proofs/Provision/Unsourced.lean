import SbtWorkspace.Proofs.FileSystem.Beside
import SbtWorkspace.Proofs.MetaBuild.Stability
import SbtWorkspace.Proofs.Provision.Names

/-! Places that are no build sources. Of two file systems without links that differ at a few places, none of which is
that of a source in a level, the walk over the meta-builds finds the same in both: a level is a directory in both or
in neither, and the search through it passes the places over. Main statement: `Unsourced.discover_eq`. -/

namespace SbtWorkspace.Provision
open FileSystem MetaBuild

variable {hidden : List Location} {fs b a : FileSystem} {cwd loc inner : Location} {workspace p : Path}
  {name : String} {last : LastName} {node : Node} {j k : Nat}

/-! ## The levels without links -/

/-- Without links the levels below a workspace are one below the other. -/
theorem length_of_status_level (hfree : LinkFree fs)
    (hw : fs.status cwd workspace.route = .ok (loc, .directory))
    (h : fs.status cwd (level workspace k).route = .ok (inner, node)) : inner.length = loc.length + k := by
  induction k generalizing inner node with
  | zero =>
    cases hw.symm.trans h
    rfl
  | succ k ih =>
    obtain ⟨parent, hp, -, ht⟩ := exists_parent_of_resolve hfree (by decide) (resolve_of_status h)
    cases hn : fs.lookup ("project" :: parent) with
    | none =>
      rw [hn] at ht
      cases ht
    | some found =>
      rw [hn] at ht
      cases ht
      rw [List.length_cons, ih hp, Nat.add_assoc]

/-- A level that is a directory is one below the workspace, which is one too. -/
theorem exists_status_of_level (hfree : LinkFree fs)
    (h : fs.status cwd (level workspace k).route = .ok (inner, .directory)) :
    ∃ loc, fs.status cwd workspace.route = .ok (loc, .directory) := by
  induction k generalizing inner with
  | zero => exact ⟨inner, h⟩
  | succ k ih =>
    obtain ⟨parent, hp, -⟩ := exists_parent_of_resolve hfree (by decide) (resolve_of_status h)
    exact ih hp

/-- Without links no two levels are the same directory. -/
theorem level_eq_of_status (hfree : LinkFree fs)
    (hj : fs.status cwd (level workspace j).route = .ok (loc, .directory))
    (hk : fs.status cwd (level workspace k).route = .ok (loc, .directory)) : j = k := by
  obtain ⟨root, hw⟩ := exists_status_of_level hfree hj
  have hlj := length_of_status_level hfree hw hj
  have hlk := length_of_status_level hfree hw hk
  omega

/-! ## Levels that are looked at -/

theorem below_eq_of_isDirectory_error {walked : List Location} {fault : Fault}
    (h : fs.isDirectory cwd p.route = .error fault) :
    below fs cwd walked p = .error ⟨fault, p.render, none⟩ := by
  refine below_eq_of_error ?_
  cases hp : fs.probe cwd p.route with
  | error fault' => simpa [isDirectory, hp, Except.map] using h
  | ok found => simp [isDirectory, hp, Except.map] at h

theorem below_eq_nil_of_isDirectory {walked : List Location} (h : fs.isDirectory cwd p.route = .ok false) :
    below fs cwd walked p = .ok [] := by
  cases hp : fs.probe cwd p.route with
  | error fault => simp [isDirectory, hp, Except.map] at h
  | ok found =>
    refine below_eq_nil hp fun loc he => ?_
    simp [isDirectory, hp, he, Except.map] at h

/-! ## The walk -/

/-- Two file systems without links are the same but for places where no level has a build source. -/
structure Unsourced (hidden : List Location) (cwd : Location) (workspace : Path) (b a : FileSystem) : Prop where
  beside : Beside hidden b a
  before : LinkFree b
  after : LinkFree a
  isSource_before : ∀ k name loc, name :: loc ∈ hidden →
    b.status cwd (level workspace (k + 1)).route = .ok (loc, .directory) →
    isSource b cwd (level workspace (k + 1)) name = .ok false
  isSource_after : ∀ k name loc, name :: loc ∈ hidden →
    a.status cwd (level workspace (k + 1)).route = .ok (loc, .directory) →
    isSource a cwd (level workspace (k + 1)) name = .ok false

/-- The search for a source through a level finds the same. -/
theorem Unsourced.anySource_eq (h : Unsourced hidden cwd workspace b a)
    (hp : b.status cwd (level workspace (k + 1)).route = .ok (loc, .directory)) :
    anySource a cwd (level workspace (k + 1)) (a.names loc) =
      anySource b cwd (level workspace (k + 1)) (b.names loc) := by
  have hp' := h.beside.status_directory hp
  have hb : anySource b cwd (level workspace (k + 1)) (b.names loc) = anySource b cwd (level workspace (k + 1))
      ((b.names loc).filter fun name => !hidden.contains (name :: loc)) :=
    anySource_filter fun name _ hk => h.isSource_before k name loc (by simpa using hk) hp
  have ha : anySource a cwd (level workspace (k + 1)) (a.names loc) = anySource a cwd (level workspace (k + 1))
      ((a.names loc).filter fun name => !hidden.contains (name :: loc)) :=
    anySource_filter fun name _ hk => h.isSource_after k name loc (by simpa using hk) hp'
  rw [ha, hb, h.beside.names loc]
  refine anySource_congr fun name hn => isSource_congr ?_
  obtain ⟨hn, hk⟩ := List.mem_filter.1 hn
  have hname := isEntryName_of_lookup (mem_names_iff.1 hn)
  have hres := resolve_child_congr h.before h.after hp hp' hname (h.beside.others _ (by simpa using hk)) .followed
  simp only [FileSystem.isFile, probe, status, hres]

theorem Unsourced.below_eq (h : Unsourced hidden cwd workspace b a) (walked : List Location) :
    below a cwd walked (level workspace (k + 1)) = below b cwd walked (level workspace (k + 1)) := by
  generalize hc : level workspace (k + 1) = current
  -- along the walk in one of them; each look and each search that it goes by finds the same in the other
  fun_induction below b cwd walked current generalizing k with
  | case1 walked current fault hpr =>
    refine below_eq_of_isDirectory_error ((h.beside.isDirectory_eq cwd _).trans ?_)
    simp [isDirectory, hpr, Except.map]
  | case2 walked current inner hpr hw =>
    rw [below_eq_of_directory (h.beside.status_directory (status_of_probe hpr)), if_pos hw]
  | case3 walked current inner hpr hw _ e hany =>
    subst hc
    have hany := (h.anySource_eq (status_of_probe hpr)).trans hany
    rw [below_eq_of_directory (h.beside.status_directory (status_of_probe hpr)), if_neg hw, hany]
  | case4 walked current inner hpr hw _ hany =>
    subst hc
    have hany := (h.anySource_eq (status_of_probe hpr)).trans hany
    rw [below_eq_of_directory (h.beside.status_directory (status_of_probe hpr)), if_neg hw, hany]
  | case5 walked current inner hpr hw _ hany ih =>
    subst hc
    have hany := (h.anySource_eq (status_of_probe hpr)).trans hany
    rw [below_eq_of_directory (h.beside.status_directory (status_of_probe hpr)), if_neg hw, hany, ih rfl]
  | case6 walked current found hno hpr =>
    refine below_eq_nil_of_isDirectory ((h.beside.isDirectory_eq cwd _).trans ?_)
    rcases found with _ | ⟨loc, _ | _ | _ | _⟩
    case some.directory => exact absurd rfl (hno loc)
    all_goals simp [isDirectory, hpr, Except.map]

/-- The same meta-builds are found. -/
theorem Unsourced.discover_eq (h : Unsourced hidden cwd workspace b a) :
    discover a cwd workspace = discover b cwd workspace := by
  have hbelow : below a cwd [] (level workspace 1) = below b cwd [] (level workspace 1) := h.below_eq []
  rw [MetaBuild.discover_eq, MetaBuild.discover_eq, hbelow]

end SbtWorkspace.Provision
