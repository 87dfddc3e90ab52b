import SbtWorkspace.Proofs.FileSystem.Move
import SbtWorkspace.Proofs.Provision.Step

/-! Names in a file system without links. A name in a directory is what stands there, so a walk to it ends under
the name, in the directory of the path. Main statements: `walkLinks_child` and `exists_parent_of_resolve`. -/

namespace SbtWorkspace.Provision
open FileSystem

variable {fs b a : FileSystem} {cwd loc parent : Location} {p : Path} {name : String} {last : LastName}
  {node : Node}

/-! ## Walks to a name -/

/-- Without links a name in a directory is what stands there. -/
theorem walkLinks_child {last : LastName} (hfree : LinkFree fs) (hd : fs.lookup loc = some .directory)
    (hname : IsName name) (links : Nat) :
    fs.walkLinks last links loc [name] =
      if maxNameLength < name.utf8ByteSize then .error .nameTooLong
      else match fs.lookup (name :: loc) with
        | none => .ok (.missing loc name)
        | some node => .ok (.found (name :: loc) node) := by
  split
  · exact walkLinks_child_long hd hname ‹_›
  have hl : name.utf8ByteSize ≤ maxNameLength := Nat.le_of_not_lt ‹_›
  cases standing (fs.lookup (name :: loc)) with
  | free hn => rw [walkLinks_child_none hd hname hl hn, hn]
  | @link target hn => exact absurd hn (hfree (name :: loc) target)
  | other hn hlink => rw [walkLinks_child_some hd hname hl hn hlink, hn]

/-- Without links a name in a directory is walked to alike where the same stands under it. -/
theorem resolve_child_congr (hb : LinkFree b) (ha : LinkFree a)
    (hp : b.status cwd p.route = .ok (loc, .directory)) (hp' : a.status cwd p.route = .ok (loc, .directory))
    (hname : IsEntryName name) (h : a.lookup (name :: loc) = b.lookup (name :: loc)) (last : LastName) :
    a.resolve cwd last (p / name).route = b.resolve cwd last (p / name).route := by
  obtain ⟨_, k, hle, hw⟩ := exists_way_of_status hp
  obtain ⟨_, k', hle', hw'⟩ := exists_way_of_status hp'
  rw [resolve_child hle hw hname.1, resolve_child hle' hw' hname.1,
    walkLinks_child hb (lookup_of_status hp) hname.isName,
    walkLinks_child ha (lookup_of_status hp') hname.isName, h]

/-- Without links a walk to a name ends under that name, in the directory of the path. -/
theorem exists_parent_of_resolve (hfree : LinkFree fs) (hname : IsEntryName name) {t : Target}
    (h : fs.resolve cwd last (p / name).route = .ok t) :
    ∃ loc, fs.status cwd p.route = .ok (loc, .directory) ∧ (p / name).route.refusal = none ∧
      t = match fs.lookup (name :: loc) with
        | none => .missing loc name
        | some node => .found (name :: loc) node := by
  obtain ⟨loc, hp⟩ := exists_directory_of_resolve hname.1 h
  obtain ⟨_, k, hle, hw⟩ := exists_way_of_status hp
  rw [resolve_child hle hw hname.1, walkLinks_child hfree (lookup_of_status hp) hname.isName] at h
  split at h
  · cases h
  rename_i hr
  refine ⟨loc, hp, hr, ?_⟩
  split at h
  · cases h
  split at h <;> cases h <;> simp only [*]

/-- Without links whatever call takes a name takes it in the directory of the path. -/
theorem reaches_of_resolve (hfree : LinkFree fs) (hname : IsEntryName name) {t : Target}
    (h : fs.resolve cwd last (p / name).route = .ok t) : ∃ loc, fs.Reaches cwd p name loc := by
  obtain ⟨loc, hp, hr, -⟩ := exists_parent_of_resolve hfree hname h
  refine ⟨loc, hname, hp, hr, Nat.le_of_not_lt fun hl => ?_⟩
  obtain ⟨_, k, hle, hw⟩ := exists_way_of_status hp
  rw [resolve_child hle hw hname.1, hr, walkLinks_child hfree (lookup_of_status hp) hname.isName,
    if_pos hl] at h
  cases h

theorem location_of_resolve (hfree : LinkFree fs) (hname : IsEntryName name) {t : Target}
    (h : fs.resolve cwd last (p / name).route = .ok t) : ∃ loc, t.location = name :: loc := by
  obtain ⟨loc, -, -, rfl⟩ := exists_parent_of_resolve hfree hname h
  refine ⟨loc, ?_⟩
  split <;> rfl

/-- What is removed under a name is a file or a device. -/
theorem of_unlink (hfree : LinkFree fs) (hname : IsEntryName name)
    (h : fs.unlink cwd (p / name).route = .ok a) :
    ∃ parent node, fs.Reaches cwd p name parent ∧ fs.lookup (name :: parent) = some node ∧
      IsPlain (some node) ∧ a = fs.remove (name :: parent) := by
  simp only [FileSystem.unlink] at h
  split at h
  · cases h
  · rename_i goal node hd hr
    cases h
    obtain ⟨parent, hreach, ht⟩ := exists_reaches_of_resolve hname hr
    cases hn : fs.lookup (name :: parent) with
    | none =>
      rw [hn] at ht
      cases ht
    | some found =>
      rw [hn] at ht
      cases ht
      refine ⟨parent, node, hreach, hn, ⟨fun he => hd (Option.some.inj he), fun target he => ?_⟩, rfl⟩
      exact hfree _ target (hn.trans he)
  · cases h
  · cases h

/-! ## No link is made -/

theorem linkFree_place (hfree : LinkFree fs) (hname : IsEntryName name)
    (hp : fs.lookup parent = some .directory) (hn : fs.lookup (name :: parent) ≠ some .directory)
    (hnode : ∀ target, node ≠ .link target) : LinkFree (fs.place parent name node) := by
  intro q target hq
  rw [lookup_place hname hp hn] at hq
  split at hq
  · exact hnode target (Option.some.inj hq)
  · exact hfree q target hq

theorem linkFree_remove (hfree : LinkFree fs) (loc : Location) : LinkFree (fs.remove loc) := by
  intro q target hq
  rw [lookup_remove] at hq
  split at hq
  · cases hq
  · exact hfree q target hq

end SbtWorkspace.Provision
