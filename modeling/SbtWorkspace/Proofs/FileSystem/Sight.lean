import SbtWorkspace.Proofs.FileSystem.Extension
import SbtWorkspace.Proofs.FileSystem.Move

/-! What a reader sees along a path while others change the file system: while the directories of the path are
made, while a scratch file comes and goes, and once the file takes its place. Main statements: directories
along a path without `..` open nothing (`sight_of_makeDirectory`); a place that was free is seen by
paths that lead to it and by no others (`sight_eq_or_of_free`); and a file that is moved is seen, unless
the path led through a link that the file replaced (`sight_of_placed`). -/

namespace SbtWorkspace.FileSystem

variable {fs b m a : FileSystem} {cwd loc : Location} {route : Route} {p : Path} {name : String}
  {node : Node}

/-- Where a path leads and what stands there, if it leads to something. -/
def sight (fs : FileSystem) (cwd : Location) (route : Route) : Option (Location × Node) :=
  (fs.status cwd route).toOption

theorem sight_eq_some_iff {found : Location × Node} :
    fs.sight cwd route = some found ↔ fs.status cwd route = .ok found := by
  unfold sight
  cases fs.status cwd route <;> simp [Except.toOption]

theorem sight_eq_none_iff : fs.sight cwd route = none ↔ ∀ found, fs.status cwd route ≠ .ok found := by
  rw [Option.eq_none_iff_forall_ne_some]
  exact forall_congr' fun found => not_congr sight_eq_some_iff

/-! ## Directories along a path -/

/-- Whether the only changes are directories that were made at what a path begins with. -/
def Paves (cwd : Location) (p : Path) (b a : FileSystem) : Prop :=
  ∀ q, a.lookup q = b.lookup q ∨
    b.lookup q = none ∧ ∃ ancestor, ancestor <+: p.parts ∧
      a.status cwd (⟨p.root, ancestor⟩ : Path).route = .ok (q, .directory)

theorem Paves.of_lookup_eq (h : ∀ q, a.lookup q = b.lookup q) : Paves cwd p b a := fun q => .inl (h q)

theorem Paves.extends (h : Paves cwd p b a) : Extends (fun _ => False) b a := by
  intro q
  obtain hq | ⟨hn, ancestor, _, hs⟩ := h q
  · rw [hq]
    exact .same _
  · rw [hn, lookup_of_status hs]
    exact .directory

/-- A place where nothing stands was free before. -/
theorem Paves.eq_none (h : Paves cwd p b a) (hn : a.lookup loc = none) : b.lookup loc = none := by
  obtain hq | ⟨hb, -⟩ := h loc
  · exact hq ▸ hn
  · exact hb

/-- What is seen is seen after more directories were made. -/
theorem Paves.sight_eq_some (h : Paves cwd p b a) {found : Location × Node}
    (hs : b.sight cwd route = some found) : a.sight cwd route = some found := by
  obtain ⟨goal, old⟩ := found
  obtain ⟨node, ha, hnode⟩ := h.extends.status (sight_eq_some_iff.1 hs)
  cases hnode with
  | same => exact sight_eq_some_iff.2 ha
  | content hc => exact hc.elim

instance : Action.Accumulates (Paves cwd p) where
  refl fs := .of_lookup_eq fun _ => rfl
  trans h₁ h₂ q := by
    obtain hq | ⟨hn, made⟩ := h₂ q
    · rw [hq]
      obtain hq | ⟨hn, ancestor, hp, hs⟩ := h₁ q
      · exact .inl hq
      · exact .inr ⟨hn, ancestor, hp, status_directory_mono hs h₂.extends.keepsWays⟩
    · exact .inr ⟨h₁.eq_none hn, made⟩

theorem paves_makeDirectory {ancestor : List Path.Part} (hp : ancestor <+: p.parts)
    (h : fs.makeDirectory cwd (⟨p.root, ancestor⟩ : Path).route = .ok a) : Paves cwd p fs a := by
  obtain ⟨parent, name, hres, hq⟩ := lookup_of_makeDirectory h
  obtain ⟨-, hn, -⟩ := lookup_of_missing hres
  intro q
  rw [hq]
  split
  · rename_i he
    refine .inr ⟨he ▸ hn, ancestor, hp, ?_⟩
    rw [he]
    exact status_of_missing (keepsWays_makeDirectory h) (by rw [hq, if_pos rfl]) (fun _ => by simp) hres
  · exact .inl rfl

/-! ## Paths that lead nowhere -/

theorem sight_eq_none_of_free {q : Path} {rest : List String} (hd : fs.status cwd p.route = .ok (loc, .directory))
    (hname : IsName name) (hn : fs.lookup (name :: loc) = none) (hroot : q.root = p.root)
    (hsteps : q.route.steps = p.route.steps ++ name :: rest) : fs.sight cwd q.route = none := by
  obtain ⟨-, k, hk, hw⟩ := exists_way_of_status hd
  have hstart : q.route.start cwd = p.route.start cwd := by
    cases p
    cases q
    cases hroot
    rfl
  rw [sight_eq_none_iff]
  rintro ⟨goal, node⟩ hs
  have hres := resolve_of_status hs
  rw [resolve_eq, hstart, hsteps, walkLinks_of_way hw (.inl rfl), if_neg (by omega),
    walkLinks_name (lookup_of_status hd) hname (by simp), hn] at hres
  split at hres
  · cases hres
  · split at hres
    · cases hres
    · dsimp only at hres
      split at hres <;> cases hres

/-- The directory that a path without parts leads to is not made. -/
theorem makeDirectory_nil_ne_ok (root : Path.Root) :
    fs.makeDirectory cwd (⟨root, []⟩ : Path).route ≠ .ok a := by
  intro h
  obtain ⟨parent, name, hres, -⟩ := lookup_of_makeDirectory h
  rw [resolve_eq] at hres
  split at hres
  · cases hres
  · rw [walkLinks_eq_walk] at hres
    simp only [Path.route, List.map_nil, walk] at hres
    split at hres <;> cases hres

/-- A directory that is made above the end of a path without `..` opens nothing: the path led nowhere, and leads
nowhere beyond the new directory. -/
theorem sight_of_makeDirectory {ancestor : List Path.Part} {part : Path.Part} {rest : List Path.Part}
    (hparts : p.parts = ancestor ++ part :: rest) (hup : ∀ part ∈ p.parts, part.name ≠ "..")
    (h : fs.makeDirectory cwd (⟨p.root, ancestor⟩ : Path).route = .ok a) :
    a.sight cwd p.route = none ∧ fs.sight cwd p.route = none := by
  have hentry (part : Path.Part) (hm : part ∈ p.parts) : IsEntryName part.name := ⟨part.isPart, hup part hm⟩
  have hpart : IsEntryName part.name := hentry part (by simp [hparts])
  obtain rfl | ⟨above, last, rfl⟩ := List.eq_nil_or_concat ancestor
  · exact absurd h (makeDirectory_nil_ne_ok p.root)
  · have hlast : IsEntryName last.name := hentry last (by simp [hparts])
    have hpath : (⟨p.root, above.concat last⟩ : Path) = (⟨p.root, above⟩ : Path) / last.name := by
      rw [Path.div_of_isPart _ last.isPart, List.concat_eq_append]
    rw [hpath] at h
    obtain ⟨loc, hreach, hfree, hq⟩ := create_child hlast h
    have hmade : a.lookup (last.name :: loc) = some .directory := by rw [hq, if_pos rfl]
    have hempty : a.lookup (part.name :: last.name :: loc) = none := by
      rw [hq, if_neg (by simp)]
      exact lookup_child_of_not_directory _ (by simp [hfree])
    have hreach' := hreach.mono (keepsWays_makeDirectory h)
    have hres := hreach'.resolve_some hmade (fun _ => by simp) .followed
    have hs : a.status cwd ((⟨p.root, above⟩ : Path) / last.name).route = .ok (last.name :: loc, .directory) := by
      simp only [status, hres]
    have hbefore : p.route.steps =
        (⟨p.root, above⟩ : Path).route.steps ++ last.name :: (part :: rest).map (·.name) := by
      simp [Path.route, hparts]
    have hafter : p.route.steps =
        (⟨p.root, above.concat last⟩ : Path).route.steps ++ part.name :: rest.map (·.name) := by
      simp [Path.route, hparts]
    rw [← hpath] at hs
    exact ⟨sight_eq_none_of_free hs hpart.isName hempty rfl hafter,
      sight_eq_none_of_free hreach.status_eq hlast.isName hfree rfl hbefore⟩

/-! ## A file at a place that was free -/

/-- What comes to a free place is seen by paths that led nowhere and lead there now, and by no others. -/
theorem sight_eq_or_of_free {place : Location} {new : Option Node}
    (h : ∀ q, a.lookup q = if q = place then new else b.lookup q) (hb : b.lookup place = none)
    (hn : IsPlain new) :
    a.sight cwd route = b.sight cwd route ∨
      ∃ node, new = some node ∧ b.sight cwd route = none ∧ a.sight cwd route = some (place, node) := by
  have hkeep : KeepsWays b a := keepsWays_of_lookup_eq h (by simp [hb, IsPlain])
  have hkept (found : Location × Node) (hs : b.status cwd route = .ok found) :
      a.status cwd route = .ok found ∧ found.1 ≠ place := by
    have hl := lookup_of_status hs
    have hne : found.1 ≠ place := by
      intro he
      rw [he, hb] at hl
      cases hl
    exact ⟨status_of_lookup_eq hs hkeep (by rw [h, if_neg hne, hl]), hne⟩
  cases hs : b.sight cwd route with
  | some found => exact .inl (sight_eq_some_iff.2 (hkept found (sight_eq_some_iff.1 hs)).1)
  | none =>
    cases ha : a.sight cwd route with
    | none => exact .inl rfl
    | some found =>
      obtain ⟨goal, node⟩ := found
      have hstatus := sight_eq_some_iff.1 ha
      have hl := lookup_of_status hstatus
      by_cases hgoal : goal = place
      · subst hgoal
        rw [h, if_pos rfl] at hl
        exact .inr ⟨node, hl, rfl, rfl⟩
      · -- the way leads elsewhere, and was there before
        rw [h, if_neg hgoal] at hl
        have hother (q : Location) : b.lookup q = if q = place then none else a.lookup q := by
          rw [h]
          split
          · rename_i hq
            rw [hq, hb]
          · rfl
        have hback : KeepsWays a b := keepsWays_of_lookup_eq hother (by rwa [h, if_pos rfl])
        exact absurd (status_of_lookup_eq hstatus hback hl) (sight_eq_none_iff.1 hs _)

/-! ## A file that takes a place -/

/-- A file that took the place that a path names is seen there, unless a link stood at the place and the path leads
nowhere without it. -/
theorem sight_of_placed {place : Location} {new : Node} (hreach : b.Reaches cwd p name place)
    (h : ∀ q, a.lookup q = if q = name :: place then some new else b.lookup q)
    (hnew : IsPlain (some new)) (hold : b.lookup (name :: place) ≠ some .directory) :
    a.sight cwd (p / name).route = some (name :: place, new) ∨
      a.sight cwd (p / name).route = none ∧ ∃ target, b.lookup (name :: place) = some (.link target) := by
  obtain hs | ⟨hlost, hlink⟩ := status_of_placed hreach h hnew hold
  · exact .inl (sight_eq_some_iff.2 hs)
  · refine .inr ⟨sight_eq_none_iff.2 fun found hs => ?_, hlink⟩
    obtain ⟨loc, hd⟩ := exists_directory_of_resolve hreach.isEntryName.1 (resolve_of_status hs)
    exact hlost loc hd

end SbtWorkspace.FileSystem
