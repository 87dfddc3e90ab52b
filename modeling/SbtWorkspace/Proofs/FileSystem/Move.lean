import SbtWorkspace.Proofs.FileSystem.Look

/-! A file that is made under a scratch name, written, and moved to its place. A call that takes a name in
a directory found the directory first, so each of the three steps is about one place in one directory.
What was moved is found under its path if and only if the directory of the path is found: the way to the
directory may lead through a link at the place that the file takes. Main statement: `status_of_replace`. -/

namespace SbtWorkspace

namespace Path

theorem parent_div_name {p : Path} (h : p.parts ≠ []) : p.parent / p.name = p := by
  obtain ⟨root, parts⟩ := p
  obtain ⟨init, last, rfl⟩ : ∃ init last, parts = init ++ [last] :=
    ⟨_, _, (List.dropLast_concat_getLast h).symm⟩
  have hname : (⟨root, init ++ [last]⟩ : Path).name = last.name := by simp [name]
  rw [hname, div_of_isPart _ last.isPart]
  simp [parent]

end Path

def Target.location : Target → Location
  | .found loc _ => loc
  | .missing parent name => name :: parent

namespace FileSystem

variable {fs b a : FileSystem} {last : LastName} {loc cwd : Location} {name : String} {p : Path}
  {links : Nat} {node : Node} {t : Target}

/-! ## The directory of a name -/

theorem exists_way_of_walk_append
    (hf : ∀ loc steps, fs.follower last links loc (steps ++ [name]) = .ok t →
      ∃ k < links, ∃ mid, fs.Way loc steps k mid ∧ fs.lookup mid = some .directory)
    (steps : List String) (loc : Location) (h : fs.walkLinks last links loc (steps ++ [name]) = .ok t) :
    ∃ k ≤ links, ∃ mid, fs.Way loc steps k mid ∧ fs.lookup mid = some .directory := by
  induction steps generalizing loc with
  | nil => exact ⟨0, Nat.zero_le _, loc, .arrived loc, lookup_of_walkLinks h⟩
  | cons step rest ih =>
    have hd := lookup_of_walkLinks h
    have hne : rest ++ [name] ≠ [] := by simp
    generalize hr : rest ++ [name] = more at h hne
    rw [List.cons_append, hr] at h
    cases firstStep_of_walkLinks h with
    | here hh h =>
      obtain ⟨k, hk, mid, hw, hm⟩ := ih loc (hr ▸ h)
      exact ⟨k, hk, mid, .here hd hh hw, hm⟩
    | up h =>
      obtain ⟨k, hk, mid, hw, hm⟩ := ih loc.tail (hr ▸ h)
      exact ⟨k, hk, mid, .up hd hw, hm⟩
    | free => exact absurd rfl hne
    | kept => exact absurd rfl hne
    | link hs hl hn _ h =>
      rw [← hr, ← List.append_assoc] at h
      obtain ⟨k, hk, mid, hw, hm⟩ := hf _ _ h
      exact ⟨k + 1, hk, mid, .link hd hs hl hn hw, hm⟩
    | down hs hl hn hlink h =>
      obtain ⟨k, hk, mid, hw, hm⟩ := ih _ (hr ▸ h)
      exact ⟨k, hk, mid, .down hd hs hl hn hlink hw, hm⟩

/-- A walk that comes to its last name went a way to a directory before. -/
theorem exists_way_of_walkLinks_append (links : Nat) (loc : Location) (steps : List String)
    (h : fs.walkLinks last links loc (steps ++ [name]) = .ok t) :
    ∃ k ≤ links, ∃ mid, fs.Way loc steps k mid ∧ fs.lookup mid = some .directory := by
  induction links generalizing loc steps with
  | zero => exact exists_way_of_walk_append (fun _ _ h => by cases h) steps loc h
  | succ links ih =>
    refine exists_way_of_walk_append (fun loc steps h => ?_) steps loc h
    obtain ⟨k, hk, mid, hw, hm⟩ := ih loc steps h
    exact ⟨k, Nat.lt_succ_of_le hk, mid, hw, hm⟩

/-- Where a name is walked to, its directory is walked to. -/
theorem refusal_of_div (hname : Path.IsPart name) (h : (p / name).route.refusal = none) :
    p.route.refusal = none := by
  by_cases hp : p.parts = []
  · obtain ⟨root, parts⟩ := p
    subst hp
    cases root <;> decide
  · exact refusal_of_append (Path.render_div_of_ne_nil hp hname) h

/-- Where a call takes a name, a look finds the directory of the name. -/
theorem exists_directory_of_resolve (hname : Path.IsPart name)
    (h : fs.resolve cwd last (p / name).route = .ok t) :
    ∃ loc, fs.status cwd p.route = .ok (loc, .directory) := by
  rw [resolve_eq, start_div p hname, steps_div p hname] at h
  split at h
  · cases h
  · rename_i hr
    obtain ⟨k, hk, loc, hw, hd⟩ := exists_way_of_walkLinks_append _ _ _ h
    exact ⟨loc, status_of_way (refusal_of_div hname hr) hk hw hd⟩

/-! ## A name in a directory as the calls take it -/

/-- Whether a path to a directory, with a name behind it, is taken to the name in the directory. -/
structure Reaches (fs : FileSystem) (cwd : Location) (p : Path) (name : String) (loc : Location) : Prop where
  isEntryName : IsEntryName name
  status_eq : fs.status cwd p.route = .ok (loc, .directory)
  refusal_eq : (p / name).route.refusal = none
  size_le : name.utf8ByteSize ≤ maxNameLength

theorem Reaches.mono (h : b.Reaches cwd p name loc) (hkeep : KeepsWays b a) : a.Reaches cwd p name loc :=
  { h with status_eq := status_directory_mono h.status_eq hkeep }

theorem Reaches.resolve_some (h : fs.Reaches cwd p name loc) (hn : fs.lookup (name :: loc) = some node)
    (hlink : ∀ target, node ≠ .link target) (last : LastName) :
    fs.resolve cwd last (p / name).route = .ok (.found (name :: loc) node) := by
  obtain ⟨_, k, hk, hw⟩ := exists_way_of_status h.status_eq
  rw [resolve_child hk hw h.isEntryName.1, h.refusal_eq]
  exact walkLinks_child_some (lookup_of_status h.status_eq) h.isEntryName.isName h.size_le hn hlink

theorem Reaches.resolve_none (h : fs.Reaches cwd p name loc) (hn : fs.lookup (name :: loc) = none)
    (last : LastName) : fs.resolve cwd last (p / name).route = .ok (.missing loc name) := by
  obtain ⟨_, k, hk, hw⟩ := exists_way_of_status h.status_eq
  rw [resolve_child hk hw h.isEntryName.1, h.refusal_eq]
  exact walkLinks_child_none (lookup_of_status h.status_eq) h.isEntryName.isName h.size_le hn

/-- A link that stands under a name, taken for itself. -/
theorem Reaches.resolve_link {target : String} (h : fs.Reaches cwd p name loc)
    (hn : fs.lookup (name :: loc) = some (.link target)) :
    fs.resolve cwd .kept (p / name).route = .ok (.found (name :: loc) (.link target)) := by
  obtain ⟨_, k, hk, hw⟩ := exists_way_of_status h.status_eq
  rw [resolve_child hk hw h.isEntryName.1, h.refusal_eq]
  exact walkLinks_child_kept (lookup_of_status h.status_eq) h.isEntryName.isName h.size_le hn

/-- A look at a name finds what stands there, if it is no link. -/
theorem Reaches.probe_eq (h : fs.Reaches cwd p name loc)
    (hlink : ∀ target, fs.lookup (name :: loc) ≠ some (.link target)) :
    fs.probe cwd (p / name).route = .ok ((fs.lookup (name :: loc)).map fun node => (name :: loc, node)) := by
  cases hn : fs.lookup (name :: loc) with
  | none =>
    rw [probe, status, h.resolve_none hn]
    rfl
  | some node =>
    rw [probe, status, h.resolve_some hn fun target he => hlink target (he ▸ hn)]
    rfl

/-- A write to a name puts a file there, unless a device, a directory or a sealed file stands there. -/
theorem Reaches.write_eq {bytes : Bytes} (h : fs.Reaches cwd p name loc)
    (hlink : ∀ target, fs.lookup (name :: loc) ≠ some (.link target)) :
    fs.write cwd (p / name).route bytes =
      match fs.lookup (name :: loc) with
      | none => .ok (fs.place loc name (.file bytes false))
      | some (.file _ executable) => .ok (fs.place loc name (.file bytes executable))
      | some (.device _) => .ok fs
      | some .sealed => .error .accessDenied
      | some .directory | some (.link _) => .error .isDirectory := by
  cases hn : fs.lookup (name :: loc) with
  | none => rw [write, h.resolve_none hn]
  | some node =>
    rw [write, h.resolve_some hn fun target he => hlink target (he ▸ hn)]
    cases node <;> rfl

/-- A call that takes a name itself takes it in a directory, to what stands there under the name. -/
theorem exists_reaches_of_resolve (hname : IsEntryName name)
    (h : fs.resolve cwd .kept (p / name).route = .ok t) :
    ∃ loc, fs.Reaches cwd p name loc ∧
      t = match fs.lookup (name :: loc) with
        | none => .missing loc name
        | some node => .found (name :: loc) node := by
  obtain ⟨loc, hp⟩ := exists_directory_of_resolve hname.1 h
  obtain ⟨_, k, hk, hw⟩ := exists_way_of_status hp
  have hd := lookup_of_status hp
  rw [resolve_child hk hw hname.1] at h
  split at h
  · cases h
  rename_i hr
  by_cases hl : maxNameLength < name.utf8ByteSize
  · rw [walkLinks_child_long hd hname.isName hl] at h
    cases h
  have hl : name.utf8ByteSize ≤ maxNameLength := Nat.le_of_not_lt hl
  refine ⟨loc, ⟨hname, hp, hr, hl⟩, ?_⟩
  cases standing (fs.lookup (name :: loc)) with
  | free hn =>
    rw [walkLinks_child_none hd hname.isName hl hn] at h
    cases h
    rw [hn]
  | link hn =>
    rw [walkLinks_child_kept hd hname.isName hl hn] at h
    cases h
    rw [hn]
  | other hn hlink =>
    rw [walkLinks_child_some hd hname.isName hl hn hlink] at h
    cases h
    rw [hn]

/-- A file is made under a name where nothing stood. -/
theorem create_child {fs' : FileSystem} (hname : IsEntryName name)
    (h : fs.create cwd (p / name).route node = .ok fs') :
    ∃ loc, fs.Reaches cwd p name loc ∧ fs.lookup (name :: loc) = none ∧
      ∀ q, fs'.lookup q = if q = name :: loc then some node else fs.lookup q := by
  obtain ⟨parent, free, hres, hq⟩ := lookup_of_create h
  obtain ⟨loc, hreach, ht⟩ := exists_reaches_of_resolve hname hres
  cases hn : fs.lookup (name :: loc) with
  | none =>
    rw [hn] at ht
    cases ht
    exact ⟨_, hreach, hn, hq⟩
  | some node =>
    rw [hn] at ht
    cases ht

/-- A file that is written under its name stays there, with the new content. -/
theorem write_child {fs' : FileSystem} {bytes old : Bytes} {executable : Bool}
    (hreach : fs.Reaches cwd p name loc) (hn : fs.lookup (name :: loc) = some (.file old executable))
    (h : fs.write cwd (p / name).route bytes = .ok fs') (q : Location) :
    fs'.lookup q = if q = name :: loc then some (.file bytes executable) else fs.lookup q := by
  have hres := hreach.resolve_some hn (fun _ => by simp) .written
  simp only [write, hres, Except.ok.injEq] at h
  subst h
  exact lookup_place hreach.isEntryName (lookup_of_status hreach.status_eq) (by simp [hn]) q

theorem isEntryName_of_endsInName (h : p.route.endsInName = true) :
    p.parts ≠ [] ∧ IsEntryName p.name := by
  have hsteps : p.route.steps.getLast? = p.parts.getLast?.map (·.name) := List.getLast?_map
  rw [Route.endsInName, hsteps] at h
  cases hlast : p.parts.getLast? with
  | none => simp [hlast] at h
  | some part =>
    refine ⟨fun hn => by simp [hn] at hlast, ?_⟩
    have hname : p.name = part.name := by simp [Path.name, hlast]
    rw [hname]
    refine ⟨part.isPart, fun hup => ?_⟩
    simp [hlast, hup] at h

/-- A file that is moved takes the place that the destination leads to, where no directory stands. -/
theorem rename_file {fs' : FileSystem} {source destination : Route} {bytes : Bytes} {executable : Bool}
    (hs : fs.resolve cwd .kept source = .ok (.found loc (.file bytes executable)))
    (h : fs.rename cwd source destination = .ok fs') :
    destination.endsInName = true ∧ ∃ parent name t,
      fs.resolve cwd .kept destination = .ok t ∧ t.location = name :: parent ∧
      fs.lookup (name :: parent) ≠ some .directory ∧
      fs' = (fs.remove loc).place parent name (.file bytes executable) := by
  simp only [rename, hs, bind, Except.bind] at h
  split at h
  · cases h
  rename_i goal hg
  split at h
  · rename_i hend
    refine ⟨hend, ?_⟩
    split at h
    · rename_i he
      cases he
    · cases h
    · rename_i hold he
      cases he
      cases h
      refine ⟨_, _, _, hg, rfl, ?_, rfl⟩
      rw [lookup_of_found hg]
      exact fun hd => hold (Option.some.inj hd)
    · rename_i he
      cases he
      cases h
      refine ⟨_, _, _, hg, rfl, ?_, rfl⟩
      simp [(lookup_of_missing hg).2.1]
    · cases h
  · cases h

/-- A file that is moved to a path stands from then on under the last name of the path. -/
theorem rename_child {fs' : FileSystem} {destination : Path} {bytes : Bytes} {executable : Bool}
    (hreach : fs.Reaches cwd p name loc) (hn : fs.lookup (name :: loc) = some (.file bytes executable))
    (h : fs.rename cwd (p / name).route destination.route = .ok fs') :
    destination.parent / destination.name = destination ∧
      ∃ place, fs.Reaches cwd destination.parent destination.name place ∧
        fs.lookup (destination.name :: place) ≠ some .directory ∧
        ∀ q, fs'.lookup q =
          if q = destination.name :: place then some (.file bytes executable)
          else if q = name :: loc then none else fs.lookup q := by
  have hsource := hreach.resolve_some hn (fun _ => by simp) .kept
  obtain ⟨hend, parent, goal, t, ht, hplace, hold, rfl⟩ := rename_file hsource h
  obtain ⟨hne, hentry⟩ := isEntryName_of_endsInName hend
  have hpath := Path.parent_div_name hne
  rw [← hpath] at ht
  obtain ⟨place, hdest, rfl⟩ := exists_reaches_of_resolve hentry ht
  have hlocation : destination.name :: place = goal :: parent := by
    rw [← hplace]
    split <;> rfl
  injection hlocation with h₁ h₂
  subst h₁ h₂
  exact ⟨hpath, place, hdest, hold, lookup_move hn (by simp) hentry (lookup_of_status hdest.status_eq) hold⟩

/-! ## The three steps -/

theorem not_isPlain {x : Option Node} (hn : node = .directory ∨ ∃ target, node = .link target)
    (hx : x = some node) : ¬ IsPlain x := by
  rintro ⟨hd, hl⟩
  obtain rfl | ⟨target, rfl⟩ := hn
  · exact hd hx
  · exact hl target hx

/-- A change of one place where neither a directory nor a link stands keeps the ways. -/
theorem keepsWays_of_lookup_eq {place : Location} {new : Option Node}
    (h : ∀ q, a.lookup q = if q = place then new else b.lookup q) (hp : IsPlain (b.lookup place)) :
    KeepsWays b a := by
  intro q node hq hn
  have hne : q ≠ place := fun he => not_isPlain hn hq (he ▸ hp)
  rw [h, if_neg hne, hq]

theorem exists_place_of_scratch {made written : FileSystem} {bytes : Bytes} (hname : IsEntryName name)
    (hc : b.create cwd (p / name).route (.file [] false) = .ok made)
    (hw : made.write cwd (p / name).route bytes = .ok written) :
    ∃ loc, b.lookup (name :: loc) = none ∧ written.Reaches cwd p name loc ∧
      (∀ q, made.lookup q = if q = name :: loc then some (.file [] false) else b.lookup q) ∧
      ∀ q, written.lookup q = if q = name :: loc then some (.file bytes false) else b.lookup q := by
  obtain ⟨loc, hreach, hfree, hmade⟩ := create_child hname hc
  have hempty : made.lookup (name :: loc) = some (.file [] false) := by rw [hmade, if_pos rfl]
  have hreach := hreach.mono (keepsWays_of_lookup_eq hmade ⟨by simp [hfree], by simp [hfree]⟩)
  have hwritten := write_child hreach hempty hw
  have hreach := hreach.mono (keepsWays_of_lookup_eq hwritten ⟨by simp [hempty], by simp [hempty]⟩)
  refine ⟨loc, hfree, hreach, hmade, fun q => ?_⟩
  rw [hwritten]
  split
  · rfl
  · rename_i hq
    rw [hmade, if_neg hq]

/-- A file that came to a free place and is moved leaves nothing there, so it changes the one place that its new
path names. -/
theorem replace_child {written : FileSystem} {destination : Path} {bytes : Bytes} {executable : Bool}
    (hreach : written.Reaches cwd p name loc) (hfree : b.lookup (name :: loc) = none)
    (hwritten : ∀ q, written.lookup q =
      if q = name :: loc then some (.file bytes executable) else b.lookup q)
    (h : written.rename cwd (p / name).route destination.route = .ok a) :
    destination.parent / destination.name = destination ∧
      ∃ place, b.Reaches cwd destination.parent destination.name place ∧
        b.lookup (destination.name :: place) ≠ some .directory ∧
        ∀ q, a.lookup q =
          if q = destination.name :: place then some (.file bytes executable) else b.lookup q := by
  have hfull : written.lookup (name :: loc) = some (.file bytes executable) := by rw [hwritten, if_pos rfl]
  obtain ⟨hpath, place, hgoal, hold, hmoved⟩ := rename_child hreach hfull h
  have hback (q : Location) : b.lookup q = if q = name :: loc then none else written.lookup q := by
    split
    · rename_i hq
      rw [hq, hfree]
    · rename_i hq
      rw [hwritten, if_neg hq]
  refine ⟨hpath, place, ?_, ?_, fun q => ?_⟩
  · exact hgoal.mono (keepsWays_of_lookup_eq hback (by simp [hfull, IsPlain]))
  · rw [hback]
    split
    · simp
    · exact hold
  · rw [hmoved, hback]

/-- A file that took the place that a path names is found there, unless the directory of the path is found no
more: then a link stood at the place. -/
theorem status_of_placed {place : Location} {new : Node} (hreach : b.Reaches cwd p name place)
    (h : ∀ q, a.lookup q = if q = name :: place then some new else b.lookup q) (hnew : IsPlain (some new))
    (hold : b.lookup (name :: place) ≠ some .directory) :
    a.status cwd (p / name).route = .ok (name :: place, new) ∨
      (∀ loc, a.status cwd p.route ≠ .ok (loc, .directory)) ∧
      ∃ target, b.lookup (name :: place) = some (.link target) := by
  have hplace : a.lookup (name :: place) = some new := by rw [h, if_pos rfl]
  have hback : KeepsWays a b := by
    intro q node hq hn
    rw [h] at hq
    split at hq
    · exact absurd hq fun he => not_isPlain hn he hnew
    · exact hq
  by_cases hd : ∃ there, a.status cwd p.route = .ok (there, .directory)
  · obtain ⟨there, hd⟩ := hd
    have hbefore := status_directory_mono hd hback
    rw [hreach.status_eq] at hbefore
    cases hbefore
    have hres := Reaches.resolve_some { hreach with status_eq := hd } hplace
      (fun target he => hnew.2 target (congrArg some he)) .followed
    exact .inl (by simp only [status, hres])
  by_cases hlink : ∃ target, b.lookup (name :: place) = some (.link target)
  · exact .inr ⟨fun there he => hd ⟨there, he⟩, hlink⟩
  · -- where no link stood, the ways to directories are left, that to the directory of the path among them
    have hplain : IsPlain (b.lookup (name :: place)) := ⟨hold, fun target he => hlink ⟨target, he⟩⟩
    exact absurd ⟨place, status_directory_mono hreach.status_eq (keepsWays_of_lookup_eq h hplain)⟩ hd

/-- What was written to a scratch file and moved is found under its path, unless a link stood there on the
way to the directory of the path. -/
theorem status_of_replace {made written : FileSystem} {destination : Path} {bytes : Bytes}
    (hname : IsEntryName name) (hc : b.create cwd (p / name).route (.file [] false) = .ok made)
    (hw : made.write cwd (p / name).route bytes = .ok written)
    (hm : written.rename cwd (p / name).route destination.route = .ok a) :
    (∃ loc, a.status cwd destination.route = .ok (loc, .file bytes false)) ∨
      (∀ loc, a.status cwd destination.parent.route ≠ .ok (loc, .directory)) ∧
      ∃ loc target, written.resolve cwd .kept destination.route = .ok (.found loc (.link target)) := by
  obtain ⟨loc, hfree, hreach, -, hwritten⟩ := exists_place_of_scratch hname hc hw
  obtain ⟨hpath, place, hgoal, hold, hmoved⟩ := replace_child hreach hfree hwritten hm
  have hplaced := status_of_placed hgoal hmoved (by simp [IsPlain]) hold
  rw [hpath] at hplaced
  refine hplaced.imp (fun hs => ⟨_, hs⟩) ?_
  rintro ⟨hlost, target, hlink⟩
  have hkeep : KeepsWays b written := keepsWays_of_lookup_eq hwritten (by simp [hfree, IsPlain])
  have hres := (hgoal.mono hkeep).resolve_link (hkeep.link hlink)
  rw [hpath] at hres
  exact ⟨hlost, _, target, hres⟩

end FileSystem

end SbtWorkspace
