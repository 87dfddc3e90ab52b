import SbtWorkspace.Proofs.FileSystem.Growth

/-! What a look finds after growth. A link that leads to something keeps on leading there, so a look at a
name in a directory depends on the shape of what stands under the name, and on nothing else that may have
changed. Main statements: `seen_child_eq`, and `probe_child_ne_error`, by which a short name is never
refused in a directory of whose links each leads to something. -/

namespace SbtWorkspace

def Target.shape : Target → Target
  | .found loc node => .found loc node.shape
  | .missing parent name => .missing parent name

namespace FileSystem

variable {fs b a : FileSystem} {last : LastName} {loc goal cwd : Location} {name : String}
  {links k : Nat} {node : Node}

def LinksLead (fs : FileSystem) : Prop :=
  ∀ name parent target, fs.lookup (name :: parent) = some (.link target) →
    ∃ goal node, fs.walkLinks .followed maxLinks parent [name] = .ok (.found goal node)

def leadsAt (fs : FileSystem) : Location → Bool
  | [] => true
  | name :: parent =>
    match fs.lookup (name :: parent) with
    | some (.link _) =>
      match fs.walkLinks .followed maxLinks parent [name] with
      | .ok (.found _ _) => true
      | _ => false
    | _ => true

theorem leadsAt_cons_iff {parent : Location} :
    fs.leadsAt (name :: parent) = true ↔
      ∀ target, fs.lookup (name :: parent) = some (.link target) →
        ∃ goal node, fs.walkLinks .followed maxLinks parent [name] = .ok (.found goal node) := by
  rw [leadsAt]
  split
  · rename_i target hl
    split
    · rename_i goal node hw
      constructor
      · intro _ _ _
        exact ⟨goal, node, hw⟩
      · intro _
        rfl
    · rename_i hno
      constructor
      · intro h
        cases h
      · intro h
        obtain ⟨goal, node, hw⟩ := h target hl
        exact absurd hw (hno goal node)
  · rename_i hno
    exact ⟨fun _ target hl => absurd hl (hno target), fun _ => rfl⟩

theorem linksLead_iff : LinksLead fs ↔ ∀ e ∈ fs.entries, fs.leadsAt e.1 = true := by
  constructor
  · intro h e _
    cases hk : e.1 with
    | nil => rfl
    | cons name parent => exact leadsAt_cons_iff.2 (h name parent)
  · intro h name parent target hl
    obtain ⟨e, he, hk⟩ := isSome_lookup_iff.1 (show (fs.lookup (name :: parent)).isSome by simp [hl])
    exact leadsAt_cons_iff.1 (hk ▸ h e he) target hl

instance : DecidablePred LinksLead := fun _ => decidable_of_iff _ linksLead_iff.symm

def Settled (b a : FileSystem) : Prop :=
  ∀ name parent target, b.lookup (name :: parent) = some (.link target) →
    ∃ goal node, b.walkLinks .followed maxLinks parent [name] = .ok (.found goal node) ∧
      SameShape (b.lookup goal) (a.lookup goal)

theorem Settled.linksLead (h : Settled b a) : LinksLead b := by
  intro name parent target hl
  obtain ⟨goal, node, hw, _⟩ := h name parent target hl
  exact ⟨goal, node, hw⟩

/-! ## A name in a directory -/

/-- What can stand at a place, as far as a look at a name goes: nothing, a link, or something else. -/
inductive Standing (place : Option Node) : Prop
  | free : place = none → Standing place
  | link {target : String} : place = some (.link target) → Standing place
  | other {node : Node} : place = some node → (∀ target, node ≠ .link target) → Standing place

theorem standing (place : Option Node) : Standing place := by
  rcases place with _ | _ | _ | _ | target | _
  · exact .free rfl
  · exact .other rfl fun _ => by simp
  · exact .other rfl fun _ => by simp
  · exact .other rfl fun _ => by simp
  · exact .link rfl
  · exact .other rfl fun _ => by simp

theorem walkLinks_child_long (hd : fs.lookup loc = some .directory) (hname : IsName name)
    (hl : maxNameLength < name.utf8ByteSize) :
    fs.walkLinks last links loc [name] = .error .nameTooLong := by
  rw [walkLinks_name hd hname (by simp), if_pos hl]

theorem walkLinks_child_none (hd : fs.lookup loc = some .directory) (hname : IsName name)
    (hl : name.utf8ByteSize ≤ maxNameLength) (hn : fs.lookup (name :: loc) = none) :
    fs.walkLinks last links loc [name] = .ok (.missing loc name) := by
  rw [walkLinks_name hd hname (by simp), if_neg (Nat.not_lt.2 hl), hn]
  rfl

theorem walkLinks_child_some (hd : fs.lookup loc = some .directory) (hname : IsName name)
    (hl : name.utf8ByteSize ≤ maxNameLength) (hn : fs.lookup (name :: loc) = some node)
    (hlink : ∀ target, node ≠ .link target) :
    fs.walkLinks last links loc [name] = .ok (.found (name :: loc) node) := by
  rw [walkLinks_name hd hname (by simp), if_neg (Nat.not_lt.2 hl), hn]
  cases node with
  | link target => exact absurd rfl (hlink target)
  | directory | file | sealed | device => exact walkLinks_nil hn links

theorem walkLinks_child_kept {target : String} (hd : fs.lookup loc = some .directory)
    (hname : IsName name) (hl : name.utf8ByteSize ≤ maxNameLength)
    (hn : fs.lookup (name :: loc) = some (.link target)) :
    fs.walkLinks .kept links loc [name] = .ok (.found (name :: loc) (.link target)) := by
  rw [walkLinks_name hd hname (by simp), if_neg (Nat.not_lt.2 hl), hn]
  rfl

theorem Way.goal_ne_link {steps : List String} (h : fs.Way loc steps k goal)
    (hl : ∀ target, fs.lookup loc ≠ some (.link target)) (target : String) :
    fs.lookup goal ≠ some (.link target) := by
  induction h with
  | arrived => exact hl target
  | here _ _ _ ih => exact ih hl
  | @up loc _ _ _ hd _ ih =>
    refine ih fun target => ?_
    cases loc with
    | nil => simp
    | cons name parent => simp [lookup_parent (by rw [hd]; rfl : (fs.lookup (name :: parent)).isSome)]
  | @down _ _ _ _ _ node _ _ _ hn hlink _ ih =>
    refine ih fun target he => ?_
    rw [hn] at he
    injection he with he
    exact hlink target he
  | @link loc _ _ target _ _ hd _ _ _ _ ih =>
    refine ih fun target' => ?_
    unfold Route.start
    split
    · simp
    · simp [hd]

/-- A walk along a way to something that is there succeeds, or has too few links to follow. -/
theorem walkLinks_followed_of_way {steps : List String} (hw : fs.Way loc steps k goal)
    (hn : fs.lookup goal = some node) (links : Nat) :
    fs.walkLinks .followed links loc steps =
      if links < k then .error .linkLoop else .ok (.found goal node) := by
  have h := walkLinks_of_way hw (.inl rfl : GoesOn .followed []) links
  rwa [List.append_nil, walkLinks_nil hn] at h

/-- A link that leads to something leads there along a way. -/
theorem exists_way_of_link {target : String} (hl : fs.lookup (name :: loc) = some (.link target))
    (hw : fs.walkLinks .followed maxLinks loc [name] = .ok (.found goal node)) :
    ∃ k ≤ maxLinks, fs.Way loc [name] k goal ∧ fs.lookup goal = some node := by
  have hs : (fs.lookup (name :: loc)).isSome := by simp [hl]
  have hname := isEntryName_of_lookup hs
  have hn : fs.Holds (.found goal node) :=
    holds_walkLinks _ _ _ (by simpa using hname.1.2.2) hw
  obtain ⟨k, hk, hway⟩ := exists_way_of_walkLinks _ _ _ hw
  exact ⟨k, hk, hway, hn⟩

/-- A look at a link in a directory finds the same as before where the link leads to something that kept
its shape. -/
theorem child_agree_of_link {target : String} (hk : KeepsWays b a) (hs : Settled b a)
    (hd : b.lookup loc = some .directory) (hl : b.lookup (name :: loc) = some (.link target))
    (links : Nat) :
    (a.walkLinks .followed links loc [name]).map Target.shape =
      (b.walkLinks .followed links loc [name]).map Target.shape := by
  obtain ⟨goal, node, hw, hshape⟩ := hs name loc target hl
  obtain ⟨k, _, hway, hn⟩ := exists_way_of_link hl hw
  obtain ⟨node', hn', hnode⟩ := hshape.exists_eq_some hn
  have hlink : ∀ target, node' ≠ .link target := by
    rintro target rfl
    exact hway.goal_ne_link (by simp [hd]) target (SameShape.eq_link hshape.symm hn')
  rw [walkLinks_followed_of_way hway hn, walkLinks_followed_of_way (hway.mono hk hn' hlink) hn']
  split
  · rfl
  · simp [Except.map, Target.shape, hnode]

/-- A look at a name in a directory finds the same as before where what stands under the name kept its
shape. -/
theorem child_agree (hk : KeepsWays b a) (hs : Settled b a) (hd : b.lookup loc = some .directory)
    (hname : IsName name) (hshape : SameShape (b.lookup (name :: loc)) (a.lookup (name :: loc)))
    (links : Nat) :
    (a.walkLinks .followed links loc [name]).map Target.shape =
      (b.walkLinks .followed links loc [name]).map Target.shape := by
  have hd' := hk.directory hd
  by_cases hl : maxNameLength < name.utf8ByteSize
  · rw [walkLinks_child_long hd hname hl, walkLinks_child_long hd' hname hl]
  have hl : name.utf8ByteSize ≤ maxNameLength := Nat.le_of_not_lt hl
  cases standing (b.lookup (name :: loc)) with
  | free hn =>
    rw [walkLinks_child_none hd hname hl hn, walkLinks_child_none hd' hname hl (hshape.eq_none hn)]
  | link hn => exact child_agree_of_link hk hs hd hn links
  | other hn hlink =>
    obtain ⟨node', hn', hnode⟩ := hshape.exists_eq_some hn
    have hlink' : ∀ target, node' ≠ .link target := by
      rintro target rfl
      exact hlink target (Option.some.inj (hn.symm.trans (SameShape.eq_link hshape.symm hn')))
    rw [walkLinks_child_some hd hname hl hn hlink, walkLinks_child_some hd' hname hl hn' hlink']
    simp [Except.map, Target.shape, hnode]

/-! ## Looks along a route -/

def seen (fs : FileSystem) (cwd : Location) (route : Route) : Except Fault (Location × Node) :=
  (fs.status cwd route).map fun found => (found.1, found.2.shape)

theorem seen_eq (fs : FileSystem) (cwd : Location) (route : Route) :
    fs.seen cwd route =
      match (fs.resolve cwd .followed route).map Target.shape with
      | .ok (.found loc node) => .ok (loc, node)
      | .ok (.missing _ _) => .error .noEntry
      | .error fault => .error fault := by
  unfold seen status
  cases fs.resolve cwd .followed route with
  | error fault => rfl
  | ok target => cases target <;> rfl

variable {route : Route}

theorem isFile_eq_of_seen (h : a.seen cwd route = b.seen cwd route) :
    a.isFile cwd route = b.isFile cwd route := by
  unfold seen at h
  unfold isFile probe
  cases hb : b.status cwd route with
  | error fault =>
    cases ha : a.status cwd route with
    | error fault' => simp_all [Except.map]
    | ok found => simp [ha, hb, Except.map] at h
  | ok found =>
    cases ha : a.status cwd route with
    | error fault => simp [ha, hb, Except.map] at h
    | ok found' =>
      obtain ⟨loc, node⟩ := found
      obtain ⟨loc', node'⟩ := found'
      simp only [ha, hb, Except.map, Except.ok.injEq, Prod.mk.injEq] at h
      obtain ⟨rfl, h⟩ := h
      cases node <;> cases node' <;> first | rfl | cases h

theorem probe_eq_error_of_seen (h : a.seen cwd route = b.seen cwd route) {fault : Fault}
    (hb : b.probe cwd route = .error fault) : a.probe cwd route = .error fault := by
  unfold seen at h
  unfold probe at hb ⊢
  cases hs : b.status cwd route with
  | ok found => simp [hs] at hb
  | error fault' =>
    cases ha : a.status cwd route with
    | ok found => simp [ha, hs, Except.map] at h
    | error fault'' =>
      simp only [ha, hs, Except.map, Except.error.injEq] at h
      rw [hs] at hb
      rw [h]
      exact hb

/-- A look that finds no directory finds none again. -/
theorem probe_eq_ok_of_seen (h : a.seen cwd route = b.seen cwd route) {found : Option (Location × Node)}
    (hb : b.probe cwd route = .ok found) (hd : ∀ loc, found ≠ some (loc, .directory)) :
    ∃ found', a.probe cwd route = .ok found' ∧ ∀ loc, found' ≠ some (loc, .directory) := by
  unfold seen at h
  unfold probe at hb ⊢
  cases hs : b.status cwd route with
  | error fault =>
    cases ha : a.status cwd route with
    | ok found => simp [ha, hs, Except.map] at h
    | error fault' =>
      simp only [ha, hs, Except.map, Except.error.injEq] at h
      rw [hs] at hb
      exact ⟨found, h ▸ hb, hd⟩
  | ok there =>
    cases ha : a.status cwd route with
    | error fault => simp [ha, hs, Except.map] at h
    | ok there' =>
      simp only [ha, hs, Except.map, Except.ok.injEq, Prod.mk.injEq] at h
      simp only [hs, Except.ok.injEq] at hb
      refine ⟨some there', rfl, ?_⟩
      intro loc he
      injection he with he
      subst he hb
      exact hd there.1 (congrArg some (Prod.ext rfl (Node.eq_of_shape_directory h.2.symm)))

/-! ## Looks at a name in a directory -/

variable {p : Path}

/-- A look at a name in a directory sees the same as before where what stands under the name kept its
shape. -/
theorem seen_child_eq (hk : KeepsWays b a) (hs : Settled b a)
    (hp : b.status cwd p.route = .ok (loc, .directory)) (hname : IsEntryName name)
    (hshape : SameShape (b.lookup (name :: loc)) (a.lookup (name :: loc))) :
    a.seen cwd (p / name).route = b.seen cwd (p / name).route := by
  have hd := lookup_of_status hp
  obtain ⟨_, k, hle, hw⟩ := exists_way_of_status hp
  rw [seen_eq, seen_eq, resolve_child hle hw hname.1, resolve_child hle (hw.mono_directory hk hd) hname.1]
  cases (p / name).route.refusal with
  | some fault => rfl
  | none => rw [child_agree hk hs hd hname.isName hshape]

/-- A short name is looked at without a refusal in a directory whose links lead to something. -/
theorem probe_child_ne_error (hlead : LinksLead fs) (hp : fs.status cwd p.route = .ok (loc, .directory))
    (hname : IsEntryName name) (hl : name.utf8ByteSize ≤ maxNameLength)
    (hr : (p / name).route.refusal ≠ some .nameTooLong) (fault : Fault) :
    fs.probe cwd (p / name).route ≠ .error fault := by
  intro h
  obtain rfl := fault_of_probe h
  have hd := lookup_of_status hp
  obtain ⟨_, k, hle, hw⟩ := exists_way_of_status hp
  have hres := (resolve_of_probe h).1
  rw [resolve_child hle hw hname.1] at hres
  split at hres
  · rename_i fault hf
    cases hres
    exact hr hf
  · cases standing (fs.lookup (name :: loc)) with
    | free hn =>
      rw [walkLinks_child_none hd hname.isName hl hn] at hres
      cases hres
    | @link target hn =>
      obtain ⟨goal, node, hwalk⟩ := hlead name loc target hn
      obtain ⟨_, _, hway, hgoal⟩ := exists_way_of_link hn hwalk
      rw [walkLinks_followed_of_way hway hgoal] at hres
      split at hres <;> cases hres
    | other hn hlink =>
      rw [walkLinks_child_some hd hname.isName hl hn hlink] at hres
      cases hres

/-- Where no link stands under a name in a directory, none is followed beyond the directory. -/
theorem status_child_ne_linkLoop (hp : fs.status cwd p.route = .ok (loc, .directory))
    (hname : IsEntryName name) (hr : (p / name).route.refusal = none)
    (hlink : ∀ target, fs.lookup (name :: loc) ≠ some (.link target)) :
    fs.status cwd (p / name).route ≠ .error .linkLoop := by
  have hd := lookup_of_status hp
  obtain ⟨_, k, hle, hw⟩ := exists_way_of_status hp
  rw [status, resolve_child hle hw hname.1, hr]
  by_cases hl : maxNameLength < name.utf8ByteSize
  · simp [walkLinks_child_long hd hname.isName hl]
  have hl : name.utf8ByteSize ≤ maxNameLength := Nat.le_of_not_lt hl
  cases standing (fs.lookup (name :: loc)) with
  | free hn => simp [walkLinks_child_none hd hname.isName hl hn]
  | @link target hn => exact absurd hn (hlink target)
  | other hn hne => simp [walkLinks_child_some hd hname.isName hl hn hne]

/-- What a name leads to in a directory, it leads to from every path to the directory, unless that follows
too many links on the way. -/
theorem status_child_of_same {q : Path} (hp : fs.status cwd p.route = .ok (loc, .directory))
    (hq : fs.status cwd q.route = .ok (loc, .directory)) (hname : IsEntryName name)
    (hr : (p / name).route.refusal = none) (h : fs.status cwd (q / name).route = .ok (goal, node)) :
    fs.status cwd (p / name).route = .ok (goal, node) ∨
      fs.status cwd (p / name).route = .error .linkLoop := by
  obtain ⟨_, i, hi, hp⟩ := exists_way_of_status hp
  obtain ⟨_, j, hj, hq⟩ := exists_way_of_status hq
  have hres := resolve_of_status h
  rw [resolve_child hj hq hname.1, (exists_way_of_status h).1] at hres
  obtain ⟨k, _, hway⟩ := exists_way_of_walkLinks _ _ _ hres
  have hwalk := walkLinks_followed_of_way hway (lookup_of_status h) (maxLinks - i)
  rw [status, resolve_child hi hp hname.1, hr]
  split at hwalk
  · simp only [hwalk]
    exact .inr trivial
  · simp only [hwalk]
    exact .inl trivial

/-- Where links led to what kept its shape, the links lead still. -/
theorem Settled.linksLead_after {generated : List String} (h : Settled b a) (hg : Grown generated b a) :
    LinksLead a := by
  intro name parent target hl
  have hb := (hg.changes name parent).of_eq_link hl
  have hd := lookup_parent (show (b.lookup (name :: parent)).isSome by simp [hb])
  obtain ⟨goal, node, hw, _⟩ := h name parent target hb
  have ha := child_agree_of_link hg.keepsWays h hd hb maxLinks
  rw [hw] at ha
  cases hr : a.walkLinks .followed maxLinks parent [name] with
  | error fault => simp [hr, Except.map] at ha
  | ok t =>
    cases t with
    | found goal' node' => exact ⟨goal', node', rfl⟩
    | missing parent' name' => simp [hr, Except.map, Target.shape] at ha

end FileSystem

end SbtWorkspace
