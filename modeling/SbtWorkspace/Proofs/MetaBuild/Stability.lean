import SbtWorkspace.Proofs.FileSystem.Look
import SbtWorkspace.Proofs.MetaBuild.Chain

/-! The walk over the meta-builds does not see what provisioning makes. What is made under the name of a
meta-build has no sources of its own, so the walk stops there as it stopped before; and the other names
are those of no sources. Main statement: `discover_eq_of_grown`. -/

namespace SbtWorkspace.MetaBuild
open FileSystem

variable {generated : List String} {fs b a : FileSystem} {cwd loc : Location} {workspace p : Path}
  {name : String}

theorem mem_of_not_kept (h : isKept generated name = false) : name ∈ nestedName :: generated := by
  simp only [isKept, Bool.and_eq_false_imp, bne_iff_ne, ne_eq, Bool.not_eq_false', List.contains_eq_mem,
    decide_eq_true_eq] at h
  by_cases hn : name = nestedName
  · exact hn ▸ List.mem_cons_self ..
  · exact List.mem_cons_of_mem _ (h hn)

/-- The generated names, that of a meta-build among them, are short and those of no sources. -/
theorem of_not_kept (hg : generated ⊆ generatedNames) (h : isKept generated name = false) :
    IsEntryName name ∧ name.utf8ByteSize ≤ maxNameLength ∧ isSourceName name = false := by
  have hall : ∀ name ∈ nestedName :: generatedNames,
      IsEntryName name ∧ name.utf8ByteSize ≤ maxNameLength ∧ isSourceName name = false := by
    decide +kernel
  exact hall name (List.cons_subset_cons _ hg (mem_of_not_kept h))

/-- Where there is room for the longest name that is made, there is room for each. -/
theorem refusal_of_not_kept {longest : String} (hl : Path.IsPart longest)
    (hall : ∀ name ∈ nestedName :: generated,
      Path.IsPart name ∧ name.utf8ByteSize ≤ longest.utf8ByteSize)
    (hp : (p / longest).render.utf8ByteSize ≤ maxPathLength) (hk : isKept generated name = false) :
    (p / name).route.refusal ≠ some .nameTooLong := by
  obtain ⟨hn, hle⟩ := hall name (mem_of_not_kept hk)
  exact refusal_ne_nameTooLong (size_div_le hn hl hle hp)

/-- At no level that the walk comes to is the path of a name too long under which something is made. -/
def Room (generated : List String) (fs : FileSystem) (cwd : Location) (workspace : Path) : Prop :=
  ∀ k, 1 ≤ k → Reached fs cwd workspace k → ∀ name, isKept generated name = false →
    (level workspace k / name).route.refusal ≠ some .nameTooLong

/-! ## The search for a source -/

theorem isSource_eq_false (hp : ∀ fault, fs.probe cwd (p / name).route ≠ .error fault)
    (hs : isSourceName name = false) : isSource fs cwd p name = .ok false := by
  rw [isSource_eq, isFile]
  cases h : fs.probe cwd (p / name).route with
  | error fault => exact absurd h (hp fault)
  | ok found => simp [Except.map, hs]

theorem isSource_congr (h : a.isFile cwd (p / name).route = b.isFile cwd (p / name).route) :
    isSource a cwd p name = isSource b cwd p name := by
  rw [isSource, isSource, h]

/-- The search does not depend on names that are those of no sources. -/
theorem anySource_filter {keep : String → Bool} {names : List String}
    (h : ∀ name ∈ names, keep name = false → isSource fs cwd p name = .ok false) :
    anySource fs cwd p names = anySource fs cwd p (names.filter keep) := by
  induction names with
  | nil => rfl
  | cons name rest ih =>
    have ih := ih fun n hn => h n (List.mem_cons_of_mem _ hn)
    by_cases hk : keep name = true
    · rw [List.filter_cons_of_pos hk, anySource_cons, anySource_cons, ih]
    · rw [List.filter_cons_of_neg hk, anySource_cons,
        h name (List.mem_cons_self ..) (Bool.eq_false_iff.2 hk)]
      exact ih

theorem anySource_congr {names : List String}
    (h : ∀ name ∈ names, isSource a cwd p name = isSource b cwd p name) :
    anySource a cwd p names = anySource b cwd p names := by
  induction names with
  | nil => rw [anySource_nil, anySource_nil]
  | cons name rest ih =>
    rw [anySource_cons, anySource_cons, h name (List.mem_cons_self ..),
      ih fun n hn => h n (List.mem_cons_of_mem _ hn)]

/-- Growth, after which every link leads to something that is as before. -/
structure Regrown (generated : List String) (b a : FileSystem) : Prop where
  generated_subset : generated ⊆ generatedNames
  grown : Grown generated b a
  settled : Settled b a

theorem isSource_of_not_kept (hg : generated ⊆ generatedNames) (hlead : LinksLead fs)
    (hp : fs.status cwd p.route = .ok (loc, .directory))
    (hr : ∀ name, isKept generated name = false → (p / name).route.refusal ≠ some .nameTooLong)
    (hk : isKept generated name = false) : isSource fs cwd p name = .ok false := by
  obtain ⟨hname, hl, hs⟩ := of_not_kept hg hk
  exact isSource_eq_false (probe_child_ne_error hlead hp hname hl (hr name hk)) hs

/-- The search for a source through a directory has the same result after growth. -/
theorem anySource_eq_of_grown (h : Regrown generated b a)
    (hp : b.status cwd p.route = .ok (loc, .directory))
    (hr : ∀ name, isKept generated name = false → (p / name).route.refusal ≠ some .nameTooLong) :
    anySource a cwd p (a.names loc) = anySource b cwd p (b.names loc) := by
  have hkeep := h.grown.keepsWays
  have hb : anySource b cwd p (b.names loc) =
      anySource b cwd p ((b.names loc).filter (isKept generated)) :=
    anySource_filter fun name _ => isSource_of_not_kept h.generated_subset h.settled.linksLead hp hr
  have ha : anySource a cwd p (a.names loc) =
      anySource a cwd p ((a.names loc).filter (isKept generated)) :=
    anySource_filter fun name _ => isSource_of_not_kept h.generated_subset
      (h.settled.linksLead_after h.grown) (status_directory_mono hp hkeep) hr
  rw [ha, hb, h.grown.names loc]
  refine anySource_congr fun name hn => isSource_congr ?_
  obtain ⟨hn, hk⟩ := List.mem_filter.1 hn
  have hname := isEntryName_of_lookup (mem_names_iff.1 hn)
  exact isFile_eq_of_seen
    (seen_child_eq hkeep h.settled hp hname ((h.grown.changes name loc).sameShape hk))

theorem anySource_of_made (h : Regrown generated b a) (hl : b.lookup loc = none)
    (hp : a.status cwd p.route = .ok (loc, .directory))
    (hr : ∀ name, isKept generated name = false → (p / name).route.refusal ≠ some .nameTooLong) :
    anySource a cwd p (a.names loc) = .ok false := by
  have hf : (a.names loc).filter (isKept generated) = [] := by
    refine List.filter_eq_nil_iff.2 fun name hn => ?_
    rw [h.grown.not_kept hl (mem_names_iff.1 hn)]
    simp
  have ha : anySource a cwd p (a.names loc) =
      anySource a cwd p ((a.names loc).filter (isKept generated)) :=
    anySource_filter fun name _ => isSource_of_not_kept h.generated_subset
      (h.settled.linksLead_after h.grown) hp hr
  rw [ha, hf, anySource_nil]

/-! ## The walk -/

/-- The level below a directory is seen as before, or it was missing and was made. -/
theorem seen_level_or_made (h : Regrown generated b a)
    (hp : b.status cwd p.route = .ok (loc, .directory)) :
    a.seen cwd (p / "project").route = b.seen cwd (p / "project").route ∨
      b.lookup ("project" :: loc) = none ∧ b.probe cwd (p / "project").route = .ok none ∧
        a.status cwd (p / "project").route = .ok ("project" :: loc, .directory) := by
  have hname : IsEntryName "project" := by decide
  have hl : "project".utf8ByteSize ≤ maxNameLength := by decide
  have hkeep := h.grown.keepsWays
  have hd := lookup_of_status hp
  obtain ⟨_, k, hle, hw⟩ := exists_way_of_status hp
  have hb := resolve_child hle hw hname.1 .followed
  have ha := resolve_child hle (hw.mono_directory hkeep hd) hname.1 .followed
  cases hr : (p / "project").route.refusal with
  | some fault =>
    rw [hr] at ha hb
    exact .inl (by rw [seen_eq, seen_eq, ha, hb])
  | none =>
    rw [hr] at ha hb
    have hc := h.grown.changes "project" loc
    generalize hbl : b.lookup ("project" :: loc) = before at hc
    generalize hal : a.lookup ("project" :: loc) = after at hc
    cases hc with
    | same hs => exact .inl (seen_child_eq hkeep h.settled hp hname (by rw [hbl, hal]; exact hs))
    | made =>
      refine .inr ⟨rfl, ?_, ?_⟩
      · simp only [walkLinks_child_none hd hname.isName hl hbl] at hb
        simp [probe, status, hb, Fault.isAbsence]
      · simp only [walkLinks_child_some (hkeep.directory hd) hname.isName hl hal fun _ => by simp] at ha
        simp [status, ha]
    | rewritten hg => exact absurd (h.generated_subset hg) (by decide)

theorem below_eq_of_error {walked : List Location} {fault : Fault}
    (h : fs.probe cwd p.route = .error fault) :
    below fs cwd walked p = .error ⟨fault, p.render, none⟩ := by
  rw [below]
  split <;> simp_all

theorem below_eq_nil {walked : List Location} {found : Option (Location × Node)}
    (h : fs.probe cwd p.route = .ok found) (hd : ∀ loc, found ≠ some (loc, .directory)) :
    below fs cwd walked p = .ok [] := by
  rw [below]
  split
  · simp_all
  · rename_i loc hp
    rw [h] at hp
    cases hp
    exact absurd rfl (hd loc)
  · rfl

theorem below_eq_of_directory {walked : List Location}
    (h : fs.status cwd p.route = .ok (loc, .directory)) :
    below fs cwd walked p =
      if loc ∈ walked then .ok []
      else match anySource fs cwd p (fs.names loc) with
        | .error e => .error e
        | .ok false => .ok []
        | .ok true => (below fs cwd (loc :: walked) (p / "project")).map (p / "project" :: ·) := by
  have hp : fs.probe cwd p.route = .ok (some (loc, .directory)) := by simp [probe, h]
  rw [below]
  split
  · simp_all
  · rename_i loc' hp'
    rw [hp] at hp'
    cases hp'
    rfl
  · rename_i found hno hp'
    rw [hp] at hp'
    cases hp'
    exact absurd rfl (hno loc)

/-- From a level below a directory the walk finds after growth what it found before. -/
theorem below_eq_of_grown (h : Regrown generated b a) (hroom : Room generated b cwd workspace)
    {k : Nat} {walked : List Location} (hat : At b cwd workspace (k + 1) walked)
    (hp : b.status cwd (level workspace k).route = .ok (loc, .directory)) :
    below a cwd walked (level workspace (k + 1)) = below b cwd walked (level workspace (k + 1)) := by
  have hkeep := h.grown.keepsWays
  generalize hc : level workspace (k + 1) = current
  -- along the walk before growth; only where that finds no directory can the one after growth differ, and
  -- then it is in a directory that was made
  fun_induction below b cwd walked current generalizing k loc with
  | case1 walked current fault hpr =>
    subst hc
    obtain hs | ⟨_, hn, _⟩ := seen_level_or_made h hp
    · exact below_eq_of_error (probe_eq_error_of_seen hs hpr)
    · cases hpr.symm.trans hn
  | case2 walked current inner hpr hw =>
    subst hc
    have hs := status_directory_mono (status_of_probe hpr) hkeep
    rw [below_eq_of_directory hs, if_pos hw]
  | case3 walked current inner hpr hw _ e hany =>
    subst hc
    have hb := status_of_probe hpr
    rw [below_eq_of_directory (status_directory_mono hb hkeep), if_neg hw,
      anySource_eq_of_grown h hb (hroom (k + 1) hat.pos hat.reached), hany]
  | case4 walked current inner hpr hw _ hany =>
    subst hc
    have hb := status_of_probe hpr
    rw [below_eq_of_directory (status_directory_mono hb hkeep), if_neg hw,
      anySource_eq_of_grown h hb (hroom (k + 1) hat.pos hat.reached), hany]
  | case5 walked current inner hpr hw _ hany ih =>
    subst hc
    have hb := status_of_probe hpr
    have hstep := hat.step hb hw ((anySource_names_iff hany).1 rfl)
    rw [below_eq_of_directory (status_directory_mono hb hkeep), if_neg hw,
      anySource_eq_of_grown h hb (hroom (k + 1) hat.pos hat.reached), hany, ih hstep hb rfl]
  | case6 walked current found hno hpr =>
    subst hc
    obtain hs | ⟨hn, _, hmade⟩ := seen_level_or_made h hp
    · obtain ⟨found', hf, hd⟩ := probe_eq_ok_of_seen hs hpr hno
      exact below_eq_nil hf hd
    · have hmade : a.status cwd (level workspace (k + 1)).route = .ok ("project" :: loc, .directory) := hmade
      rw [below_eq_of_directory hmade]
      split
      · rfl
      · rw [anySource_of_made h hn hmade (hroom (k + 1) hat.pos hat.reached)]

/-- The meta-builds of a directory are after growth what they were before, where there is room for what
was made. -/
theorem discover_eq_of_grown (h : Regrown generated b a) (hroom : Room generated b cwd workspace)
    (hp : b.status cwd workspace.route = .ok (loc, .directory)) :
    discover a cwd workspace = discover b cwd workspace := by
  rw [discover_eq, discover_eq, below_eq_of_grown h hroom At.start hp]

end SbtWorkspace.MetaBuild
