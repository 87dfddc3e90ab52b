import SbtWorkspace.Proofs.Provision.Step

/-! The calls of provisioning, at a directory that is there: a meta-build is made below it, and a file is
written into it. Main statements: `meets_ensurePath` and `meets_writeFile`, by which either is a run of
steps on every exit, and what stands there after a result. -/

namespace SbtWorkspace.Provision
open FileSystem MetaBuild SbtWorkspace.Action

variable {writes : String → Bytes → Prop} {generated : List String} {c : Context} {m : Machine}
  {fs b a : FileSystem} {loc : Location} {q p : Path} {name : String} {bytes : Bytes}

/-! ## A directory below a directory -/

theorem refusal_ne_noEntry (p : Path) : p.route.refusal ≠ some .noEntry := by
  have hne : p.route.text ≠ "" := p.render_ne_empty
  unfold Route.refusal
  rw [if_neg hne]
  split
  · simp
  · split <;> simp

/-- A name below a directory is free, or something stands there, or its path is refused. -/
theorem makeDirectory_child (hq : fs.status c.cwd q.route = .ok (loc, .directory)) :
    fs.makeDirectory c.cwd (q / "project").route =
      match (q / "project").route.refusal with
      | some fault => .error fault
      | none =>
        if fs.lookup ("project" :: loc) = none then .ok (fs.place loc "project" .directory)
        else .error .alreadyExists := by
  have hd := lookup_of_status hq
  have hname : IsEntryName "project" := by decide
  have hl : "project".utf8ByteSize ≤ maxNameLength := by decide
  obtain ⟨_, k, hle, hw⟩ := exists_way_of_status hq
  rw [FileSystem.makeDirectory, create, resolve_child hle hw hname.1]
  cases (q / "project").route.refusal with
  | some fault => rfl
  | none =>
    cases standing (fs.lookup ("project" :: loc)) with
    | free hn => simp only [walkLinks_child_none hd hname.isName hl hn, hn, if_pos]
    | link hn => simp [walkLinks_child_kept hd hname.isName hl hn, hn]
    | other hn hlink => simp [walkLinks_child_some hd hname.isName hl hn hlink, hn]

theorem makeDirectory_child_ne_noEntry (hq : fs.status c.cwd q.route = .ok (loc, .directory)) :
    fs.makeDirectory c.cwd (q / "project").route ≠ .error .noEntry := by
  rw [makeDirectory_child hq]
  cases hr : (q / "project").route.refusal with
  | some fault =>
    rintro he
    cases he
    exact refusal_ne_noEntry _ hr
  | none =>
    dsimp only
    split <;> simp

/-- Below a directory that is there, nothing above has to be made first. -/
theorem run_ensurePath (hq : m.files.status c.cwd q.route = .ok (loc, .directory)) :
    (ensurePath (q / "project")).run c m = (ensureDirectory (q / "project")).run c m := by
  have hp := Path.div_of_isPart q isPart_project
  have hr : (q / "project").parts.reverse = ⟨"project", isPart_project⟩ :: q.parts.reverse := by
    rw [hp, List.reverse_append]
    rfl
  have hp' : (⟨(q / "project").root, (q / "project").parts.reverse.reverse⟩ : Path) = q / "project" := by
    rw [List.reverse_reverse]
  rw [ensurePath, hr, ensureDirectories, ← hr, hp', ensureDirectory, run_tryCatch, run_tryCatch,
    Action.makeDirectory, run_change]
  cases hm : m.files.makeDirectory c.cwd (q / "project").route with
  | ok fs => rfl
  | error fault =>
    have hne : fault ≠ .noEntry := by
      rintro rfl
      exact makeDirectory_child_ne_noEntry hq hm
    simp only [hne, if_false]

theorem status_child {cwd : Location} {node : Node}
    (hq : fs.status cwd q.route = .ok (loc, .directory)) (hname : IsEntryName name)
    (hl : name.utf8ByteSize ≤ maxNameLength) (hr : (q / name).route.refusal = none)
    (hn : fs.lookup (name :: loc) = some node) (hlink : ∀ target, node ≠ .link target) :
    fs.status cwd (q / name).route = .ok (name :: loc, node) := by
  obtain ⟨_, k, hle, hw⟩ := exists_way_of_status hq
  rw [status, resolve_child hle hw hname.1, hr]
  simp only [walkLinks_child_some (lookup_of_status hq) hname.isName hl hn hlink]

theorem meets_makeDirectory (hw : WritesOnly writes generated)
    (hq : fs.status c.cwd q.route = .ok (loc, .directory)) :
    Meets (Provisions writes) c fs (Action.makeDirectory (q / "project")) fun _ other =>
      ∃ goal, other.status c.cwd (q / "project").route = .ok (goal, .directory) := by
  refine .change fun other hm => ?_
  rw [makeDirectory_child hq] at hm
  split at hm
  · cases hm
  rename_i hr
  split at hm
  · rename_i hn
    cases hm
    have hd := lookup_of_status hq
    have hstep : Step writes fs (fs.place loc "project" .directory) := .directory hd hn
    refine ⟨.of_step hw hstep, "project" :: loc, ?_⟩
    refine status_child (status_directory_mono hq (hstep.grown hw).keepsWays) (by decide) (by decide) hr
      ?_ fun _ => by simp
    rw [lookup_place (by decide) hd (by simp [hn]), if_pos rfl]
  · cases hm

theorem meets_isDirectory {R : FileSystem → FileSystem → Prop} [Accumulates R] (p : Path) :
    Meets R c fs (Action.isDirectory p) fun found other =>
      other = fs ∧ (found = true → ∃ goal, fs.status c.cwd p.route = .ok (goal, .directory)) := by
  refine .look fun found hf => ⟨rfl, ?_⟩
  rintro rfl
  exact isDirectory_eq_true_iff.1 hf

/-- The meta-build below a directory is made or is there, and nothing else happens. -/
theorem meets_ensurePath (hw : WritesOnly writes generated)
    (hq : fs.status c.cwd q.route = .ok (loc, .directory)) :
    Meets (Provisions writes) c fs (ensurePath (q / "project")) fun _ other =>
      ∃ goal, other.status c.cwd (q / "project").route = .ok (goal, .directory) := by
  intro m hm
  rw [run_ensurePath (hm ▸ hq)]
  refine (Meets.tryCatch (meets_makeDirectory hw hq) fun e other _ => ?_) m hm
  cases e with
  | system e =>
    dsimp only
    split
    · exact .throw _
    · refine (meets_isDirectory (q / "project")).bind ?_
      rintro found _ _ ⟨rfl, hf⟩
      split
      · exact .pure (hf ‹_›)
      · exact .throw _
  | _ => exact .throw _

/-! ## A file in a directory -/

/-- What a route has to lead to, for a file that was written there. -/
def HoldsOrDevice (fs : FileSystem) (cwd : Location) (route : Route) (bytes : Bytes) : Prop :=
  (∃ goal executable, fs.status cwd route = .ok (goal, .file bytes executable)) ∨
    ∃ goal kind, fs.status cwd route = .ok (goal, .device kind)

/-- A name that can be written to in a directory is free or leads to a file or a device, and only a link
leads elsewhere. -/
theorem resolve_written_child (hlead : LinksLead fs) (hp : fs.status c.cwd p.route = .ok (loc, .directory))
    (hname : IsEntryName name) (hl : name.utf8ByteSize ≤ maxNameLength) {t : Target}
    (h : fs.resolve c.cwd .written (p / name).route = .ok t) :
    (p / name).route.refusal = none ∧
      (fs.lookup (name :: loc) = none ∧ t = .missing loc name ∨
        ∃ goal node, t = .found goal node ∧ fs.status c.cwd (p / name).route = .ok (goal, node) ∧
          (goal = name :: loc ∨ ∃ target, fs.lookup (name :: loc) = some (.link target))) := by
  have hd := lookup_of_status hp
  obtain ⟨_, k, hle, hw⟩ := exists_way_of_status hp
  have hf : fs.resolve c.cwd .followed (p / name).route = .ok t := by
    rw [resolve_eq] at h ⊢
    split at h
    · cases h
    · exact walkLinks_followed_of_written _ _ _ h
  have hs : ∀ goal node, t = .found goal node →
      fs.status c.cwd (p / name).route = .ok (goal, node) := by
    rintro goal node rfl
    simp only [status, hf]
  rw [resolve_child hle hw hname.1] at hf
  split at hf
  · cases hf
  rename_i hr
  refine ⟨hr, ?_⟩
  cases standing (fs.lookup (name :: loc)) with
  | free hn =>
    rw [walkLinks_child_none hd hname.isName hl hn] at hf
    cases hf
    exact .inl ⟨hn, rfl⟩
  | @link target hn =>
    obtain ⟨goal, node, hwalk⟩ := hlead name loc target hn
    obtain ⟨_, _, hway, hgoal⟩ := exists_way_of_link hn hwalk
    rw [walkLinks_followed_of_way hway hgoal] at hf
    split at hf
    · cases hf
    · cases hf
      exact .inr ⟨goal, node, rfl, hs goal node rfl, .inr ⟨target, hn⟩⟩
  | other hn hlink =>
    rw [walkLinks_child_some hd hname.isName hl hn hlink] at hf
    cases hf
    exact .inr ⟨name :: loc, _, rfl, hs _ _ rfl, .inl rfl⟩

/-- A write into a directory is a step, after which the name leads to the content; or a device takes the
content. -/
theorem write_child (hw : WritesOnly writes generated) (hlead : LinksLead fs)
    (hp : fs.status c.cwd p.route = .ok (loc, .directory)) (hwr : writes name bytes)
    (h : fs.write c.cwd (p / name).route bytes = .ok a) :
    Steps writes fs a ∧ HoldsOrDevice a c.cwd (p / name).route bytes := by
  have hk : isKept generated name = false := by simp [isKept, hw.mem name bytes hwr]
  obtain ⟨hname, hl, _⟩ := of_not_kept hw.generated_subset hk
  have hd := lookup_of_status hp
  cases hres : fs.resolve c.cwd .written (p / name).route with
  | error fault => simp [FileSystem.write, hres] at h
  | ok t =>
    obtain ⟨hr, ⟨hn, rfl⟩ | ⟨goal, node, rfl, hs, hgoal⟩⟩ := resolve_written_child hlead hp hname hl hres
    · simp only [FileSystem.write, hres, Except.ok.injEq] at h
      subst h
      have hstep : Step writes fs (fs.place loc name (.file bytes false)) := .file hwr hd hn
      refine ⟨.single hstep, .inl ⟨name :: loc, false, ?_⟩⟩
      refine status_child (status_directory_mono hp (hstep.grown hw).keepsWays) hname hl hr ?_ fun _ => by simp
      rw [lookup_place hname hd (by simp [hn]), if_pos rfl]
    · cases node with
      | device kind =>
        simp only [FileSystem.write, hres, Except.ok.injEq] at h
        subst h
        exact ⟨.refl, .inr ⟨goal, kind, hs⟩⟩
      | file old executable =>
        have hn := lookup_of_status hs
        cases goal with
        | nil => simp at hn
        | cons n parent =>
          simp only [FileSystem.write, hres, Except.ok.injEq] at h
          subst h
          have hsome : (fs.lookup (n :: parent)).isSome := by simp [hn]
          have hwritten : n = name ∨ ¬ LinkFree fs := by
            obtain he | ⟨target, ht⟩ := hgoal
            · injection he with he _
              exact .inl he
            · exact .inr fun hfree => hfree _ target ht
          have hstep : Step writes fs (fs.place parent n (.file bytes executable)) :=
            .content hwr hwritten hn
          refine ⟨.single hstep, .inl ⟨n :: parent, executable, ?_⟩⟩
          refine status_mono hs (hstep.grown hw).keepsWays ?_ fun _ => by simp
          rw [lookup_place (isEntryName_of_lookup hsome) (lookup_parent hsome) (by simp [hn]), if_pos rfl]
      | directory => cases goal <;> simp [FileSystem.write, hres] at h
      | sealed => simp [FileSystem.write, hres] at h
      | link target => cases goal <;> simp [FileSystem.write, hres] at h

theorem meets_writeFile (hw : WritesOnly writes generated) (hlead : LinksLead fs)
    (hp : fs.status c.cwd p.route = .ok (loc, .directory)) (hwr : writes name bytes) :
    Meets (Provisions writes) c fs (writeFile (p / name) bytes) fun _ other =>
      HoldsOrDevice other c.cwd (p / name).route bytes := by
  refine .change fun other h => ?_
  obtain ⟨hs, hholds⟩ := write_child hw hlead hp hwr h
  exact ⟨fun hl => ⟨hs, linksLead_of_steps hw hl hs⟩, hholds⟩

end SbtWorkspace.Provision
