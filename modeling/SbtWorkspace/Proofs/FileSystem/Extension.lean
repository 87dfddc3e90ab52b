import SbtWorkspace.Proofs.Action
import SbtWorkspace.Proofs.FileSystem.Written

/-! Changes that take nothing away: directories are made where nothing stood, and files are written with known
contents. Whatever the links of a file system are, what is found by a path is then found by it afterwards.
Main statements: a call that makes a directory or writes a file is such a change (`extends_makeDirectory`,
`extends_write`); and for a path to a directory, only directories are made at what it begins with
(`leads_ensurePath`). -/

namespace SbtWorkspace.FileSystem

variable {contents : Bytes → Prop} {fs b m a : FileSystem} {loc goal cwd : Location} {route : Route}
  {x y z : Option Node} {bytes : Bytes} {node : Node}

/-- How a place may change: a directory or a file comes to a free place, or a file gets another content. -/
inductive Fills (contents : Bytes → Prop) : Option Node → Option Node → Prop
  | same (x : Option Node) : Fills contents x x
  | directory : Fills contents none (some .directory)
  | file {bytes : Bytes} : contents bytes → Fills contents none (some (.file bytes false))
  | content {old bytes : Bytes} {executable : Bool} : contents bytes →
    Fills contents (some (.file old executable)) (some (.file bytes executable))

theorem Fills.trans (h₁ : Fills contents x y) (h₂ : Fills contents y z) : Fills contents x z := by
  cases h₁ with
  | same => exact h₂
  | directory =>
    cases h₂
    exact .directory
  | file hc =>
    cases h₂ with
    | same => exact .file hc
    | content hc' => exact .file hc'
  | content hc =>
    cases h₂ with
    | same => exact .content hc
    | content hc' => exact .content hc'

/-- A place that holds neither nothing nor a file stays as it is. -/
theorem Fills.eq_of_not_file (h : Fills contents (some node) y) (hf : ∀ old x, node ≠ .file old x) :
    y = some node := by
  cases h with
  | same => rfl
  | content => exact absurd rfl (hf _ _)

def Extends (contents : Bytes → Prop) (b a : FileSystem) : Prop :=
  ∀ loc, Fills contents (b.lookup loc) (a.lookup loc)

instance : Action.Accumulates (Extends contents) where
  refl fs loc := .same (fs.lookup loc)
  trans h₁ h₂ loc := (h₁ loc).trans (h₂ loc)

theorem Extends.keepsWays (h : Extends contents b a) : KeepsWays b a := by
  intro loc node hl hn
  have hloc := h loc
  rw [hl] at hloc
  refine hloc.eq_of_not_file ?_
  rintro old x rfl
  obtain hn | ⟨_, hn⟩ := hn <;> cases hn

/-- What a look found it finds again where directories and links stay and that did not change. -/
theorem status_of_lookup_eq (h : b.status cwd route = .ok (loc, node)) (hkeep : KeepsWays b a)
    (hl : a.lookup loc = some node) : a.status cwd route = .ok (loc, node) := by
  obtain ⟨hr, k, hk, hw⟩ := exists_way_of_status h
  obtain ⟨he, hs, rfl⟩ | hd := hw.eq_or_directory
  · refine status_of_way hr hk ?_ hl
    rw [he, hs]
    exact .arrived loc
  · -- the walk began in a directory, so it came to no link
    have hne := hw.goal_ne_link fun target => by simp [hd]
    rw [lookup_of_status h] at hne
    exact status_mono h hkeep hl fun target he => hne target (congrArg some he)

/-- What a look found it finds again, with the content that a file has now. -/
theorem Extends.status (h : Extends contents b a) (hs : b.status cwd route = .ok (loc, node)) :
    ∃ node', a.status cwd route = .ok (loc, node') ∧ Fills contents (some node) (some node') := by
  have hloc := h loc
  rw [lookup_of_status hs] at hloc
  generalize ha : a.lookup loc = found at hloc
  cases hloc with
  | same => exact ⟨node, status_of_lookup_eq hs h.keepsWays ha, .same _⟩
  | content hc => exact ⟨_, status_mono hs h.keepsWays ha fun _ => by simp, .content hc⟩

theorem extends_of_lookup_eq {place : Location} {new : Option Node}
    (h : ∀ q, a.lookup q = if q = place then new else b.lookup q)
    (hp : Fills contents (b.lookup place) new) : Extends contents b a := by
  intro q
  rw [h]
  split
  · rename_i hq
    rw [hq]
    exact hp
  · exact .same _

/-! ## Calls -/

theorem extends_makeDirectory (h : fs.makeDirectory cwd route = .ok a) : Extends contents fs a := by
  obtain ⟨parent, name, hres, hq⟩ := lookup_of_makeDirectory h
  obtain ⟨-, hn, -⟩ := lookup_of_missing hres
  exact extends_of_lookup_eq hq (hn ▸ .directory)

theorem keepsWays_makeDirectory (h : fs.makeDirectory cwd route = .ok a) : KeepsWays fs a :=
  (extends_makeDirectory h : Extends (fun _ => False) fs a).keepsWays

theorem status_of_makeDirectory (h : fs.makeDirectory cwd route = .ok a) :
    ∃ goal, a.status cwd route = .ok (goal, .directory) := by
  obtain ⟨parent, name, hres, hq⟩ := lookup_of_makeDirectory h
  exact ⟨_, status_of_missing (keepsWays_makeDirectory h) (by rw [hq, if_pos rfl]) (fun _ => by simp) hres⟩

theorem extends_write (h : fs.write cwd route bytes = .ok a) (hc : contents bytes) :
    Extends contents fs a := by
  simp only [write] at h
  split at h
  · rename_i name parent old executable hr
    cases h
    have hn := lookup_of_found hr
    have hsome : (fs.lookup (name :: parent)).isSome := by simp [hn]
    refine extends_of_lookup_eq (lookup_place (isEntryName_of_lookup hsome) (lookup_parent hsome) (by simp [hn]))
      (hn ▸ .content hc)
  · cases h
    exact fun q => .same _
  · cases h
  · cases h
  · rename_i parent name hr
    cases h
    obtain ⟨hp, hn, hname⟩ := lookup_of_missing hr
    exact extends_of_lookup_eq (lookup_place hname hp (by simp [hn])) (hn ▸ .file hc)
  · cases h

theorem unlink_eq_ok (hl : fs.resolve cwd .kept route = .ok (.found loc node)) (hn : node ≠ .directory) :
    fs.unlink cwd route = .ok (fs.remove loc) := by
  rw [unlink, hl]
  cases node with
  | directory => exact absurd rfl hn
  | file | sealed | link | device => rfl

end SbtWorkspace.FileSystem

namespace SbtWorkspace.Action
open FileSystem

variable {R : FileSystem → FileSystem → Prop} [Accumulates R] {c : Context} {fs : FileSystem}

def LeadsToDirectory (c : Context) (p : Path) (fs : FileSystem) : Prop :=
  ∃ goal, fs.status c.cwd p.route = .ok (goal, .directory)

theorem leads_makeDirectory {p : Path}
    (hR : ∀ fs other, fs.makeDirectory c.cwd p.route = .ok other → R fs other) :
    Meets R c fs (makeDirectory p) fun _ other => LeadsToDirectory c p other := by
  exact .change fun other h => ⟨hR fs other h, status_of_makeDirectory h⟩

theorem leads_isDirectory (p : Path) :
    Meets R c fs (isDirectory p) fun found other => found = true → LeadsToDirectory c p other := by
  refine .look fun found hf => ?_
  rintro rfl
  exact isDirectory_eq_true_iff.1 hf

/-- What a refused call is followed by if a directory may stand there already. -/
theorem leads_unlessDirectory {p : Path} (e : Failure) :
    Meets R c fs (do if ← isDirectory p then pure () else throw e : Action Unit) fun _ other =>
      LeadsToDirectory c p other := by
  refine (leads_isDirectory p).bind fun found other _ hfound => ?_
  split
  · exact .pure (hfound ‹_›)
  · exact .throw _

theorem leads_ensureDirectory {p : Path}
    (hR : ∀ fs other, fs.makeDirectory c.cwd p.route = .ok other → R fs other) :
    Meets R c fs (ensureDirectory p) fun _ other => LeadsToDirectory c p other := by
  refine .tryCatch (leads_makeDirectory hR) fun e other _ => ?_
  cases e with
  | system e =>
    dsimp only
    split
    · exact .throw _
    · exact leads_unlessDirectory _
  | _ => exact .throw _

theorem leads_ensureDirectories (root : Path.Root) (parts : List Path.Part)
    (hR : ∀ fs other ancestor, ancestor <:+ parts →
      fs.makeDirectory c.cwd (⟨root, ancestor.reverse⟩ : Path).route = .ok other → R fs other) :
    Meets R c fs (ensureDirectories root parts) fun _ other =>
      LeadsToDirectory c ⟨root, parts.reverse⟩ other := by
  induction parts generalizing fs with
  | nil => exact leads_ensureDirectory fun fs other h => hR fs other [] List.nil_suffix h
  | cons part above ih =>
    have hself : ∀ fs other, fs.makeDirectory c.cwd (⟨root, (part :: above).reverse⟩ : Path).route = .ok other →
        R fs other := fun fs other h => hR fs other (part :: above) (List.suffix_refl _) h
    refine .tryCatch (leads_makeDirectory hself) fun e other hother => ?_
    cases e with
    | system e =>
      dsimp only
      split
      · exact .throw _
      split
      · have habove : Meets R c other (ensureDirectories root above) fun _ other =>
            LeadsToDirectory c ⟨root, above.reverse⟩ other :=
          ih fun fs other ancestor hs h => hR fs other ancestor (hs.trans (List.suffix_cons part above)) h
        exact habove.bind fun _ _ _ _ => leads_ensureDirectory hself
      · exact leads_unlessDirectory _
    | _ => exact .throw _

/-- A path to a directory is made, with all that are missing above it, by directories at the path and at what it
begins with. -/
theorem leads_ensurePath {p : Path}
    (hR : ∀ fs other ancestor, ancestor <+: p.parts →
      fs.makeDirectory c.cwd (⟨p.root, ancestor⟩ : Path).route = .ok other → R fs other) :
    Meets R c fs (ensurePath p) fun _ other => LeadsToDirectory c p other := by
  have h : Meets R c fs (ensurePath p) fun _ other =>
      LeadsToDirectory c ⟨p.root, p.parts.reverse.reverse⟩ other := by
    refine leads_ensureDirectories p.root p.parts.reverse fun fs other ancestor hs h => hR fs other _ ?_ h
    rw [← List.reverse_suffix, List.reverse_reverse]
    exact hs
  rwa [List.reverse_reverse] at h

end SbtWorkspace.Action
