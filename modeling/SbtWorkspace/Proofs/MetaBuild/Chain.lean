import SbtWorkspace.Proofs.FileSystem.Way
import SbtWorkspace.Provision.MetaBuild
import Mathlib.Data.List.FinRange
import Mathlib.Tactic.Choose

/-! Which directories the meta-builds of a workspace are: the levels below it, down to the first from
which the walk does not go on. Main statement: `discover_eq_chain`, for every file system in which no
path that is looked at is too long, whatever links and cycles it has. -/

namespace SbtWorkspace.MetaBuild

variable {fs : FileSystem} {cwd : Location} {workspace : Path}

/-! ## Levels -/

/-- The directory so many levels of `project` below a workspace. -/
def level (workspace : Path) : Nat → Path
  | 0 => workspace
  | k + 1 => level workspace k / "project"

/-- The first levels below a workspace, the uppermost first. -/
def chain (workspace : Path) (n : Nat) : List Path :=
  (List.range n).map fun i => level workspace (i + 1)

theorem isPart_project : Path.IsPart "project" := by decide

theorem length_parts_level (workspace : Path) (k : Nat) :
    (level workspace k).parts.length = workspace.parts.length + k := by
  induction k with
  | zero => rfl
  | succ k ih =>
    rw [level, Path.div_of_isPart _ isPart_project]
    simp [ih, Nat.add_assoc]

theorem parts_level_ne_nil (workspace : Path) (k : Nat) : (level workspace (k + 1)).parts ≠ [] := by
  intro he
  have hlen := length_parts_level workspace (k + 1)
  rw [he, List.length_nil] at hlen
  omega

theorem level_injective {i j : Nat} (h : level workspace i = level workspace j) : i = j := by
  have hl := congrArg (fun p : Path => p.parts.length) h
  simp only [length_parts_level] at hl
  omega

theorem level_mem_chain {k n : Nat} : level workspace k ∈ chain workspace n ↔ 1 ≤ k ∧ k ≤ n := by
  simp only [chain, List.mem_map, List.mem_range]
  constructor
  · rintro ⟨i, hi, he⟩
    have := level_injective he
    omega
  · rintro ⟨h₁, h₂⟩
    exact ⟨k - 1, by omega, by rw [Nat.sub_add_cancel h₁]⟩

theorem nodup_chain (workspace : Path) (n : Nat) : (chain workspace n).Nodup := by
  refine List.pairwise_map.2 (List.nodup_range.imp fun hne he => hne ?_)
  exact Nat.succ.inj (level_injective he)

/-! ## Where the walk goes on -/

/-- A regular file stands in a directory, links followed, whose name is that of a build source and of
no generated file. -/
def HasSource (fs : FileSystem) (cwd : Location) (directory : Path) (loc : Location) : Prop :=
  ∃ name goal node, (fs.lookup (name :: loc)).isSome ∧
    fs.status cwd (directory / name).route = .ok (goal, node) ∧ node.isRegular = true ∧
    (fileSuffix name = ".sbt" ∨ fileSuffix name = ".scala") ∧
    name ≠ "sbtctl.sbt" ∧ name ≠ "SbtctlBsp.scala"

/-- The walk goes on below a level: a directory with sources, at a location where none of the levels
above it is. -/
def GoesOnBelow (fs : FileSystem) (cwd : Location) (workspace : Path) (k : Nat) : Prop :=
  ∃ loc, fs.status cwd (level workspace k).route = .ok (loc, .directory) ∧
    HasSource fs cwd (level workspace k) loc ∧
    ∀ i, 1 ≤ i → i < k → ∀ other,
      fs.status cwd (level workspace i).route = .ok (other, .directory) → loc ≠ other

def Reached (fs : FileSystem) (cwd : Location) (workspace : Path) (k : Nat) : Prop :=
  ∀ j, 1 ≤ j → j < k → GoesOnBelow fs cwd workspace j

/-- No path is too long that the walk has to look at: the levels that it comes to, and what stands in
them. -/
def WithinLimits (fs : FileSystem) (cwd : Location) (workspace : Path) : Prop :=
  ∀ k, 1 ≤ k → Reached fs cwd workspace k →
    fs.probe cwd (level workspace k).route ≠ .error .nameTooLong ∧
    ∀ loc, fs.status cwd (level workspace k).route = .ok (loc, .directory) →
      ∀ name, (fs.lookup (name :: loc)).isSome →
        fs.probe cwd (level workspace k / name).route ≠ .error .nameTooLong

theorem reached_one : Reached fs cwd workspace 1 := fun _ h₁ h₂ => absurd h₂ (by omega)

theorem Reached.succ {k : Nat} (h : Reached fs cwd workspace k) (hk : GoesOnBelow fs cwd workspace k) :
    Reached fs cwd workspace (k + 1) := by
  intro j h₁ h₂
  rcases Nat.lt_succ_iff_lt_or_eq.1 h₂ with h₂ | rfl
  · exact h j h₁ h₂
  · exact hk

theorem Reached.of_le {j k : Nat} (h : Reached fs cwd workspace k) (hj : j ≤ k) :
    Reached fs cwd workspace j :=
  fun i h₁ h₂ => h i h₁ (by omega)

/-! ## Sources -/

theorem isSourceName_iff {name : String} :
    isSourceName name = true ↔ (fileSuffix name = ".sbt" ∨ fileSuffix name = ".scala") ∧
      name ≠ "sbtctl.sbt" ∧ name ≠ "SbtctlBsp.scala" := by
  simp [isSourceName, sourceSuffixes, generatedNames, Layout.descriptorName, Layout.bridgeName]

theorem isSource_eq_true_iff {directory : Path} {name : String} :
    isSource fs cwd directory name = .ok true ↔
      fs.isFile cwd (directory / name).route = .ok true ∧ isSourceName name = true := by
  rw [isSource_eq]
  cases fs.isFile cwd (directory / name).route <;> simp

/-- A name that is not too long to look at is that of a source or not. -/
theorem isSource_eq_ok {directory : Path} {name : String}
    (h : fs.probe cwd (directory / name).route ≠ .error .nameTooLong) :
    ∃ found, isSource fs cwd directory name = .ok found := by
  rw [isSource_eq, FileSystem.isFile]
  cases hp : fs.probe cwd (directory / name).route with
  | error fault => exact absurd (FileSystem.fault_of_probe hp ▸ hp) h
  | ok node => exact ⟨_, rfl⟩

/-- Where nothing that is looked at is too long, the search for a source has a result. -/
theorem anySource_eq_ok {directory : Path} {names : List String}
    (h : ∀ name ∈ names, fs.probe cwd (directory / name).route ≠ .error .nameTooLong) :
    ∃ found, anySource fs cwd directory names = .ok found := by
  induction names with
  | nil => exact ⟨false, anySource_nil ..⟩
  | cons name rest ih =>
    obtain ⟨found, hr⟩ := ih fun n hn => h n (List.mem_cons_of_mem _ hn)
    obtain ⟨here, hn⟩ := isSource_eq_ok (h name (List.mem_cons_self ..))
    rw [anySource_cons, hn]
    cases here with
    | true => exact ⟨true, rfl⟩
    | false => exact ⟨found, hr⟩

theorem anySource_iff {directory : Path} {names : List String} {found : Bool}
    (h : anySource fs cwd directory names = .ok found) :
    found = true ↔ ∃ name ∈ names, isSource fs cwd directory name = .ok true := by
  induction names with
  | nil =>
    rw [anySource_nil] at h
    cases h
    simp
  | cons name rest ih =>
    rw [anySource_cons] at h
    split at h
    · cases h
    · rename_i hs
      cases h
      exact ⟨fun _ => ⟨name, List.mem_cons_self .., hs⟩, fun _ => rfl⟩
    · rename_i hs
      rw [ih h]
      constructor
      · rintro ⟨n, hn, h⟩
        exact ⟨n, List.mem_cons_of_mem _ hn, h⟩
      · rintro ⟨n, hn, h⟩
        rcases List.mem_cons.1 hn with rfl | hn
        · rw [hs] at h
          cases h
        · exact ⟨n, hn, h⟩

/-- The search through a directory finds a source if and only if the directory has one. -/
theorem anySource_names_iff {directory : Path} {loc : Location} {found : Bool}
    (h : anySource fs cwd directory (fs.names loc) = .ok found) :
    found = true ↔ HasSource fs cwd directory loc := by
  rw [anySource_iff h]
  constructor
  · rintro ⟨name, hn, hs⟩
    obtain ⟨hf, hs⟩ := isSource_eq_true_iff.1 hs
    obtain ⟨goal, node, hf, hnode⟩ := FileSystem.isFile_eq_true_iff.1 hf
    exact ⟨name, goal, node, FileSystem.mem_names_iff.1 hn, hf, hnode, isSourceName_iff.1 hs⟩
  · rintro ⟨name, goal, node, hn, hf, hnode, hs⟩
    exact ⟨name, FileSystem.mem_names_iff.2 hn, isSource_eq_true_iff.2
      ⟨FileSystem.isFile_eq_true_iff.2 ⟨goal, node, hf, hnode⟩, isSourceName_iff.2 hs⟩⟩

/-! ## The walk -/

/-- The walk is at a level: it goes on below all levels above, whose locations it has kept. -/
structure At (fs : FileSystem) (cwd : Location) (workspace : Path) (k : Nat) (walked : List Location) :
    Prop where
  pos : 1 ≤ k
  reached : Reached fs cwd workspace k
  walked : ∀ loc, loc ∈ walked ↔
    ∃ i, 1 ≤ i ∧ i < k ∧ fs.status cwd (level workspace i).route = .ok (loc, .directory)

theorem At.start : At fs cwd workspace 1 [] where
  pos := Nat.le_refl _
  reached := reached_one
  walked loc := by
    constructor
    · intro h
      cases h
    · rintro ⟨i, h₁, h₂, _⟩
      omega

theorem At.step {k : Nat} {walked : List Location} {loc : Location}
    (h : At fs cwd workspace k walked)
    (hs : fs.status cwd (level workspace k).route = .ok (loc, .directory)) (hw : loc ∉ walked)
    (hsource : HasSource fs cwd (level workspace k) loc) :
    At fs cwd workspace (k + 1) (loc :: walked) where
  pos := Nat.le_succ_of_le h.pos
  reached := by
    refine h.reached.succ ⟨loc, hs, hsource, ?_⟩
    intro i h₁ h₂ other ho he
    exact hw ((h.walked loc).2 ⟨i, h₁, h₂, he ▸ ho⟩)
  walked other := by
    rw [List.mem_cons, h.walked other]
    constructor
    · rintro (rfl | ⟨i, h₁, h₂, ho⟩)
      · exact ⟨k, h.pos, Nat.lt_succ_self k, hs⟩
      · exact ⟨i, h₁, Nat.lt_succ_of_lt h₂, ho⟩
    · rintro ⟨i, h₁, h₂, ho⟩
      rcases Nat.lt_succ_iff_lt_or_eq.1 h₂ with h₂ | rfl
      · exact .inr ⟨i, h₁, h₂, ho⟩
      · rw [hs] at ho
        cases ho
        exact .inl rfl

/-- Where the walk finds a level whose location it has kept, it does not go on. -/
theorem At.not_goesOnBelow {k : Nat} {walked : List Location} {loc : Location}
    (h : At fs cwd workspace k walked)
    (hs : fs.status cwd (level workspace k).route = .ok (loc, .directory)) (hw : loc ∈ walked) :
    ¬ GoesOnBelow fs cwd workspace k := by
  rintro ⟨other, ho, _, hne⟩
  rw [hs] at ho
  cases ho
  obtain ⟨i, h₁, h₂, hi⟩ := (h.walked loc).1 hw
  exact hne i h₁ h₂ loc hi rfl

/-- Where the walk stops at a level, it lists none of those below. -/
theorem At.stop {k : Nat} {walked : List Location} (h : At fs cwd workspace k walked)
    (hn : ¬ GoesOnBelow fs cwd workspace k) :
    ∃ d, [] = (List.range d).map (fun i => level workspace (k + i + 1)) ∧
      Reached fs cwd workspace (k + d) ∧ ¬ GoesOnBelow fs cwd workspace (k + d) :=
  ⟨0, rfl, h.reached, hn⟩

/-- From a level, the walk lists the levels below down to the first from which it does not go on. -/
theorem below_eq {k : Nat} {walked : List Location} {nested : List Path}
    (h : At fs cwd workspace k walked)
    (hb : below fs cwd walked (level workspace k) = .ok nested) :
    ∃ d, nested = (List.range d).map (fun i => level workspace (k + i + 1)) ∧
      Reached fs cwd workspace (k + d) ∧ ¬ GoesOnBelow fs cwd workspace (k + d) := by
  generalize hc : level workspace k = current at hb
  -- along the walk itself; `At` says at each level what `walked` holds
  fun_induction below fs cwd walked current generalizing k nested with
  | case1 => cases hb
  | case2 walked current loc hp hw =>
    cases hb
    subst hc
    exact h.stop (h.not_goesOnBelow (FileSystem.status_of_probe hp) hw)
  | case3 => cases hb
  | case4 walked current loc hp hw _ hany =>
    cases hb
    subst hc
    refine h.stop ?_
    rintro ⟨other, ho, hsource, _⟩
    rw [FileSystem.status_of_probe hp] at ho
    cases ho
    exact absurd ((anySource_names_iff hany).2 hsource) (by simp)
  | case5 walked current loc hp hw _ hany ih =>
    subst hc
    have hs := FileSystem.status_of_probe hp
    have hstep := h.step hs hw ((anySource_names_iff hany).1 rfl)
    cases hr : below fs cwd (loc :: walked) (level workspace k / "project") with
    | error e => simp [hr, Except.map] at hb
    | ok deeper =>
      simp only [hr, Except.map, Except.ok.injEq] at hb
      obtain ⟨d, hd, hreached, hstop⟩ := ih hstep rfl hr
      refine ⟨d + 1, ?_, ?_, ?_⟩
      · rw [← hb, hd, List.range_succ_eq_map, List.map_cons, List.map_map]
        congr 1
        refine List.map_congr_left fun i _ => ?_
        show level workspace (k + 1 + i + 1) = level workspace (k + (i + 1) + 1)
        rw [Nat.add_right_comm k 1 i, Nat.add_assoc k i 1]
      · rwa [Nat.add_comm d 1, ← Nat.add_assoc]
      · rwa [Nat.add_comm d 1, ← Nat.add_assoc]
  | case6 walked current found hno hp =>
    cases hb
    subst hc
    refine h.stop ?_
    rintro ⟨loc, hs, _, _⟩
    simp only [FileSystem.probe, hs, Except.ok.injEq] at hp
    exact hno loc hp.symm

/-- Where no path is too long, the walk has a result from every level that it comes to. -/
theorem below_eq_ok {k : Nat} {walked : List Location} (hl : WithinLimits fs cwd workspace)
    (h : At fs cwd workspace k walked) :
    ∃ nested, below fs cwd walked (level workspace k) = .ok nested := by
  generalize hc : level workspace k = current
  fun_induction below fs cwd walked current generalizing k with
  | case1 walked current fault hp =>
    subst hc
    exact absurd (FileSystem.fault_of_probe hp ▸ hp) (hl k h.pos h.reached).1
  | case2 => exact ⟨[], rfl⟩
  | case3 walked current loc hp hw _ e hany =>
    subst hc
    obtain ⟨found, hf⟩ := anySource_eq_ok fun name hn =>
      (hl k h.pos h.reached).2 loc (FileSystem.status_of_probe hp) name (FileSystem.mem_names_iff.1 hn)
    rw [hany] at hf
    cases hf
  | case4 => exact ⟨[], rfl⟩
  | case5 walked current loc hp hw _ hany ih =>
    subst hc
    have hs := FileSystem.status_of_probe hp
    obtain ⟨nested, hn⟩ := ih (h.step hs hw ((anySource_names_iff hany).1 rfl)) rfl
    exact ⟨_, by rw [hn]; rfl⟩
  | case6 => exact ⟨[], rfl⟩

/-! ## The whole list -/

/-- Levels that the walk goes on below are at different directories, so there are no more of them than
directories. -/
theorem Reached.le_length {k : Nat} (h : Reached fs cwd workspace (k + 1)) :
    k ≤ fs.directories.length := by
  have hat : ∀ i : Fin k, ∃ loc, fs.status cwd (level workspace (i + 1)).route = .ok (loc, .directory) := by
    intro i
    obtain ⟨loc, hs, _⟩ := h (i + 1) (by omega) (by omega)
    exact ⟨loc, hs⟩
  choose at_ hat using hat
  have hlt : ∀ i j : Fin k, i < j → at_ i ≠ at_ j := by
    intro i j hij he
    obtain ⟨loc, hs, _, hne⟩ := h (j + 1) (by omega) (by omega)
    rw [hat j] at hs
    cases hs
    exact hne (i + 1) (by omega) (by omega) (at_ i) (hat i) he.symm
  have hinj : Function.Injective at_ := by
    intro i j he
    rcases lt_trichotomy i j with hij | rfl | hij
    · exact absurd he (hlt i j hij)
    · rfl
    · exact absurd he.symm (hlt j i hij)
  have hn : (List.ofFn at_).Nodup := List.nodup_ofFn.2 hinj
  have hs : List.ofFn at_ ⊆ fs.directories := by
    intro loc hm
    obtain ⟨i, rfl⟩ := (List.mem_ofFn' ..).1 hm
    exact FileSystem.mem_directories (FileSystem.lookup_of_status (hat i))
  simpa using hn.length_le_of_subset hs

theorem chain_succ (workspace : Path) (n : Nat) :
    chain workspace (n + 1) = level workspace 1 :: (List.range n).map fun i => level workspace (i + 2) := by
  rw [chain, List.range_succ_eq_map, List.map_cons, List.map_map]
  rfl

/-- Both levels that are always listed, and below them what the walk lists after the second. -/
theorem cons_cons_drop (workspace : Path) (d : Nat) :
    level workspace 1 :: level workspace 2 ::
        ((List.range d).map fun i => level workspace (1 + i + 1)).drop 1 =
      chain workspace (max 2 (d + 1)) := by
  cases d with
  | zero => rfl
  | succ d =>
    rw [Nat.max_eq_right (by omega), chain_succ, List.range_succ_eq_map, List.map_cons, List.map_cons,
      List.map_map, List.map_map, List.drop_one, List.tail_cons]
    congr 2
    refine List.map_congr_left fun i _ => ?_
    show level workspace (1 + (i + 1) + 1) = level workspace (i + 1 + 2)
    congr 1
    omega

theorem discover_eq (fs : FileSystem) (cwd : Location) (workspace : Path) :
    discover fs cwd workspace = (below fs cwd [] (level workspace 1)).map fun nested =>
      level workspace 1 :: level workspace 2 :: nested.drop 1 := by
  show (below fs cwd [] (level workspace 1) >>= _) = _
  cases below fs cwd [] (level workspace 1) <;> rfl

/-- The meta-builds that are found are a chain, which ends where the walk comes to no further level. -/
theorem exists_chain_of_discover {found : List Path} (h : discover fs cwd workspace = .ok found) :
    ∃ n, 2 ≤ n ∧ n ≤ fs.directories.length + 1 ∧ found = chain workspace n ∧
      ∀ k, 3 ≤ k → (k ≤ n ↔ Reached fs cwd workspace k) := by
  rw [discover_eq] at h
  cases hb : below fs cwd [] (level workspace 1) with
  | error e => simp [hb, Except.map] at h
  | ok nested =>
    obtain ⟨d, hd, hreached, hstop⟩ := below_eq At.start hb
    simp only [hb, hd, Except.map, cons_cons_drop, Except.ok.injEq] at h
    rw [Nat.add_comm] at hreached hstop
    have hle := hreached.le_length
    have hpos : 1 ≤ fs.directories.length := by simp [FileSystem.directories]
    refine ⟨max 2 (d + 1), Nat.le_max_left .., by omega, h.symm, fun k hk => ?_⟩
    constructor
    · intro hn
      exact hreached.of_le (by omega)
    · intro hr
      exact Nat.le_of_not_lt fun hlt => hstop (hr (d + 1) (by omega) (by omega))

/-- A level that the walk comes to is one of those that are found. -/
theorem level_mem_of_reached {found : List Path} {k : Nat}
    (h : discover fs cwd workspace = .ok found) (hk : 1 ≤ k) (hr : Reached fs cwd workspace k) :
    level workspace k ∈ found := by
  obtain ⟨n, h₂, _, rfl, hn⟩ := exists_chain_of_discover h
  rw [level_mem_chain]
  by_cases h₃ : 3 ≤ k
  · exact ⟨hk, (hn k h₃).2 hr⟩
  · omega

/-- For every file system the walk over the meta-builds ends. Its list is a chain of at least two levels,
each listed once, and at most one longer than there are directories; a level below the second is listed
if and only if the walk goes on below all levels above it. -/
theorem discover_eq_chain (fs : FileSystem) (cwd : Location) (workspace : Path)
    (hl : WithinLimits fs cwd workspace) :
    ∃ n, 2 ≤ n ∧ n ≤ fs.directories.length + 1 ∧
      discover fs cwd workspace = .ok (chain workspace n) ∧ (chain workspace n).Nodup ∧
      ∀ k, 3 ≤ k → (level workspace k ∈ chain workspace n ↔
        ∀ j, 1 ≤ j → j < k → GoesOnBelow fs cwd workspace j) := by
  obtain ⟨nested, hb⟩ := below_eq_ok hl At.start
  have hf := discover_eq fs cwd workspace
  rw [hb] at hf
  obtain ⟨n, h₁, h₂, he, hn⟩ := exists_chain_of_discover hf
  refine ⟨n, h₁, h₂, he ▸ hf, nodup_chain workspace n, fun k hk => ?_⟩
  rw [level_mem_chain]
  constructor
  · rintro ⟨_, h⟩
    exact (hn k hk).1 h
  · intro h
    exact ⟨by omega, (hn k hk).2 h⟩

/-! ## A link back up -/

instance decidableEqExcept {ε α : Type} [DecidableEq ε] [DecidableEq α] : DecidableEq (Except ε α)
  | .error e, .error e' => decidable_of_iff (e = e') ⟨congrArg _, Except.error.inj⟩
  | .ok a, .ok a' => decidable_of_iff (a = a') ⟨congrArg _, Except.ok.inj⟩
  | .error _, .ok _ | .ok _, .error _ => isFalse (by simp)

/-- A file system whose third level of meta-builds is a link to the first. -/
def looped : FileSystem :=
  FileSystem.empty.place [] "project" .directory
    |>.place ["project"] "build.sbt" (.file [] false)
    |>.place ["project"] "project" .directory
    |>.place ["project", "project"] "plugins.scala" (.file [] false)
    |>.place ["project", "project"] "project" (.link "..")

/-- The working directory, as it is written. -/
def here : Path := ⟨.none, []⟩

theorem status_looped :
    looped.status [] (level here 1).route = .ok (["project"], .directory) ∧
      looped.status [] (level here 2).route = .ok (["project", "project"], .directory) ∧
      looped.status [] (level here 3).route = .ok (["project"], .directory) := by
  decide +kernel

theorem goesOnBelow_looped_one : GoesOnBelow looped [] here 1 := by
  refine ⟨_, status_looped.1, ?_, fun i h₁ h₂ => absurd h₂ (by omega)⟩
  exact ⟨"build.sbt", ["build.sbt", "project"], .file [] false, by decide +kernel, by decide +kernel,
    by decide +kernel⟩

theorem goesOnBelow_looped_two : GoesOnBelow looped [] here 2 := by
  refine ⟨_, status_looped.2.1, ?_, fun i h₁ h₂ other ho => ?_⟩
  · exact ⟨"plugins.scala", ["plugins.scala", "project", "project"], .file [] false, by decide +kernel,
      by decide +kernel, by decide +kernel⟩
  · obtain rfl : i = 1 := by omega
    rw [status_looped.1] at ho
    cases ho
    decide

theorem not_reached_looped {k : Nat} (hk : 4 ≤ k) : ¬ Reached looped [] here k := by
  intro h
  obtain ⟨loc, hs, _, hne⟩ := h 3 (by omega) (by omega)
  rw [status_looped.2.2] at hs
  cases hs
  exact hne 1 (by omega) (by omega) _ status_looped.1 rfl

/-- Where the walk ends early, the names in the file system tell whether all paths are short enough. -/
theorem withinLimits_of_not_reached {n : Nat} (hstop : ¬ Reached fs cwd workspace (n + 1))
    (h : ∀ p ∈ chain workspace n, fs.probe cwd p.route ≠ .error .nameTooLong ∧
      ∀ e ∈ fs.entries, ∀ name ∈ e.1.head?, fs.probe cwd (p / name).route ≠ .error .nameTooLong) :
    WithinLimits fs cwd workspace := by
  intro k hk hr
  have hn : k ≤ n := Nat.le_of_not_lt fun hlt => hstop (hr.of_le hlt)
  obtain ⟨hlevel, hnames⟩ := h _ (level_mem_chain.2 ⟨hk, hn⟩)
  refine ⟨hlevel, fun loc _ name hname => ?_⟩
  obtain ⟨e, he, hkey⟩ := FileSystem.isSome_lookup_iff.1 hname
  exact hnames e he name (by simp [hkey])

theorem withinLimits_looped : WithinLimits looped [] here :=
  withinLimits_of_not_reached (not_reached_looped (Nat.le_refl 4)) (by decide +kernel)

/-- The third level is listed, as the walk goes on below the two above it; the fourth is not, as the third
is the first again. -/
theorem discover_looped :
    WithinLimits looped [] here ∧ discover looped [] here = .ok (chain here 3) := by
  refine ⟨withinLimits_looped, ?_⟩
  obtain ⟨n, _, _, hf, _, hn⟩ := discover_eq_chain looped [] here withinLimits_looped
  have h₃ : level here 3 ∈ chain here n := by
    refine (hn 3 (by omega)).2 fun j h₁ h₂ => ?_
    obtain rfl | rfl : j = 1 ∨ j = 2 := by omega
    · exact goesOnBelow_looped_one
    · exact goesOnBelow_looped_two
  have h₄ : level here 4 ∉ chain here n := fun h =>
    not_reached_looped (Nat.le_refl 4) ((hn 4 (by omega)).1 h)
  rw [level_mem_chain] at h₃ h₄
  rw [hf, show n = 3 by omega]

end SbtWorkspace.MetaBuild
