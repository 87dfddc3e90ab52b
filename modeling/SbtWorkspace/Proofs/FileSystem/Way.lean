import SbtWorkspace.FileSystem.Calls

/-! The way that a walk takes: through directories and links only. A walk succeeds if and only if there
is a way with no more links than it may follow, and what it does after the way does not depend on how
it came there. Main statements: `walkLinks_of_way`, `exists_way_of_status`, and `resolve_child`, by which
a name in a directory is looked up at the directory alone. -/

namespace SbtWorkspace

def IsName (step : String) : Prop := step ≠ "" ∧ step ≠ "." ∧ step ≠ ".."

theorem IsEntryName.isName {name : String} (h : IsEntryName name) : IsName name :=
  ⟨h.1.1, h.1.2.1, h.2⟩

namespace Route

/-- Where the walk along a route begins. -/
def start (route : Route) (cwd : Location) : Location := if route.isAbsolute then [] else cwd

def refusal (route : Route) : Option Fault :=
  if '\x00' ∈ route.text.toList then some .nullByte
  else if route.text = "" then some .noEntry
  else if FileSystem.maxPathLength < route.text.utf8ByteSize then some .nameTooLong
  else none

end Route

namespace FileSystem

variable {fs b a : FileSystem} {last : LastName} {loc goal : Location} {step : String}
  {rest steps : List String} {k : Nat}

/-! ## One step of a walk -/

def follower (fs : FileSystem) (last : LastName) : Nat → Location → List String → Except Fault Target
  | 0 => fun _ _ => .error .linkLoop
  | links + 1 => fs.walkLinks last links

theorem walkLinks_eq_walk (fs : FileSystem) (last : LastName) (links : Nat) :
    fs.walkLinks last links = fs.walk last (fs.follower last links) := by
  cases links <;> rfl

theorem walkLinks_nil {node : Node} (h : fs.lookup loc = some node) (links : Nat) :
    fs.walkLinks last links loc [] = .ok (.found loc node) := by
  rw [walkLinks_eq_walk]
  simp [walk, h]

theorem walkLinks_here (hd : fs.lookup loc = some .directory) (hs : step = "" ∨ step = ".")
    (links : Nat) : fs.walkLinks last links loc (step :: rest) = fs.walkLinks last links loc rest := by
  rw [walkLinks_eq_walk]
  simp [walk, hd, hs]

theorem walkLinks_up (hd : fs.lookup loc = some .directory) (links : Nat) :
    fs.walkLinks last links loc (".." :: rest) = fs.walkLinks last links loc.tail rest := by
  rw [walkLinks_eq_walk]
  simp [walk, hd]

theorem lookup_of_walkLinks {links : Nat} {t : Target}
    (h : fs.walkLinks last links loc (step :: rest) = .ok t) : fs.lookup loc = some .directory := by
  rw [walkLinks_eq_walk] at h
  by_cases hn : fs.lookup loc = none
  · simp [walk, hn] at h
  · by_cases hd : fs.lookup loc = some .directory
    · exact hd
    · simp [walk, hn, hd] at h

/-- A name in a directory: it is too long, or free, or a link to follow, or something to go on from. -/
theorem walkLinks_name (hd : fs.lookup loc = some .directory) (hs : IsName step)
    (hw : ¬(last = .written ∧ rest = [""])) (links : Nat) :
    fs.walkLinks last links loc (step :: rest) =
      if maxNameLength < step.utf8ByteSize then .error .nameTooLong
      else match fs.lookup (step :: loc) with
        | none => if rest = [] then .ok (.missing loc step) else .error .noEntry
        | some (.link target) =>
          if rest = [] ∧ last = .kept then .ok (.found (step :: loc) (.link target))
          else fs.follower last links ((Route.ofString target).start loc)
            ((Route.ofString target).steps ++ rest)
        | some _ => fs.walkLinks last links (step :: loc) rest := by
  obtain ⟨h₁, h₂, h₃⟩ := hs
  have hdir : ¬ fs.lookup loc ≠ some .directory := fun h => h hd
  have hsome : fs.lookup loc ≠ none := by simp [hd]
  have hhere : ¬(step = "" ∨ step = ".") := by simp [h₁, h₂]
  rw [walkLinks_eq_walk, walk, if_neg hsome, if_neg hdir, if_neg hhere, if_neg h₃, if_neg hw,
    ← walkLinks_eq_walk]
  rcases fs.lookup (step :: loc) with _ | _ | _ | _ | _ <;> rfl

/-- What the first step of a walk with a result was: it stayed, went up, or took a name that was free, that
of a link as such, that of a link to follow, or that of something else. -/
inductive FirstStep (fs : FileSystem) (last : LastName) (links : Nat) (loc : Location) (t : Target) :
    String → List String → Prop
  | here {step : String} {rest : List String} : step = "" ∨ step = "." →
    fs.walkLinks last links loc rest = .ok t → FirstStep fs last links loc t step rest
  | up {rest : List String} : fs.walkLinks last links loc.tail rest = .ok t →
    FirstStep fs last links loc t ".." rest
  | free {step : String} : IsName step → step.utf8ByteSize ≤ maxNameLength →
    fs.lookup (step :: loc) = none → t = .missing loc step → FirstStep fs last links loc t step []
  | kept {step target : String} : IsName step → fs.lookup (step :: loc) = some (.link target) →
    last = .kept → t = .found (step :: loc) (.link target) → FirstStep fs last links loc t step []
  | link {step target : String} {rest : List String} : IsName step →
    step.utf8ByteSize ≤ maxNameLength → fs.lookup (step :: loc) = some (.link target) →
    ¬(rest = [] ∧ last = .kept) →
    fs.follower last links ((Route.ofString target).start loc)
      ((Route.ofString target).steps ++ rest) = .ok t →
    FirstStep fs last links loc t step rest
  | down {step : String} {rest : List String} {node : Node} : IsName step →
    step.utf8ByteSize ≤ maxNameLength → fs.lookup (step :: loc) = some node →
    (∀ target, node ≠ .link target) → fs.walkLinks last links (step :: loc) rest = .ok t →
    FirstStep fs last links loc t step rest

theorem firstStep_of_walkLinks {links : Nat} {t : Target}
    (h : fs.walkLinks last links loc (step :: rest) = .ok t) :
    fs.FirstStep last links loc t step rest := by
  have hd := lookup_of_walkLinks h
  by_cases hh : step = "" ∨ step = "."
  · rw [walkLinks_here hd hh] at h
    exact .here hh h
  by_cases hu : step = ".."
  · subst hu
    rw [walkLinks_up hd] at h
    exact .up h
  have hs : IsName step := ⟨fun e => hh (.inl e), fun e => hh (.inr e), hu⟩
  by_cases hw : last = .written ∧ rest = [""]
  · rw [walkLinks_eq_walk] at h
    simp [walk, hd, hh, hu, hw] at h
  rw [walkLinks_name hd hs hw] at h
  split at h
  · cases h
  rename_i hl
  have hl : step.utf8ByteSize ≤ maxNameLength := Nat.le_of_not_lt hl
  split at h
  · rename_i hn
    split at h
    · rename_i hr
      cases h
      subst hr
      exact .free hs hl hn rfl
    · cases h
  · rename_i target hn
    split at h
    · rename_i hr
      cases h
      obtain ⟨rfl, hkept⟩ := hr
      exact .kept hs hn hkept rfl
    · exact .link hs hl hn ‹_› h
  · rename_i node hlink hn
    exact .down hs hl hn hlink h

/-! ## Ways -/

/-- From a location the steps lead through directories, and through a number of links, to a goal. -/
inductive Way (fs : FileSystem) : Location → List String → Nat → Location → Prop
  | arrived (loc : Location) : Way fs loc [] 0 loc
  | here {loc goal : Location} {step : String} {rest : List String} {k : Nat} :
    fs.lookup loc = some .directory → step = "" ∨ step = "." → Way fs loc rest k goal →
      Way fs loc (step :: rest) k goal
  | up {loc goal : Location} {rest : List String} {k : Nat} :
    fs.lookup loc = some .directory → Way fs loc.tail rest k goal → Way fs loc (".." :: rest) k goal
  | down {loc goal : Location} {step : String} {rest : List String} {k : Nat} {node : Node} :
    fs.lookup loc = some .directory → IsName step → step.utf8ByteSize ≤ maxNameLength →
      fs.lookup (step :: loc) = some node → (∀ target, node ≠ .link target) →
      Way fs (step :: loc) rest k goal → Way fs loc (step :: rest) k goal
  | link {loc goal : Location} {step target : String} {rest : List String} {k : Nat} :
    fs.lookup loc = some .directory → IsName step → step.utf8ByteSize ≤ maxNameLength →
      fs.lookup (step :: loc) = some (.link target) →
      Way fs ((Route.ofString target).start loc) ((Route.ofString target).steps ++ rest) k goal →
      Way fs loc (step :: rest) (k + 1) goal

/-- Whether a walk takes the names before the remaining steps without regard to how it takes the last. -/
def GoesOn (last : LastName) (rest : List String) : Prop :=
  last = .followed ∨ rest ≠ [] ∧ rest ≠ [""]

theorem GoesOn.not_written (h : GoesOn last rest) : ¬(last = .written ∧ steps ++ rest = [""]) := by
  rintro ⟨rfl, he⟩
  obtain h | ⟨h₁, h₂⟩ := h
  · cases h
  · cases steps <;> simp_all

theorem GoesOn.not_kept (h : GoesOn last rest) : ¬(steps ++ rest = [] ∧ last = .kept) := by
  rintro ⟨he, rfl⟩
  obtain h | ⟨h₁, _⟩ := h
  · cases h
  · exact h₁ (List.append_eq_nil_iff.1 he).2

/-- What comes after a way is walked from its goal, with as many links less as the way has. -/
theorem walkLinks_of_way (h : fs.Way loc steps k goal) (hr : GoesOn last rest) (links : Nat) :
    fs.walkLinks last links loc (steps ++ rest) =
      if links < k then .error .linkLoop else fs.walkLinks last (links - k) goal rest := by
  induction h generalizing links with
  | arrived => rfl
  | here hd hs _ ih => rw [List.cons_append, walkLinks_here hd hs, ih]
  | up hd _ ih => rw [List.cons_append, walkLinks_up hd, ih]
  | @down loc goal step steps k node hd hs hl hn hlink _ ih =>
    rw [List.cons_append, walkLinks_name hd hs hr.not_written, if_neg (by omega), hn, ← ih]
    cases node with
    | link target => exact absurd rfl (hlink target)
    | directory | file | sealed | device => rfl
  | @link loc goal step target steps k hd hs hl hn _ ih =>
    rw [List.cons_append, walkLinks_name hd hs hr.not_written, if_neg (by omega), hn]
    simp only [hr.not_kept, if_false]
    cases links with
    | zero => rw [if_pos (Nat.succ_pos k)]; rfl
    | succ links =>
      have hi := ih links
      rw [List.append_assoc] at hi
      rw [show fs.follower last (links + 1) = fs.walkLinks last links from rfl, hi]
      simp only [Nat.add_lt_add_iff_right, Nat.add_sub_add_right]

theorem Way.append {steps' : List String} {mid : Location} {j : Nat} (h : fs.Way loc steps k mid)
    (h' : fs.Way mid steps' j goal) : fs.Way loc (steps ++ steps') (k + j) goal := by
  induction h with
  | arrived => rwa [Nat.zero_add]
  | here hd hs _ ih => exact .here hd hs (ih h')
  | up hd _ ih => exact .up hd (ih h')
  | down hd hs hl hn hlink _ ih => exact .down hd hs hl hn hlink (ih h')
  | link hd hs hl hn _ ih =>
    rw [Nat.add_right_comm]
    have hi := ih h'
    rw [List.append_assoc] at hi
    exact .link hd hs hl hn hi

/-- A way over some steps and then others comes to a place between them. -/
theorem Way.split {steps' : List String} (h : fs.Way loc (steps ++ steps') k goal) :
    ∃ mid i j, i + j = k ∧ fs.Way loc steps i mid ∧ fs.Way mid steps' j goal := by
  generalize hs : steps ++ steps' = whole at h
  induction h generalizing steps with
  | arrived loc =>
    obtain ⟨rfl, rfl⟩ := List.append_eq_nil_iff.1 hs
    exact ⟨loc, 0, 0, rfl, .arrived loc, .arrived loc⟩
  | here hd hh hw ih =>
    obtain ⟨rfl, rfl⟩ | ⟨rest, rfl, rfl⟩ := List.append_eq_cons_iff.1 hs
    · exact ⟨_, 0, _, Nat.zero_add _, .arrived _, .here hd hh hw⟩
    · obtain ⟨mid, i, j, hk, hi, hj⟩ := ih rfl
      exact ⟨mid, i, j, hk, .here hd hh hi, hj⟩
  | up hd hw ih =>
    obtain ⟨rfl, rfl⟩ | ⟨rest, rfl, rfl⟩ := List.append_eq_cons_iff.1 hs
    · exact ⟨_, 0, _, Nat.zero_add _, .arrived _, .up hd hw⟩
    · obtain ⟨mid, i, j, hk, hi, hj⟩ := ih rfl
      exact ⟨mid, i, j, hk, .up hd hi, hj⟩
  | down hd hn hl hf hlink hw ih =>
    obtain ⟨rfl, rfl⟩ | ⟨rest, rfl, rfl⟩ := List.append_eq_cons_iff.1 hs
    · exact ⟨_, 0, _, Nat.zero_add _, .arrived _, .down hd hn hl hf hlink hw⟩
    · obtain ⟨mid, i, j, hk, hi, hj⟩ := ih rfl
      exact ⟨mid, i, j, hk, .down hd hn hl hf hlink hi, hj⟩
  | @link _ _ _ target _ _ hd hn hl hf hw ih =>
    obtain ⟨rfl, rfl⟩ | ⟨rest, rfl, rfl⟩ := List.append_eq_cons_iff.1 hs
    · exact ⟨_, 0, _, Nat.zero_add _, .arrived _, .link hd hn hl hf hw⟩
    · -- the steps of the target stand before those that are left
      obtain ⟨mid, i, j, hk, hi, hj⟩ := @ih ((Route.ofString target).steps ++ rest)
        (List.append_assoc ..)
      exact ⟨mid, i + 1, j, by omega, .link hd hn hl hf hi, hj⟩

theorem Way.eq_or_directory (h : fs.Way loc steps k goal) :
    loc = goal ∧ steps = [] ∧ k = 0 ∨ fs.lookup loc = some .directory := by
  cases h with
  | arrived => exact .inl ⟨rfl, rfl, rfl⟩
  | here hd | up hd | down hd | link hd => exact .inr hd

/-! ## Ways of walks that succeed -/

theorem exists_way_of_walk {links : Nat}
    (hf : ∀ loc steps node, fs.follower .followed links loc steps = .ok (.found goal node) →
      ∃ k < links, fs.Way loc steps k goal)
    (steps : List String) (loc : Location) {node : Node}
    (h : fs.walkLinks .followed links loc steps = .ok (.found goal node)) :
    ∃ k ≤ links, fs.Way loc steps k goal := by
  induction steps generalizing loc with
  | nil =>
    rw [walkLinks_eq_walk] at h
    simp only [walk] at h
    split at h
    · injection h with h
      injection h with h _
      exact ⟨0, Nat.zero_le _, h ▸ .arrived loc⟩
    · cases h
  | cons step rest ih =>
    have hd := lookup_of_walkLinks h
    cases firstStep_of_walkLinks h with
    | here hh h =>
      obtain ⟨k, hk, hw⟩ := ih loc h
      exact ⟨k, hk, .here hd hh hw⟩
    | up h =>
      obtain ⟨k, hk, hw⟩ := ih loc.tail h
      exact ⟨k, hk, .up hd hw⟩
    | free _ _ _ ht => cases ht
    | kept _ _ hkept => cases hkept
    | link hs hl hn _ h =>
      obtain ⟨k, hk, hw⟩ := hf _ _ _ h
      exact ⟨k + 1, hk, .link hd hs hl hn hw⟩
    | down hs hl hn hlink h =>
      obtain ⟨k, hk, hw⟩ := ih _ h
      exact ⟨k, hk, .down hd hs hl hn hlink hw⟩

theorem exists_way_of_walkLinks (links : Nat) (loc : Location) (steps : List String) {node : Node}
    (h : fs.walkLinks .followed links loc steps = .ok (.found goal node)) :
    ∃ k ≤ links, fs.Way loc steps k goal := by
  induction links generalizing loc steps node with
  | zero => exact exists_way_of_walk (fun _ _ _ h => by simp [follower] at h) steps loc h
  | succ links ih =>
    refine exists_way_of_walk (fun loc steps node h => ?_) steps loc h
    obtain ⟨k, hk, hw⟩ := ih loc steps h
    exact ⟨k, Nat.lt_succ_of_le hk, hw⟩

/-! ## Names that are to be written -/

theorem walk_followed_of_written {links : Nat} {t : Target}
    (hf : ∀ loc steps, fs.follower .written links loc steps = .ok t →
      fs.follower .followed links loc steps = .ok t)
    (steps : List String) (loc : Location) (h : fs.walkLinks .written links loc steps = .ok t) :
    fs.walkLinks .followed links loc steps = .ok t := by
  induction steps generalizing loc with
  | nil =>
    rw [walkLinks_eq_walk] at h ⊢
    exact h
  | cons step rest ih =>
    have hd := lookup_of_walkLinks h
    cases firstStep_of_walkLinks h with
    | here hh h =>
      rw [walkLinks_here hd hh]
      exact ih loc h
    | up h =>
      rw [walkLinks_up hd]
      exact ih loc.tail h
    | free hs hl hn ht =>
      rw [walkLinks_name hd hs (by simp), if_neg (Nat.not_lt.2 hl), hn, ht]
      rfl
    | kept _ _ hkept => cases hkept
    | link hs hl hn _ h =>
      rw [walkLinks_name hd hs (by simp), if_neg (Nat.not_lt.2 hl), hn]
      simp only [reduceCtorEq, and_false, if_false]
      exact hf _ _ h
    | @down _ _ node hs hl hn hlink h =>
      rw [walkLinks_name hd hs (by simp), if_neg (Nat.not_lt.2 hl), hn]
      cases node with
      | link target => exact absurd rfl (hlink target)
      | directory | file | sealed | device => exact ih _ h

/-- Where a walk to a name that is to be written ends, there a look ends too. -/
theorem walkLinks_followed_of_written (links : Nat) (steps : List String) (loc : Location) {t : Target}
    (h : fs.walkLinks .written links loc steps = .ok t) :
    fs.walkLinks .followed links loc steps = .ok t := by
  induction links generalizing steps loc with
  | zero =>
    refine walk_followed_of_written (fun loc steps h => ?_) steps loc h
    exact h
  | succ links ih =>
    refine walk_followed_of_written (fun loc steps h => ?_) steps loc h
    exact ih steps loc h

/-! ## Ways in a file system that changed -/

def KeepsWays (b a : FileSystem) : Prop :=
  ∀ loc node, b.lookup loc = some node → node = .directory ∨ (∃ target, node = .link target) →
    a.lookup loc = some node

theorem KeepsWays.directory (h : KeepsWays b a) (hd : b.lookup loc = some .directory) :
    a.lookup loc = some .directory :=
  h loc _ hd (.inl rfl)

theorem KeepsWays.link (h : KeepsWays b a) {target : String} (hl : b.lookup loc = some (.link target)) :
    a.lookup loc = some (.link target) :=
  h loc _ hl (.inr ⟨target, rfl⟩)

/-- A way stays where directories and links do, and where its goal is no link. -/
theorem Way.mono (hw : b.Way loc steps k goal) (h : KeepsWays b a) {node : Node}
    (hg : a.lookup goal = some node) (hlink : ∀ target, node ≠ .link target) :
    a.Way loc steps k goal := by
  induction hw with
  | arrived => exact .arrived _
  | here hd hs _ ih => exact .here (h.directory hd) hs (ih hg)
  | up hd _ ih => exact .up (h.directory hd) (ih hg)
  | down hd hs hl hn _ hw ih =>
    obtain ⟨rfl, _, _⟩ | hd' := hw.eq_or_directory
    · exact .down (h.directory hd) hs hl hg hlink (ih hg)
    · exact .down (h.directory hd) hs hl (h.directory hd') (fun _ => by simp) (ih hg)
  | link hd hs hl hn _ ih => exact .link (h.directory hd) hs hl (h.link hn) (ih hg)

theorem Way.mono_directory (hw : b.Way loc steps k goal) (h : KeepsWays b a)
    (hg : b.lookup goal = some .directory) : a.Way loc steps k goal :=
  hw.mono h (h.directory hg) fun _ => by simp

/-! ## Routes -/

variable {cwd : Location} {route : Route} {node : Node}

theorem resolve_eq (fs : FileSystem) (cwd : Location) (last : LastName) (route : Route) :
    fs.resolve cwd last route =
      match route.refusal with
      | some fault => .error fault
      | none => fs.walkLinks last maxLinks (route.start cwd) route.steps := by
  unfold resolve Route.refusal
  split
  · rfl
  split
  · rfl
  split <;> rfl

theorem resolve_of_status (h : fs.status cwd route = .ok (goal, node)) :
    fs.resolve cwd .followed route = .ok (.found goal node) := by
  simp only [status] at h
  split at h
  · rename_i hr
    injection h with h
    injection h with h₁ h₂
    rw [hr, h₁, h₂]
  · cases h
  · cases h

/-- Where a call finds something, a route that is not refused has a way to it. -/
theorem exists_way_of_status (h : fs.status cwd route = .ok (goal, node)) :
    route.refusal = none ∧ ∃ k ≤ maxLinks, fs.Way (route.start cwd) route.steps k goal := by
  have hr := resolve_of_status h
  rw [resolve_eq] at hr
  split at hr
  · cases hr
  · rename_i hn
    exact ⟨hn, exists_way_of_walkLinks _ _ _ hr⟩

theorem status_of_way (hr : route.refusal = none) (hk : k ≤ maxLinks)
    (hw : fs.Way (route.start cwd) route.steps k goal) (hn : fs.lookup goal = some node) :
    fs.status cwd route = .ok (goal, node) := by
  have h := walkLinks_of_way hw (.inl rfl : GoesOn .followed []) maxLinks
  rw [List.append_nil, if_neg (by omega), walkLinks_nil hn] at h
  simp only [status, resolve_eq, hr, h]

/-- On the way to something that is there, every beginning of the steps leads to something too. -/
theorem exists_ways_of_append (hr : route.refusal = none) (hk : k ≤ maxLinks)
    (hw : fs.Way (route.start cwd) (route.steps ++ rest) k goal) (hn : fs.lookup goal = some node) :
    ∃ mid between i j, i + j = k ∧ fs.Way (route.start cwd) route.steps i mid ∧
      fs.Way mid rest j goal ∧ fs.status cwd route = .ok (mid, between) := by
  obtain ⟨mid, i, j, hij, hi, hj⟩ := hw.split
  obtain ⟨between, hm⟩ : ∃ between, fs.lookup mid = some between := by
    obtain ⟨rfl, _, _⟩ | hd := hj.eq_or_directory
    · exact ⟨node, hn⟩
    · exact ⟨_, hd⟩
  exact ⟨mid, between, i, j, hij, hi, hj, status_of_way hr (by omega) hi hm⟩

/-- What a call found it finds again where directories and links stay, and what was found is no link. -/
theorem status_mono (h : b.status cwd route = .ok (goal, node)) (hkeep : KeepsWays b a) {node' : Node}
    (hg : a.lookup goal = some node') (hlink : ∀ target, node' ≠ .link target) :
    a.status cwd route = .ok (goal, node') := by
  obtain ⟨hr, k, hk, hw⟩ := exists_way_of_status h
  exact status_of_way hr hk (hw.mono hkeep hg hlink) hg

theorem status_directory_mono (h : b.status cwd route = .ok (goal, .directory)) (hkeep : KeepsWays b a) :
    a.status cwd route = .ok (goal, .directory) :=
  status_mono h hkeep (hkeep.directory (lookup_of_status h)) fun _ => by simp

/-! ## Refusals of a look -/

theorem fault_of_walk {follow : Location → List String → Except Fault Target}
    (hf : ∀ loc steps fault, follow loc steps = .error fault → fault.isAbsence ∨ fault = .nameTooLong)
    (steps : List String) (loc : Location) {fault : Fault}
    (h : fs.walk .followed follow loc steps = .error fault) : fault.isAbsence ∨ fault = .nameTooLong := by
  induction steps generalizing loc with
  | nil =>
    simp only [walk] at h
    split at h
    · cases h
    · cases h
      exact .inl rfl
  | cons step rest ih =>
    simp only [walk] at h
    split at h
    · cases h
      exact .inl rfl
    split at h
    · cases h
      exact .inl rfl
    split at h
    · exact ih _ h
    split at h
    · exact ih _ h
    split at h
    · rename_i hw
      cases hw.1
    split at h
    · cases h
      exact .inr rfl
    split at h
    · split at h
      · cases h
      · cases h
        exact .inl rfl
    · simp only [reduceCtorEq, and_false, if_false] at h
      exact hf _ _ _ h
    · exact ih _ h

theorem fault_of_walkLinks (links : Nat) (steps : List String) (loc : Location) {fault : Fault}
    (h : fs.walkLinks .followed links loc steps = .error fault) :
    fault.isAbsence ∨ fault = .nameTooLong := by
  induction links generalizing loc steps fault with
  | zero =>
    refine fault_of_walk (fun _ _ _ h => ?_) _ _ h
    cases h
    exact .inl rfl
  | succ links ih => exact fault_of_walk (fun loc steps _ h => ih steps loc h) _ _ h

theorem refusal_ne_nameTooLong {p : Path} (h : p.render.utf8ByteSize ≤ maxPathLength) :
    p.route.refusal ≠ some .nameTooLong := by
  have hl : ¬ maxPathLength < p.route.text.utf8ByteSize := Nat.not_lt.2 h
  unfold Route.refusal
  rw [if_neg hl]
  split
  · simp
  · split <;> simp

theorem size_le_of_refusal {p : Path} (h : p.route.refusal = none) :
    p.render.utf8ByteSize ≤ maxPathLength := by
  refine Nat.le_of_not_lt fun hl => ?_
  have hl : maxPathLength < p.route.text.utf8ByteSize := hl
  simp only [Route.refusal, if_pos hl] at h
  split at h
  · cases h
  · split at h <;> cases h

theorem refusal_eq_none_iff {p : Path} :
    p.route.refusal = none ↔ '\x00' ∉ p.render.toList ∧ p.render.utf8ByteSize ≤ maxPathLength := by
  constructor
  · intro h
    refine ⟨fun hn => ?_, size_le_of_refusal h⟩
    have hn : '\x00' ∈ p.route.text.toList := hn
    simp [Route.refusal, hn] at h
  · rintro ⟨hn, hl⟩
    have hn : '\x00' ∉ p.route.text.toList := hn
    have hl : ¬ maxPathLength < p.route.text.utf8ByteSize := Nat.not_lt.2 hl
    have hne : p.route.text ≠ "" := p.render_ne_empty
    rw [Route.refusal, if_neg hn, if_neg hne, if_neg hl]

/-- Where a path is walked, one that is written as a beginning of it is walked too. -/
theorem refusal_of_append {p q : Path} {text : String} (ht : q.render = p.render ++ text)
    (h : q.route.refusal = none) : p.route.refusal = none := by
  rw [refusal_eq_none_iff, ht, String.toList_append, String.utf8ByteSize_append] at h
  exact refusal_eq_none_iff.2 ⟨fun hn => h.1 (List.mem_append_left _ hn), by omega⟩

/-- A name is walked to where its directory is, if there is room for it. -/
theorem refusal_div {p : Path} {name : String} (hname : Path.IsPart name)
    (hn : '\x00' ∉ name.toList) (hr : p.route.refusal = none)
    (hl : (p / name).render.utf8ByteSize ≤ maxPathLength) : (p / name).route.refusal = none := by
  refine refusal_eq_none_iff.2 ⟨fun hm => ?_, hl⟩
  exact (Path.mem_render_div hname (by decide) hm).elim (refusal_eq_none_iff.1 hr).1 hn

/-- Where there is room for a name, there is room for any that is no longer. -/
theorem size_div_le {p : Path} {name long : String} (hn : Path.IsPart name) (hl : Path.IsPart long)
    (h : name.utf8ByteSize ≤ long.utf8ByteSize)
    (hp : (p / long).render.utf8ByteSize ≤ maxPathLength) :
    (p / name).render.utf8ByteSize ≤ maxPathLength := by
  rw [Path.render_div p hl, String.utf8ByteSize_append] at hp
  rw [Path.render_div p hn, String.utf8ByteSize_append]
  omega

theorem refusal_isAbsence {fault : Fault} (h : route.refusal = some fault) :
    fault.isAbsence ∨ fault = .nameTooLong := by
  simp only [Route.refusal] at h
  split at h
  · cases h
    exact .inl rfl
  split at h
  · cases h
    exact .inl rfl
  split at h
  · cases h
    exact .inr rfl
  · cases h

/-- A look is refused where the walk is, for a reason that is no absence. -/
theorem resolve_of_probe {fault : Fault} (h : fs.probe cwd route = .error fault) :
    fs.resolve cwd .followed route = .error fault ∧ fault.isAbsence = false := by
  simp only [probe] at h
  split at h
  · cases h
  rename_i fault' hs
  split at h
  · cases h
  rename_i ha
  cases h
  simp only [status] at hs
  split at hs
  · cases hs
  · cases hs
    exact absurd rfl ha
  · rename_i hr
    cases hs
    exact ⟨hr, by simpa using ha⟩

/-- A look is refused only where a name or a path is too long. -/
theorem fault_of_probe {fault : Fault} (h : fs.probe cwd route = .error fault) : fault = .nameTooLong := by
  obtain ⟨hr, ha⟩ := resolve_of_probe h
  have hf : fault.isAbsence ∨ fault = .nameTooLong := by
    rw [resolve_eq] at hr
    split at hr
    · rename_i hn
      cases hr
      exact refusal_isAbsence hn
    · exact fault_of_walkLinks _ _ _ hr
  exact hf.resolve_left (by simp [ha])

theorem isFile_eq_true_iff : fs.isFile cwd route = .ok true ↔
    ∃ goal node, fs.status cwd route = .ok (goal, node) ∧ node.isRegular = true := by
  constructor
  · intro h
    cases hp : fs.probe cwd route with
    | error fault => simp [FileSystem.isFile, hp, Except.map] at h
    | ok found =>
      cases found with
      | none => simp [FileSystem.isFile, hp, Except.map] at h
      | some found =>
        simp only [FileSystem.isFile, hp, Except.map, Except.ok.injEq] at h
        exact ⟨_, _, FileSystem.status_of_probe hp, h⟩
  · rintro ⟨goal, node, h, hn⟩
    simp [FileSystem.isFile, FileSystem.probe, h, hn, Except.map]

theorem isFile_of_status {bytes : Bytes} {executable : Bool} {goal : Location}
    (h : fs.status cwd route = .ok (goal, .file bytes executable)) : fs.isFile cwd route = .ok true :=
  isFile_eq_true_iff.2 ⟨goal, _, h, rfl⟩

theorem status_of_read {bytes : Bytes} (hf : fs.isFile cwd route = .ok true)
    (hr : fs.read cwd route = .ok bytes) :
    ∃ goal executable, fs.status cwd route = .ok (goal, .file bytes executable) := by
  obtain ⟨goal, node, hs, hnode⟩ := isFile_eq_true_iff.1 hf
  obtain ⟨old, executable, rfl⟩ | rfl := Node.isRegular_iff.1 hnode
  · obtain rfl : old = bytes := by simpa [FileSystem.read, hs] using hr
    exact ⟨goal, executable, hs⟩
  · simp [FileSystem.read, hs] at hr

/-- Where a look finds a regular file, what it finds decides what the route leads to. -/
theorem status_eq_of_probe (h : a.probe cwd route = b.probe cwd route) (hf : b.isFile cwd route = .ok true) :
    a.status cwd route = b.status cwd route := by
  have hfile : a.isFile cwd route = .ok true := by
    rw [FileSystem.isFile, h]
    exact hf
  obtain ⟨goal, node, hb, -⟩ := isFile_eq_true_iff.1 hf
  obtain ⟨goal', node', ha, -⟩ := isFile_eq_true_iff.1 hfile
  simpa [probe, ha, hb] using h

theorem isDirectory_eq_true_iff : fs.isDirectory cwd route = .ok true ↔
    ∃ goal, fs.status cwd route = .ok (goal, .directory) := by
  constructor
  · intro h
    cases hp : fs.probe cwd route with
    | error fault => simp [FileSystem.isDirectory, hp, Except.map] at h
    | ok found =>
      rcases found with _ | ⟨goal, _ | _ | _ | _ | _⟩
      case mp.ok.some.directory => exact ⟨goal, FileSystem.status_of_probe hp⟩
      all_goals simp [FileSystem.isDirectory, hp, Except.map] at h
  · rintro ⟨goal, h⟩
    simp [FileSystem.isDirectory, FileSystem.probe, h, Except.map]

/-! ## Names in a directory -/

theorem start_div (p : Path) {name : String} (h : Path.IsPart name) (cwd : Location) :
    (p / name).route.start cwd = p.route.start cwd := by
  rw [Path.div_of_isPart p h]
  rfl

theorem steps_div (p : Path) {name : String} (h : Path.IsPart name) :
    (p / name).route.steps = p.route.steps ++ [name] := by
  rw [Path.div_of_isPart p h]
  simp [Path.route]

/-- A name below a directory is looked up in the directory, with the links that are left. -/
theorem resolve_child {p : Path} (hk : k ≤ maxLinks)
    (hw : fs.Way (p.route.start cwd) p.route.steps k loc) {name : String} (hname : Path.IsPart name)
    (last : LastName) :
    fs.resolve cwd last (p / name).route =
      match (p / name).route.refusal with
      | some fault => .error fault
      | none => fs.walkLinks last (maxLinks - k) loc [name] := by
  have hr : GoesOn last [name] := .inr ⟨by simp, by simpa using hname.1⟩
  rw [resolve_eq, start_div p hname, steps_div p hname, walkLinks_of_way hw hr, if_neg (by omega)]

end FileSystem

end SbtWorkspace
