import SbtWorkspace.Proofs.FileSystem.Move

/-! Two file systems that differ at a few places, where neither holds a directory or a link. A walk that comes
to none of these places is the same in both; at one of them it ends, with what stands there, or finds that
it cannot go on. Main statements: `near_resolve`, and `Beside.place` and `Beside.remove`, by which the same
change elsewhere leaves two such file systems. -/

namespace SbtWorkspace.FileSystem

variable {hidden : List Location} {fs b a : FileSystem} {last : LastName} {loc parent cwd : Location}
  {name step : String} {rest steps : List String} {links : Nat} {node : Node} {route : Route} {p : Path}

/-- Two file systems are the same but for what stands at the hidden places, and that is neither a directory
nor a link. -/
structure Beside (hidden : List Location) (b a : FileSystem) : Prop where
  others : ∀ q, q ∉ hidden → a.lookup q = b.lookup q
  plain : ∀ q, q ∈ hidden → IsPlain (b.lookup q) ∧ IsPlain (a.lookup q)
  names : ∀ loc, (a.names loc).filter (fun name => !hidden.contains (name :: loc)) =
    (b.names loc).filter fun name => !hidden.contains (name :: loc)

theorem Beside.refl (fs : FileSystem) : Beside [] fs fs :=
  ⟨fun _ _ => rfl, fun _ h => absurd h List.not_mem_nil, fun _ => rfl⟩

theorem Beside.symm (h : Beside hidden b a) : Beside hidden a b :=
  ⟨fun q hq => (h.others q hq).symm, fun q hq => (h.plain q hq).symm, fun loc => (h.names loc).symm⟩

theorem Beside.not_hidden (h : Beside hidden b a) (hd : b.lookup loc = some .directory) : loc ∉ hidden :=
  fun hq => (h.plain loc hq).1.1 hd

theorem Beside.keepsWays (h : Beside hidden b a) : KeepsWays b a := by
  intro q node hq hn
  rw [h.others q fun hm => not_isPlain hn hq (h.plain q hm).1, hq]

theorem Beside.status_directory (h : Beside hidden b a)
    (hs : b.status cwd route = .ok (loc, .directory)) : a.status cwd route = .ok (loc, .directory) :=
  status_directory_mono hs h.keepsWays

/-! ## Walks -/

/-- What two walks come to: the same, or a hidden place, or neither can go on from there. -/
inductive Near (hidden : List Location) : Except Fault Target → Except Fault Target → Prop
  | same (r : Except Fault Target) : Near hidden r r
  | there {t t' : Target} : t.location ∈ hidden → t'.location ∈ hidden → Near hidden (.ok t) (.ok t')
  | past {fault fault' : Fault} : fault = .noEntry ∨ fault = .notDirectory →
    fault' = .noEntry ∨ fault' = .notDirectory → Near hidden (.error fault) (.error fault')

theorem exists_error_of_not_directory (h : fs.lookup loc ≠ some .directory) (links : Nat) :
    ∃ fault, (fault = .noEntry ∨ fault = .notDirectory) ∧
      fs.walkLinks last links loc (step :: rest) = .error fault := by
  rw [walkLinks_eq_walk]
  by_cases hn : fs.lookup loc = none
  · exact ⟨.noEntry, .inl rfl, by simp [walk, hn]⟩
  · exact ⟨.notDirectory, .inr rfl, by simp [walk, hn, h]⟩

theorem walkLinks_last (hd : fs.lookup loc = some .directory) (hs : IsName step)
    (hl : step.utf8ByteSize ≤ maxNameLength) (hp : IsPlain (fs.lookup (step :: loc))) (links : Nat) :
    ∃ t : Target, t.location = step :: loc ∧ fs.walkLinks last links loc [step] = .ok t := by
  cases standing (fs.lookup (step :: loc)) with
  | free hn => exact ⟨_, rfl, walkLinks_child_none hd hs hl hn⟩
  | link hn => exact absurd hn (hp.2 _)
  | other hn hlink => exact ⟨.found (step :: loc) _, rfl, walkLinks_child_some hd hs hl hn hlink⟩

theorem walkLinks_beyond (hd : fs.lookup loc = some .directory) (hs : IsName step)
    (hw : ¬(last = .written ∧ rest = [""])) (hl : step.utf8ByteSize ≤ maxNameLength)
    (hp : IsPlain (fs.lookup (step :: loc))) (hr : rest ≠ []) (links : Nat) :
    ∃ fault, (fault = .noEntry ∨ fault = .notDirectory) ∧
      fs.walkLinks last links loc (step :: rest) = .error fault := by
  rw [walkLinks_name hd hs hw, if_neg (Nat.not_lt.2 hl)]
  obtain ⟨next, rest, rfl⟩ := List.exists_cons_of_ne_nil hr
  cases hn : fs.lookup (step :: loc) with
  | none => exact ⟨.noEntry, .inl rfl, by simp⟩
  | some node =>
    have hdir : fs.lookup (step :: loc) ≠ some .directory := hp.1
    cases node with
    | directory => exact absurd hn hdir
    | link target => exact absurd hn (hp.2 target)
    | file | sealed | device => exact exists_error_of_not_directory hdir links

theorem near_walk (h : Beside hidden b a)
    (hf : ∀ loc steps, (steps = [] → loc ∉ hidden) →
      Near hidden (b.follower last links loc steps) (a.follower last links loc steps))
    (steps : List String) (loc : Location) (hs : steps = [] → loc ∉ hidden) :
    Near hidden (b.walkLinks last links loc steps) (a.walkLinks last links loc steps) := by
  induction steps generalizing loc with
  | nil =>
    rw [walkLinks_eq_walk, walkLinks_eq_walk, walk, walk, h.others loc (hs rfl)]
    exact .same _
  | cons step rest ih =>
    by_cases hd : b.lookup loc ≠ some .directory
    · have ha : a.lookup loc ≠ some .directory := fun ha => hd (h.symm.keepsWays.directory ha)
      obtain ⟨_, hfault, hb⟩ := exists_error_of_not_directory hd links
      obtain ⟨_, hfault', ha⟩ := exists_error_of_not_directory ha links
      rw [hb, ha]
      exact .past hfault hfault'
    have hd := Classical.not_not.1 hd
    have hd' := h.keepsWays.directory hd
    have hloc := h.not_hidden hd
    by_cases hh : step = "" ∨ step = "."
    · rw [walkLinks_here hd hh, walkLinks_here hd' hh]
      exact ih loc fun _ => hloc
    by_cases hu : step = ".."
    · subst hu
      rw [walkLinks_up hd, walkLinks_up hd']
      refine ih loc.tail fun _ => h.not_hidden ?_
      cases loc with
      | nil => rfl
      | cons name parent =>
        have hsome : (b.lookup (name :: parent)).isSome := by simp [hd]
        exact lookup_parent hsome
    have hname : IsName step := ⟨fun e => hh (.inl e), fun e => hh (.inr e), hu⟩
    by_cases hw : last = .written ∧ rest = [""]
    · rw [walkLinks_eq_walk, walkLinks_eq_walk]
      simp only [walk, hd, hd', hh, hu, hw, if_true, if_false, reduceCtorEq, ne_eq, not_true_eq_false,
        and_self]
      exact .same _
    by_cases hl : maxNameLength < step.utf8ByteSize
    · rw [walkLinks_name hd hname hw, walkLinks_name hd' hname hw, if_pos hl, if_pos hl]
      exact .same _
    have hl := Nat.le_of_not_lt hl
    by_cases hq : step :: loc ∈ hidden
    · obtain ⟨hb, ha⟩ := h.plain _ hq
      by_cases hr : rest = []
      · subst hr
        obtain ⟨t, ht, hb⟩ := walkLinks_last hd hname hl hb links
        obtain ⟨t', ht', ha⟩ := walkLinks_last hd' hname hl ha links
        rw [hb, ha]
        exact .there (ht ▸ hq) (ht' ▸ hq)
      · obtain ⟨_, hfault, hb⟩ := walkLinks_beyond hd hname hw hl hb hr links
        obtain ⟨_, hfault', ha⟩ := walkLinks_beyond hd' hname hw hl ha hr links
        rw [hb, ha]
        exact .past hfault hfault'
    · rw [walkLinks_name hd hname hw, walkLinks_name hd' hname hw, h.others _ hq]
      rw [if_neg (Nat.not_lt.2 hl), if_neg (Nat.not_lt.2 hl)]
      cases hn : b.lookup (step :: loc) with
      | none => exact .same _
      | some node =>
        cases node with
        | directory | file | sealed | device => exact ih _ fun _ => hq
        | link target =>
          dsimp only
          split
          · exact .same _
          · refine hf _ _ fun _ => ?_
            unfold Route.start
            split
            · exact h.not_hidden rfl
            · exact hloc

theorem near_walkLinks (h : Beside hidden b a) (links : Nat) (steps : List String) (loc : Location)
    (hs : steps = [] → loc ∉ hidden) :
    Near hidden (b.walkLinks last links loc steps) (a.walkLinks last links loc steps) := by
  induction links generalizing loc steps with
  | zero => exact near_walk h (fun _ _ _ => .same _) steps loc hs
  | succ links ih =>
    refine near_walk h (fun loc steps hs => ?_) steps loc hs
    exact ih steps loc hs

/-- A route is walked alike in two file systems that differ at a few places. -/
theorem near_resolve (h : Beside hidden b a) (last : LastName)
    (hs : route.steps = [] → route.start cwd ∉ hidden) :
    Near hidden (b.resolve cwd last route) (a.resolve cwd last route) := by
  rw [resolve_eq, resolve_eq]
  split
  · exact .same _
  · exact near_walkLinks h _ _ _ hs

theorem isDirectory_eq_false {t : Target} (hr : fs.resolve cwd .followed route = .ok t)
    (h : fs.lookup t.location ≠ some .directory) : fs.isDirectory cwd route = .ok false := by
  cases t with
  | missing parent name => simp [isDirectory, probe, status, hr, Fault.isAbsence, Except.map]
  | found loc node =>
    have hn := lookup_of_found hr
    cases node with
    | directory => exact absurd hn h
    | file | sealed | link | device => simp [isDirectory, probe, status, hr, Except.map]

theorem isDirectory_of_no_steps (hr : route.refusal = none) (hs : route.steps = [])
    (h : fs.lookup (route.start cwd) ≠ some .directory) : fs.isDirectory cwd route = .ok false := by
  have hresolve : fs.resolve cwd .followed route = fs.walkLinks .followed maxLinks (route.start cwd) [] := by
    rw [resolve_eq, hr, hs]
  cases hn : fs.lookup (route.start cwd) with
  | some node => exact isDirectory_eq_false (hresolve.trans (walkLinks_nil hn maxLinks)) h
  | none =>
    rw [walkLinks_eq_walk, walk, hn] at hresolve
    simp [isDirectory, probe, status, hresolve, Fault.isAbsence, Except.map]

/-- No hidden place is that of a directory, so a route leads to a directory in both or in neither. -/
theorem Beside.isDirectory_eq (h : Beside hidden b a) (cwd : Location) (route : Route) :
    a.isDirectory cwd route = b.isDirectory cwd route := by
  by_cases hs : route.steps = [] → route.start cwd ∉ hidden
  · have hnear : Near hidden (b.resolve cwd .followed route) (a.resolve cwd .followed route) :=
      near_resolve h .followed hs
    generalize hb : b.resolve cwd .followed route = r at hnear
    generalize ha : a.resolve cwd .followed route = r' at hnear
    cases hnear with
    | same => simp only [isDirectory, probe, status, ha, hb]
    | there ht ht' =>
      rw [isDirectory_eq_false hb (h.plain _ ht).1.1, isDirectory_eq_false ha (h.plain _ ht').2.1]
    | past hf hf' =>
      simp only [isDirectory, probe, status, ha, hb]
      obtain rfl | rfl := hf <;> obtain rfl | rfl := hf' <;> rfl
  · obtain ⟨hnil, hq⟩ := Classical.not_imp.1 hs
    obtain ⟨hb, ha⟩ := h.plain _ (Classical.not_not.1 hq)
    cases hr : route.refusal with
    | some fault => simp only [isDirectory, probe, status, resolve_eq, hr]
    | none => rw [isDirectory_of_no_steps hr hnil ha.1, isDirectory_of_no_steps hr hnil hb.1]

/-! ## The same change elsewhere -/

theorem Beside.place (h : Beside hidden b a) (hname : IsEntryName name)
    (hp : b.lookup parent = some .directory) (hn : b.lookup (name :: parent) ≠ some .directory)
    (hq : name :: parent ∉ hidden) : Beside hidden (b.place parent name node) (a.place parent name node) := by
  have hp' := h.keepsWays.directory hp
  have hsame := h.others _ hq
  have hn' : a.lookup (name :: parent) ≠ some .directory := hsame ▸ hn
  refine ⟨fun q hm => ?_, fun q hm => ?_, fun loc => ?_⟩
  · rw [lookup_place hname hp hn, lookup_place hname hp' hn', h.others q hm]
  · have hne : q ≠ name :: parent := fun he => hq (he ▸ hm)
    rw [lookup_place hname hp hn, lookup_place hname hp' hn', if_neg hne, if_neg hne]
    exact h.plain q hm
  · cases hl : b.lookup (name :: parent) with
    | some old =>
      rw [names_place_of_some (by simp [hl]) hn, names_place_of_some (by simp [hsame, hl]) hn']
      exact h.names loc
    | none =>
      rw [names_place_of_none hname hp hl, names_place_of_none hname hp' (hsame.trans hl)]
      split
      · rw [List.filter_cons, List.filter_cons, h.names loc]
      · exact h.names loc

theorem Beside.remove (h : Beside hidden b a) (hn : b.lookup loc = some node) (hd : node ≠ .directory)
    (hq : loc ∉ hidden) : Beside hidden (b.remove loc) (a.remove loc) := by
  have hn' := (h.others loc hq).trans hn
  refine ⟨fun q hm => ?_, fun q hm => ?_, fun q => ?_⟩
  · rw [lookup_remove_of_not_directory hn hd, lookup_remove_of_not_directory hn' hd, h.others q hm]
  · have hne : q ≠ loc := fun he => hq (he ▸ hm)
    rw [lookup_remove_of_not_directory hn hd, lookup_remove_of_not_directory hn' hd, if_neg hne, if_neg hne]
    exact h.plain q hm
  · have hswap (names : List String) (keep left : String → Bool) :
        (names.filter left).filter keep = (names.filter keep).filter left := by
      simp only [List.filter_filter, Bool.and_comm]
    rw [names_remove, names_remove, hswap, h.names q, hswap]

/-- What is put where neither a directory nor a link stands makes the difference. -/
theorem beside_place (hname : IsEntryName name) (hp : fs.lookup parent = some .directory)
    (hn : IsPlain (fs.lookup (name :: parent))) (hnode : IsPlain (some node)) :
    Beside [name :: parent] fs (fs.place parent name node) := by
  refine ⟨fun q hq => ?_, fun q hq => ?_, fun loc => ?_⟩
  · rw [lookup_place hname hp hn.1, if_neg (by simpa using hq)]
  · obtain rfl := List.mem_singleton.1 hq
    rw [lookup_place hname hp hn.1, if_pos rfl]
    exact ⟨hn, hnode⟩
  · cases hl : fs.lookup (name :: parent) with
    | some old => rw [names_place_of_some (by simp [hl]) hn.1]
    | none =>
      rw [names_place_of_none hname hp hl]
      split
      · rename_i he
        subst he
        simp
      · rfl

/-- What is removed, where it was no directory and no link, makes the difference. -/
theorem beside_remove (hn : fs.lookup loc = some node) (hp : IsPlain (some node)) :
    Beside [loc] fs (fs.remove loc) := by
  have hd : node ≠ .directory := fun he => hp.1 (congrArg some he)
  refine ⟨fun q hq => ?_, fun q hq => ?_, fun q => ?_⟩
  · rw [lookup_remove_of_not_directory hn hd, if_neg (by simpa using hq)]
  · obtain rfl := List.mem_singleton.1 hq
    rw [lookup_remove_of_not_directory hn hd, if_pos rfl, hn]
    exact ⟨hp, by simp [IsPlain]⟩
  · rw [names_remove, List.filter_filter]
    refine List.filter_congr fun name hm => ?_
    -- nothing stands below the place, so what goes from the list is the place itself
    by_cases hs : loc <:+ name :: q
    · have he := eq_of_suffix hn hd (mem_names_iff.1 hm) hs
      simp [he]
    · have hs : loc.isSuffixOf (name :: q) = false := by
        rw [← Bool.not_eq_true, List.isSuffixOf_iff_suffix]
        exact hs
      simp [hs]

end SbtWorkspace.FileSystem
