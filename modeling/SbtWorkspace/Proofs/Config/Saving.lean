import SbtWorkspace.Proofs.Config.Failing
import SbtWorkspace.Proofs.FileSystem.Sight

/-! What a reader sees while settings are saved, and what a save leaves. The scratch file comes to a place that
was free, so it is seen by no path that leads elsewhere, and the file takes its place in one step. Main
statement: `all_or_nothing_of_save`. -/

namespace SbtWorkspace.Config
open FileSystem SbtWorkspace.Action

variable {c : Context} {m m' : Machine} {config : Config} {path : Option Path} {saved : Path}
  {fs b a point : FileSystem} {cwd : Location} {bytes : Bytes}

/-! ## What is seen -/

def GoesUp (p : Path) : Prop := ∃ part ∈ p.parts, part.name = ".."

/-- What a reader of the file sees in a file system that a save goes through: what was there before, or the
whole new file. Where the path goes up, the directories that were made for it can open it to something that was
there; and a path that led nowhere can lead to where the scratch file is made. -/
inductive Sighting (cwd : Location) (saved : Path) (bytes : Bytes) (fs point : FileSystem) : Prop
  | unchanged : point.sight cwd saved.route = fs.sight cwd saved.route → Sighting cwd saved bytes fs point
  | replaced {loc : Location} : point.sight cwd saved.route = some (loc, .file bytes false) →
    Sighting cwd saved bytes fs point
  | opened {loc : Location} {node : Node} : GoesUp saved → fs.sight cwd saved.route = none →
    point.sight cwd saved.route = some (loc, node) →
    fs.lookup loc = some node ∨ fs.lookup loc = none ∧ node = .directory → Sighting cwd saved bytes fs point
  | scratch {name : String} {parent : Location} : Scratch.isName name = true →
    fs.sight cwd saved.route = none → fs.lookup (name :: parent) = none →
    point.sight cwd saved.route = some (name :: parent, .file [] false) →
    Sighting cwd saved bytes fs point

theorem Sighting.of_sight_eq (h : Sighting cwd saved bytes fs b)
    (he : a.sight cwd saved.route = b.sight cwd saved.route) : Sighting cwd saved bytes fs a := by
  cases h with
  | unchanged h => exact .unchanged (he.trans h)
  | replaced h => exact .replaced (he.trans h)
  | opened hup hn h hl => exact .opened hup hn (he.trans h) hl
  | scratch hname hn hl h => exact .scratch hname hn hl (he.trans h)

/-! ## The directories above the file -/

/-- Whether only directories above a path were made, and opened nothing if the path does not go up. -/
def Prepared (cwd : Location) (saved : Path) (b a : FileSystem) : Prop :=
  Paves cwd saved.parent b a ∧ (¬ GoesUp saved → a.sight cwd saved.route = b.sight cwd saved.route)

instance : Accumulates (Prepared cwd saved) where
  refl fs := ⟨Accumulates.refl fs, fun _ => rfl⟩
  trans h₁ h₂ := ⟨Accumulates.trans h₁.1 h₂.1, fun hup => (h₂.2 hup).trans (h₁.2 hup)⟩

theorem prepared_makeDirectory {ancestor : List Path.Part} (hp : ancestor <+: saved.parent.parts)
    (h : fs.makeDirectory cwd (⟨saved.parent.root, ancestor⟩ : Path).route = .ok a) :
    Prepared cwd saved fs a := by
  refine ⟨paves_makeDirectory hp h, fun hup => ?_⟩
  have hup : ∀ part ∈ saved.parts, part.name ≠ ".." := fun part hm he => hup ⟨part, hm, he⟩
  obtain ⟨above, hparts⟩ := hp
  obtain hnil | ⟨init, last, hsaved⟩ := List.eq_nil_or_concat saved.parts
  · -- then the directory is the one that a path without parts leads to
    have hnone : ancestor = [] := by
      have he : ancestor ++ above = [] := by rw [hparts, Path.parent, hnil, List.dropLast_nil]
      exact (List.append_eq_nil_iff.1 he).1
    rw [hnone] at h
    exact absurd h (makeDirectory_nil_ne_ok _)
  · have hinit : ancestor ++ above = init := by
      rw [hparts, Path.parent, hsaved, List.concat_eq_append, List.dropLast_concat]
    cases above with
    | nil =>
      have hsaved : saved.parts = ancestor ++ last :: [] := by
        rw [hsaved, ← hinit, List.concat_eq_append, List.append_nil]
      obtain ⟨ha, hb⟩ := sight_of_makeDirectory hsaved hup h
      rw [ha, hb]
    | cons part rest =>
      have hsaved : saved.parts = ancestor ++ part :: (rest ++ [last]) := by
        rw [hsaved, ← hinit, List.concat_eq_append, List.append_assoc, List.cons_append]
      obtain ⟨ha, hb⟩ := sight_of_makeDirectory hsaved hup h
      rw [ha, hb]

theorem Sighting.of_prepared (h : Prepared cwd saved fs a) : Sighting cwd saved bytes fs a := by
  by_cases hup : GoesUp saved
  · cases hb : fs.sight cwd saved.route with
    | some found => exact .unchanged ((h.1.sight_eq_some hb).trans hb.symm)
    | none =>
      cases ha : a.sight cwd saved.route with
      | none => exact .unchanged (ha.trans hb.symm)
      | some found =>
        obtain ⟨loc, node⟩ := found
        refine .opened hup hb ha ?_
        have hn := lookup_of_status (sight_eq_some_iff.1 ha)
        obtain hl | ⟨hl, ancestor, -, hs⟩ := h.1 loc
        · exact .inl (hl ▸ hn)
        · rw [lookup_of_status hs] at hn
          exact .inr ⟨hl, (Option.some.inj hn).symm⟩
  · exact .unchanged (h.2 hup)

/-! ## The scratch file -/

/-- While the scratch file stands at its place, or stands there no more, nothing is seen of it but by a path that
leads there. -/
theorem Sighting.of_scratch {made : FileSystem} {name : String} {parent : Location} {new : Option Node}
    (hname : Scratch.isName name = true) (hmade : Prepared cwd saved fs made)
    (hfree : made.lookup (name :: parent) = none)
    (h : ∀ q, point.lookup q = if q = name :: parent then new else made.lookup q)
    (hnew : ∀ node, new = some node → node = .file [] false ∨ node = .file bytes false) :
    Sighting cwd saved bytes fs point := by
  have hplain : IsPlain new := by
    constructor
    · rintro rfl
      obtain h | h := hnew _ rfl <;> cases h
    · rintro target rfl
      obtain h | h := hnew _ rfl <;> cases h
  obtain hs | ⟨node, hnode, hnone, hs⟩ := sight_eq_or_of_free h hfree hplain
  · exact (Sighting.of_prepared hmade).of_sight_eq hs
  · obtain rfl | rfl := hnew node hnode
    · have hnone : fs.sight cwd saved.route = none := by
        refine Option.eq_none_iff_forall_ne_some.2 fun found hf => ?_
        rw [hmade.1.sight_eq_some hf] at hnone
        cases hnone
      exact .scratch hname hnone (hmade.1.eq_none hfree) hs
    · exact .replaced hs

/-! ## Every exit -/

/-- Whether a reader saw the old or the new file in every file system that a machine went through. -/
def Watched (c : Context) (saved : Path) (bytes : Bytes) (m m' : Machine) : Prop :=
  ∀ other ∈ m'.past, other ∈ m.past ∨ Sighting c.cwd saved bytes m.files other

theorem Watched.change (h : Watched c saved bytes m m')
    (hs : Sighting c.cwd saved bytes m.files m'.files) : Watched c saved bytes m (m'.change fs) := by
  intro other ho
  obtain rfl | ho := List.mem_cons.1 ho
  · exact .inr hs
  · exact h other ho

/-- What a save that fails leaves. A failure that is told left nothing but directories above the path. -/
structure Unsaved (c : Context) (saved : Path) (bytes : Bytes) (m : Machine) (e : Failure) (m' : Machine) :
    Prop where
  watched : Watched c saved bytes m m'
  sighting : Sighting c.cwd saved bytes m.files m'.files
  paves : ∀ cause, e = .config cause → Paves c.cwd saved.parent m.files m'.files

theorem Unsaved.of_passed (h : Passed (Prepared c.cwd saved) m m') (e : Failure) :
    Unsaved c saved bytes m e m' where
  watched other ho := (h.2 other ho).imp id .of_prepared
  sighting := .of_prepared h.1
  paves _ _ := h.1.1

/-- What a save that succeeds leaves: the file at the place that the path names, and directories above the path.
The file is seen, unless the path led through a link that it replaced. -/
structure Replaced (c : Context) (saved : Path) (bytes : Bytes) (m m' : Machine) (made : FileSystem)
    (place : Location) : Prop where
  watched : Watched c saved bytes m m'
  paves : Paves c.cwd saved.parent m.files made
  reaches : made.Reaches c.cwd saved.parent saved.name place
  lookup_eq : ∀ q, m'.files.lookup q =
    if q = saved.name :: place then some (.file bytes false) else made.lookup q
  sight : m'.files.sight c.cwd saved.route = some (saved.name :: place, .file bytes false) ∨
    m'.files.sight c.cwd saved.route = none ∧ ∃ target, made.lookup (saved.name :: place) = some (.link target)

structure Scratched (c : Context) (saved : Path) (bytes : Bytes) (m m' : Machine) (made : FileSystem)
    (directory : Path) (name : String) (loc : Location) : Prop where
  isName : Scratch.isName name = true
  watched : Watched c saved bytes m m'
  prepared : Prepared c.cwd saved m.files made
  free : made.lookup (name :: loc) = none
  reaches : m'.files.Reaches c.cwd directory name loc
  lookup_eq : ∀ q, m'.files.lookup q = if q = name :: loc then some (.file bytes false) else made.lookup q

section

variable {made : FileSystem} {directory : Path} {name : String} {loc : Location}

theorem Scratched.sighting (h : Scratched c saved bytes m m' made directory name loc) :
    Sighting c.cwd saved bytes m.files m'.files :=
  .of_scratch h.isName h.prepared h.free h.lookup_eq fun _ he => .inr (Option.some.inj he).symm

theorem Scratched.lookup_scratch (h : Scratched c saved bytes m m' made directory name loc) :
    m'.files.lookup (name :: loc) = some (.file bytes false) := by
  rw [h.lookup_eq, if_pos rfl]

/-- The file is moved from its place to that of the path. -/
theorem Scratched.replaced (h : Scratched c saved bytes m m' made directory name loc)
    (hm : m'.files.rename c.cwd (directory / name).route saved.route = .ok fs) :
    ∃ place, Replaced c saved bytes m (m'.change fs) made place := by
  obtain ⟨hpath, place, hreach, hold, hmoved⟩ := replace_child h.reaches h.free h.lookup_eq hm
  have hsight := sight_of_placed hreach hmoved (by simp [IsPlain]) hold
  rw [hpath] at hsight
  exact ⟨place, h.watched.change h.sighting, h.prepared.1, hreach, hmoved, hsight⟩

theorem Scratched.unsaved (h : Scratched c saved bytes m m' made directory name loc) (e : Failure) :
    Unsaved c saved bytes m e (m'.change (m'.files.remove (name :: loc))) := by
  have hcleared (q : Location) : (m'.files.remove (name :: loc)).lookup q = made.lookup q := by
    rw [lookup_remove_of_not_directory h.lookup_scratch (by simp)]
    split
    · rename_i hq
      rw [hq, h.free]
    · rename_i hq
      rw [h.lookup_eq, if_neg hq]
  have hpaves : Paves c.cwd saved.parent made (m'.files.remove (name :: loc)) := .of_lookup_eq hcleared
  have hgone (q : Location) : (m'.files.remove (name :: loc)).lookup q =
      if q = name :: loc then none else made.lookup q := by
    rw [hcleared]
    split
    · rename_i hq
      rw [hq, h.free]
    · rfl
  refine ⟨h.watched.change h.sighting, ?_, fun _ _ => Accumulates.trans h.prepared.1 hpaves⟩
  exact .of_scratch h.isName h.prepared h.free hgone fun _ he => by cases he

/-- The scratch file is given up; it is left only where the path has a null byte, which is not told. -/
theorem Scratched.ends_giveUp (h : Scratched c saved bytes m m' made directory name loc) {e : Failure}
    (he : ∃ cause, e = .system cause) {post : Unit → Machine → Prop} :
    Ends c m' (giveUp (directory / name) e) post (Unsaved c saved bytes m) := by
  obtain ⟨cause, rfl⟩ := he
  refine .of_run (run_giveUp h.reaches h.lookup_scratch _) (fun _ ha => by cases ha) fun _ he => ?_
  cases he
  split
  · exact h.unsaved _
  · rename_i hnul
    rw [blame_of_not_isSystem hnul]
    exact ⟨h.watched, h.sighting, fun _ he => by cases he⟩

end

/-! ## The steps of a save -/

theorem ends_ensureParent :
    Ends c m (tryCatch (ensurePath saved.parent) fun e => throw (blame (.noDirectory saved.parent) e))
      (fun _ m' => Passed (Prepared c.cwd saved) m m') (Unsaved c saved bytes m) := by
  have hmake : Meets (Prepared c.cwd saved) c m.files (ensurePath saved.parent) _ :=
    leads_ensurePath fun _ _ _ hp h => prepared_makeDirectory hp h
  refine .tryCatch ((Ends.of_meets hmake).mono (fun _ _ h => h.1) fun _ _ h => h) fun e m' h => ?_
  exact .throw (.of_passed h _)

theorem ends_createScratch (hpassed : Passed (Prepared c.cwd saved) m m') (scratch : Path) :
    Ends c m' (tryCatch (Action.change (·.create · scratch.route (.file [] false)) scratch.render)
        fun e => throw (blame .notWritten e))
      (fun _ m'' => ∃ made, m'.files.create c.cwd scratch.route (.file [] false) = .ok made ∧
        m'' = m'.change made)
      (Unsaved c saved bytes m) := by
  have hcall : Ends c m' (Action.change (·.create · scratch.route (.file [] false)) scratch.render)
      (fun _ m'' => ∃ made, m'.files.create c.cwd scratch.route (.file [] false) = .ok made ∧
        m'' = m'.change made) fun _ m'' => m'' = m' :=
    .change (fun made h => ⟨made, h, rfl⟩) fun _ _ => rfl
  refine .tryCatch hcall ?_
  rintro e _ rfl
  exact .throw (.of_passed hpassed _)

theorem exists_scratched {made written : FileSystem} {directory : Path} {name : String}
    (hname : Scratch.isName name = true) (hpassed : Passed (Prepared c.cwd saved) m m')
    (hmade : m'.files.create c.cwd (directory / name).route (.file [] false) = .ok made)
    (hwrite : made.write c.cwd (directory / name).route bytes = .ok written) :
    ∃ loc, Scratched c saved bytes m ((m'.change made).change written) m'.files directory name loc := by
  obtain ⟨loc, hfree, hreach, hempty, hfull⟩ :=
    exists_place_of_scratch (Scratch.isEntryName_of_isName hname) hmade hwrite
  have hsighting : Sighting c.cwd saved bytes m.files made :=
    .of_scratch hname hpassed.1 hfree hempty fun _ he => .inl (Option.some.inj he).symm
  have hwatched : Watched c saved bytes m (m'.change made) :=
    Watched.change (fun other ho => (hpassed.2 other ho).imp id .of_prepared) (.of_prepared hpassed.1)
  exact ⟨loc, hname, hwatched.change hsighting, hpassed.1, hfree, hreach, hfull⟩

/-- A scratch file that was made is written, and is moved or given up. -/
theorem ends_throughScratch {made : FileSystem} {directory : Path} {name : String}
    (hname : Scratch.isName name = true) (hpassed : Passed (Prepared c.cwd saved) m m')
    (hmade : m'.files.create c.cwd (directory / name).route (.file [] false) = .ok made) :
    Ends c (m'.change made) (tryCatch (writeThrough config (directory / name) saved) (giveUp (directory / name)))
      (fun _ m'' => ∃ made place, Replaced c saved (Utf8.encode config.serialize) m m'' made place)
      (Unsaved c saved (Utf8.encode config.serialize) m) := by
  obtain ⟨written, hwrite⟩ :=
    exists_write_of_create (Scratch.isEntryName_of_isName hname) hmade (Utf8.encode config.serialize)
  obtain ⟨loc, hscratched⟩ := exists_scratched hname hpassed hmade hwrite
  have hthrough : Ends c (m'.change made) (writeThrough config (directory / name) saved) _ _ :=
    ends_writeThrough hwrite
  refine .tryCatch (hthrough.mono ?_ fun _ _ h => h) ?_
  · rintro _ _ ⟨fs, hm, rfl⟩
    exact ⟨m'.files, hscratched.replaced hm⟩
  · rintro e _ ⟨rfl, cause, he, -⟩
    exact hscratched.ends_giveUp ⟨cause, he⟩

/-- A save, step by step, with what it leaves on every exit. -/
theorem ends_save_watched (hpath : path.or c.env.configPath? = some saved) :
    Ends c m (save config path) (fun found m' => found = saved ∧
        ∃ made place, Replaced c saved (Utf8.encode config.serialize) m m' made place)
      (Unsaved c saved (Utf8.encode config.serialize) m) := by
  have hfind : Ends c m (pathOrDefault path) (fun found m' => found = saved ∧ m' = m)
      (Unsaved c saved (Utf8.encode config.serialize) m) := by
    refine .known (fun found h => ⟨?_, rfl⟩) fun h => ?_
    · rw [hpath] at h
      exact (Option.some.inj h).symm
    · rw [hpath] at h
      cases h
  unfold save
  refine Ends.bind hfind ?_
  rintro saved m ⟨rfl, rfl⟩
  refine Ends.bind ends_ensureParent fun _ m₁ hpassed => ?_
  refine Ends.bind (ends_scratchFile.mono (fun _ _ h => h) ?_) ?_
  · rintro e _ ⟨rfl, -⟩
    exact .of_passed hpassed e
  rintro scratch m₁ ⟨rfl, directory, name, hname, rfl, -⟩
  refine Ends.bind (ends_createScratch hpassed _) ?_
  rintro _ _ ⟨made, hmade, rfl⟩
  exact Ends.bind (ends_throughScratch hname hpassed hmade) fun _ _ h => .pure ⟨rfl, h⟩

/-- In every file system that a save goes through, a reader of the file sees what was there before or the whole
new file, as far as the path leads there at all. A failure that is told left nothing but directories above the
path, and a success changed nothing but these and the place that the path names. -/
theorem all_or_nothing_of_save (hpath : path.or c.env.configPath? = some saved) {r : Except Failure Path}
    (h : (save config path).run c m = (r, m')) :
    (∀ point ∈ m'.past, point ∈ m.past ∨
      Sighting c.cwd saved (Utf8.encode config.serialize) m.files point) ∧
    (∀ e, r = .error e → Sighting c.cwd saved (Utf8.encode config.serialize) m.files m'.files ∧
      ∀ cause, e = .config cause → Paves c.cwd saved.parent m.files m'.files) ∧
    ∀ found, r = .ok found → found = saved ∧ ∃ made place, Paves c.cwd saved.parent m.files made ∧
      made.Reaches c.cwd saved.parent saved.name place ∧
      (∀ q, m'.files.lookup q = if q = saved.name :: place then
        some (.file (Utf8.encode config.serialize) false) else made.lookup q) ∧
      (m'.files.sight c.cwd saved.route =
          some (saved.name :: place, .file (Utf8.encode config.serialize) false) ∨
        m'.files.sight c.cwd saved.route = none ∧
          ∃ target, made.lookup (saved.name :: place) = some (.link target)) := by
  have hends : Ends c m (save config path) _ _ := ends_save_watched hpath
  cases r with
  | error e =>
    have hunsaved := hends.lost_of_run h
    refine ⟨hunsaved.watched, ?_, ?_⟩
    · rintro _ ⟨⟩
      exact ⟨hunsaved.sighting, hunsaved.paves⟩
    · rintro found ⟨⟩
  | ok found =>
    obtain ⟨rfl, made, place, hreplaced⟩ := hends.post_of_run h
    refine ⟨hreplaced.watched, ?_, ?_⟩
    · rintro e ⟨⟩
    · rintro _ ⟨⟩
      exact ⟨rfl, made, place, hreplaced.paves, hreplaced.reaches, hreplaced.lookup_eq, hreplaced.sight⟩

/-- A directory that is not empty. -/
def occupied : FileSystem :=
  FileSystem.empty.place [] "d" .directory
    |>.place ["d"] "f" (.file [] false)

/-- A directory is not replaced. -/
theorem all_or_nothing_of_save_occupied : ∃ m',
    (save {} (some (.parse "d"))).run .bare { files := occupied } =
      (.error (.config (.notWritten ⟨.isDirectory, "/tmp00000000.tmp", some "d"⟩)), m') ∧
    (∀ point ∈ m'.past, Sighting [] (.parse "d") (Utf8.encode ({} : Config).serialize) occupied point) ∧
    Paves [] (Path.parse "d").parent occupied m'.files := by
  have hsave : ((save {} (some (.parse "d"))).run .bare { files := occupied }).1 =
      .error (.config (.notWritten ⟨.isDirectory, "/tmp00000000.tmp", some "d"⟩)) := by
    decide +kernel
  have hrun := run_eq_of_fst hsave
  obtain ⟨hpast, herror, -⟩ := all_or_nothing_of_save rfl hrun
  obtain ⟨-, hpaves⟩ := herror _ rfl
  exact ⟨_, hrun, fun point hp => (hpast point hp).resolve_left (by simp), hpaves _ rfl⟩

/-- A directory that has the name of a file. -/
def misnamed : FileSystem :=
  FileSystem.empty.place [] "c.toml" .directory
    |>.place ["c.toml"] "f" (.file [] false)

/-- The file that takes the place of a link on its own way is not seen; a directory that is made for a path that goes
up opens the path; and a path can name the scratch file. -/
theorem sight_of_save_astray :
    (((save {} (some (.parse "l/../l"))).run .bare { files := linked }).1 = .ok (.parse "l/../l") ∧
      ((save {} (some (.parse "l/../l"))).run .bare { files := linked }).2.files.sight []
        (Path.parse "l/../l").route = none) ∧
    (misnamed.sight [] (Path.parse "x/../c.toml").route = none ∧
      ((save {} (some (.parse "x/../c.toml"))).run .bare { files := misnamed }).1 =
        .error (.config (.notWritten ⟨.isDirectory, "/tmp00000000.tmp", some "x/../c.toml"⟩)) ∧
      ((save {} (some (.parse "x/../c.toml"))).run .bare { files := misnamed }).2.files.sight []
        (Path.parse "x/../c.toml").route = some (["c.toml"], .directory)) ∧
    FileSystem.empty.sight [] (Path.parse "tmp00000000.tmp").route = none ∧
      Utf8.encode ({} : Config).serialize ≠ [] ∧
      ∃ point ∈ ((save {} (some (.parse "tmp00000000.tmp"))).run .bare { files := .empty }).2.past,
        point.sight [] (Path.parse "tmp00000000.tmp").route = some (["tmp00000000.tmp"], .file [] false) := by
  decide +kernel

end SbtWorkspace.Config
