import Mathlib.Data.List.Induction
import SbtWorkspace.Proofs.Config.Store
import SbtWorkspace.Proofs.Outcome

/-! Why settings are not saved. A scratch file that was made can be written and removed, so a failure is one
of making the directory, of finding a name for the scratch file, of making it or of moving it, and is reported as
such. Main
statement: `ends_save`. -/

namespace SbtWorkspace

/-! ## Null bytes in the parts of a path -/

namespace Path

variable {p : Path}

theorem nulFree_iff : p.NulFree ↔ ∀ part ∈ p.parts, '\x00' ∉ part.name.toList := by
  obtain ⟨root, parts⟩ := p
  induction parts using List.reverseRecOn with
  | nil => cases root <;> simp [NulFree, render, Root.chars, joinParts, List.intercalate]
  | append_singleton parts last ih =>
    have hp : (⟨root, parts ++ [last]⟩ : Path) = (⟨root, parts⟩ : Path) / last.name :=
      (div_of_isPart ⟨root, parts⟩ last.isPart).symm
    constructor
    · intro h part hm
      rw [hp] at h
      obtain hm | hm := List.mem_append.1 hm
      · exact ih.1 (h.of_div last.isPart) part hm
      · obtain rfl := List.mem_singleton.1 hm
        intro hn
        refine h ?_
        rw [render_div _ part.isPart, String.toList_append]
        exact List.mem_append_right _ hn
    · intro h
      rw [hp]
      have hlast := h last (List.mem_append_right _ (List.mem_singleton_self _))
      exact (ih.2 fun part hm => h part (List.mem_append_left _ hm)).div last.isPart hlast

theorem NulFree.parent (h : p.NulFree) : p.parent.NulFree :=
  nulFree_iff.2 fun part hm => nulFree_iff.1 h part (List.dropLast_subset _ hm)

theorem mem_of_mem_undoParents {parts : List Part} {part : Part} (h : part ∈ undoParents parts) :
    part ∈ parts := by
  have hfold (rest kept : List Part) (hm : part ∈ rest.foldl
      (fun kept part => if part.name = ".." then kept.tail else part :: kept) kept) :
      part ∈ kept ∨ part ∈ rest := by
    induction rest generalizing kept with
    | nil => exact .inl hm
    | cons q rest ih =>
      refine (ih _ hm).elim (fun hk => ?_) fun hr => .inr (List.mem_cons_of_mem _ hr)
      dsimp only at hk
      split at hk
      · exact .inl (List.mem_of_mem_tail hk)
      · obtain rfl | hk := List.mem_cons.1 hk
        · exact .inr (List.mem_cons_self ..)
        · exact .inl hk
  exact (hfold parts [] (List.mem_reverse.1 h)).resolve_left (by simp)

/-- A path that is read from a directory has null bytes only from the one or the other. -/
theorem NulFree.absolute {cwd : Path} (h : p.NulFree) (hcwd : cwd.NulFree) : (p.absolute cwd).NulFree := by
  refine nulFree_iff.2 fun part hm => ?_
  have hm := mem_of_mem_undoParents hm
  unfold append at hm
  split at hm
  · exact nulFree_iff.1 h part hm
  · obtain hm | hm := List.mem_append.1 hm
    · exact nulFree_iff.1 hcwd part hm
    · exact nulFree_iff.1 h part hm

end Path

/-! ## The scratch file -/

namespace FileSystem

variable {b made : FileSystem} {cwd : Location} {p : Path} {name : String}

/-- A file that was just made can be written. -/
theorem exists_write_of_create (hname : IsEntryName name)
    (hc : b.create cwd (p / name).route (.file [] false) = .ok made) (bytes : Bytes) :
    ∃ written, made.write cwd (p / name).route bytes = .ok written := by
  obtain ⟨loc, hreach, hfree, hmade⟩ := create_child hname hc
  have hempty : made.lookup (name :: loc) = some (.file [] false) := by rw [hmade, if_pos rfl]
  have hreach := hreach.mono (keepsWays_of_lookup_eq hmade ⟨by simp [hfree], by simp [hfree]⟩)
  have hres := hreach.resolve_some hempty (fun _ => by simp) .written
  exact ⟨made.place loc name (.file bytes false), by simp only [write, hres]⟩

end FileSystem

namespace Config
open FileSystem SbtWorkspace.Action

variable {c : Context} {m : Machine} {config : Config} {path : Option Path}

def RefusedEither (p q : Path) (e : Failure) : Prop :=
  ∃ cause : SystemError, e = .system cause ∧ (p.NulFree → q.NulFree → cause.fault ≠ .nullByte)

theorem ends_moveFile {source destination : Path} :
    Ends c m (moveFile source destination)
      (fun _ m' => ∃ fs, m.files.rename c.cwd source.route destination.route = .ok fs ∧ m' = m.change fs)
      fun e m' => m' = m ∧ RefusedEither source destination e := by
  have hc : context.run c m = (.ok c, m) := rfl
  have hf : files.run c m = (.ok m.files, m) := rfl
  cases hr : m.files.rename c.cwd source.route destination.route with
  | ok fs =>
    have hrun : (moveFile source destination).run c m = (.ok (), m.change fs) := by
      simp only [moveFile, run_bind, hc, hf, hr]
      rfl
    exact .of_run hrun (fun _ _ => ⟨fs, rfl, rfl⟩) fun _ he => by cases he
  | error fault =>
    have hrun : (moveFile source destination).run c m =
        (.error (.system ⟨fault, source.render, some destination.render⟩), m) := by
      simp only [moveFile, run_bind, hc, hf, hr, run_throw]
    refine .of_run hrun (fun _ ha => by cases ha) fun _ he => ?_
    cases he
    refine ⟨rfl, _, rfl, fun hs hd => ?_⟩
    cases hm : m.files.resolve c.cwd .kept source.route with
    | error fault' =>
      simp only [FileSystem.rename, hm, bind, Except.bind, Except.error.injEq] at hr
      exact hr ▸ ne_nullByte_of_resolve hs hm
    | ok moved =>
      cases hg : m.files.resolve c.cwd .kept destination.route with
      | error fault' =>
        simp only [FileSystem.rename, hm, hg, bind, Except.bind, Except.error.injEq] at hr
        exact hr ▸ ne_nullByte_of_resolve hd hg
      | ok goal =>
        simp only [FileSystem.rename, hm, hg, bind, Except.bind] at hr
        split at hr
        · split at hr <;> cases hr <;> simp
        · cases hr
          simp

theorem ends_writeThrough {written : FileSystem} {scratch destination : Path}
    (hw : m.files.write c.cwd scratch.route (Utf8.encode config.serialize) = .ok written) :
    Ends c m (writeThrough config scratch destination)
      (fun _ m' => ∃ fs, written.rename c.cwd scratch.route destination.route = .ok fs ∧
        m' = (m.change written).change fs)
      fun e m' => m' = m.change written ∧ RefusedEither scratch destination e := by
  have hwrite : Ends c m (writeFile scratch (Utf8.encode config.serialize)) (fun _ m' => m' = m.change written)
      fun e m' => m' = m.change written ∧ RefusedEither scratch destination e := by
    refine .change (fun fs h => ?_) fun fault hf => ?_
    · rw [hw] at h
      rw [Except.ok.inj h]
    · rw [hw] at hf
      cases hf
  unfold writeThrough
  refine Ends.bind hwrite ?_
  rintro _ m' rfl
  exact ends_moveFile

theorem blame_of_not_isSystem {cause : SystemError → Error} {e : Failure} (h : ¬ e.isSystem = true) :
    blame cause e = e := by
  cases e with
  | system error =>
    have hnul : error.fault = .nullByte := by simpa [Failure.isSystem] using h
    simp [blame, hnul]
  | _ => rfl

/-- A scratch file that is there is removed after a refused call. -/
theorem run_giveUp {p : Path} {name : String} {loc : Location} {bytes : Bytes} {executable : Bool}
    (hreach : m.files.Reaches c.cwd p name loc)
    (hfull : m.files.lookup (name :: loc) = some (.file bytes executable)) (e : Failure) :
    (giveUp (p / name) e).run c m =
      (.error (blame .notWritten e), if e.isSystem then m.change (m.files.remove (name :: loc)) else m) := by
  have hlink (target : String) : m.files.lookup (name :: loc) ≠ some (.link target) := by simp [hfull]
  have hthere : (Action.pathExists (p / name)).run c m = (.ok true, m) := by
    rw [Action.pathExists, run_look]
    simp only [FileSystem.pathExists, hreach.probe_eq hlink, hfull]
    rfl
  have hunlink : (Action.unlink (p / name)).run c m = (.ok (), m.change (m.files.remove (name :: loc))) := by
    have hres := hreach.resolve_some hfull (fun _ => by simp) .kept
    rw [Action.unlink, run_change]
    simp only [FileSystem.unlink, hres]
  unfold giveUp
  split
  · rw [run_bind, clearScratch, run_bind, hthere]
    simp only [if_true, hunlink, run_throw]
  · rename_i he
    rw [run_throw, blame_of_not_isSystem he]

/-- Why settings are not saved: a reason that is told, no home directory to have the file, or a null byte in
the path of the file or of the working directory. -/
inductive SaveFault (c : Context) (path : Option Path) : Failure → Prop
  | told (cause : Error) : SaveFault c path (.config cause)
  | homeless : c.env.home? = none → SaveFault c path .unknownHome
  | nul {saved : Path} {cause : SystemError} : path.or c.env.configPath? = some saved →
    cause.fault = .nullByte → ¬(saved.NulFree ∧ (Path.parse (Location.render c.cwd)).NulFree) →
    SaveFault c path (.system cause)

theorem home?_eq_none_of_configPath? {env : Environment} (h : env.configPath? = none) :
    env.home? = none := by
  simp only [Environment.configPath?, Option.map_eq_none_iff, Environment.configDir?,
    Environment.applicationDir?] at h
  split at h <;> simp_all

/-- A refused call is told as the cause of a failure, but for a null byte. -/
theorem SaveFault.blame {saved p q : Path} {e : Failure} (cause : SystemError → Error)
    (h : RefusedEither p q e) (hsaved : path.or c.env.configPath? = some saved)
    (hp : saved.NulFree ∧ (Path.parse (Location.render c.cwd)).NulFree → p.NulFree ∧ q.NulFree) :
    SaveFault c path (blame cause e) := by
  obtain ⟨refused, rfl, hnul⟩ := h
  simp only [Config.blame]
  split
  · rename_i hf
    exact .nul hsaved hf fun hboth => hnul (hp hboth).1 (hp hboth).2 hf
  · exact .told _

theorem Refused.either {p : Path} {e : Failure} (h : Refused p e) : RefusedEither p p e := by
  obtain ⟨cause, rfl, hc⟩ := h
  exact ⟨cause, rfl, fun hp _ => hc hp⟩

theorem ends_scratchFile {directory : Path} :
    Ends c m (scratchFile directory)
      (fun scratch m' => m' = m ∧ ∃ (place : Path) (name : String), Scratch.isName name = true ∧
        scratch = place / name ∧
        (directory.NulFree → (Path.parse (Location.render c.cwd)).NulFree → scratch.NulFree))
      fun e m' => m' = m ∧ e = .config .noScratchName := by
  unfold scratchFile
  have hc : Ends c m Action.context (fun c' m' => c' = c ∧ m' = m)
      fun e m' => m' = m ∧ e = .config .noScratchName := .context ⟨rfl, rfl⟩
  refine Ends.bind hc ?_
  rintro c' m' ⟨rfl, rfl⟩
  have hf : Ends c' m' Action.files (fun _ m'' => m'' = m')
      fun e m'' => m'' = m' ∧ e = .config .noScratchName := .files rfl
  refine Ends.bind hf ?_
  rintro fs m' rfl
  dsimp only
  split
  · rename_i name hdrawn
    have hname := c'.host.scratch.isName_of_eq_some _ name hdrawn
    exact .pure ⟨rfl, _, name, hname, rfl, fun hd hcwd =>
      (hd.absolute hcwd).div (Scratch.isEntryName_of_isName hname).1 (Scratch.nul_notMem hname)⟩
  · exact .throw ⟨rfl, rfl⟩

theorem ends_blamed {α : Type} {x : Action α} {post : α → Machine → Prop} {saved p q : Path}
    {cause : SystemError → Error} (hx : Ends c m x post fun e _ => RefusedEither p q e)
    (hsaved : path.or c.env.configPath? = some saved)
    (hp : saved.NulFree ∧ (Path.parse (Location.render c.cwd)).NulFree → p.NulFree ∧ q.NulFree) :
    Ends c m (tryCatch x fun e => throw (blame cause e)) post fun e _ => SaveFault c path e :=
  .tryCatch hx fun _ _ he => .throw (.blame cause he hsaved hp)

/-- The scratch file that was made is written and moved, or removed after the failure. -/
theorem ends_throughScratch_of_create {saved place : Path} {name : String} {b : FileSystem}
    (hname : IsEntryName name) (hmade : b.create c.cwd (place / name).route (.file [] false) = .ok m.files)
    (hsaved : path.or c.env.configPath? = some saved)
    (hp : saved.NulFree ∧ (Path.parse (Location.render c.cwd)).NulFree → (place / name).NulFree) :
    Ends c m (tryCatch (writeThrough config (place / name) saved) (giveUp (place / name)))
      (fun _ _ => True) fun e _ => SaveFault c path e := by
  obtain ⟨written, hwrite⟩ := exists_write_of_create hname hmade (Utf8.encode config.serialize)
  obtain ⟨loc, -, hreach, -, hfull⟩ := exists_place_of_scratch hname hmade hwrite
  have hfull : written.lookup (name :: loc) = some _ := (hfull _).trans (if_pos rfl)
  refine .tryCatch ((ends_writeThrough hwrite).mono (fun _ _ _ => trivial) fun _ _ h => h) ?_
  rintro e _ ⟨rfl, he⟩
  have hfault := SaveFault.blame .notWritten he hsaved fun h => ⟨hp h, h.1⟩
  refine .of_run (run_giveUp hreach hfull e) (fun _ ha => by cases ha) fun _ he => ?_
  cases he
  exact hfault

theorem ends_save :
    Ends c m (save config path) (fun saved _ => path.or c.env.configPath? = some saved)
      fun e _ => SaveFault c path e := by
  have hfind : Ends c m (pathOrDefault path) (fun saved _ => path.or c.env.configPath? = some saved)
      fun e _ => SaveFault c path e := by
    refine .known (fun _ h => h) fun hn => .homeless (home?_eq_none_of_configPath? ?_)
    rw [Option.or_eq_none_iff] at hn
    exact hn.2
  unfold save
  refine Ends.bind hfind fun saved m₁ hsaved => ?_
  have hmake : Ends c m₁ (ensurePath saved.parent) (fun _ _ => True)
      fun e _ => RefusedEither saved.parent saved.parent e :=
    ends_ensurePath.mono (fun _ _ h => h) fun _ _ he => Refused.either he
  refine Ends.bind (ends_blamed hmake hsaved fun h => ⟨h.1.parent, h.1.parent⟩) fun _ m₂ _ => ?_
  refine Ends.bind (ends_scratchFile.mono (fun _ _ h => h) ?_) ?_
  · rintro _ _ ⟨-, rfl⟩
    exact .told _
  rintro scratch m₂ ⟨rfl, place, name, hname, rfl, hnul⟩
  have hcreate : Ends c m₂
      (Action.change (·.create · (place / name).route (.file [] false)) (place / name).render)
      (fun _ m₃ => m₂.files.create c.cwd (place / name).route (.file [] false) = .ok m₃.files)
      fun e _ => RefusedEither (place / name) (place / name) e :=
    (ends_create _).mono (fun _ _ h => h) fun _ _ he => Refused.either he
  have hplace (h : saved.NulFree ∧ (Path.parse (Location.render c.cwd)).NulFree) : (place / name).NulFree :=
    hnul h.1.parent h.2
  refine Ends.bind (ends_blamed hcreate hsaved fun h => ⟨hplace h, hplace h⟩) fun _ m₃ hmade => ?_
  exact Ends.bind (ends_throughScratch_of_create (Scratch.isEntryName_of_isName hname) hmade hsaved hplace)
    fun _ _ _ => .pure hsaved

end Config

end SbtWorkspace
