import SbtWorkspace.Proofs.Outcome
import SbtWorkspace.Provision.Legacy

/-! The removal of the global descriptor of former releases. It is one call, and what comes of the call decides what
comes of the removal: what cannot be removed is left, and only a null byte in the path is a failure. Main statements:
`run_remove`, and from it `meets_remove` and `ends_remove_cleared`. -/

namespace SbtWorkspace.Provision
open FileSystem SbtWorkspace.Action

variable {c : Context} {m : Machine} {fs : FileSystem} {version : Text} {home : Path}

def removalResult (file : Path) : Except Fault FileSystem → Except Failure Bool
  | .ok _ => .ok true
  | .error .nullByte => .error (.system ⟨.nullByte, file.render, none⟩)
  | .error _ => .ok false

/-- The machine that a removal leaves. That a file was missing is not worth a report. -/
def afterRemoval (file : Path) (m : Machine) : Except Fault FileSystem → Machine
  | .ok fs => { m.change fs with events := m.events ++ [.legacyRemoved file] }
  | .error .noEntry | .error .nullByte => m
  | .error fault => { m with events := m.events ++ [.legacyKept file ⟨fault, file.render, none⟩] }

theorem run_remove (version : Text) (home : Path) (c : Context) (m : Machine) :
    (Legacy.remove version home).run c m =
      (removalResult (Legacy.descriptor version home)
          (m.files.unlink c.cwd (Legacy.descriptor version home).route),
        afterRemoval (Legacy.descriptor version home) m
          (m.files.unlink c.cwd (Legacy.descriptor version home).route)) := by
  have hunlink : (Action.unlink (Legacy.descriptor version home)).run c m = _ := run_change _ _ c m
  unfold Legacy.remove
  rw [run_bind, run_tryCatch, run_bind, hunlink]
  rcases m.files.unlink c.cwd (Legacy.descriptor version home).route with fault | fs
  · cases fault <;> rfl
  · rfl

/-- A file that is not removed leaves the file system and its past. -/
theorem afterRemoval_error (file : Path) (m : Machine) (fault : Fault) :
    (afterRemoval file m (.error fault)).files = m.files ∧ (afterRemoval file m (.error fault)).past = m.past := by
  cases fault <;> exact ⟨rfl, rfl⟩

/-- The removal of the global descriptor removes that file or nothing. -/
theorem meets_remove {R : FileSystem → FileSystem → Prop} [hR : Accumulates R]
    (h : ∀ other, fs.unlink c.cwd (Legacy.descriptor version home).route = .ok other → R fs other) :
    Meets R c fs (Legacy.remove version home) fun _ _ => True := by
  rintro m rfl
  rw [run_remove]
  cases hu : m.files.unlink c.cwd (Legacy.descriptor version home).route with
  | error fault =>
    obtain ⟨hfiles, hpast⟩ := afterRemoval_error (Legacy.descriptor version home) m fault
    rw [hfiles, hpast]
    exact ⟨hR.refl _, fun other ho => .inl ho, fun _ _ => trivial⟩
  | ok other =>
    refine ⟨h other hu, fun earlier he => ?_, fun _ _ => trivial⟩
    obtain rfl | he := List.mem_cons.1 he
    · exact .inr (hR.refl _)
    · exact .inl he

/-- How the removal of a file ends: the file is gone, or it could not be removed and all is as it was. -/
inductive Cleared (cwd : Location) (file : Path) (b : FileSystem) : FileSystem → Prop
  | gone {a : FileSystem} : b.unlink cwd file.route = .ok a → Cleared cwd file b a
  | left {fault : Fault} : b.unlink cwd file.route = .error fault → Cleared cwd file b b

theorem ends_remove_cleared (version : Text) (home : Path) :
    Ends c m (Legacy.remove version home)
      (fun _ m' => Cleared c.cwd (Legacy.descriptor version home) m.files m'.files)
      fun e _ => m.files.unlink c.cwd (Legacy.descriptor version home).route = .error .nullByte ∧
        e = .system ⟨.nullByte, (Legacy.descriptor version home).render, none⟩ := by
  refine .of_run (run_remove version home c m) (fun _ hr => ?_) fun e he => ?_
  · cases hu : m.files.unlink c.cwd (Legacy.descriptor version home).route with
    | error fault =>
      rw [(afterRemoval_error _ m fault).1]
      exact .left hu
    | ok other => exact .gone hu
  · generalize m.files.unlink c.cwd (Legacy.descriptor version home).route = removal at he
    unfold removalResult at he
    split at he <;> cases he
    exact ⟨rfl, rfl⟩

end SbtWorkspace.Provision
