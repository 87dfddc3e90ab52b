import Mathlib.Tactic.Common
import SbtWorkspace.Proofs.Action
import SbtWorkspace.Proofs.Config.RoundTrip
import SbtWorkspace.Proofs.FileSystem.Move

/-! Settings that are saved and loaded. A save that succeeds made a scratch file, wrote it and moved it, so
what is loaded from the file is what was saved; the one thing that can be lost is the way to the file.
Main statement: `load_save`. -/

namespace SbtWorkspace.Config
open FileSystem SbtWorkspace.Action

variable {c : Context} {m m' : Machine} {config : Config} {path : Option Path} {saved : Path}

theorem of_run_moveFile {source destination : Path}
    (h : (moveFile source destination).run c m = (.ok (), m')) :
    m.files.rename c.cwd source.route destination.route = .ok m'.files ∧ m'.past = m.files :: m.past := by
  unfold moveFile at h
  obtain ⟨_, _, hc, h⟩ := exists_of_run_bind h
  cases hc
  obtain ⟨_, _, hf, h⟩ := exists_of_run_bind h
  cases hf
  split at h
  · rename_i fs hr
    cases h
    exact ⟨hr, rfl⟩
  · cases h

theorem of_run_writeThrough {scratch destination : Path}
    (h : (writeThrough config scratch destination).run c m = (.ok (), m')) :
    ∃ (written : FileSystem) (past : List FileSystem),
      m.files.write c.cwd scratch.route (Utf8.encode config.serialize) = .ok written ∧
      written.rename c.cwd scratch.route destination.route = .ok m'.files ∧ m'.past = written :: past := by
  unfold writeThrough at h
  obtain ⟨_, m₁, hwritten, hmoved⟩ := exists_of_run_bind h
  obtain ⟨hmoved, hpast⟩ := of_run_moveFile hmoved
  have hwritten := of_run_change hwritten
  exact ⟨_, _, hwritten, hmoved, hpast⟩

theorem run_giveUp_ne_ok {scratch : Path} {e : Failure} (r : Unit) :
    (giveUp scratch e).run c m ≠ (.ok r, m') := by
  intro h
  unfold giveUp at h
  split at h
  · obtain ⟨_, _, _, h⟩ := exists_of_run_bind h
    cases h
  · cases h

theorem of_run_scratchFile {directory scratch : Path}
    (h : (scratchFile directory).run c m = (.ok scratch, m')) :
    (∃ (place : Path) (name : String), IsEntryName name ∧ scratch = place / name) ∧ m' = m := by
  unfold scratchFile at h
  obtain ⟨_, _, hc, h⟩ := exists_of_run_bind h
  cases hc
  obtain ⟨_, _, hf, h⟩ := exists_of_run_bind h
  cases hf
  dsimp only at h
  split at h
  · rename_i name hname
    cases h
    exact ⟨⟨_, name, Scratch.isEntryName_of_isName (c.host.scratch.isName_of_eq_some _ name hname), rfl⟩, rfl⟩
  · cases h

/-- What a save that succeeds did last: a scratch file was made, written, and moved. -/
theorem exists_of_save (h : (save config path).run c m = (.ok saved, m')) :
    path.or c.env.configPath? = some saved ∧
      ∃ (before made written : FileSystem) (past : List FileSystem) (place : Path) (name : String),
        IsEntryName name ∧
        before.create c.cwd (place / name).route (.file [] false) = .ok made ∧
        made.write c.cwd (place / name).route (Utf8.encode config.serialize) = .ok written ∧
        written.rename c.cwd (place / name).route saved.route = .ok m'.files ∧ m'.past = written :: past := by
  unfold save at h
  obtain ⟨found, m₀, hfound, h₀⟩ := exists_of_run_bind h
  obtain ⟨hpath, -⟩ := of_run_known hfound
  obtain ⟨_, m₁, _, h₁⟩ := exists_of_run_bind h₀
  obtain ⟨scratch, m₂, hscratch, h₂⟩ := exists_of_run_bind h₁
  obtain ⟨⟨place, name, hname, rfl⟩, -⟩ := of_run_scratchFile hscratch
  obtain ⟨_, m₃, hmade, h₃⟩ := exists_of_run_bind h₂
  obtain ⟨_, m₄, hmoved, h₄⟩ := exists_of_run_bind h₃
  simp only [run_pure, Prod.mk.injEq, Except.ok.injEq] at h₄
  obtain ⟨rfl, rfl⟩ := h₄
  have hmade := of_run_change (of_run_tryCatch hmade fun e m₁ he => by cases he)
  obtain ⟨written, past, hwritten, hmoved, hpast⟩ :=
    of_run_writeThrough (of_run_tryCatch hmoved fun e m₁ => run_giveUp_ne_ok ())
  exact ⟨hpath, _, _, written, past, place, name, hname, hmade, hwritten, hmoved, hpast⟩

/-- What is loaded from a file is what its octets say, and all is left as it is. -/
theorem run_load (hpath : path.or c.env.configPath? = some saved) {loc : Location} {bytes : Bytes}
    {executable : Bool} (hs : m.files.status c.cwd saved.route = .ok (loc, .file bytes executable)) :
    (load path).run c m = (ofBytes c.host.levels bytes, m) := by
  have hfound : (pathOrDefault path).run c m = (.ok saved, m) := by
    have hc : context.run c m = (.ok c, m) := rfl
    simp only [pathOrDefault, known, run_bind, hc, hpath, run_pure]
  have hthere : (Action.pathExists saved).run c m = (.ok true, m) := by
    rw [Action.pathExists, run_look]
    simp [FileSystem.pathExists, probe, hs, Except.map]
  have hread : (tryCatch (readFile saved) fun e => throw (blame .unreadable e)).run c m =
      (.ok bytes, m) := by
    rw [run_tryCatch, readFile, run_look]
    simp [FileSystem.read, hs]
  rw [load, run_bind, hfound]
  simp only [run_bind, hthere, if_true, hread]
  have hc : context.run c m = (.ok c, m) := rfl
  simp only [hc]
  cases ofBytes c.host.levels bytes <;> rfl

/-- What is loaded after a save is what was saved, unless the save put the file in the place of a link
without which the directory of the path is found no more. -/
theorem load_save (h : (save config path).run c m = (.ok saved, m')) :
    (load path).run c m' = (.ok config, m') ∨
      (∀ loc, m'.files.status c.cwd saved.parent.route ≠ .ok (loc, .directory)) ∧
      ∃ before past, m'.past = before :: past ∧
        ∃ loc target, before.resolve c.cwd .kept saved.route = .ok (.found loc (.link target)) := by
  obtain ⟨hpath, before, made, written, past, place, name, hname, hmade, hwritten, hmoved, hpast⟩ :=
    exists_of_save h
  refine (status_of_replace hname hmade hwritten hmoved).imp ?_ ?_
  · rintro ⟨loc, hs⟩
    rw [run_load hpath hs, ofBytes_encode_serialize]
  · rintro ⟨hlost, hlink⟩
    exact ⟨hlost, written, past, hpast, hlink⟩

/-- Settings with an empty one, and with characters that are escaped or take several octets. -/
def awkward : Config where
  sbtScript := some (.parse "/opt/s\"b\\t/\t run.sh")
  javaHome := some (.parse "../jdk\n\r\x01")
  bloopVersion := "2.0.\x7f’é日𝄞"
  bloopInstalled := true
  fallbackVersion := some ""
  homeDir := some (.parse ".")
  bloopVersion_ne := by decide

/-- They are saved to a directory that is made for them, and loaded. -/
theorem load_save_awkward :
    ∃ m', (save awkward (some (.parse "a/b/config.toml"))).run .bare { files := .empty } =
        (.ok (.parse "a/b/config.toml"), m') ∧
      (load (some (.parse "a/b/config.toml"))).run .bare m' = (.ok awkward, m') := by
  have hsave : ((save awkward (some (.parse "a/b/config.toml"))).run .bare { files := .empty }).1 =
      .ok (.parse "a/b/config.toml") := by
    decide +kernel
  have hdirectory :
      ((save awkward (some (.parse "a/b/config.toml"))).run .bare { files := .empty }).2.files.status []
        (Path.parse "a/b/config.toml").parent.route = .ok (["b", "a"], .directory) := by
    decide +kernel
  have hrun := run_eq_of_fst hsave
  exact ⟨_, hrun, (load_save hrun).resolve_right fun hlost => hlost.1 _ hdirectory⟩

def linked : FileSystem :=
  FileSystem.empty.place [] "d" .directory
    |>.place [] "l" (.link "d")

/-- The file takes the place of the link that its own path leads through. -/
theorem load_save_unfound :
    ∃ m', (save {} (some (.parse "l/../l"))).run .bare { files := linked } =
        (.ok (.parse "l/../l"), m') ∧
      ((load (some (.parse "l/../l"))).run .bare m').1 =
        .error (.config (.notFound (.parse "l/../l"))) := by
  have hsave : ((save {} (some (.parse "l/../l"))).run .bare { files := linked }).1 =
      .ok (.parse "l/../l") := by
    decide +kernel
  have hload : ((load (some (.parse "l/../l"))).run .bare
      ((save {} (some (.parse "l/../l"))).run .bare { files := linked }).2).1 =
        .error (.config (.notFound (.parse "l/../l"))) := by
    decide +kernel
  exact ⟨_, run_eq_of_fst hsave, hload⟩

end SbtWorkspace.Config
