import SbtWorkspace.Proofs.MetaBuild.Chain

/-! Cycles of meta-builds. Levels without end lie below a workspace where a link leads back up, and the
walk ends at the first level whose directory it has met. No meta-build is lost by that: where two levels
are at one directory, so are those as far below them (`status_level_of_same`), so each level below the
second stands for one above it. Main statement: `exists_found_of_builds`. -/

namespace SbtWorkspace.MetaBuild
open FileSystem

variable {fs : FileSystem} {cwd loc goal : Location} {workspace : Path} {node upper lower : Node}

/-- Whether a path leads to a directory with sources. -/
def IsBuild (fs : FileSystem) (cwd : Location) (p : Path) : Prop :=
  ∃ loc, fs.status cwd p.route = .ok (loc, .directory) ∧ HasSource fs cwd p loc

/-! ## Levels below levels -/

theorem level_add (workspace : Path) (i d : Nat) :
    level workspace (i + d) = level (level workspace i) d := by
  induction d with
  | zero => rfl
  | succ d ih => rw [← Nat.add_assoc, level, ih, level]

theorem start_level (workspace : Path) (cwd : Location) (d : Nat) :
    (level workspace d).route.start cwd = workspace.route.start cwd := by
  induction d with
  | zero => rfl
  | succ d ih => rw [level, start_div _ isPart_project, ih]

theorem steps_level (workspace : Path) (d : Nat) :
    (level workspace d).route.steps = workspace.route.steps ++ List.replicate d "project" := by
  induction d with
  | zero => rw [level, List.replicate_zero, List.append_nil]
  | succ d ih =>
    rw [level, steps_div _ isPart_project, ih, List.append_assoc, List.replicate_succ']

/-- Every level but the workspace is written as a beginning of those below it. -/
theorem exists_render_level (workspace : Path) (i d : Nat) :
    ∃ text, (level workspace (i + 1 + d)).render = (level workspace (i + 1)).render ++ text := by
  induction d with
  | zero => exact ⟨"", by rw [Nat.add_zero, String.append_empty]⟩
  | succ d ih =>
    obtain ⟨text, ht⟩ := ih
    have hne : (level workspace (i + 1 + d)).parts ≠ [] := by
      rw [Nat.add_right_comm]
      exact parts_level_ne_nil workspace (i + d)
    rw [← Nat.add_assoc, level, Path.render_div_of_ne_nil hne isPart_project, ht, String.append_assoc]
    exact ⟨_, rfl⟩

/-! ## Levels at one directory -/

/-- What is found so far below a level is found as far below another one at the same directory, if that is
further up: the way to it is the shorter one. -/
theorem status_level_of_same {i j d : Nat} (hi : 1 ≤ i) (hij : i ≤ j)
    (hu : fs.status cwd (level workspace i).route = .ok (loc, upper))
    (hl : fs.status cwd (level workspace j).route = .ok (loc, lower))
    (h : fs.status cwd (level workspace (j + d)).route = .ok (goal, node)) :
    fs.status cwd (level workspace (i + d)).route = .ok (goal, node) := by
  have hn := lookup_of_status h
  obtain ⟨hr, k, hk, hw⟩ := exists_way_of_status h
  rw [level_add, start_level, steps_level] at hw
  -- the way to the lowest level comes through that at `j`, and the way there through that at `i`
  obtain ⟨mid, _, toLower, onward, hsum, hlower, hon, hm⟩ :=
    exists_ways_of_append (exists_way_of_status hl).1 hk hw hn
  obtain ⟨rfl, rfl⟩ : mid = loc ∧ _ = lower := by simpa [hl, eq_comm] using hm
  obtain ⟨c, rfl⟩ := Nat.exists_eq_add_of_le hij
  rw [level_add workspace i c, start_level, steps_level] at hlower
  obtain ⟨mid', _, toUpper, between, hsum', hupper, _, hm'⟩ :=
    exists_ways_of_append (exists_way_of_status hu).1 (by omega) hlower (lookup_of_status hl)
  obtain ⟨rfl, rfl⟩ : mid' = mid ∧ _ = upper := by simpa [hu, eq_comm] using hm'
  -- without the steps between the two there is a way with no more links
  obtain ⟨text, ht⟩ := exists_render_level workspace (i + d - 1) c
  rw [Nat.sub_add_cancel (show 1 ≤ i + d by omega), Nat.add_right_comm] at ht
  have hshort : fs.Way ((level workspace (i + d)).route.start cwd) (level workspace (i + d)).route.steps
      (toUpper + onward) goal := by
    rw [level_add, start_level, steps_level]
    exact hupper.append hon
  exact status_of_way (refusal_of_append ht hr) (by omega) hshort hn

/-! ## Every level is found -/

/-- A level that is no further below than directories with sources reach is at the directory of a
meta-build that is found. -/
theorem exists_found_of_builds {found : List Path} {k : Nat}
    (hd : discover fs cwd workspace = .ok found) (hk : 1 ≤ k)
    (hbuilds : ∀ j, 1 ≤ j → j < k → IsBuild fs cwd (level workspace j))
    (hs : fs.status cwd (level workspace k).route = .ok (loc, node)) :
    ∃ directory ∈ found, fs.status cwd directory.route = .ok (loc, node) := by
  induction k using Nat.strong_induction_on with
  | _ k ih =>
    by_cases hr : Reached fs cwd workspace k
    · exact ⟨_, level_mem_of_reached hd hk hr, hs⟩
    -- the walk stopped at some level above, as that is at the directory of one further up
    obtain ⟨j, hj, hjk, hstop⟩ : ∃ j, 1 ≤ j ∧ j < k ∧ ¬ GoesOnBelow fs cwd workspace j := by
      simpa [Reached] using hr
    obtain ⟨at_, hat, hsource⟩ := hbuilds j hj hjk
    obtain ⟨i, hi, hij, hsame⟩ : ∃ i, 1 ≤ i ∧ i < j ∧
        fs.status cwd (level workspace i).route = .ok (at_, .directory) := by
      by_contra hno
      refine hstop ⟨at_, hat, hsource, fun i hi hij other ho he => hno ⟨i, hi, hij, he ▸ ho⟩⟩
    obtain ⟨d, rfl⟩ := Nat.exists_eq_add_of_le (Nat.le_of_lt hjk)
    exact ih (i + d) (by omega) (by omega) (fun l h₁ h₂ => hbuilds l h₁ (by omega))
      (status_level_of_same hi (Nat.le_of_lt hij) hsame hat hs)

end SbtWorkspace.MetaBuild
