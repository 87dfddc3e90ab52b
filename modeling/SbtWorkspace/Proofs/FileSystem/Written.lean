import SbtWorkspace.Proofs.FileSystem.Move

/-! What a path leads to after it was written to. The walk to a name that is to be written may end at a free
name, also behind links; from then on a look along the same path ends at the file that was made there.
Main statement: `status_of_write`. -/

namespace SbtWorkspace.FileSystem

variable {fs b a : FileSystem} {last : LastName} {loc cwd parent : Location} {name : String}
  {links : Nat} {node : Node} {steps : List String} {route : Route} {bytes : Bytes}

/-! ## The way to a free name -/

theorem exists_way_of_walk_missing (hkeep : KeepsWays b a) (hn : a.lookup (name :: parent) = some node)
    (hlink : ∀ target, node ≠ .link target)
    (hf : ∀ loc steps, b.follower last links loc steps = .ok (.missing parent name) →
      ∃ k < links, a.Way loc steps k (name :: parent))
    (steps : List String) (loc : Location)
    (h : b.walkLinks last links loc steps = .ok (.missing parent name)) :
    ∃ k ≤ links, a.Way loc steps k (name :: parent) := by
  induction steps generalizing loc with
  | nil =>
    rw [walkLinks_eq_walk] at h
    simp only [walk] at h
    split at h <;> cases h
  | cons step rest ih =>
    have hd := hkeep.directory (lookup_of_walkLinks h)
    cases firstStep_of_walkLinks h with
    | here hh h =>
      obtain ⟨k, hk, hw⟩ := ih loc h
      exact ⟨k, hk, .here hd hh hw⟩
    | up h =>
      obtain ⟨k, hk, hw⟩ := ih loc.tail h
      exact ⟨k, hk, .up hd hw⟩
    | free hs hl _ ht =>
      cases ht
      exact ⟨0, Nat.zero_le _, .down hd hs hl hn hlink (.arrived _)⟩
    | kept _ _ _ ht => cases ht
    | link hs hl hstep _ h =>
      obtain ⟨k, hk, hw⟩ := hf _ _ h
      exact ⟨k + 1, hk, .link hd hs hl (hkeep.link hstep) hw⟩
    | @down _ rest between hs hl hstep _ h =>
      -- the walk goes on from here to a free name, so this is a directory
      obtain ⟨k, hk, hw⟩ := ih _ h
      have hbetween : b.lookup (step :: loc) = some .directory := by
        cases rest with
        | nil =>
          rw [walkLinks_nil hstep] at h
          cases h
        | cons next rest => exact lookup_of_walkLinks h
      exact ⟨k, hk, .down hd hs hl (hkeep.directory hbetween) (fun _ => by simp) hw⟩

/-- To a name that was free there is a way once something stands there. -/
theorem exists_way_of_walkLinks_missing (hkeep : KeepsWays b a)
    (hn : a.lookup (name :: parent) = some node) (hlink : ∀ target, node ≠ .link target) (links : Nat)
    (steps : List String) (loc : Location)
    (h : b.walkLinks last links loc steps = .ok (.missing parent name)) :
    ∃ k ≤ links, a.Way loc steps k (name :: parent) := by
  induction links generalizing loc steps with
  | zero => exact exists_way_of_walk_missing hkeep hn hlink (fun _ _ h => by cases h) steps loc h
  | succ links ih =>
    refine exists_way_of_walk_missing hkeep hn hlink (fun loc steps h => ?_) steps loc h
    obtain ⟨k, hk, hw⟩ := ih steps loc h
    exact ⟨k, Nat.lt_succ_of_le hk, hw⟩

/-- What was made at a free name is found there. -/
theorem status_of_missing (hkeep : KeepsWays b a) (hn : a.lookup (name :: parent) = some node)
    (hlink : ∀ target, node ≠ .link target) (h : b.resolve cwd last route = .ok (.missing parent name)) :
    a.status cwd route = .ok (name :: parent, node) := by
  rw [resolve_eq] at h
  split at h
  · cases h
  · rename_i hr
    obtain ⟨k, hk, hw⟩ := exists_way_of_walkLinks_missing hkeep hn hlink _ _ _ h
    exact status_of_way hr hk hw hn

/-! ## Writes -/

/-- Where a call that writes finds something, a look finds the same. -/
theorem status_of_resolve_written (h : fs.resolve cwd .written route = .ok (.found loc node)) :
    fs.status cwd route = .ok (loc, node) := by
  have hf : fs.resolve cwd .followed route = .ok (.found loc node) := by
    rw [resolve_eq] at h ⊢
    split at h
    · cases h
    · exact walkLinks_followed_of_written _ _ _ h
  simp only [status, hf]

/-- A path that was written to leads to a file with the content, or to a device, which keeps none. -/
theorem status_of_write (h : b.write cwd route bytes = .ok a) :
    (∃ loc executable, a.status cwd route = .ok (loc, .file bytes executable)) ∨
      ∃ loc kind, a.status cwd route = .ok (loc, .device kind) := by
  simp only [write] at h
  split at h
  · rename_i name parent old executable hr
    cases h
    have hs := status_of_resolve_written hr
    have hn := lookup_of_status hs
    have hsome : (b.lookup (name :: parent)).isSome := by simp [hn]
    have hplace (q : Location) : (b.place parent name (.file bytes executable)).lookup q =
        if q = name :: parent then some (.file bytes executable) else b.lookup q :=
      lookup_place (isEntryName_of_lookup hsome) (lookup_parent hsome) (by simp [hn]) q
    refine .inl ⟨name :: parent, executable, status_mono hs ?_ ?_ fun _ => by simp⟩
    · exact keepsWays_of_lookup_eq hplace (by simp [hn, IsPlain])
    · rw [hplace, if_pos rfl]
  · rename_i loc kind hr
    cases h
    exact .inr ⟨loc, kind, status_of_resolve_written hr⟩
  · cases h
  · cases h
  · rename_i parent name hr
    cases h
    obtain ⟨hp, hn, hname⟩ := lookup_of_missing hr
    have hplace (q : Location) : (b.place parent name (.file bytes false)).lookup q =
        if q = name :: parent then some (.file bytes false) else b.lookup q :=
      lookup_place hname hp (by simp [hn]) q
    refine .inl ⟨name :: parent, false, status_of_missing ?_ ?_ (fun _ => by simp) hr⟩
    · exact keepsWays_of_lookup_eq hplace (by simp [hn, IsPlain])
    · rw [hplace, if_pos rfl]
  · cases h

end SbtWorkspace.FileSystem
