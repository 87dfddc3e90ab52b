import SbtWorkspace.Invocation.Tool
import SbtWorkspace.Proofs.FileSystem.Written
import SbtWorkspace.Proofs.Paired

/-! What the question whether a workspace can serve BSP depends on, and what an answer says. The pinned version is
read at one path, which a look alone decides; and where the answer is yes, the bridge stands in its place, or a
device does. Main statements: `paired_load` and `of_run_supportsBsp`. -/

namespace SbtWorkspace.Provision
open FileSystem SbtWorkspace.Action

variable {c : Context} {m m' : Machine} {b a fs : FileSystem} {cwd : Location} {workspace p : Path}
  {route : Route}

/-! ## The pinned version -/

/-- The version is read at one path, and twice it is the same where a look finds the same. -/
theorem paired_load (h : a.probe c.cwd (Layout.buildProperties workspace).route =
    b.probe c.cwd (Layout.buildProperties workspace).route) :
    Paired (Still b a) c b a (PinnedVersion.load workspace) := by
  have hlook : a.isFile c.cwd (Layout.buildProperties workspace).route =
      b.isFile c.cwd (Layout.buildProperties workspace).route := by
    simp only [FileSystem.isFile, h]
  refine .look_bind hlook ⟨rfl, rfl⟩ fun found hfound => ?_
  split
  · rename_i hf
    obtain rfl := hf
    have hread : a.read c.cwd (Layout.buildProperties workspace).route =
        b.read c.cwd (Layout.buildProperties workspace).route := by
      simp only [FileSystem.read, status_eq_of_probe h hfound]
    refine .bind (.tryCatch (.look hread ⟨rfl, rfl⟩) fun e b' a' hs => ?_) fun bytes b' a' hs => ?_
    · cases e <;> exact .throw _ hs
    · refine .bind (.ofExcept _ _ hs) fun version b' a' hs => ?_
      cases version with
      | some version => exact .pure _ hs
      | none => exact .bind (.report _ hs) fun _ _ _ hs => .pure _ hs
  · exact .bind (.report _ ⟨rfl, rfl⟩) fun _ _ _ hs => .pure _ hs

/-- The pinned version is read twice in a file system with the same result. -/
theorem load_twice {pinned pinned' : Option Text} {m₁ m₂ m₁' m₂' : Machine} (hm : m₂.files = m₁.files)
    (h₁ : (PinnedVersion.load workspace).run c m₁ = (.ok pinned, m₁'))
    (h₂ : (PinnedVersion.load workspace).run c m₂ = (.ok pinned', m₂')) :
    pinned' = pinned ∧ m₁'.files = m₁.files ∧ m₂'.files = m₂.files := by
  have h := @paired_load c m₁.files m₂.files workspace (by rw [hm]) m₁ m₂ rfl rfl
  rw [h₁, h₂] at h
  exact ⟨Except.ok.inj h.1, h.2⟩

/-- A version that is pinned is pinned in a file, which is there. -/
theorem status_of_load {version : Text}
    (h : (PinnedVersion.load workspace).run c m = (.ok (some version), m')) :
    ∃ loc bytes executable,
      m.files.status c.cwd (Layout.buildProperties workspace).route = .ok (loc, .file bytes executable) ∧
        PinnedVersion.pinnedIn (PinnedVersion.latin1 bytes) = .ok (some version) := by
  dsimp only [PinnedVersion.load] at h
  obtain ⟨found, m₁, hlook, hrest⟩ := exists_of_run_bind h
  obtain ⟨hfound, rfl⟩ := of_run_look hlook
  split at hrest
  · rename_i hf
    obtain rfl := hf
    obtain ⟨bytes, m₂, hread, hrest⟩ := exists_of_run_bind hrest
    have hread := of_run_tryCatch hread fun e m₁ => by cases e <;> simp
    obtain ⟨hread, -⟩ := of_run_look hread
    obtain ⟨loc, executable, hs⟩ := status_of_read hfound hread
    obtain ⟨pinned, m₃, hpinned, hrest⟩ := exists_of_run_bind hrest
    refine ⟨loc, bytes, executable, hs, ?_⟩
    rw [run_ofExcept] at hpinned
    split at hpinned <;> cases hpinned
    rename_i hp
    cases pinned with
    | some found =>
      cases hrest
      exact hp
    | none =>
      obtain ⟨_, _, _, hrest⟩ := exists_of_run_bind hrest
      cases hrest
  · obtain ⟨_, _, _, hrest⟩ := exists_of_run_bind hrest
    cases hrest

/-! ## The bridge -/

/-- Whether a route leads to a regular file, or to a device, which keeps nothing. -/
def LeadsToFileOrDevice (fs : FileSystem) (cwd : Location) (route : Route) : Prop :=
  (∃ loc node, fs.status cwd route = .ok (loc, node) ∧ node.isRegular = true) ∨
    ∃ loc kind, fs.status cwd route = .ok (loc, .device kind)

/-- Where the bridge was installed or found, its path leads to it, or to a device. -/
theorem of_run_install {missing : Bool} (h : (Bridge.install workspace).run c m = (.ok missing, m')) :
    LeadsToFileOrDevice m'.files c.cwd (Layout.bridge workspace).route := by
  dsimp only [Bridge.install] at h
  obtain ⟨found, m₁, hlook, hrest⟩ := exists_of_run_bind h
  obtain ⟨hfound, rfl⟩ := of_run_look hlook
  split at hrest
  · rename_i hf
    obtain rfl := hf
    obtain ⟨_, m₂, hreport, hrest⟩ := exists_of_run_bind hrest
    cases hreport
    cases hrest
    exact .inl (isFile_eq_true_iff.1 hfound)
  · obtain ⟨there, m₂, -, hrest⟩ := exists_of_run_bind hrest
    split at hrest
    · obtain ⟨_, m₃, -, hrest⟩ := exists_of_run_bind hrest
      obtain ⟨_, m₄, hwrite, hrest⟩ := exists_of_run_bind hrest
      obtain ⟨_, m₅, hreport, hrest⟩ := exists_of_run_bind hrest
      cases hreport
      cases hrest
      exact (status_of_write (of_run_change hwrite)).imp
        (fun ⟨loc, executable, hs⟩ => ⟨loc, _, hs, rfl⟩) id
    · cases hrest

/-- What an answer says: yes, that a version is pinned which is new enough and that the bridge is there; and
no, that nothing was changed. -/
theorem of_run_supportsBsp {answer : Bool} (h : (Tool.supportsBsp workspace).run c m = (.ok answer, m')) :
    ∃ pinned m₁, (PinnedVersion.load workspace).run c m = (.ok pinned, m₁) ∧
      (answer = true ↔ ∃ version, pinned = some version ∧
        Version.meets (Text.ofString firstVersionWithBsp) version = .ok true) ∧
      (answer = true → LeadsToFileOrDevice m'.files c.cwd (Layout.bridge workspace).route) ∧
      (answer = false → m'.files = m.files) := by
  unfold Tool.supportsBsp at h
  obtain ⟨pinned, m₁, hload, h⟩ := exists_of_run_bind h
  have hm₁ := (load_twice rfl hload hload).2.1
  refine ⟨pinned, m₁, hload, ?_⟩
  cases pinned with
  | none =>
    obtain ⟨_, m₂, hreport, h⟩ := exists_of_run_bind h
    cases hreport
    cases h
    exact ⟨by simp, by simp, fun _ => hm₁⟩
  | some version =>
    obtain ⟨_, m₂, hreport, h⟩ := exists_of_run_bind h
    cases hreport
    split at h
    · obtain ⟨_, m₂, hreport, h⟩ := exists_of_run_bind h
      cases hreport
      cases h
      exact ⟨by simp_all, by simp, fun _ => hm₁⟩
    · obtain ⟨_, m₂, hreport, h⟩ := exists_of_run_bind h
      cases hreport
      cases h
      exact ⟨by simp_all, by simp, fun _ => hm₁⟩
    · rename_i hmeets
      obtain ⟨_, m₂, hinstall, h⟩ := exists_of_run_bind h
      cases h
      obtain ⟨missing, m₃, hinstall, hm₃⟩ := exists_of_run_bind hinstall
      cases hm₃
      exact ⟨by simp [hmeets], fun _ => of_run_install hinstall, by simp⟩

end SbtWorkspace.Provision
