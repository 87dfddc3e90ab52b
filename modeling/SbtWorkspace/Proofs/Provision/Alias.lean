import SbtWorkspace.Proofs.MetaBuild.Cycle
import SbtWorkspace.Proofs.Provision.Idempotence

/-! Descriptors by other names. A workspace with a link back up has its meta-builds under paths without
end, of which provisioning writes to the few that are found. Each of the others leads to the directory of
one that is found, and so to its descriptor; only the links on the longer way can be too many. Main
statement: `provision_every_level`. -/

namespace SbtWorkspace.Provision
open FileSystem MetaBuild SbtWorkspace.Action

variable {c : Context} {b a : FileSystem} {loc : Location} {p q workspace : Path} {bytes : Bytes}

/-- A descriptor that takes too many links to look up took too many before the run. -/
theorem linkLoop_before {cwd : Location} {name : String} (hlead : LinksLead b)
    (hs : Steps (writesDescriptor bytes) b a) (hp : b.status cwd p.route = .ok (loc, .directory))
    (hname : IsEntryName name) (hr : (p / name).route.refusal = none)
    (h : a.status cwd (p / name).route = .error .linkLoop) :
    b.status cwd (p / name).route = .error .linkLoop := by
  have hw := writesOnly_descriptor bytes
  have hregrown := regrown_of_steps hw hlead hs
  cases hn : b.lookup (name :: loc) with
  | none =>
    have hlink : ∀ target, a.lookup (name :: loc) ≠ some (.link target) := by
      intro target ha
      cases hn.symm.trans ((hregrown.grown.changes name loc).of_eq_link ha)
    have hpa := status_directory_mono hp hregrown.grown.keepsWays
    exact absurd h (status_child_ne_linkLoop hpa hname hr hlink)
  | some old =>
    have hseen := seen_child_eq hregrown.grown.keepsWays hregrown.settled hp hname
      (lasts_of_steps hw hs (name :: loc) (by simp [hn]))
    rw [seen, seen, h] at hseen
    cases hb : b.status cwd (p / name).route with
    | error fault =>
      simp only [hb, Except.map, Except.error.injEq] at hseen
      rw [hseen]
    | ok found => simp [hb, Except.map] at hseen

/-- Whether a descriptor can be looked up, and leads to no device. -/
structure Readable (fs : FileSystem) (cwd : Location) (descriptor : Path) : Prop where
  size_le : descriptor.render.utf8ByteSize ≤ maxPathLength
  ne_linkLoop : fs.status cwd descriptor.route ≠ .error .linkLoop
  ne_device : ∀ goal kind, fs.status cwd descriptor.route ≠ .ok (goal, .device kind)

/-- The content of a descriptor is read by every path to its directory. -/
theorem read_of_provisioned {cwd : Location} (hlead : LinksLead b)
    (hs : Steps (writesDescriptor bytes) b a) (hp : b.status cwd p.route = .ok (loc, .directory))
    (hq : b.status cwd q.route = .ok (loc, .directory)) (hprov : IsProvisioned a cwd bytes q)
    (h : Readable b cwd (Layout.descriptor p)) :
    a.read cwd (Layout.descriptor p).route = .ok bytes := by
  have hkeep := (grown_of_steps (writesOnly_descriptor bytes) hs).keepsWays
  have hpa := status_directory_mono hp hkeep
  have hqa := status_directory_mono hq hkeep
  have hname : IsEntryName Layout.descriptorName := by decide
  have hr : (Layout.descriptor p).route.refusal = none :=
    refusal_div isPart_descriptor (by decide) (exists_way_of_status hp).1 h.size_le
  have same {goal : Location} {node : Node}
      (hg : a.status cwd (Layout.descriptor q).route = .ok (goal, node)) :
      a.status cwd (Layout.descriptor p).route = .ok (goal, node) := by
    refine (status_child_of_same hpa hqa hname hr hg).resolve_right fun hloop => ?_
    exact h.ne_linkLoop (linkLoop_before hlead hs hp hname hr hloop)
  obtain ⟨_, ⟨goal, executable, hg⟩ | ⟨goal, kind, hg⟩⟩ := hprov
  · simp only [FileSystem.read, same hg]
  · obtain hdev | hnone := wasOrMade_child hlead hs hpa (.inl hp) hname (by simp) (same hg)
    · exact absurd hdev (h.ne_device goal kind)
    · rw [device_of_steps hs (lookup_of_status hg)] at hnone
      cases hnone

/-- Every level that directories with sources reach is at the directory of a meta-build that is found, and
after a run that succeeds its descriptor holds the content, if it can be read at all. -/
theorem provision_every_level {m : Machine} {k : Nat} (hl : WithinLimits m.files c.cwd workspace)
    (hk : 1 ≤ k) (hbuilds : ∀ j, 1 ≤ j → j < k → IsBuild m.files c.cwd (level workspace j))
    (hs : m.files.status c.cwd (level workspace k).route = .ok (loc, .directory)) :
    (∃ found, discover m.files c.cwd workspace = .ok found ∧
      ∃ directory ∈ found, m.files.status c.cwd directory.route = .ok (loc, .directory)) ∧
    ∀ config written m', config.bloopInstalled = false → LinksLead m.files →
      Readable m.files c.cwd (Layout.descriptor (level workspace k)) →
      (Descriptor.provision workspace config).run c m = (.ok written, m') →
        m'.files.read c.cwd (Layout.descriptor (level workspace k)).route =
          .ok (Utf8.encode (Descriptor.content config.bloopVersion)) := by
  obtain ⟨n, _, _, hd, _⟩ := discover_eq_chain m.files c.cwd workspace hl
  obtain ⟨directory, hm, hsame⟩ := exists_found_of_builds hd hk hbuilds hs
  refine ⟨⟨_, hd, directory, hm, hsame⟩, fun config written m' hi hlead hreadable hrun => ?_⟩
  obtain ⟨_, _, _, hd', _, hsteps, hall⟩ := provision_spec hi hlead hrun
  rw [hd] at hd'
  cases hd'
  exact read_of_provisioned hlead hsteps hs hsame (hall directory hm) hreadable

/-- The fourth level of the looped workspace is not among the three that are found: it is the second. -/
theorem provision_every_level_looped :
    level here 4 ∉ chain here 3 ∧ discover looped [] here = .ok (chain here 3) ∧
      ∃ written m', (Descriptor.provision here {}).run .bare { files := looped } = (.ok written, m') ∧
        m'.files.read [] (Layout.descriptor (level here 4)).route =
          .ok (Utf8.encode (Descriptor.content ({} : Config).bloopVersion)) := by
  have hlimits : WithinLimits looped [] here := withinLimits_looped
  have hbuilds : ∀ j, 1 ≤ j → j < 4 → IsBuild looped [] (level here j) := by
    intro j h₁ h₂
    obtain rfl | rfl | rfl : j = 1 ∨ j = 2 ∨ j = 3 := by omega
    · obtain ⟨loc, hs, hsource, _⟩ := goesOnBelow_looped_one
      exact ⟨loc, hs, hsource⟩
    · obtain ⟨loc, hs, hsource, _⟩ := goesOnBelow_looped_two
      exact ⟨loc, hs, hsource⟩
    · exact ⟨_, status_looped.2.2, "build.sbt", ["build.sbt", "project"], .file [] false, by decide +kernel,
        by decide +kernel, by decide +kernel⟩
  have hfourth : looped.status [] (level here 4).route = .ok (["project", "project"], .directory) := by
    decide +kernel
  have hreadable : Readable looped [] (Layout.descriptor (level here 4)) := by
    have hnone : looped.status [] (Layout.descriptor (level here 4)).route = .error .noEntry := by
      decide +kernel
    exact ⟨by decide +kernel, by simp [hnone], by simp [hnone]⟩
  have hrun := run_provision_looped
  have hall := provision_every_level (c := .bare) (m := { files := looped }) hlimits
    (by decide) hbuilds hfourth
  exact ⟨by decide +kernel, discover_looped_eq, _, _, Prod.ext hrun rfl,
    hall.2 {} _ _ rfl linksLead_looped hreadable (Prod.ext hrun rfl)⟩

/-- A workspace whose meta-build has itself for its meta-build, and a link for its descriptor. -/
def coiled : FileSystem :=
  FileSystem.empty.place [] "project" .directory
    |>.place ["project"] "plugin.sbt" (.file [] false)
    |>.place ["project"] "project" (.link ".")
    |>.place ["project"] "sbtctl.sbt" (.link "plugin.sbt")

theorem way_coiled (k : Nat) : coiled.Way ["project"] (List.replicate k "project") k ["project"] := by
  have hd : coiled.lookup ["project"] = some .directory := rfl
  have hl : coiled.lookup ["project", "project"] = some (.link ".") := rfl
  have hname : IsEntryName "project" := by decide
  induction k with
  | zero => exact .arrived _
  | succ k ih => exact .link hd hname.isName (by decide) hl (.here hd (.inr rfl) ih)

/-- Every level is the same directory, and takes one link more than the one above it. -/
theorem way_level_coiled (k : Nat) : coiled.Way ((level here (k + 1)).route.start [])
    (level here (k + 1)).route.steps k ["project"] := by
  have hd : coiled.lookup ["project"] = some .directory := rfl
  have hname : IsEntryName "project" := by decide
  rw [start_level, steps_level]
  exact .down rfl hname.isName (by decide) hd (by simp) (way_coiled k)

theorem size_level_here (k : Nat) : (level here (k + 1)).render.utf8ByteSize = 8 * k + 7 := by
  induction k with
  | zero => decide
  | succ k ih =>
    rw [level, Path.render_div_of_ne_nil (parts_level_ne_nil here k) isPart_project,
      String.utf8ByteSize_append, ih, show ("/" ++ "project").utf8ByteSize = 8 by decide]
    omega

theorem refusal_level_here {k : Nat} (h : k ≤ 40) : (level here (k + 1)).route.refusal = none := by
  induction k with
  | zero => decide
  | succ k ih =>
    have hsize : (level here (k + 1) / "project").render.utf8ByteSize = _ := size_level_here (k + 1)
    refine refusal_div isPart_project (by decide) (ih (by omega)) ?_
    rw [hsize]
    show 8 * (k + 1) + 7 ≤ 4095
    omega

theorem status_level_coiled {k : Nat} (h : k ≤ 40) :
    coiled.status [] (level here (k + 1)).route = .ok (["project"], .directory) :=
  status_of_way (refusal_level_here h) h (way_level_coiled k) rfl

theorem linksLead_coiled : LinksLead coiled := by
  decide +kernel

theorem withinLimits_coiled : WithinLimits coiled [] here := by
  have hstop : ¬ Reached coiled [] here 3 := by
    intro h
    obtain ⟨loc, hs, _, hne⟩ := h 2 (by omega) (by omega)
    rw [status_level_coiled (by omega)] at hs
    cases hs
    exact hne 1 (by omega) (by omega) _ (status_level_coiled (by omega)) rfl
  exact withinLimits_of_not_reached hstop (by decide +kernel)

/-- Names of ten octets have room below these levels. -/
theorem refusal_level_here_div {name : String} (hname : Path.IsPart name) (hn : '\x00' ∉ name.toList)
    (hl : name.utf8ByteSize = 10) {k : Nat} (h : k ≤ 40) :
    (level here (k + 1) / name).route.refusal = none := by
  refine refusal_div hname hn (refusal_level_here h) ?_
  rw [Path.render_div_of_ne_nil (parts_level_ne_nil here k) hname, String.utf8ByteSize_append,
    String.utf8ByteSize_append, size_level_here, hl, show ("/" : String).utf8ByteSize = 1 by decide]
  show 8 * k + 7 + (1 + 10) ≤ 4095
  omega

theorem isBuild_coiled {k : Nat} (h : k ≤ 40) : IsBuild coiled [] (level here (k + 1)) := by
  have hr : (level here (k + 1) / "plugin.sbt").route.refusal = none :=
    refusal_level_here_div (by decide) (by decide) (by decide) h
  have hn : coiled.lookup ["plugin.sbt", "project"] = some (.file [] false) := rfl
  exact ⟨_, status_level_coiled h, "plugin.sbt", _, .file [] false, by simp [hn],
    status_child (status_level_coiled h) (by decide) (by decide) hr hn (by simp), rfl, by decide⟩

/-- At the last of these levels no link can be followed any more, not after a run either. -/
theorem read_coiled {fs : FileSystem} (h : Steps (writesDescriptor bytes) coiled fs) {k : Nat}
    (hk : k = maxLinks) : fs.read [] (level here (k + 1) / "sbtctl.sbt").route = .error .linkLoop := by
  have hkeep := (grown_of_steps (writesOnly_descriptor bytes) h).keepsWays
  have hd : coiled.lookup ["project"] = some .directory := rfl
  have hl : coiled.lookup ["sbtctl.sbt", "project"] = some (.link "plugin.sbt") := rfl
  have hname : IsEntryName "sbtctl.sbt" := by decide
  have hr : (level here (k + 1) / "sbtctl.sbt").route.refusal = none :=
    refusal_level_here_div hname.1 (by decide) (by decide) (Nat.le_of_eq hk)
  have hwalk : fs.resolve [] .followed (level here (k + 1) / "sbtctl.sbt").route = .error .linkLoop := by
    rw [resolve_child (Nat.le_of_eq hk) ((way_level_coiled k).mono_directory hkeep hd) hname.1, hr,
      hk, Nat.sub_self]
    show fs.walkLinks .followed 0 ["project"] ["sbtctl.sbt"] = _
    rw [walkLinks_name (hkeep.directory hd) hname.isName (by simp), if_neg (by decide), hkeep.link hl]
    rfl
  simp only [FileSystem.read, status, hwalk]

theorem withinLimits_diverted : WithinLimits diverted [] (Path.parse "ws") := by
  have hone : diverted.status [] (level (Path.parse "ws") 1).route =
      .ok (["project", "ws"], .directory) := rfl
  have hstop : ¬ Reached diverted [] (Path.parse "ws") 2 := by
    intro h
    obtain ⟨loc, hs, hsource, _⟩ := h 1 (by omega) (by omega)
    rw [hone] at hs
    cases hs
    have hnone : anySource diverted [] (level (Path.parse "ws") 1)
        (diverted.names ["project", "ws"]) = .ok false := by
      decide +kernel
    exact absurd ((anySource_names_iff hnone).2 hsource) (by simp)
  exact withinLimits_of_not_reached hstop (by decide +kernel)

/-- What is written to a device cannot be read back; and at the forty-first level of a workspace where
every level is the first, the descriptor is one link too many. -/
theorem provision_unread :
    (WithinLimits diverted [] (Path.parse "ws") ∧ LinksLead diverted ∧
      diverted.status [] (level (Path.parse "ws") 1).route = .ok (["project", "ws"], .directory) ∧
      ∃ written m',
        (Descriptor.provision (Path.parse "ws") {}).run .bare { files := diverted } =
          (.ok written, m') ∧
        m'.files.read [] (Layout.descriptor (level (Path.parse "ws") 1)).route = .ok []) ∧
    WithinLimits coiled [] here ∧ LinksLead coiled ∧
      (∀ j, 1 ≤ j → j < 41 → IsBuild coiled [] (level here j)) ∧
      coiled.status [] (level here 41).route = .ok (["project"], .directory) ∧
      ∃ written m', (Descriptor.provision here {}).run .bare { files := coiled } = (.ok written, m') ∧
        m'.files.read [] (Layout.descriptor (level here 41)).route = .error .linkLoop := by
  have hdiverted := run_provision_diverted
  have hcoiled : ((Descriptor.provision here {}).run .bare { files := coiled }).1 =
      .ok [Layout.descriptor (level here 1)] := by
    decide +kernel
  refine ⟨⟨withinLimits_diverted, linksLead_diverted, by decide +kernel, _, _, Prod.ext hdiverted rfl,
      by decide +kernel⟩, withinLimits_coiled, linksLead_coiled, fun j h₁ h₂ => ?_,
    status_level_coiled (Nat.le_refl 40), _, _, Prod.ext hcoiled rfl, ?_⟩
  · obtain ⟨k, rfl⟩ := Nat.exists_eq_add_of_le' h₁
    exact isBuild_coiled (by omega)
  · obtain ⟨_, _, _, _, _, hsteps, _⟩ :=
      provision_spec rfl linksLead_coiled (Prod.ext hcoiled rfl)
    exact read_coiled hsteps rfl

end SbtWorkspace.Provision
