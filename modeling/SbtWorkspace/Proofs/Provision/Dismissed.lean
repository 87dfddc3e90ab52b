import SbtWorkspace.Proofs.Provision.Abreast
import SbtWorkspace.Proofs.Provision.Reading

/-! Files that the layout of a workspace dismisses. A change of a file is worth a new import if the file is part of
the definition of the top-level build, which goes by the end of its whole name. What the import reads goes by the
suffix of a name and by one fixed name, and each of these is such an end; so the change of another file is not seen,
not even where it stands in the way of a directory. Main statement: `import_of_dismissed`. -/

namespace SbtWorkspace

theorem fileSuffix_isSuffix (name : String) : (fileSuffix name).toList <:+ name.toList := by
  unfold fileSuffix
  dsimp only
  split
  · rename_i h
    obtain ⟨hlen, -, -⟩ := h
    have hsplit : name.toList.reverse = name.toList.reverse.takeWhile (fun c => decide (c ≠ '.')) ++
        name.toList.reverse.dropWhile fun c => decide (c ≠ '.') := List.takeWhile_append_dropWhile.symm
    cases hd : name.toList.reverse.dropWhile (fun c : Char => decide (c ≠ '.')) with
    | nil =>
      rw [hd, List.append_nil] at hsplit
      rw [← hsplit, List.reverse_reverse] at hlen
      exact absurd hlen (Nat.lt_irrefl _)
    | cons c rest =>
      have hnot := List.head?_dropWhile_not (fun c : Char => decide (c ≠ '.')) name.toList.reverse
      rw [hd] at hsplit hnot
      obtain rfl : c = '.' := by simpa using hnot
      have hname := congrArg List.reverse hsplit
      rw [List.reverse_reverse, List.reverse_append, List.reverse_cons] at hname
      refine ⟨rest.reverse, ?_⟩
      rw [String.toList_ofList]
      exact (hname.trans (List.append_assoc _ _ _)).symm
  · simp

namespace Provision
open FileSystem MetaBuild SbtWorkspace.Action

variable {c : Context} {fs fs' : FileSystem} {cwd loc : Location} {workspace directory p : Path}
  {name : String} {last : LastName}

/-! ## What is dismissed -/

/-- The directories of the top-level build definition. -/
def toplevel (workspace : Path) : List Path :=
  [workspace, Layout.projectDir workspace, Layout.projectDir workspace / "project"]

theorem exists_level_of_mem_toplevel (h : directory ∈ toplevel workspace) :
    ∃ j, directory = level workspace j := by
  simp only [toplevel, List.mem_cons, List.not_mem_nil, or_false] at h
  obtain rfl | rfl | rfl := h
  · exact ⟨0, rfl⟩
  · exact ⟨1, rfl⟩
  · exact ⟨2, rfl⟩

/-- The name of a file that is dismissed has none of the ends of a definition. -/
theorem notSuffix_of_dismissed (hd : directory ∈ toplevel workspace) (hname : Path.IsPart name)
    (h : Layout.isDefinition workspace (directory / name) = false) :
    ∀ e ∈ Layout.definitionEnds, ¬ e.toList <:+ name.toList := by
  have hparent : (directory / name).parent = directory := by
    rw [Path.div_of_isPart _ hname]
    simp [Path.parent]
  have hlast : (directory / name).name = name := by
    rw [Path.div_of_isPart _ hname]
    simp [Path.name]
  intro e he hs
  rw [Layout.isDefinition, hparent, hlast, Bool.and_eq_false_iff] at h
  obtain h | h := h
  · exact absurd hd (by simpa [toplevel] using h)
  · rw [List.any_eq_false] at h
    exact h e he (by simpa using hs)

theorem isSourceName_of_notSuffix (h : ∀ e ∈ Layout.definitionEnds, ¬ e.toList <:+ name.toList) :
    isSourceName name = false := by
  rw [← Bool.not_eq_true, isSourceName_iff]
  rintro ⟨hs, -, -⟩
  have hsuffix := fileSuffix_isSuffix name
  obtain hs | hs := hs
  · exact h ".sbt" (by decide) (hs ▸ hsuffix)
  · exact h ".scala" (by decide) (hs ▸ hsuffix)

/-! ## What is changed -/

/-- A regular file is made, rewritten or removed. -/
inductive Changed (fs : FileSystem) (cwd : Location) (file : Path) : FileSystem → Prop
  | written {bytes : Bytes} {fs' : FileSystem} : fs.write cwd file.route bytes = .ok fs' → Changed fs cwd file fs'
  | removed {fs' : FileSystem} : fs.unlink cwd file.route = .ok fs' → Changed fs cwd file fs'

/-- Where a file in a directory is changed, it is at its place alone. -/
theorem Changed.beside (h : Changed fs cwd (p / name) fs') (hfree : LinkFree fs) (hname : IsEntryName name) :
    fs' = fs ∨ ∃ loc, fs.Reaches cwd p name loc ∧ Beside [name :: loc] fs fs' ∧ LinkFree fs' := by
  cases h with
  | @written bytes _ h =>
    cases hres : fs.resolve cwd .written (p / name).route with
    | error fault => simp [FileSystem.write, hres] at h
    | ok t =>
      obtain ⟨loc, hreach⟩ := reaches_of_resolve hfree hname hres
      have hp := lookup_of_status hreach.status_eq
      rw [hreach.write_eq (hfree _)] at h
      split at h <;> cases h
      · rename_i hn
        exact .inr ⟨loc, hreach, beside_place hname hp (by simp [IsPlain, hn]) (by simp [IsPlain]),
          linkFree_place hfree hname hp (by simp [hn]) fun _ => by simp⟩
      · rename_i hn
        exact .inr ⟨loc, hreach, beside_place hname hp (by simp [IsPlain, hn]) (by simp [IsPlain]),
          linkFree_place hfree hname hp (by simp [hn]) fun _ => by simp⟩
      · exact .inl rfl
  | removed h =>
    obtain ⟨loc, node, hreach, hn, hplain, rfl⟩ := of_unlink hfree hname h
    exact .inr ⟨loc, hreach, beside_remove hn hplain, linkFree_remove hfree _⟩

theorem isSource_of_reaches (hfree : LinkFree fs) (hreach : fs.Reaches cwd p name loc)
    (hs : isSourceName name = false) : isSource fs cwd p name = .ok false :=
  isSource_eq_false (fun fault => by simp [hreach.probe_eq (hfree _)]) hs

/-- A place in a level, under a name of no source, is that of no source of any level. -/
theorem unsourced_of_beside (hfree : LinkFree fs) (hfree' : LinkFree fs') {j : Nat}
    (hreach : fs.Reaches cwd (level workspace j) name loc) (hb : Beside [name :: loc] fs fs')
    (hs : isSourceName name = false) : Unsourced [name :: loc] cwd workspace fs fs' where
  beside := hb
  before := hfree
  after := hfree'
  isSource_before k name' loc' hm hp := by
    obtain ⟨rfl, rfl⟩ := List.cons.inj (List.mem_singleton.1 hm)
    obtain rfl := level_eq_of_status hfree hreach.status_eq hp
    exact isSource_of_reaches hfree hreach hs
  isSource_after k name' loc' hm hp := by
    obtain ⟨rfl, rfl⟩ := List.cons.inj (List.mem_singleton.1 hm)
    have hreach' := hreach.mono hb.keepsWays
    obtain rfl := level_eq_of_status hfree' hreach'.status_eq hp
    exact isSource_of_reaches hfree' hreach' hs

/-- A change at a place of another name is not seen where the pinned version is read. -/
theorem result_load_of_beside (hfree : LinkFree fs) (hb : Beside [name :: loc] fs fs')
    (hn : name ≠ "build.properties") :
    (PinnedVersion.load workspace).result c fs' = (PinnedVersion.load workspace).result c fs := by
  have hplace (parent : Location) : "build.properties" :: parent ∉ [name :: loc] := by
    intro hm
    exact hn (List.cons.inj (List.mem_singleton.1 hm)).1.symm
  have hprobe : fs'.probe c.cwd (Layout.buildProperties workspace).route =
      fs.probe c.cwd (Layout.buildProperties workspace).route :=
    probe_eq_of_beside hb hfree (by decide) hplace
  exact (paired_load hprobe { files := fs } { files := fs' } rfl rfl).1

/-- What the layout dismisses is not seen by an import. Where a file directly in the workspace or in one of its two
upper meta-builds is no part of the definition, its change leaves the pinned version and the meta-builds. -/
theorem import_of_dismissed (c : Context) (workspace : Path) (hfree : LinkFree fs) (hd : directory ∈ toplevel workspace)
    (hname : IsEntryName name) (hdismissed : Layout.isDefinition workspace (directory / name) = false)
    (h : Changed fs c.cwd (directory / name) fs') :
    (PinnedVersion.load workspace).result c fs' = (PinnedVersion.load workspace).result c fs ∧
      discover fs' c.cwd workspace = discover fs c.cwd workspace := by
  have hends := notSuffix_of_dismissed hd hname.1 hdismissed
  have hproperties : name ≠ "build.properties" := by
    rintro rfl
    exact hends "build.properties" (by decide) List.suffix_rfl
  obtain rfl | ⟨loc, hreach, hb, hfree'⟩ := h.beside hfree hname
  · exact ⟨rfl, rfl⟩
  obtain ⟨j, rfl⟩ := exists_level_of_mem_toplevel hd
  refine ⟨result_load_of_beside hfree hb hproperties, ?_⟩
  exact (unsourced_of_beside hfree hfree' hreach hb (isSourceName_of_notSuffix hends)).discover_eq

/-- A workspace whose second meta-build cannot be made, as a file stands in its place. -/
def barred : FileSystem := plain.place ["project", "ws"] "project" (.file [] false)

/-- A file in the place of the second meta-build is not seen, though it is in the way of that. -/
theorem import_of_barred :
    LinkFree plain ∧ Layout.isDefinition (.parse "ws") (Path.parse "ws" / "project" / "project") = false ∧
      plain.write [] (Path.parse "ws" / "project" / "project").route [] = .ok barred ∧
      (PinnedVersion.load (.parse "ws")).result .bare barred = .ok (some (Text.ofString "1.9.9")) ∧
      discover barred [] (.parse "ws") = .ok (chain (.parse "ws") 2) := by
  have hfree : LinkFree plain := by decide +kernel
  have hdismissed : Layout.isDefinition (.parse "ws") (Path.parse "ws" / "project" / "project") = false := by
    decide +kernel
  have hwrite : plain.write [] (Path.parse "ws" / "project" / "project").route [] = .ok barred := rfl
  obtain ⟨hload, hdiscover⟩ := import_of_dismissed .bare (.parse "ws") hfree (by decide) (by decide)
    hdismissed (.written hwrite)
  exact ⟨hfree, hdismissed, hwrite, hload.trans (by decide +kernel), hdiscover.trans (by decide +kernel)⟩

end Provision

end SbtWorkspace
