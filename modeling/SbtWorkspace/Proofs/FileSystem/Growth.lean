import SbtWorkspace.Proofs.FileSystem.Way

/-! What generated files do to a file system, and what they leave alone. Directories of one name and
files of some names may come, and these files may go; all else keeps its shape: only the content of a
file may be another. Main statement: a change of one place is growth (`Grown.place`, `Grown.remove`). -/

namespace SbtWorkspace

def Node.shape : Node → Node
  | .file _ _ => .file [] false
  | node => node

theorem Node.eq_of_shape_directory {node : Node} (h : node.shape = .directory) : node = .directory := by
  cases node with
  | directory => rfl
  | file | sealed | link | device => cases h

theorem Node.eq_of_shape_link {node : Node} {target : String} (h : node.shape = .link target) :
    node = .link target := by
  cases node with
  | link => exact h
  | directory | file | sealed | device => cases h

/-- Whether nothing stands at a place, or something that is neither a directory nor a link. -/
def IsPlain (place : Option Node) : Prop :=
  place ≠ some .directory ∧ ∀ target, place ≠ some (.link target)

def SameShape (before after : Option Node) : Prop := after.map Node.shape = before.map Node.shape

section

variable {x y z : Option Node}

theorem SameShape.trans (h₁ : SameShape x y) (h₂ : SameShape y z) : SameShape x z :=
  Eq.trans h₂ h₁

theorem SameShape.eq_none (h : SameShape x y) (hx : x = none) : y = none := by
  subst hx
  exact Option.map_eq_none_iff.1 h

theorem SameShape.exists_eq_some {node : Node} (h : SameShape x y) (hx : x = some node) :
    ∃ node', y = some node' ∧ node'.shape = node.shape := by
  subst hx
  exact Option.map_eq_some_iff.1 h

theorem SameShape.eq_directory (h : SameShape x y) (hx : x = some .directory) : y = some .directory := by
  obtain ⟨node, rfl, hn⟩ := h.exists_eq_some hx
  rw [Node.eq_of_shape_directory hn]

theorem SameShape.eq_link {target : String} (h : SameShape x y) (hx : x = some (.link target)) :
    y = some (.link target) := by
  obtain ⟨node, rfl, hn⟩ := h.exists_eq_some hx
  rw [Node.eq_of_shape_link hn]

theorem SameShape.isPlain (h : SameShape x y) (hx : IsPlain x) : IsPlain y :=
  ⟨fun hy => hx.1 (SameShape.eq_directory h.symm hy), fun target hy => hx.2 target (SameShape.eq_link h.symm hy)⟩

end

namespace FileSystem

abbrev nestedName : String := "project"

def isKept (generated : List String) (name : String) : Bool :=
  name != nestedName && !generated.contains name

inductive Changes (generated : List String) (name : String) : Option Node → Option Node → Prop
  | same {before after : Option Node} : SameShape before after → Changes generated name before after
  | made : name = nestedName → name ∉ generated → Changes generated name none (some .directory)
  | rewritten {before after : Option Node} : name ∈ generated → IsPlain before → IsPlain after →
    Changes generated name before after

section

variable {generated : List String} {name : String} {x y z : Option Node}

theorem Changes.refl (generated : List String) (name : String) (x : Option Node) :
    Changes generated name x x :=
  .same rfl

theorem Changes.trans (h₁ : Changes generated name x y) (h₂ : Changes generated name y z) :
    Changes generated name x z := by
  cases h₁ with
  | same h₁ =>
    cases h₂ with
    | same h₂ => exact .same (h₁.trans h₂)
    | made hn hg =>
      obtain rfl := SameShape.eq_none h₁.symm rfl
      exact .made hn hg
    | rewritten hn hy hz => exact .rewritten hn (SameShape.isPlain h₁.symm hy) hz
  | made hn hg =>
    cases h₂ with
    | same h₂ =>
      rw [h₂.eq_directory rfl]
      exact .made hn hg
    | rewritten _ hy _ => exact absurd rfl hy.1
  | rewritten hn hx hy =>
    cases h₂ with
    | same h₂ => exact .rewritten hn hx (h₂.isPlain hy)
    | made _ hg => exact absurd hn hg
    | rewritten _ _ hz => exact .rewritten hn hx hz

/-- A place keeps its shape under a name under which nothing is made. -/
theorem Changes.sameShape (h : Changes generated name x y) (hk : isKept generated name = true) :
    SameShape x y := by
  simp only [isKept, bne_iff_ne, ne_eq, Bool.and_eq_true, Bool.not_eq_true', List.contains_eq_mem,
    decide_eq_false_iff_not] at hk
  cases h with
  | same h => exact h
  | made hn _ => exact absurd hn hk.1
  | rewritten hn _ _ => exact absurd hn hk.2

theorem Changes.eq_directory (h : Changes generated name x y) (hx : x = some .directory) :
    y = some .directory := by
  cases h with
  | same h => exact h.eq_directory hx
  | made => rfl
  | rewritten _ hp _ => exact absurd hx hp.1

theorem Changes.eq_link {target : String} (h : Changes generated name x y)
    (hx : x = some (.link target)) : y = some (.link target) := by
  cases h with
  | same h => exact h.eq_link hx
  | made => cases hx
  | rewritten _ hp _ => exact absurd hx (hp.2 target)

theorem Changes.of_eq_link {target : String} (h : Changes generated name x y)
    (hy : y = some (.link target)) : x = some (.link target) := by
  cases h with
  | same h => exact SameShape.eq_link h.symm hy
  | made => cases hy
  | rewritten _ _ hp => exact absurd hy (hp.2 target)

end

/-- A file system after another one: every place changed as its name allows, and what nothing is made
under is listed as before. -/
structure Grown (generated : List String) (b a : FileSystem) : Prop where
  changes : ∀ name parent, Changes generated name (b.lookup (name :: parent)) (a.lookup (name :: parent))
  names : ∀ loc, (a.names loc).filter (isKept generated) = (b.names loc).filter (isKept generated)

variable {generated : List String} {fs b a : FileSystem} {parent loc goal : Location} {name : String}

theorem Grown.refl (generated : List String) (fs : FileSystem) : Grown generated fs fs :=
  ⟨fun name _ => .refl generated name _, fun _ => rfl⟩

theorem Grown.trans {m : FileSystem} (h₁ : Grown generated b m) (h₂ : Grown generated m a) :
    Grown generated b a :=
  ⟨fun name parent => (h₁.changes name parent).trans (h₂.changes name parent),
    fun loc => (h₂.names loc).trans (h₁.names loc)⟩

theorem Grown.keepsWays (h : Grown generated b a) : KeepsWays b a := by
  intro loc node hl hn
  cases loc with
  | nil => exact hl
  | cons name parent =>
    obtain rfl | ⟨target, rfl⟩ := hn
    · exact (h.changes name parent).eq_directory hl
    · exact (h.changes name parent).eq_link hl

/-- Under a location where nothing stood, nothing stands but what was made. -/
theorem Grown.not_kept (h : Grown generated b a) (hl : b.lookup loc = none)
    (hn : (a.lookup (name :: loc)).isSome) : isKept generated name = false := by
  have hb : b.lookup (name :: loc) = none := lookup_child_of_not_directory name (by simp [hl])
  refine Bool.eq_false_iff.2 fun hk => ?_
  rw [((h.changes name loc).sameShape hk).eq_none hb] at hn
  cases hn

/-! ## Changes of one place -/

theorem Grown.place {node : Node} (hname : IsEntryName name) (hp : fs.lookup parent = some .directory)
    (hn : fs.lookup (name :: parent) ≠ some .directory)
    (hc : Changes generated name (fs.lookup (name :: parent)) (some node))
    (hl : (fs.lookup (name :: parent)).isSome ∨ isKept generated name = false) :
    Grown generated fs (fs.place parent name node) where
  changes n p := by
    rw [lookup_place hname hp hn]
    split
    · rename_i he
      injection he with h₁ h₂
      subst h₁ h₂
      exact hc
    · exact .refl ..
  names loc := by
    cases hs : fs.lookup (name :: parent) with
    | some old => rw [names_place_of_some (by simp [hs]) hn]
    | none =>
      have hk : isKept generated name = false := by simpa [hs] using hl
      rw [names_place_of_none hname hp hs]
      split
      · simp [hk]
      · rfl

theorem Grown.remove {node : Node} (hg : name ∈ generated)
    (hn : fs.lookup (name :: parent) = some node) (hp : IsPlain (some node)) :
    Grown generated fs (fs.remove (name :: parent)) where
  changes n p := by
    rw [lookup_remove_of_not_directory hn fun e => hp.1 (congrArg some e)]
    split
    · rename_i he
      injection he with h₁ h₂
      subst h₁ h₂
      exact .rewritten hg (hn ▸ hp) ⟨by simp, by simp⟩
    · exact .refl ..
  names loc := by
    have hk : isKept generated name = false := by simp [isKept, hg]
    rw [names_remove, List.filter_filter]
    refine List.filter_congr fun n hm => ?_
    -- a kept name that is listed is not at the location that goes, and nothing stands below that
    by_cases hs : name :: parent <:+ n :: loc
    · have he := eq_of_suffix hn (fun e => hp.1 (congrArg some e)) (mem_names_iff.1 hm) hs
      injection he with he _
      simp [he, hk]
    · have hs : (name :: parent).isSuffixOf (n :: loc) = false := by
        rw [← Bool.not_eq_true, List.isSuffixOf_iff_suffix]
        exact hs
      simp [hs]

end FileSystem

end SbtWorkspace
