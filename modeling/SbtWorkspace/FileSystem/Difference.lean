import SbtWorkspace.FileSystem.Basic

/-! What differs between two file systems below a directory. A reader of the tree sees directories, the
targets of links and the content of files; the mode of a file makes no difference. Main statement:
`mem_differing_iff`, by which the places listed are all that differ. -/

namespace SbtWorkspace

/-- A node as a reader of the tree sees it. -/
inductive Appearance where
  | directory
  | content (bytes : Bytes)
  | sealed
  | link (target : String)
  | device (kind : Device)
  deriving DecidableEq

def Node.appearance : Node → Appearance
  | directory => .directory
  | file bytes _ => .content bytes
  | sealed => .sealed
  | link target => .link target
  | device kind => .device kind

def Location.pathFrom (loc root : Location) : String :=
  "/".intercalate (loc.take (loc.length - root.length)).reverse

namespace FileSystem

def appearance (fs : FileSystem) (loc : Location) : Option Appearance :=
  (fs.lookup loc).map Node.appearance

def placesBelow (root : Location) (fs : FileSystem) : List Location :=
  (fs.entries.map (·.1)).filter fun loc => loc ≠ root && root.isSuffixOf loc

/-- The locations below a directory where two file systems differ. -/
def differing (root : Location) (before after : FileSystem) : List Location :=
  (before.placesBelow root ++ after.placesBelow root).eraseDups.filter fun loc =>
    before.appearance loc ≠ after.appearance loc

/-- The paths below a directory where two file systems differ, in order, with what appears there after. -/
def differences (root : Location) (before after : FileSystem) : List (String × Option Appearance) :=
  ((differing root before after).map fun loc =>
    (loc.pathFrom root, after.appearance loc)).mergeSort fun a b => a.1 ≤ b.1

theorem mem_placesBelow {root : Location} {fs : FileSystem} {loc : Location}
    (h : (fs.lookup loc).isSome) (hne : loc ≠ root) (hs : root <:+ loc) :
    loc ∈ fs.placesBelow root := by
  cases loc with
  | nil => exact absurd (List.suffix_nil.1 hs).symm hne
  | cons name parent =>
    obtain ⟨node, hn⟩ := Option.isSome_iff_exists.1 h
    simp only [lookup, find, Option.map_eq_some_iff] at hn
    obtain ⟨e, he, _⟩ := hn
    have hm := List.mem_of_find?_eq_some he
    have hk : e.1 = name :: parent := by simpa using List.find?_some he
    simp only [placesBelow, List.mem_filter, List.mem_map]
    exact ⟨⟨e, hm, hk⟩, by simpa [hne] using hs⟩

theorem mem_differing_iff {root : Location} {before after : FileSystem} {loc : Location} :
    loc ∈ differing root before after ↔
      loc ≠ root ∧ root <:+ loc ∧ before.appearance loc ≠ after.appearance loc := by
  simp only [differing, List.mem_filter, List.mem_eraseDups, List.mem_append, decide_eq_true_eq, ne_eq]
  constructor
  · rintro ⟨h | h, hd⟩ <;> simp_all [placesBelow]
  · rintro ⟨hne, hs, hd⟩
    refine ⟨?_, hd⟩
    cases hb : before.lookup loc with
    | some _ => exact .inl (mem_placesBelow (by simp [hb]) hne hs)
    | none =>
      cases ha : after.lookup loc with
      | some _ => exact .inr (mem_placesBelow (by simp [ha]) hne hs)
      | none => simp [appearance, ha, hb] at hd

end FileSystem

end SbtWorkspace
