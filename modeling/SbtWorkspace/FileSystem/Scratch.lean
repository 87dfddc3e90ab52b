import SbtWorkspace.FileSystem.Basic
import SbtWorkspace.Path.Basic

/-! Names and places of scratch files. Which name is drawn is left open: it has the form of a scratch name and
is not taken, and where too many are taken none may be found. -/

namespace SbtWorkspace.Scratch

def isDrawn (c : Char) : Bool := c.isLower || c.isDigit || c = '_'

/-- Whether a name has eight drawn characters between `tmp` and `.tmp`. -/
def isName (name : String) : Bool :=
  let cs := name.toList
  cs.length = 15 && cs.take 3 = "tmp".toList && ((cs.drop 3).take 8).all isDrawn && cs.drop 11 = ".tmp".toList

theorem isDrawn_of_mem {name : String} {c : Char} (h : isName name = true) (hc : c ∈ name.toList) :
    isDrawn c = true ∨ c = '.' := by
  simp only [isName, Bool.and_eq_true, decide_eq_true_eq, List.all_eq_true] at h
  obtain ⟨⟨⟨-, hstart⟩, hdrawn⟩, hend⟩ := h
  rw [← List.take_append_drop 3 name.toList, ← List.take_append_drop 8 (name.toList.drop 3), List.drop_drop,
    hstart, hend, List.mem_append, List.mem_append] at hc
  have hplain (s : String) (hs : s.toList.all (fun c => isDrawn c || c = '.') = true) (hc : c ∈ s.toList) :
      isDrawn c = true ∨ c = '.' := by
    simpa using List.all_eq_true.1 hs c hc
  obtain hc | hc | hc := hc
  · exact hplain "tmp" (by decide) hc
  · exact .inl (hdrawn c hc)
  · exact hplain ".tmp" (by decide) hc

theorem nul_notMem {name : String} (h : isName name = true) : '\x00' ∉ name.toList :=
  fun hc => absurd (isDrawn_of_mem h hc) (by decide)

/-- A scratch name is one that an entry can have. -/
theorem isEntryName_of_isName {name : String} (h : isName name = true) : IsEntryName name := by
  have hlength : name.toList.length = 15 := by
    simp only [isName, Bool.and_eq_true, decide_eq_true_eq] at h
    exact h.1.1.1
  have hne (s : String) (hs : s.toList.length ≠ 15) : name ≠ s := by
    rintro rfl
    exact hs hlength
  have hslash : '/' ∉ name.toList := fun hc => absurd (isDrawn_of_mem h hc) (by decide)
  exact ⟨⟨hne "" (by decide), hne "." (by decide), hslash⟩, hne ".." (by decide)⟩

/-- A way to draw names: what is drawn where some are taken, if one is found. -/
structure Draw where
  name? : List String → Option String
  isName_of_eq_some : ∀ taken name, name? taken = some name → isName name = true
  notMem_of_eq_some : ∀ taken name, name? taken = some name → name ∉ taken

def numbered (n : Nat) : String :=
  let digits := Nat.toDigits 10 n
  String.ofList ("tmp".toList ++ (List.replicate (8 - digits.length) '0' ++ digits) ++ ".tmp".toList)

namespace Draw

/-- The first number is drawn whose name is free. -/
def first : Draw where
  name? taken := ((List.range (taken.length + 1)).map numbered).find? fun name => isName name && !taken.contains name
  isName_of_eq_some taken name h := by
    have hname := List.find?_some h
    simp only [Bool.and_eq_true] at hname
    exact hname.1
  notMem_of_eq_some taken name h := by
    have hname := List.find?_some h
    simp only [Bool.and_eq_true] at hname
    simpa using hname.2

end Draw

end SbtWorkspace.Scratch

namespace SbtWorkspace.Path

/-- The parts of a path with every `..` taken to undo the part before it. -/
def undoParents : List Part → List Part
  | parts => (parts.foldl (fun kept part => if part.name = ".." then kept.tail else part :: kept) []).reverse

/-- A path from the root, read from a working directory. Parents are undone by name alone, so a link
before one has no effect. -/
def absolute (p cwd : Path) : Path :=
  let p := cwd.append p
  { p with parts := undoParents p.parts }

end SbtWorkspace.Path
