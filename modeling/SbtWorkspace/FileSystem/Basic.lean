import SbtWorkspace.Path.Basic
import SbtWorkspace.Text.Utf8

/-! A file system as a finite map from locations to nodes. A location is free of symbolic links,
and what stands at one stands in a directory, under a name that a path can have. The views are `lookup`
and `names`; `lookup_place`, `lookup_remove` and their like say what the two ways to change a file system
do to them.

The file systems are trees: a file has one name, so none is known by two (there are no hard links). A
permission counts where it closes a regular file altogether (`Node.sealed`) or lets it be run; directories are
open to everyone. Names are strings, so none holds octets that are no text. Owners and times are left out. -/

namespace SbtWorkspace

/-- A place in a file system: the names on the way to it, innermost first. The root has none. -/
abbrev Location := List String

/-- A device, which is no regular file: it loses what is written to it, and gives nothing or zeros; or it
stands for what a program is given under the number of a descriptor. -/
inductive Device where
  | null
  | zero
  | standard (descriptor : Nat)
  deriving DecidableEq, Repr

/-- What can stand at a location. -/
inductive Node where
  | directory
  | file (bytes : Bytes) (executable : Bool)
  /-- A regular file that may be neither read nor written. -/
  | sealed
  | link (target : String)
  | device (kind : Device)
  deriving DecidableEq

def Node.isRegular : Node → Bool
  | file _ _ | sealed => true
  | directory | link _ | device _ => false

theorem Node.isRegular_iff {node : Node} :
    node.isRegular = true ↔ (∃ bytes executable, node = .file bytes executable) ∨ node = .sealed := by
  cases node <;> simp [isRegular]

/-- How many zeros a reader of a device takes that gives zeros without end. -/
def Device.supply : Nat := 65536

/-- What a device gives to a reader. -/
def Device.bytes : Device → Bytes
  | null | standard _ => []
  | zero => List.replicate supply 0

namespace FileSystem

/-- The node that a list of entries has at a location; the root is always a directory. -/
def find (entries : List (Location × Node)) : Location → Option Node
  | [] => some .directory
  | name :: parent => (entries.find? fun e => e.1 = name :: parent).map (·.2)

end FileSystem

/-- What the name of an entry may be: a name of a path, but not the one that leads up. -/
def IsEntryName (name : String) : Prop := Path.IsPart name ∧ name ≠ ".."

instance (name : String) : Decidable (IsEntryName name) := inferInstanceAs (Decidable (_ ∧ _))

/-- A file system: its entries, each of which has a name and stands in a directory. -/
structure FileSystem where
  entries : List (Location × Node)
  isEntryName : ∀ e ∈ entries, ∀ name parent, e.1 = name :: parent → IsEntryName name
  parent_isDirectory : ∀ name parent,
    (FileSystem.find entries (name :: parent)).isSome →
      FileSystem.find entries parent = some .directory

namespace FileSystem

/-- The node at a location. -/
def lookup (fs : FileSystem) (loc : Location) : Option Node := find fs.entries loc

/-- The file system that holds nothing but the root. -/
def empty : FileSystem := ⟨[], fun _ h => (nomatch h), fun _ _ h => nomatch h⟩

@[simp] theorem lookup_root (fs : FileSystem) : fs.lookup [] = some .directory := rfl

theorem lookup_parent {fs : FileSystem} {name : String} {parent : Location}
    (h : (fs.lookup (name :: parent)).isSome) : fs.lookup parent = some .directory :=
  fs.parent_isDirectory name parent h

/-- Nothing stands below a location that is not a directory. -/
theorem lookup_child_of_not_directory {fs : FileSystem} {loc : Location} (name : String)
    (h : fs.lookup loc ≠ some .directory) : fs.lookup (name :: loc) = none := by
  cases hc : fs.lookup (name :: loc) with
  | none => rfl
  | some n => exact absurd (@lookup_parent fs name loc (by simp [hc])) h

/-- The entries that pass a test hold the same node at every location all of whose entries pass it. -/
theorem find_filter_of_pass {entries : List (Location × Node)} {pass : Location × Node → Bool}
    {q : Location} (h : ∀ e, e.1 = q → pass e = true) :
    find (entries.filter pass) q = find entries q := by
  cases q with
  | nil => rfl
  | cons n p =>
    simp only [find, List.find?_filter]
    congr 2
    funext e
    by_cases he : e.1 = n :: p <;> simp [he, h e]

/-- The entries that pass a test hold nothing at a location none of whose entries passes it. -/
theorem find_filter_of_fail {entries : List (Location × Node)} {pass : Location × Node → Bool}
    {q : Location} (hq : q ≠ []) (h : ∀ e, e.1 = q → pass e = false) :
    find (entries.filter pass) q = none := by
  cases q with
  | nil => exact absurd rfl hq
  | cons n p =>
    simp only [find, List.find?_filter, Option.map_eq_none_iff, List.find?_eq_none]
    intro e _
    by_cases he : e.1 = n :: p
    · simp [h e he]
    · simp [he]

/-- The entries with a node at a location, in place of the one that stands there or else before all
others. -/
def override (entries : List (Location × Node)) (loc : Location) (node : Node) : List (Location × Node) :=
  if entries.any fun e => e.1 = loc then entries.map fun e => if e.1 = loc then (loc, node) else e
  else (loc, node) :: entries

theorem mem_override {entries : List (Location × Node)} {loc : Location} {node : Node}
    {e : Location × Node} (h : e ∈ override entries loc node) : e ∈ entries ∨ e = (loc, node) := by
  unfold override at h
  split at h
  · obtain ⟨e', he', rfl⟩ := List.mem_map.1 h
    split
    · exact .inr rfl
    · exact .inl he'
  · rcases List.mem_cons.1 h with rfl | h
    · exact .inr rfl
    · exact .inl h

theorem find?_map_override (entries : List (Location × Node)) (loc q : Location) (node : Node) :
    ((entries.map fun e => if e.1 = loc then (loc, node) else e).find? fun e => e.1 = q).map (·.2) =
      if q = loc ∧ entries.any (fun e => e.1 = loc) then some node
      else (entries.find? fun e => e.1 = q).map (·.2) := by
  induction entries with
  | nil => simp
  | cons e entries ih =>
    rw [List.map_cons, List.find?_cons, List.find?_cons, List.any_cons]
    by_cases he : e.1 = loc
    · by_cases hq : loc = q
      · simp [he, hq]
      · have hq' : ¬ q = loc := fun h => hq h.symm
        simpa [he, hq, hq'] using ih
    · by_cases hq : e.1 = q
      · have hq' : ¬ q = loc := fun h => he (hq.trans h)
        simp [hq, hq']
      · have ha : (decide (e.1 = loc) || entries.any fun e => decide (e.1 = loc)) =
            entries.any fun e => decide (e.1 = loc) := by simp [he]
        rw [if_neg he, ha]
        simpa [hq] using ih

theorem find_override (entries : List (Location × Node)) (name : String) (parent q : Location)
    (node : Node) :
    find (override entries (name :: parent) node) q =
      if q = name :: parent then some node else find entries q := by
  cases q with
  | nil => simp [find]
  | cons n p =>
    unfold override
    split
    · rename_i h
      simp only [find, find?_map_override, h, and_true]
    · by_cases hq : n :: p = name :: parent
      · simp [find, hq]
      · have hq' : ¬ name :: parent = n :: p := fun h => hq h.symm
        simp [find, hq, hq']

/-- The file system with a node at `name` in the directory `parent`, where no directory may stand;
the same file system if there is no such place. -/
def place (fs : FileSystem) (parent : Location) (name : String) (node : Node) : FileSystem :=
  if h : IsEntryName name ∧ fs.lookup parent = some .directory ∧
      fs.lookup (name :: parent) ≠ some .directory then
    { entries := override fs.entries (name :: parent) node
      isEntryName := by
        intro e he n p hk
        rcases mem_override he with he | rfl
        · exact fs.isEntryName e he n p hk
        · injection hk with hn
          exact hn ▸ h.1
      parent_isDirectory := by
        intro n p hs
        rw [find_override] at hs ⊢
        by_cases hq : n :: p = name :: parent
        · injection hq with _ hp
          subst hp
          have hp : p ≠ name :: p := by simp
          rw [if_neg hp]
          exact h.2.1
        · rw [if_neg hq] at hs
          have hd := fs.parent_isDirectory n p hs
          have : p ≠ name :: parent := by
            intro e
            subst e
            exact h.2.2 hd
          simpa [this] using hd }
  else fs

theorem entries_place {fs : FileSystem} {parent : Location} {name : String} {node : Node}
    (hname : IsEntryName name) (hp : fs.lookup parent = some .directory)
    (hn : fs.lookup (name :: parent) ≠ some .directory) :
    (fs.place parent name node).entries = override fs.entries (name :: parent) node := by
  unfold place
  rw [dif_pos ⟨hname, hp, hn⟩]

theorem lookup_place {fs : FileSystem} {parent : Location} {name : String} {node : Node}
    (hname : IsEntryName name) (hp : fs.lookup parent = some .directory)
    (hn : fs.lookup (name :: parent) ≠ some .directory) (q : Location) :
    (fs.place parent name node).lookup q = if q = name :: parent then some node else fs.lookup q := by
  unfold lookup
  rw [entries_place hname hp hn]
  exact find_override ..

theorem find_filter_suffix (entries : List (Location × Node)) (loc q : Location) :
    find (entries.filter fun e => !loc.isSuffixOf e.1) q =
      if q ≠ [] ∧ loc <:+ q then none else find entries q := by
  split
  · rename_i h
    exact find_filter_of_fail h.1 (by intro e he; simp [he, h.2])
  · rename_i h
    cases q with
    | nil => rfl
    | cons n p =>
      refine find_filter_of_pass ?_
      intro e he
      simp only [ne_eq, reduceCtorEq, not_false_eq_true, true_and] at h
      simpa [he, ← List.isSuffixOf_iff_suffix] using h

/-- The file system without the node at a location and all that stands below it. -/
def remove (fs : FileSystem) (loc : Location) : FileSystem where
  entries := fs.entries.filter fun e => !loc.isSuffixOf e.1
  isEntryName := fun e he => fs.isEntryName e (List.mem_filter.1 he).1
  parent_isDirectory := by
    intro n p hs
    rw [find_filter_suffix] at hs ⊢
    by_cases hq : loc <:+ n :: p
    · simp [hq] at hs
    · have hp : ¬ loc <:+ p := fun h => hq (h.trans (List.suffix_cons n p))
      simp only [ne_eq, reduceCtorEq, not_false_eq_true, true_and, hq, if_false] at hs
      simp only [hp, and_false, if_false]
      exact fs.parent_isDirectory n p hs

theorem lookup_remove (fs : FileSystem) (loc q : Location) :
    (fs.remove loc).lookup q = if q ≠ [] ∧ loc <:+ q then none else fs.lookup q :=
  find_filter_suffix ..

def nameIn (loc : Location) : Location → Option String
  | name :: parent => if parent = loc then some name else none
  | [] => none

/-- The names in a directory. -/
def names (fs : FileSystem) (loc : Location) : List String :=
  fs.entries.filterMap fun e => nameIn loc e.1

theorem nameIn_eq_some_iff {loc q : Location} {name : String} :
    nameIn loc q = some name ↔ q = name :: loc := by
  cases q with
  | nil => simp [nameIn]
  | cons n p =>
    by_cases hp : p = loc <;> simp [nameIn, hp]

/-- Something stands at a location if and only if there is an entry for it. -/
theorem isSome_lookup_iff {fs : FileSystem} {name : String} {parent : Location} :
    (fs.lookup (name :: parent)).isSome ↔ ∃ e ∈ fs.entries, e.1 = name :: parent := by
  simp [lookup, find]

/-- A directory lists what stands in it. -/
theorem mem_names_iff {fs : FileSystem} {loc : Location} {name : String} :
    name ∈ fs.names loc ↔ (fs.lookup (name :: loc)).isSome := by
  rw [isSome_lookup_iff, names, List.mem_filterMap]
  simp only [nameIn_eq_some_iff]

theorem isEntryName_of_lookup {fs : FileSystem} {name : String} {parent : Location}
    (h : (fs.lookup (name :: parent)).isSome) : IsEntryName name := by
  obtain ⟨e, he, hk⟩ := isSome_lookup_iff.1 h
  exact fs.isEntryName e he name parent hk

/-- What takes the place of something is listed where that was listed. -/
theorem names_place_of_some {fs : FileSystem} {parent : Location} {name : String} {node : Node}
    (hs : (fs.lookup (name :: parent)).isSome) (hn : fs.lookup (name :: parent) ≠ some .directory)
    (loc : Location) : (fs.place parent name node).names loc = fs.names loc := by
  have ha : fs.entries.any (fun e => e.1 = name :: parent) = true := by
    simpa using isSome_lookup_iff.1 hs
  rw [names, entries_place (isEntryName_of_lookup hs) (lookup_parent hs) hn, override, if_pos ha,
    List.filterMap_map, names]
  congr 1
  funext e
  by_cases he : e.1 = name :: parent <;> simp [he]

/-- What is new in a directory is listed first. -/
theorem names_place_of_none {fs : FileSystem} {parent : Location} {name : String} {node : Node}
    (hname : IsEntryName name) (hp : fs.lookup parent = some .directory)
    (hn : fs.lookup (name :: parent) = none) (loc : Location) :
    (fs.place parent name node).names loc =
      if parent = loc then name :: fs.names loc else fs.names loc := by
  have ha : ¬ fs.entries.any (fun e => e.1 = name :: parent) = true := by
    intro ha
    have hs : (fs.lookup (name :: parent)).isSome :=
      isSome_lookup_iff.2 (by simpa using ha)
    simp [hn] at hs
  rw [names, entries_place hname hp (by simp [hn]), override, if_neg ha, List.filterMap_cons]
  by_cases hl : parent = loc <;> simp [nameIn, hl, names]

/-- What is removed is listed no more. -/
theorem names_remove (fs : FileSystem) (loc q : Location) :
    (fs.remove loc).names q = (fs.names q).filter fun name => !loc.isSuffixOf (name :: q) := by
  simp only [names, remove, List.filter_filterMap, List.filterMap_filter]
  congr 1
  funext e
  cases h : nameIn q e.1 with
  | none => simp
  | some name =>
    rw [nameIn_eq_some_iff.1 h]
    by_cases hs : loc.isSuffixOf (name :: q) <;> simp [hs, Option.filter]

/-- The directories of a file system. -/
def directories (fs : FileSystem) : List Location :=
  [] :: (fs.entries.filter fun e => e.2 = .directory).map (·.1)

theorem mem_directories {fs : FileSystem} {loc : Location}
    (h : fs.lookup loc = some .directory) : loc ∈ fs.directories := by
  cases loc with
  | nil => simp [directories]
  | cons n p =>
    simp only [lookup, find, Option.map_eq_some_iff] at h
    obtain ⟨e, he, hd⟩ := h
    have hm := List.mem_of_find?_eq_some he
    have hk : e.1 = n :: p := by simpa using List.find?_some he
    simp only [directories, List.mem_cons, reduceCtorEq, false_or, List.mem_map, List.mem_filter]
    exact ⟨e, ⟨hm, by simp [hd]⟩, hk⟩

end FileSystem

/-- The written form of a location, from the root. -/
def Location.render (loc : Location) : String :=
  "/" ++ "/".intercalate loc.reverse

end SbtWorkspace
