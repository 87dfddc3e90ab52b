/-! Paths as they are written: a root and the names below it. Repeated slashes, `.` and a trailing
slash carry no meaning and are not kept; `..` is, since a symbolic link may stand before it.
Main statement: `Path.parse_render`, by which the written form loses nothing. -/

namespace SbtWorkspace

namespace Path

/-- What a name below the root may be: not empty, not `.`, and without a slash. -/
def IsPart (name : String) : Prop := name ≠ "" ∧ name ≠ "." ∧ '/' ∉ name.toList

instance (name : String) : Decidable (IsPart name) := inferInstanceAs (Decidable (_ ∧ _ ∧ _))

/-- A name below the root of a path. -/
structure Part where
  name : String
  isPart : IsPart name
  deriving DecidableEq

/-- What a path starts with. Two leading slashes are kept apart from one; three or more are one. -/
inductive Root where
  | none
  | slash
  | doubleSlash
  deriving DecidableEq, Repr

end Path

/-- A path: its root and the names below it, outermost first. -/
structure Path where
  root : Path.Root
  parts : List Path.Part
  deriving DecidableEq

namespace Path

/-- The part with these characters, unless they carry no meaning in a path. -/
def Part.ofChars? (cs : List Char) : Option Part :=
  if h : IsPart (String.ofList cs) then some ⟨String.ofList cs, h⟩ else none

def Root.ofSlashes : Nat → Root
  | 0 => .none
  | 2 => .doubleSlash
  | _ => .slash

def Root.chars : Root → List Char
  | .none => []
  | .slash => ['/']
  | .doubleSlash => ['/', '/']

/-- Reads a path. -/
def parse (s : String) : Path where
  root := .ofSlashes (s.toList.takeWhile (· = '/')).length
  parts := (List.splitOn '/' s.toList).filterMap Part.ofChars?

def joinParts (parts : List Part) : List Char :=
  ['/'].intercalate (parts.map fun p => p.name.toList)

/-- The written form; the empty path is written as a point. -/
def render (p : Path) : String :=
  if p.root = .none ∧ p.parts = [] then "."
  else String.ofList (p.root.chars ++ joinParts p.parts)

/-- Whether a path starts at the root of the file system. -/
def isAbsolute (p : Path) : Bool := p.root ≠ .none

/-- The second path read from the first; an absolute one replaces it. -/
def append (p q : Path) : Path := if q.isAbsolute then q else { p with parts := p.parts ++ q.parts }

instance : HDiv Path String Path := ⟨fun p s => p.append (parse s)⟩

/-- The path without its last name; a path without names is its own parent. -/
def parent (p : Path) : Path := { p with parts := p.parts.dropLast }

/-- The last name, or the empty string. -/
def name (p : Path) : String := (p.parts.getLast?.map (·.name)).getD ""

end Path

/-- The suffix of a file name: its last point and what follows, if neither side is empty. -/
def fileSuffix (name : String) : String :=
  let cs := name.toList
  let tail := (cs.reverse.takeWhile (· ≠ '.')).reverse
  let stem := cs.length - tail.length - 1
  if tail.length < cs.length ∧ tail ≠ [] ∧ 0 < stem then String.ofList ('.' :: tail) else ""

namespace Path

theorem Part.toList_ne_nil (p : Part) : p.name.toList ≠ [] := by
  intro h
  have h' := congrArg String.ofList h
  exact p.isPart.1 (by simpa using h')

theorem Part.ofChars?_toList (p : Part) : Part.ofChars? p.name.toList = some p := by
  have h : IsPart (String.ofList p.name.toList) := by simpa using p.isPart
  simp [Part.ofChars?, p.isPart]

@[simp] theorem Part.ofChars?_nil : Part.ofChars? [] = none := by decide

theorem parts_splitOn_joinParts (parts : List Part) :
    (List.splitOn '/' (joinParts parts)).filterMap Part.ofChars? = parts := by
  induction parts with
  | nil => simp [joinParts, List.intercalate]
  | cons p ps ih =>
    cases ps with
    | nil =>
      simp [joinParts, List.intercalate, List.splitOn_eq_singleton p.isPart.2.2, Part.ofChars?_toList]
    | cons q qs =>
      have hj : joinParts (p :: q :: qs) = p.name.toList ++ '/' :: joinParts (q :: qs) := by
        simp [joinParts, List.intercalate]
      rw [hj, List.splitOn_append_cons_self_of_not_mem p.isPart.2.2, List.filterMap_cons,
        Part.ofChars?_toList]
      simp [ih]

theorem takeWhile_joinParts (parts : List Part) :
    (joinParts parts).takeWhile (· = '/') = [] := by
  cases parts with
  | nil => simp [joinParts, List.intercalate]
  | cons p ps =>
    obtain ⟨c, cs, hc⟩ := List.exists_cons_of_ne_nil p.toList_ne_nil
    have hne : c ≠ '/' := by
      intro e
      exact p.isPart.2.2 (by rw [hc, e]; simp)
    cases ps with
    | nil => simp [joinParts, List.intercalate, hc, hne]
    | cons q qs => simp [joinParts, List.intercalate, hc, hne]

/-- Reading what was written gives the path back. -/
theorem parse_render (p : Path) : parse p.render = p := by
  obtain ⟨root, parts⟩ := p
  unfold render
  split
  · rename_i h
    obtain ⟨h₁, h₂⟩ := h
    simp only at h₁ h₂
    subst h₁ h₂
    decide
  · cases root with
    | none =>
      simp [parse, Root.chars, takeWhile_joinParts, Root.ofSlashes, parts_splitOn_joinParts]
    | slash =>
      simp [parse, Root.chars, takeWhile_joinParts, Root.ofSlashes,
        List.splitOn_cons_eq_if_modifyHead, parts_splitOn_joinParts]
    | doubleSlash =>
      simp [parse, Root.chars, takeWhile_joinParts, Root.ofSlashes,
        List.splitOn_cons_eq_if_modifyHead, parts_splitOn_joinParts]

/-- A name is a path of one part. -/
theorem parse_of_isPart {name : String} (h : IsPart name) : parse name = ⟨.none, [⟨name, h⟩]⟩ := by
  have hr : parse name = parse (render ⟨.none, [⟨name, h⟩]⟩) := by
    simp [render, Root.chars, joinParts, List.intercalate]
  rw [hr, parse_render]

/-- A name is added to a path as its last part. -/
theorem div_of_isPart (p : Path) {name : String} (h : IsPart name) :
    p / name = ⟨p.root, p.parts ++ [⟨name, h⟩]⟩ := by
  show p.append (parse name) = _
  rw [parse_of_isPart h]
  rfl

/-- A path written with a slash at its end, if it has names. -/
def stem (p : Path) : String :=
  String.ofList (p.root.chars ++ p.parts.flatMap fun part => part.name.toList ++ ['/'])

theorem joinParts_append (parts : List Part) (part : Part) :
    joinParts (parts ++ [part]) = (parts.flatMap fun q => q.name.toList ++ ['/']) ++ part.name.toList := by
  induction parts with
  | nil => simp [joinParts, List.intercalate]
  | cons q rest ih =>
    have hne : (rest ++ [part]).map (fun p => p.name.toList) ≠ [] := by simp
    obtain ⟨a, as, ha⟩ := List.exists_cons_of_ne_nil hne
    have hj : joinParts (q :: (rest ++ [part])) = q.name.toList ++ '/' :: joinParts (rest ++ [part]) := by
      simp [joinParts, List.intercalate, ha]
    rw [List.cons_append, hj, ih]
    simp

/-- A name is written behind the path that it is added to. -/
theorem render_div (p : Path) {name : String} (h : IsPart name) :
    (p / name).render = p.stem ++ name := by
  rw [div_of_isPart p h, render, if_neg (by simp), joinParts_append, stem, ← List.append_assoc,
    String.ofList_append, String.ofList_toList]

theorem stem_div (p : Path) {name : String} (h : IsPart name) :
    (p / name).stem = p.stem ++ (name ++ "/") := by
  rw [div_of_isPart p h, stem, stem, List.flatMap_append, ← List.append_assoc, String.ofList_append]
  simp [String.ofList_append]

/-- Below a path that has names, a name is written after a slash. -/
theorem render_div_of_ne_nil {p : Path} (hp : p.parts ≠ []) {name : String} (h : IsPart name) :
    (p / name).render = p.render ++ ("/" ++ name) := by
  obtain ⟨root, parts⟩ := p
  obtain ⟨init, last, rfl⟩ : ∃ init last, parts = init ++ [last] :=
    ⟨_, _, (List.dropLast_concat_getLast hp).symm⟩
  rw [render_div _ h, stem, render, if_neg (by simp), joinParts_append]
  simp [String.ofList_append, String.append_assoc]

/-- Apart from the slash between them, what is written is that of the path and of the name. -/
theorem mem_render_div {p : Path} {name : String} (h : IsPart name) {c : Char} (hc : c ≠ '/')
    (hm : c ∈ (p / name).render.toList) : c ∈ p.render.toList ∨ c ∈ name.toList := by
  by_cases hp : p.parts = []
  · rw [render_div p h, stem, hp, String.toList_append, List.mem_append] at hm
    refine hm.imp_left fun hroot => absurd ?_ hc
    cases hr : p.root <;> simp_all [Root.chars]
  · rw [render_div_of_ne_nil hp h, String.toList_append, String.toList_append, List.mem_append,
      List.mem_append] at hm
    refine hm.imp_right fun hm => hm.resolve_left ?_
    simpa using hc

/-- No path is written as the empty text. -/
theorem render_ne_empty (p : Path) : p.render ≠ "" := by
  intro h
  have hp := parse_render p
  rw [h] at hp
  rw [← hp] at h
  exact absurd h (by decide)

end Path

end SbtWorkspace
