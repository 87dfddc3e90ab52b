/-! Regular expressions, and where they fit. Of all the places where an expression fits the first one counts, and
there the longest text; of the ways to fit that text, the one in which the parts that come first are longest. Main
statement: where small and great letters differ, the expression for a character fits that character alone
(`ends_char`). -/

namespace SbtWorkspace.Simulation

/-- A place in a text that an expression can ask for. -/
inductive Boundary where
  | lineStart
  | lineEnd
  | textStart
  | textEnd
  | wordStart
  | wordEnd
  | wordEdge
  | noWordEdge
  deriving DecidableEq, Repr

inductive Regex where
  | empty
  /-- A character that is in one of the ranges, or one that is in none of them. -/
  | one (negated : Bool) (ranges : List (Char × Char))
  | place (b : Boundary)
  | sequence (first second : Regex)
  | either (first second : Regex)
  | repeated (least : Nat) (most : Option Nat) (r : Regex)
  | group (number : Nat) (r : Regex)
  /-- The text of a group once more. -/
  | again (number : Nat)
  deriving DecidableEq, Repr

namespace Regex

/-- The expression for a character. -/
def char (c : Char) : Regex := one false [(c, c)]

/-- The expression for any character. -/
def any : Regex := one true []

def literal (cs : List Char) : Regex := cs.foldr (fun c r => sequence (char c) r) empty

def hasAgain : Regex → Bool
  | again _ => true
  | sequence a b | either a b => a.hasAgain || b.hasAgain
  | repeated _ _ r | group _ r => r.hasAgain
  | _ => false

def groups : Regex → Nat
  | sequence a b | either a b => a.groups + b.groups
  | repeated _ _ r => r.groups
  | group _ r => r.groups + 1
  | _ => 0

/-- A text in which expressions are looked for. Small and great letters may be the same, and lines in it may have
their own starts and ends. -/
structure Subject where
  text : Array Char
  folds : Bool := false
  isLined : Bool := false

/-- Where groups fit: the number of each, and where its text begins and ends. -/
abbrev Fits := List (Nat × Nat × Nat)

abbrev Reach := Nat × Fits

namespace Subject

def isWordPart (c : Char) : Bool := c.isAlphanum || c = '_'

def isWordAt (s : Subject) (i : Nat) : Bool := (s.text[i]?).any isWordPart

def isWordBefore (s : Subject) (i : Nat) : Bool := 0 < i && s.isWordAt (i - 1)

def isAt (s : Subject) (i : Nat) : Boundary → Bool
  | .textStart => i = 0
  | .textEnd => i = s.text.size
  | .lineStart => i = 0 || (s.isLined && s.text[i - 1]? = some '\n')
  | .lineEnd => i = s.text.size || (s.isLined && s.text[i]? = some '\n')
  | .wordStart => s.isWordAt i && !s.isWordBefore i
  | .wordEnd => s.isWordBefore i && !s.isWordAt i
  | .wordEdge => s.isWordAt i != s.isWordBefore i
  | .noWordEdge => s.isWordAt i == s.isWordBefore i

def isSame (s : Subject) (c d : Char) : Bool := c = d || (s.folds && c.toLower = d.toLower)

/-- Whether a character is one that is asked for. -/
def accepts (s : Subject) (negated : Bool) (ranges : List (Char × Char)) (c : Char) : Bool :=
  let isIn (c : Char) : Bool := ranges.any fun r => r.1 ≤ c && c ≤ r.2
  (isIn c || (s.folds && (isIn c.toLower || isIn c.toUpper))) != negated

def standsAgain (s : Subject) (first last at_ : Nat) : Bool :=
  (List.range (last - first)).all fun i =>
    match s.text[first + i]?, s.text[at_ + i]? with
    | some c, some d => s.isSame c d
    | _, _ => false

end Subject

/-- The first of all reaches that come equally far. Where the text of groups matters, they must have fitted in the
same way too. -/
def distinct (size : Nat) (byGroups : Bool) (found : List Reach) : List Reach :=
  if byGroups then found.eraseDups
  else
    (found.foldl
      (fun (done : Array Bool × List Reach) r =>
        if done.1.getD r.1 true then done else (done.1.setIfInBounds r.1 true, r :: done.2))
      (Array.replicate (size + 1) false, [])).2.reverse

def farthestFirst (found : List Reach) : List Reach := found.mergeSort fun a b => b.1 ≤ a.1

/-- The reaches after a step that is made as often as it comes farther, from the farthest steps on. -/
def closure (step : Reach → List Reach) :
    (fuel : Nat) → (seen : List Reach) → (isSeen : List Reach → Reach → Bool) → List Reach → List Reach
  | 0, seen, _, _ => seen.reverse
  | _, seen, _, [] => seen.reverse
  | fuel + 1, seen, isSeen, r :: rest =>
    if isSeen seen r then closure step fuel seen isSeen rest
    else closure step fuel (r :: seen) isSeen ((step r).filter (fun next => r.1 < next.1) ++ rest)

/-- The reaches after a step that is made some times at most. -/
def atMost (step : Reach → List Reach) : (count : Nat) → Reach → List Reach
  | 0, r => [r]
  | count + 1, r => ((step r).filter fun next => r.1 < next.1).flatMap (atMost step count) ++ [r]

/-- The reaches after a step that is made exactly some times. -/
def exactly (step : Reach → List Reach) : (count : Nat) → Reach → List Reach
  | 0, r => [r]
  | count + 1, r => (step r).flatMap (exactly step count)

/-- How far an expression fits from a place on, the farthest end first. -/
def ends (s : Subject) (byGroups : Bool) : Regex → Reach → List Reach
  | empty, r => [r]
  | one negated ranges, (i, fits) =>
    match s.text[i]? with
    | some c => if s.accepts negated ranges c then [(i + 1, fits)] else []
    | none => []
  | place b, (i, fits) => if s.isAt i b then [(i, fits)] else []
  | sequence a b, r =>
    farthestFirst (distinct s.text.size byGroups ((ends s byGroups a r).flatMap (ends s byGroups b)))
  | either a b, r =>
    farthestFirst (distinct s.text.size byGroups (ends s byGroups a r ++ ends s byGroups b r))
  | repeated least most r, from_ =>
    let step := ends s byGroups r
    let begun := distinct s.text.size byGroups (exactly step least from_)
    let all := match most with
      | some most => begun.flatMap (atMost step (most - least))
      | none =>
        let size := s.text.size + 2
        let isSeen (seen : List Reach) (r : Reach) : Bool :=
          if byGroups then seen.contains r else seen.any fun e => e.1 = r.1
        closure step (size * size * size) [] isSeen begun
    farthestFirst (distinct s.text.size byGroups all)
  | group n r, (i, fits) =>
    (ends s byGroups r (i, fits)).map fun (e, inner) => (e, (n, i, e) :: inner.filter fun f => f.1 ≠ n)
  | again n, (i, fits) =>
    match fits.find? fun f => f.1 = n with
    | some (_, first, last) =>
      if s.standsAgain first last i then [(i + (last - first), fits)] else []
    | none => []

theorem accepts_char {s : Subject} (h : s.folds = false) (c d : Char) :
    s.accepts false [(c, c)] d = (d == c) := by
  have hc : (c ≤ d ∧ d ≤ c) ↔ d = c := ⟨fun h => Char.le_antisymm h.2 h.1, fun h => by simp [h]⟩
  simp only [Subject.accepts, h, List.any_cons, List.any_nil, Bool.or_false, Bool.false_and, Bool.bne_false]
  rw [Bool.eq_iff_iff]
  simpa using hc

theorem ends_char {s : Subject} (h : s.folds = false) (byGroups : Bool) (c : Char) (i : Nat) (fits : Fits) :
    ends s byGroups (char c) (i, fits) = if s.text[i]? = some c then [(i + 1, fits)] else [] := by
  unfold char ends
  split
  · rename_i d hd
    simp [accepts_char h, hd]
  · rename_i hd
    simp [hd]

/-- Where an expression fits first from a place on with a text that is wanted: where the text begins and ends, and
where its groups do. -/
def searchFor (r : Regex) (s : Subject) (isWanted : Nat → Nat → Bool) (start : Nat) : Option (Nat × Nat × Fits) :=
  let byGroups := r.hasAgain
  (List.range' start (s.text.size + 1 - start)).findSome? fun i =>
    ((ends s byGroups r (i, [])).find? fun e => isWanted i e.1).map fun (e, fits) => (i, e, fits)

/-- Where an expression fits first from a place on. -/
def search (r : Regex) (s : Subject) (start : Nat) : Option (Nat × Nat × Fits) :=
  r.searchFor s (fun _ _ => true) start

/-- All places where an expression fits one after the other from a place on, as long as they do not overlap. -/
def searchAll (r : Regex) (s : Subject) (isWanted : Nat → Nat → Bool) :
    (fuel : Nat) → (start : Nat) → List (Nat × Nat × Fits)
  | 0, _ => []
  | fuel + 1, start =>
    match r.searchFor s isWanted start with
    | some (first, last, fits) =>
      (first, last, fits) :: searchAll r s isWanted fuel (if first < last then last else last + 1)
    | none => []

def isIn (r : Regex) (s : Subject) : Bool := (r.search s 0).isSome

def textOf (s : Subject) (fits : Fits) (number : Nat) : Option (List Char) :=
  (fits.find? fun f => f.1 = number).map fun f => (s.text.extract f.2.1 f.2.2).toList

end Regex

end SbtWorkspace.Simulation
