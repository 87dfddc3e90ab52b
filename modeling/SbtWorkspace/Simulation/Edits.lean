/-! Edits that make a row of items another one: which items of the first are dropped, and which of the second are
put in. They are the fewest ones; where there is a choice, the rows are cut where a search from their beginnings and
one from their ends meet, and what is changed stands as late as it can. -/

namespace SbtWorkspace.Simulation

/-- The items of two rows that are changed: dropped from the first, and put into the second. -/
structure Edits where
  dropped : Array Bool
  added : Array Bool

/-- A stretch of changes: where it begins in both rows, and how many items are dropped and added. -/
structure Hunk where
  first : Nat
  dropped : Nat
  second : Nat
  added : Nat
  deriving DecidableEq, Repr

namespace Edits

/-- A part of two rows: where it begins and ends in each of them. -/
structure Part where
  xoff : Nat
  xlim : Nat
  yoff : Nat
  ylim : Nat

/-- How far the searches have come on each diagonal, and between which diagonals. -/
structure Frontier where
  reached : Array Int
  least : Int
  greatest : Int

/-- How far a search has come on a diagonal. -/
def Frontier.at (f : Frontier) (shift d : Int) : Int := (f.reached[(d + shift).toNat]?).getD 0

/-- A frontier with another reach on a diagonal. -/
def Frontier.set (f : Frontier) (shift d x : Int) : Frontier :=
  { f with reached := f.reached.setIfInBounds (d + shift).toNat x }

/-- A frontier with one more diagonal on each side, as far as there are diagonals. -/
def Frontier.widened (f : Frontier) (shift dmin dmax unreached : Int) : Frontier :=
  let f := if dmin < f.least then { f.set shift (f.least - 2) unreached with least := f.least - 1 }
    else { f with least := f.least + 1 }
  if f.greatest < dmax then { f.set shift (f.greatest + 2) unreached with greatest := f.greatest + 1 }
  else { f with greatest := f.greatest - 1 }

def isSame (xs ys : Array Nat) (x y : Int) : Bool := xs[x.toNat]? == ys[y.toNat]?

def slideDown (xs ys : Array Nat) (p : Part) : (fuel : Nat) → (x y : Int) → Int × Int
  | 0, x, y => (x, y)
  | fuel + 1, x, y =>
    if x < p.xlim ∧ y < p.ylim ∧ isSame xs ys x y then slideDown xs ys p fuel (x + 1) (y + 1) else (x, y)

def slideUp (xs ys : Array Nat) (p : Part) : (fuel : Nat) → (x y : Int) → Int × Int
  | 0, x, y => (x, y)
  | fuel + 1, x, y =>
    if p.xoff < x ∧ p.yoff < y ∧ isSame xs ys (x - 1) (y - 1) then slideUp xs ys p fuel (x - 1) (y - 1) else (x, y)

/-- One step of the search from the beginnings, on every second diagonal from the greatest one down. A place where
it meets the other search ends it. -/
def stepDown (xs ys : Array Nat) (p : Part) (shift : Int) (meets : Bool) (other : Frontier) :
    (fuel : Nat) → (d : Int) → Frontier → Frontier × Option (Int × Int)
  | 0, _, f => (f, none)
  | fuel + 1, d, f =>
    if d < f.least then (f, none)
    else
      let (low, high) := (f.at shift (d - 1), f.at shift (d + 1))
      let start := if low < high then high else low + 1
      let (x, y) := slideDown xs ys p (xs.size + 1) start (start - d)
      let f := f.set shift d x
      if meets ∧ other.least ≤ d ∧ d ≤ other.greatest ∧ other.at shift d ≤ x then (f, some (x, y))
      else stepDown xs ys p shift meets other fuel (d - 2) f

def stepUp (xs ys : Array Nat) (p : Part) (shift : Int) (meets : Bool) (other : Frontier) :
    (fuel : Nat) → (d : Int) → Frontier → Frontier × Option (Int × Int)
  | 0, _, f => (f, none)
  | fuel + 1, d, f =>
    if d < f.least then (f, none)
    else
      let (low, high) := (f.at shift (d - 1), f.at shift (d + 1))
      let start := if low < high then low else high - 1
      let (x, y) := slideUp xs ys p (xs.size + 1) start (start - d)
      let f := f.set shift d x
      if meets ∧ other.least ≤ d ∧ d ≤ other.greatest ∧ x ≤ other.at shift d then (f, some (x, y))
      else stepUp xs ys p shift meets other fuel (d - 2) f

def meeting (xs ys : Array Nat) (p : Part) (shift : Int) (odd : Bool) :
    (fuel : Nat) → Frontier → Frontier → Int × Int
  | 0, _, _ => (p.xlim, p.yoff)
  | fuel + 1, down, up =>
    let (dmin, dmax) : Int × Int := ((p.xoff : Int) - p.ylim, (p.xlim : Int) - p.yoff)
    let size := xs.size + ys.size + 2
    let down := down.widened shift dmin dmax (-1)
    match stepDown xs ys p shift odd up size down.greatest down with
    | (_, some place) => place
    | (down, none) =>
      let up := up.widened shift dmin dmax (xs.size + ys.size + 1)
      match stepUp xs ys p shift (!odd) down size up.greatest up with
      | (_, some place) => place
      | (up, none) => meeting xs ys p shift odd fuel down up

def marked (flags : Array Bool) (first last : Nat) : Array Bool :=
  (List.range' first (last - first)).foldl (fun flags i => flags.setIfInBounds i true) flags

/-- The edits of a part, which is cut into smaller ones where the searches meet. -/
def compare (xs ys : Array Nat) : (fuel : Nat) → Part → Edits → Edits
  | 0, p, e => ⟨marked e.dropped p.xoff p.xlim, marked e.added p.yoff p.ylim⟩
  | fuel + 1, p, e =>
    let (x, y) := slideDown xs ys p (xs.size + 1) p.xoff p.yoff
    let p := { p with xoff := x.toNat, yoff := y.toNat }
    let (x, y) := slideUp xs ys p (xs.size + 1) p.xlim p.ylim
    let p := { p with xlim := x.toNat, ylim := y.toNat }
    if p.xoff = p.xlim ∨ p.yoff = p.ylim then ⟨marked e.dropped p.xoff p.xlim, marked e.added p.yoff p.ylim⟩
    else
      let shift : Int := ys.size + 2
      let start (d x : Int) : Frontier := Frontier.set ⟨Array.replicate (xs.size + ys.size + 5) 0, d, d⟩ shift d x
      let (fmid, bmid) : Int × Int := ((p.xoff : Int) - p.yoff, (p.xlim : Int) - p.ylim)
      let odd := (fmid - bmid) % 2 ≠ 0
      let (x, y) := meeting xs ys p shift odd (xs.size + ys.size + 2) (start fmid p.xoff) (start bmid p.xlim)
      let e := compare xs ys fuel { p with xlim := x.toNat, ylim := y.toNat } e
      compare xs ys fuel { p with xoff := x.toNat, yoff := y.toNat } e

/-- A run of changes that is being moved: the flags of its row, where it begins and ends, the place in the other
row, and the end at which it last stood beside a change of the other row. -/
structure Run where
  flags : Array Bool
  start : Nat
  last : Nat
  other : Int
  beside : Nat

def isChanged (flags : Array Bool) (i : Int) : Bool := 0 ≤ i && (flags[i.toNat]?).getD false

/-- The first place from a place on, or before it, whose item is not changed. -/
def skipped (flags : Array Bool) (step : Int) : (fuel : Nat) → Int → Int
  | 0, i => i
  | fuel + 1, i => if isChanged flags i then skipped flags step fuel (i + step) else i

/-- The run moved back as long as the item before it is its last one. -/
def Run.back (items : Array Nat) (others : Array Bool) : (fuel : Nat) → Run → Run
  | 0, r => r
  | fuel + 1, r =>
    if 0 < r.start ∧ items[r.start - 1]? = items[r.last - 1]? then
      let flags := (r.flags.setIfInBounds (r.start - 1) true).setIfInBounds (r.last - 1) false
      let start := (skipped flags (-1) flags.size ((r.start : Int) - 2) + 1).toNat
      Run.back items others fuel
        { r with flags, start, last := r.last - 1, other := skipped others (-1) others.size (r.other - 1) }
    else r

/-- The run moved on as long as the item after it is its first one. -/
def Run.on (items : Array Nat) (others : Array Bool) : (fuel : Nat) → Run → Run
  | 0, r => r
  | fuel + 1, r =>
    if r.last < items.size ∧ items[r.start]? = items[r.last]? then
      let flags := (r.flags.setIfInBounds r.start false).setIfInBounds r.last true
      let last := (skipped flags 1 flags.size ((r.last : Int) + 1)).toNat
      let other := skipped others 1 others.size (r.other + 1)
      Run.on items others fuel
        { flags, start := r.start + 1, last, other, beside := if r.other + 1 < other then last else r.beside }
    else r

def Run.settled (items : Array Nat) (others : Array Bool) : (fuel : Nat) → Run → Run
  | 0, r => r
  | fuel + 1, r =>
    let length := r.last - r.start
    let b := r.back items others (items.size + 1)
    let b := { b with beside := if isChanged others (b.other - 1) then b.last else items.size }
    let f := b.on items others (items.size + 1)
    if f.last - f.start = length then f else Run.settled items others fuel f

/-- The run moved back to where it last stood beside a change of the other row. -/
def Run.aligned (others : Array Bool) : (fuel : Nat) → Run → Run
  | 0, r => r
  | fuel + 1, r =>
    if r.beside < r.last then
      let flags := (r.flags.setIfInBounds (r.start - 1) true).setIfInBounds (r.last - 1) false
      Run.aligned others fuel
        { r with
          flags, start := r.start - 1, last := r.last - 1
          other := skipped others (-1) others.size (r.other - 1) }
    else r

/-- The flags of a row with every run of changes moved to where it is shown, from a place on. -/
def shifted (items : Array Nat) (others : Array Bool) : (fuel : Nat) → (i : Nat) → (j : Int) → Array Bool → Array Bool
  | 0, _, _, flags => flags
  | fuel + 1, i, j, flags =>
    if items.size ≤ i then flags
    else if !isChanged flags i then shifted items others fuel (i + 1) (skipped others 1 others.size j + 1) flags
    else
      let last := (skipped flags 1 flags.size i).toNat
      let r : Run := ⟨flags, i, last, skipped others 1 others.size j, items.size⟩
      let r := (r.settled items others (items.size + 1)).aligned others (items.size + 1)
      shifted items others fuel r.last r.other r.flags

def hunksFrom (e : Edits) : (fuel : Nat) → (i j : Nat) → List Hunk
  | 0, _, _ => []
  | fuel + 1, i, j =>
    if e.dropped.size ≤ i ∧ e.added.size ≤ j then []
    else
      let a := (skipped e.dropped 1 e.dropped.size i).toNat
      let b := (skipped e.added 1 e.added.size j).toNat
      if a = i ∧ b = j then hunksFrom e fuel (i + 1) (j + 1)
      else ⟨i, a - i, j, b - j⟩ :: hunksFrom e fuel a b

def hunks (e : Edits) : List Hunk := e.hunksFrom (2 * (e.dropped.size + e.added.size) + 2) 0 0

/-- The edits that make a row another one, where the rows have no common beginning or end that is left out. Items
that the other row does not have are left out of the search. -/
def ofInner (xs ys : Array Nat) : Edits :=
  let (left, right) := ((List.range xs.size), (List.range ys.size))
  let kept := left.filter fun i => ys.contains ((xs[i]?).getD 0)
  let keptRight := right.filter fun i => xs.contains ((ys[i]?).getD 0)
  let pick (items : Array Nat) (places : List Nat) : Array Nat :=
    (places.map fun i => (items[i]?).getD 0).toArray
  let (us, vs) := (pick xs kept, pick ys keptRight)
  let blank (n : Nat) : Array Bool := Array.replicate n false
  let found := compare us vs (us.size + vs.size + 1) ⟨0, us.size, 0, vs.size⟩ ⟨blank us.size, blank vs.size⟩
  let spread (size : Nat) (places : List Nat) (flags : Array Bool) : Array Bool :=
    (places.zip flags.toList).foldl (fun all p => all.setIfInBounds p.1 p.2) (Array.replicate size true)
  let dropped := spread xs.size kept found.dropped
  let added := spread ys.size keptRight found.added
  let dropped := shifted xs added (xs.size + ys.size + 2) 0 0 dropped
  let added := shifted ys dropped (xs.size + ys.size + 2) 0 0 added
  ⟨dropped, added⟩

/-- How many items two lists have in common at their beginnings. -/
def shared (xs ys : List Nat) : Nat := ((xs.zip ys).takeWhile fun p => p.1 = p.2).length

/-- The edits that make a row another one. What the rows have in common at their beginnings and ends is left out of
the search, but for so many items. -/
def between (context : Nat) (xs ys : List Nat) : Edits :=
  let before := shared xs ys
  let after := shared (xs.drop before).reverse (ys.drop before).reverse
  let (before, after) := (before - context, after - context)
  let inner (items : List Nat) : Array Nat := ((items.drop before).take (items.length - before - after)).toArray
  let e := ofInner (inner xs) (inner ys)
  let whole (flags : Array Bool) : Array Bool :=
    Array.replicate before false ++ flags ++ Array.replicate after false
  ⟨whole e.dropped, whole e.added⟩

end Edits

end SbtWorkspace.Simulation
