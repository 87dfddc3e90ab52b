import Std.Data.HashMap

/-! Tables whose keys are texts or whole numbers. A number and its text are one key, and the keys have an order that
comes from the places at which they are kept: the keys of one place stand with the one that was used last in front.
Main statement: a key has the value that was put there last (`value?_insert`). -/

namespace SbtWorkspace.Simulation.Records

inductive Key where
  | word (text : String)
  | number (n : Int)
  deriving DecidableEq, Repr

/-- The text of a key. -/
def Key.text : Key → String
  | word text => text
  | number n => toString n

/-- A table. Keys are kept by their texts in `words` once one was given as a text, and by their numbers in `numbers` if
they were given as numbers. -/
structure Table (α : Type) where
  values : Std.HashMap String α := ∅
  hasWords : Bool := false
  words : Array (List String) := Array.replicate 64 []
  numbers : Array (List Int) := Array.replicate 64 []

namespace Table

def maxPerPlace : Nat := 12

def wordPlace (size : Nat) (text : String) : Nat :=
  (text.toList.foldl (fun (h : UInt32) c => (h ^^^ UInt32.ofNat c.toNat) * 16777619) 2166136261).toNat % size

def numberPlace (size : Nat) (n : Int) : Nat := (n % (size : Int)).toNat

def toFront [BEq β] (b : β) (row : List β) : List β := b :: row.erase b

def size (t : Table α) : Nat := t.values.size

def value? (t : Table α) (k : Key) : Option α := t.values[k.text]?

def contains (t : Table α) (k : Key) : Bool := t.values.contains k.text

def grown (t : Table α) : Table α :=
  let size := 2 * t.words.size
  let spread {β : Type} (place : Nat → β → Nat) (rows : Array (List β)) : Array (List β) :=
    rows.foldl
      (fun out row => row.foldr (fun b (out : Array (List β)) => out.modify (place size b) (b :: ·)) out)
      (Array.replicate size [])
  { t with words := spread wordPlace t.words, numbers := spread numberPlace t.numbers }

/-- A table whose keys are all kept by their texts. -/
def withWords (t : Table α) : Table α :=
  if t.hasWords then t
  else
    let words := t.numbers.foldl
      (fun words row => row.foldl
        (fun (words : Array (List String)) n =>
          let text := toString n
          words.modify (wordPlace words.size text) (text :: ·)) words)
      (Array.replicate t.words.size [])
    { t with hasWords := true, words }

def roomy (t : Table α) : Table α := if maxPerPlace * t.words.size ≤ t.size then t.grown else t

/-- A table in which a text is the key that was used last at its place. -/
def usedWord (t : Table α) (text : String) : Table α :=
  let t := t.withWords
  let t := if t.values.contains text then t else t.roomy
  { t with words := t.words.modify (wordPlace t.words.size text) (toFront text) }

/-- A table in which a number is the key that was used last at its place. -/
def usedNumber (t : Table α) (n : Int) : Table α :=
  let t :=
    if (t.numbers.getD (numberPlace t.numbers.size n) []).contains n then t
    else if t.hasWords then t.usedWord (toString n)
    else if t.values.contains (toString n) then t
    else t.roomy
  { t with numbers := t.numbers.modify (numberPlace t.numbers.size n) (toFront n) }

/-- A table after the use of a key. -/
def used (t : Table α) : Key → Table α
  | .word text => t.usedWord text
  | .number n => t.usedNumber n

def insert (t : Table α) (k : Key) (a : α) : Table α :=
  let t := t.used k
  { t with values := t.values.insert k.text a }

theorem value?_insert (t : Table α) (k : Key) (a : α) : (t.insert k a).value? k = some a := by
  simp [insert, value?]

def erase (t : Table α) (k : Key) : Table α :=
  if !t.contains k then t
  else
    let text := k.text
    let values := t.values.erase text
    if values.isEmpty then {}
    else
      { t with
        values
        words := t.words.modify (wordPlace t.words.size text) (·.erase text)
        numbers := match text.toInt? with
          | some n => t.numbers.modify (numberPlace t.numbers.size n) (·.erase n)
          | none => t.numbers }

theorem value?_erase (t : Table α) (k : Key) : (t.erase k).value? k = none := by
  unfold erase
  split
  · rename_i h
    simp only [contains, Bool.not_eq_eq_eq_not, Bool.not_true] at h
    simp only [value?]
    exact Std.HashMap.getElem?_eq_none (by simp [← Std.HashMap.contains_iff_mem, h])
  · dsimp only
    split
    · simp [value?]
    · simp [value?]

/-- The keys of a table in their order, and the table after the look at them. -/
def keys (t : Table α) : List String × Table α :=
  let t := t.withWords
  (t.words.toList.flatten, t)

def ofList (items : List α) : Table α :=
  items.zipIdx.foldl (fun t (a, i) => t.insert (.number (i + 1)) a) {}

end Table

end SbtWorkspace.Simulation.Records
