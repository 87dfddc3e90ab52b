import Mathlib.Data.List.Forall2
import SbtWorkspace.Proofs.Terminal.Sequence
import SbtWorkspace.Text.ShellWord

/-! The words that a shell reads from a command line, after its rules for quotes. What is written between
single quotes is read as it is, so the words of a written line are read again; and they are when control
sequences have been left out of the line, but for those in the words. Main statement: `split_join`. -/

namespace SbtWorkspace.ShellWord

open Terminal

variable {c : CodePoint} {w rest form : Text} {words forms : List Text} {word : Option Text}

/-! ## Reading -/

/-- Where a reader of a command line stands: outside quotes or between quotes of a kind, and whether right
after a backslash. -/
inductive Mode where
  | bare
  | bareBackslash
  | single
  | double
  | doubleBackslash
  deriving DecidableEq

/-- What has a meaning of its own outside quotes: operators, expansions, patterns and comments. -/
def active : List Char := "|&;<>()$\x60*?[]#~!\x7b\x7d".toList

def activeQuoted : List Char := "$\x60\"\\".toList

def isAny (cs : List Char) (c : CodePoint) : Bool := cs.any fun d => c = d

def extend (word : Option Text) (t : Text) : Option Text := some (word.getD [] ++ t)

/-- The words of one simple command, of which `word` is read in part. There are none if a quotation is not
closed, if something active stands outside quotes, or if a further command follows. -/
def splitFrom : Mode → Option Text → Text → Option (List Text)
  | .bare, word, [] => some word.toList
  | _, _, [] => none
  | .bare, word, c :: rest =>
    if c = '\n' then if rest = [] then some word.toList else none
    else if c = ' ' ∨ c = '\t' then (splitFrom .bare none rest).map (word.toList ++ ·)
    else if c = '\x27' then splitFrom .single (extend word []) rest
    else if c = '"' then splitFrom .double (extend word []) rest
    else if c = '\\' then splitFrom .bareBackslash word rest
    else if isAny active c then none
    else splitFrom .bare (extend word [c]) rest
  | .bareBackslash, word, c :: rest =>
    splitFrom .bare (if c = '\n' then word else extend word [c]) rest
  | .single, word, c :: rest =>
    if c = '\x27' then splitFrom .bare word rest else splitFrom .single (extend word [c]) rest
  | .double, word, c :: rest =>
    if c = '"' then splitFrom .bare word rest
    else if c = '\\' then splitFrom .doubleBackslash word rest
    else if c = '$' ∨ c = '\x60' then none
    else splitFrom .double (extend word [c]) rest
  | .doubleBackslash, word, c :: rest =>
    splitFrom .double
      (if c = '\n' then word else extend word (if isAny activeQuoted c then [c] else ['\\', c])) rest

/-- The words of a command line. -/
def split (line : Text) : Option (List Text) := splitFrom .bare none line

/-! ## Written words -/

def IsOrdinary (c : CodePoint) : Prop :=
  c ≠ '\n' ∧ c ≠ ' ' ∧ c ≠ '\t' ∧ c ≠ '\x27' ∧ c ≠ '"' ∧ c ≠ '\\' ∧ isAny active c = false ∧ c ≠ escape

instance (c : CodePoint) : Decidable (IsOrdinary c) := inferInstanceAs (Decidable (_ ∧ _))

def quotePoint (c : CodePoint) : Text := if c = '\x27' then Text.ofString "'\"'\"'" else [c]

/-- How a word is written: as it is, or between single quotes. -/
inductive Written (w : Text) : Text → Prop
  | plain : w ≠ [] → (∀ c ∈ w, IsOrdinary c) → Written w w
  | quoted : Written w (.scalar '\x27' :: w.flatMap quotePoint ++ [.scalar '\x27'])

theorem splitFrom_ordinary (hw : ∀ c ∈ w, IsOrdinary c) (hne : w ≠ []) (word : Option Text) (rest : Text) :
    splitFrom .bare word (w ++ rest) = splitFrom .bare (extend word w) rest := by
  induction w generalizing word with
  | nil => exact absurd rfl hne
  | cons c w ih =>
    obtain ⟨h₁, h₂, h₃, h₄, h₅, h₆, h₇, -⟩ := hw c List.mem_cons_self
    rw [List.cons_append, splitFrom, if_neg h₁, if_neg (not_or.2 ⟨h₂, h₃⟩), if_neg h₄, if_neg h₅, if_neg h₆,
      if_neg (by simp [h₇])]
    by_cases hn : w = []
    · subst hn
      rfl
    · rw [ih (fun d hd => hw d (List.mem_cons_of_mem c hd)) hn]
      simp [extend]

/-- A word between single quotes is read up to the last of them. -/
theorem splitFrom_quoted (w : Text) (word : Text) (rest : Text) :
    splitFrom .single (some word) (w.flatMap quotePoint ++ .scalar '\x27' :: rest) =
      splitFrom .bare (some (word ++ w)) rest := by
  induction w generalizing word with
  | nil => simp [splitFrom]
  | cons c w ih =>
    rw [List.flatMap_cons, List.append_assoc]
    by_cases hc : c = .scalar '\x27'
    · -- the quotation is closed, a double-quoted single quote follows, and it is opened again
      subst hc
      have hquote : splitFrom .single (some word)
          (quotePoint (.scalar '\x27') ++ (w.flatMap quotePoint ++ .scalar '\x27' :: rest)) =
            splitFrom .single (some (word ++ [.scalar '\x27'] ++ []))
              (w.flatMap quotePoint ++ .scalar '\x27' :: rest) := by
        simp [quotePoint, Text.ofString, splitFrom, extend]
      rw [hquote, ih]
      simp
    · rw [quotePoint, if_neg hc, List.singleton_append, splitFrom, if_neg hc, extend, Option.getD_some, ih]
      simp

theorem splitFrom_written (h : Written w form) (rest : Text) :
    splitFrom .bare none (form ++ rest) = splitFrom .bare (some w) rest := by
  cases h with
  | plain hne hw => exact splitFrom_ordinary hw hne none rest
  | quoted =>
    rw [List.append_assoc]
    exact splitFrom_quoted w [] rest

/-- Written words with blanks between them are read as the words. -/
theorem split_written (h : List.Forall₂ Written words forms) :
    split ([.scalar ' '].intercalate forms ++ [.scalar '\n']) = some words := by
  induction h with
  | nil => rfl
  | @cons w form words forms hw hs ih =>
    cases hs with
    | nil =>
      rw [List.intercalate_singleton, split, splitFrom_written hw]
      rfl
    | cons hw' hs' =>
      rw [List.intercalate_cons_cons, List.append_assoc, List.append_assoc, split, splitFrom_written hw,
        List.singleton_append, splitFrom, if_neg (by decide), if_pos (by decide), ← split, ih]
      rfl

/-! ## Lines without control sequences -/

theorem isBreak_quote : IsBreak (.scalar '\x27') := by decide

theorem flatMap_quotePoint_of_notMem (h : .scalar '\x27' ∉ w) : w.flatMap quotePoint = w := by
  induction w with
  | nil => rfl
  | cons c w ih =>
    simp only [List.mem_cons, not_or] at h
    rw [List.flatMap_cons, ih h.2, quotePoint, if_neg fun hc => h.1 hc.symm]
    rfl

/-- What stands for a single quote is made of breaks. -/
theorem dropSequences_quotedQuote (a b : Text) :
    dropSequences (a ++ (quotePoint (.scalar '\x27') ++ b)) =
      dropSequences a ++ (quotePoint (.scalar '\x27') ++ dropSequences b) := by
  show dropSequences (a ++ .scalar '\x27' :: .scalar '"' :: .scalar '\x27' :: .scalar '"' :: .scalar '\x27' :: b) = _
  rw [dropSequences_append isBreak_quote, dropSequences_cons (by decide), dropSequences_cons isBreak_quote,
    dropSequences_cons (by decide), dropSequences_cons isBreak_quote]
  rfl

/-- A quoted word keeps the control sequences that the word has, and has no other ones. The induction goes
from one single quote to the next; `a` is what stands before. -/
theorem dropSequences_flatMap_append {a : Text} (ha : .scalar '\x27' ∉ a) (w : Text) :
    dropSequences ((a ++ w).flatMap quotePoint) = (dropSequences (a ++ w)).flatMap quotePoint := by
  induction w generalizing a with
  | nil =>
    rw [List.append_nil, flatMap_quotePoint_of_notMem ha,
      flatMap_quotePoint_of_notMem fun h => ha (mem_of_mem_dropSequences h)]
  | cons c w ih =>
    by_cases hc : c = .scalar '\x27'
    · subst hc
      have hw := ih (a := []) List.not_mem_nil
      simp only [List.nil_append] at hw
      rw [dropSequences_append isBreak_quote, List.flatMap_append, List.flatMap_append, List.flatMap_cons,
        List.flatMap_cons, flatMap_quotePoint_of_notMem ha, dropSequences_quotedQuote, hw,
        flatMap_quotePoint_of_notMem fun h => ha (mem_of_mem_dropSequences h)]
    · have h := ih (a := a ++ [c]) (by simp [ha, Ne.symm hc])
      rwa [List.append_assoc, List.singleton_append] at h

theorem dropSequences_flatMap (w : Text) :
    dropSequences (w.flatMap quotePoint) = (dropSequences w).flatMap quotePoint :=
  dropSequences_flatMap_append (a := []) List.not_mem_nil w

/-- A written word without its control sequences is written so itself. -/
theorem Written.dropSequences (h : Written w form) : Written (dropSequences w) (dropSequences form) := by
  cases h with
  | plain hne hw =>
    have he : escape ∉ w := fun h => (hw _ h).2.2.2.2.2.2.2 rfl
    rw [dropSequences_of_no_escape he]
    exact .plain hne hw
  | quoted =>
    rw [List.cons_append, dropSequences_cons isBreak_quote, dropSequences_append isBreak_quote,
      dropSequences_flatMap]
    exact .quoted

/-- A line is left without its control sequences word by word. -/
theorem dropSequences_line (forms : List Text) :
    dropSequences ([.scalar ' '].intercalate forms ++ [.scalar '\n']) =
      [.scalar ' '].intercalate (forms.map dropSequences) ++ [.scalar '\n'] := by
  induction forms with
  | nil => rfl
  | cons form forms ih =>
    cases forms with
    | nil =>
      rw [List.map_singleton, List.intercalate_singleton, List.intercalate_singleton,
        dropSequences_append (by decide)]
      rfl
    | cons next forms =>
      rw [List.map_cons] at ih ⊢
      rw [List.map_cons, List.intercalate_cons_cons, List.intercalate_cons_cons, List.append_assoc,
        List.append_assoc, List.singleton_append, dropSequences_append (by decide), ih]
      simp

/-! ## Lines of strings -/

theorem isOrdinary_of_isSafe {c : Char} (h : isSafe c = true) : IsOrdinary (.scalar c) := by
  have hne : ∀ d : Char, isSafe d = false → CodePoint.scalar c ≠ .scalar d := by
    rintro d hd ⟨⟩
    rw [hd] at h
    cases h
  have hunsafe : active.all (fun d => !isSafe d) = true := by decide
  have hactive : isAny active (.scalar c) = false := by
    refine List.any_eq_false.2 fun d hd he => hne d ?_ (of_decide_eq_true he)
    simpa using List.all_eq_true.1 hunsafe d hd
  exact ⟨hne _ (by decide), hne _ (by decide), hne _ (by decide), hne _ (by decide), hne _ (by decide),
    hne _ (by decide), hactive, hne _ (by decide)⟩

theorem map_quoteChar (c : Char) : (quoteChar c).map CodePoint.scalar = quotePoint (.scalar c) := by
  unfold quoteChar quotePoint
  by_cases hc : c = '\x27'
  · rw [if_pos hc, if_pos (congrArg CodePoint.scalar hc)]
    rfl
  · rw [if_neg hc, if_neg fun h => hc (CodePoint.scalar.inj h)]
    rfl

theorem written_quote (s : List Char) : Written (s.map .scalar) ((quote s).map .scalar) := by
  unfold quote
  split
  · rename_i h
    refine .plain (by simpa using h.1) fun c hc => ?_
    obtain ⟨d, hd, rfl⟩ := List.mem_map.1 hc
    exact isOrdinary_of_isSafe (List.all_eq_true.1 h.2 d hd)
  · have hflat : (s.flatMap quoteChar).map CodePoint.scalar = (s.map CodePoint.scalar).flatMap quotePoint := by
      rw [List.map_flatMap, List.flatMap_map]
      exact congrArg (s.flatMap ·) (funext map_quoteChar)
    rw [List.map_append, List.map_cons, hflat]
    exact .quoted

theorem map_intercalate {α β : Type} (f : α → β) (joint : List α) (parts : List (List α)) :
    (joint.intercalate parts).map f = (joint.map f).intercalate (parts.map (List.map f)) := by
  induction parts with
  | nil => rfl
  | cons part rest ih =>
    cases rest with
    | nil => simp
    | cons next rest =>
      rw [List.map_cons] at ih ⊢
      rw [List.map_cons, List.intercalate_cons_cons, List.intercalate_cons_cons, List.map_append,
        List.map_append, ih]

/-- The words that a shell reads from a written line are those written, without their control sequences
where the line is without its own. -/
theorem split_join (args : List String) :
    split (dropSequences (Text.ofString (join args ++ "\n"))) =
      some (args.map fun arg => dropSequences (Text.ofString arg)) := by
  have hline : Text.ofString (join args ++ "\n") =
      [.scalar ' '].intercalate (args.map fun arg => (quote arg.toList).map CodePoint.scalar) ++
        [.scalar '\n'] := by
    rw [Text.ofString, join, String.toList_append, String.toList_ofList, List.map_append, map_intercalate,
      List.map_map]
    rfl
  rw [hline, dropSequences_line, List.map_map]
  refine split_written ?_
  rw [List.forall₂_map_left_iff, List.forall₂_map_right_iff]
  exact List.forall₂_same.2 fun arg _ => (written_quote arg.toList).dropSequences

end SbtWorkspace.ShellWord
