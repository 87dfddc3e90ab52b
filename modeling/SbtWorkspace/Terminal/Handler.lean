import SbtWorkspace.Terminal.Literal.Grammar
import SbtWorkspace.Text.Blank
import SbtWorkspace.Text.Quoted

/-! Parameters of handlers. They are a name, a name with arguments between round brackets, or a value on its
own; arguments and values are written as literals. A name without arguments is always read. -/

namespace SbtWorkspace.Terminal

namespace Literal

/-- Why an expression stands for no value: it is of another form, or an entry has no key, or a value that can
change is an element of a set or a key. -/
inductive Unvalued where
  | malformed
  | unkeyed
  | unhashable (kind : String)
  deriving DecidableEq, Repr

mutual

def Expr.unvalued? : Expr → Option Unvalued
  | .name _ | .form _ | .comparison .. | .starred _ => some .malformed
  | .constant _ | .number _ | .signed _ | .complex | .text _ | .ellipsis | .emptySet => none
  | .tuple items => unvaluedItems? false items
  | .set items => unvaluedItems? true items
  | .dictionary entries => unvaluedEntries? entries

/-- Why one of some items is no literal, or cannot be an element where they are the elements of a set. -/
def unvaluedItems? (areElements : Bool) : List Expr → Option Unvalued
  | [] => none
  | e :: rest =>
    (e.unvalued?.or (if areElements then e.unhashable? else none)).or (unvaluedItems? areElements rest)

def unvaluedEntries? : List (Option Expr × Expr) → Option Unvalued
  | [] => none
  | (none, _) :: _ => some .unkeyed
  | (some key, value) :: rest =>
    ((key.unvalued?.or value.unvalued?).or key.unhashable?).or (unvaluedEntries? rest)

/-- Why a value can be no element of a set and no key, if it can be neither. -/
def Expr.unhashable? : Expr → Option Unvalued
  | .set _ | .emptySet => some (.unhashable "set")
  | .dictionary _ => some (.unhashable "dict")
  | .tuple items => unhashableItems? items
  | _ => none

def unhashableItems? : List Expr → Option Unvalued
  | [] => none
  | e :: rest => e.unhashable?.or (unhashableItems? rest)

end

end Literal

namespace Handler

/-- Why the parameters of a handler cannot be read: they hold code points that are no characters, the first of
them `c` and all from place `first` to place `last` of the part that is read, or the character that ends a text;
or that part is no expression, or it is one that stands for no value. -/
inductive Error where
  | noCharacter (given : Text) (c : CodePoint) (first last : Nat)
  | hasNull (given : Text)
  | noExpression (given read : Text) (fault : Literal.Fault)
  | noValue (given : Text) (cause : Literal.Unvalued)
  deriving DecidableEq

def wording : Literal.Unvalued → String
  | .malformed => "malformed node or string on line 1"
  | .unkeyed => "malformed node or string: None"
  | .unhashable kind => "unhashable type: '" ++ kind ++ "'"

/-- The wording of a refusal. -/
def Error.message : Error → String
  | noCharacter given c first last =>
    let what := if first = last then "character " ++ Text.quoted [c] ++ " in position " ++ toString first
      else "characters in position " ++ toString first ++ "-" ++ toString last
    "error parsing " ++ given.quoted ++ "; 'utf-8' codec can't encode " ++ what ++ ": surrogates not allowed"
  | hasNull given => "error parsing " ++ given.quoted ++ "; source code string cannot contain null bytes"
  | noExpression given read fault =>
    "error parsing " ++ read.quoted ++ " in " ++ given.quoted ++ "; " ++ fault
  | noValue given cause => "error parsing " ++ given.quoted ++ "; " ++ wording cause

def isNamePart (c : CodePoint) : Bool :=
  Letter.isAlphanumeric c.val || c.val = 0x5f || c.val = 0x2e

/-- The part of parameters that is written as a literal: all that follows a name, or the whole of them where
no name is all that stands before round brackets. A name alone has no arguments. -/
def literalPart (parameters : Text) : Text :=
  let rest := parameters.dropWhile isNamePart
  match rest with
  | [] => Text.ofString "()"
  | .scalar '(' :: _ =>
    if rest.getLast? = some (.scalar ')') ∧ .scalar '\n' ∉ rest then rest else parameters
  | _ => parameters

/-- Why code points cannot be read as characters. The place of the first of them is `place`. -/
def unreadable? (given part : Text) (place : Nat) : Option Error :=
  match part with
  | [] => none
  | .scalar _ :: rest => unreadable? given rest (place + 1)
  | c :: rest =>
    some (.noCharacter given c place (place + (rest.takeWhile fun c => c.toChar?.isNone).length))

def withLineFeeds : List Char → List Char
  | [] => []
  | '\r' :: '\n' :: rest => '\n' :: withLineFeeds rest
  | '\r' :: rest => '\n' :: withLineFeeds rest
  | c :: rest => c :: withLineFeeds rest

/-- Reads the parameters of a handler, of which only the refusal matters. -/
def read (parameters : Text) : Except Error Unit :=
  if parameters = [] then .ok ()
  else
    let part := literalPart (Text.trim parameters)
    match unreadable? parameters part 0 with
    | some e => .error e
    | none =>
      let cs := part.filterMap CodePoint.toChar?
      if '\x00' ∈ cs then .error (.hasNull parameters)
      else
        match Literal.Expr.read (withLineFeeds cs) with
        | .error fault => .error (.noExpression parameters part fault)
        | .ok e =>
          match e.unvalued? with
          | some cause => .error (.noValue parameters cause)
          | none => .ok ()

/-- Characters without a carriage return have their line ends already. -/
theorem withLineFeeds_eq_self {cs : List Char} (h : '\r' ∉ cs) : withLineFeeds cs = cs := by
  induction cs with
  | nil => rfl
  | cons c rest ih =>
    have hc : c ≠ '\r' := fun e => h (e ▸ List.mem_cons_self)
    have hr : '\r' ∉ rest := fun m => h (List.mem_cons_of_mem c m)
    unfold withLineFeeds
    split <;> simp_all

/-- Parameters that are a name are read whatever the name is. -/
theorem literalPart_name {parameters : Text} (h : parameters.all isNamePart = true) :
    literalPart parameters = Text.ofString "()" := by
  have hd : parameters.dropWhile isNamePart = [] := by
    induction parameters with
    | nil => rfl
    | cons c rest ih =>
      simp only [List.all_cons, Bool.and_eq_true] at h
      simp [h.1, ih h.2]
  simp [literalPart, hd]

end Handler

end SbtWorkspace.Terminal
