import SbtWorkspace.Text.Quoted

/-! UTF-8: the octets of a text, and the reader of them with the place and cause of a refusal.
A lead octet fixes how many continuations follow and, for the shortest form and against
surrogates, the range of the first of them. A file can be read whole or in pieces of a fixed
size; a sequence that a piece cuts off is put in front of the next piece, and places are counted
from the start of the piece so lengthened. -/

namespace SbtWorkspace

/-- The content of a file. -/
abbrev Bytes := List UInt8

namespace Utf8

/-- The octets of a string. -/
def encode (s : String) : Bytes := s.toList.flatMap String.utf8EncodeChar

/-- Different texts have different octets. -/
theorem encode_injective {s t : String} (h : encode s = encode t) : s = t := by
  have hb : s.toList.utf8Encode = t.toList.utf8Encode := congrArg List.toByteArray h
  rwa [String.utf8Encode_toList, String.utf8Encode_toList, String.toByteArray_inj] at hb

/-- Why octets are no text. Each cause has the lead octet of the refused sequence and the place of it;
a refused or cut-off sequence has a length. -/
inductive Error where
  | invalidStart (lead : UInt8) (position : Nat)
  | invalidContinuation (lead : UInt8) (position length : Nat)
  | cutOff (lead : UInt8) (position length : Nat)
  deriving DecidableEq, Repr

/-- What a lead octet asks for: the count of continuations, the range of the first, and its own bits. -/
structure Lead where
  count : Nat
  low : UInt8
  high : UInt8
  bits : Nat
  deriving DecidableEq

/-- The lead octets. C0 and C1 could only start overlong forms; above F4 is beyond Unicode. -/
def lead? (b : UInt8) : Option Lead :=
  if b < 0x80 then some ⟨0, 0x80, 0xBF, b.toNat⟩
  else if b < 0xC2 then none
  else if b < 0xE0 then some ⟨1, 0x80, 0xBF, b.toNat - 0xC0⟩
  else if b < 0xF0 then
    some ⟨2, if b = 0xE0 then 0xA0 else 0x80, if b = 0xED then 0x9F else 0xBF, b.toNat - 0xE0⟩
  else if b < 0xF5 then
    some ⟨3, if b = 0xF0 then 0x90 else 0x80, if b = 0xF4 then 0x8F else 0xBF, b.toNat - 0xF0⟩
  else none

/-- How the sequence that starts at an octet reads. -/
inductive Verdict where
  | scalar (number extra : Nat)
  | invalidStart
  | invalidContinuation (length : Nat)
  | cutOff
  deriving DecidableEq, Repr

def continuations (low high : UInt8) (bits taken : Nat) : Nat → Bytes → Verdict
  | 0, _ => .scalar bits taken
  | _ + 1, [] => .cutOff
  | n + 1, b :: rest =>
    if low ≤ b ∧ b ≤ high then
      continuations 0x80 0xBF (bits * 64 + (b.toNat - 0x80)) (taken + 1) n rest
    else .invalidContinuation (taken + 1)

/-- The verdict on the sequence that starts with `b`. A piece that is not the last one and ends in
the first two octets of a surrogate leaves the verdict to the next piece. -/
def verdict (isLast : Bool) (b : UInt8) (rest : Bytes) : Verdict :=
  match lead? b with
  | none => .invalidStart
  | some l =>
    if !isLast && b == 0xED && rest.length == 1 && rest.all (fun c => 0xA0 ≤ c && c ≤ 0xBF) then .cutOff
    else continuations l.low l.high l.bits 0 l.count rest

/-- Reads a piece and gives its characters and the cut-off sequence at its end, which the last
piece must not have. `skip` octets belong to the character before. -/
def decodePiece (isLast : Bool) (position skip : Nat) : Bytes → Except Error (List Char × Bytes)
  | [] => .ok ([], [])
  | b :: rest =>
    if skip ≠ 0 then decodePiece isLast (position + 1) (skip - 1) rest
    else match verdict isLast b rest with
      | .scalar number extra => do
        let (chars, carried) ← decodePiece isLast (position + 1) extra rest
        pure (Char.ofNat number :: chars, carried)
      | .invalidStart => .error (.invalidStart b position)
      | .invalidContinuation length => .error (.invalidContinuation b position length)
      | .cutOff =>
        if isLast then .error (.cutOff b position (rest.length + 1)) else .ok ([], b :: rest)

/-- Reads a file as a whole. -/
def decode (bytes : Bytes) : Except Error (List Char) :=
  (decodePiece true 0 0 bytes).map (·.1)

/-- The pieces of a list of the given size; the last one may be shorter. -/
def pieces (size : Nat) (bytes : Bytes) : List Bytes :=
  (List.range ((bytes.length + size - 1) / size)).map fun i => (bytes.drop (i * size)).take size

/-- Reads pieces one after the other; what the last one leaves over is read on its own. -/
def decodePieces (carried : Bytes) : List Bytes → Except Error (List Char)
  | [] => decode carried
  | piece :: rest => do
    let (chars, left) ← decodePiece false 0 0 (carried ++ piece)
    let more ← decodePieces left rest
    pure (chars ++ more)

def pieceSize : Nat := 8192

def decodeStream (bytes : Bytes) : Except Error (List Char) :=
  decodePieces [] (pieces pieceSize bytes)

/-- Why a text has no octets: a surrogate, its place, and how many more stand right after it. -/
structure Unencodable where
  surrogate : Fin 2048
  position : Nat
  further : Nat
  deriving DecidableEq, Repr

/-- What stands against the octets of a text that follows so many code points. -/
def unencodable? (position : Nat) : Text → Option Unencodable
  | [] => none
  | .scalar _ :: rest => unencodable? (position + 1) rest
  | .surrogate n :: rest => some ⟨n, position, (rest.takeWhile fun c => c.toChar?.isNone).length⟩

theorem unencodable?_eq_none_iff {position : Nat} {t : Text} :
    unencodable? position t = none ↔ ∀ n, CodePoint.surrogate n ∉ t := by
  induction t generalizing position with
  | nil => simp [unencodable?]
  | cons c t ih =>
    cases c with
    | scalar c => simp [unencodable?, ih]
    | surrogate n =>
      simp only [unencodable?, reduceCtorEq, false_iff]
      exact fun h => h n List.mem_cons_self

/-- The wording of what stands against it. -/
def Unencodable.message (e : Unencodable) : String :=
  let place :=
    if e.further = 0 then s!"character '\\u{String.ofList (Quoted.hex 4 (0xD800 + e.surrogate))}' in position {e.position}"
    else s!"characters in position {e.position}-{e.position + e.further}"
  "'utf-8' codec can't encode " ++ place ++ ": surrogates not allowed"

/-- The octet or the places of the octets that are refused. -/
def Error.place (lead : UInt8) (position length : Nat) : String :=
  if length = 1 then
    s!"byte 0x{String.ofList (Quoted.hex 2 lead.toNat)} in position {position}"
  else s!"bytes in position {position}-{position + length - 1}"

/-- The wording of a refusal. -/
def Error.message : Error → String
  | invalidStart lead position =>
    "'utf-8' codec can't decode " ++ place lead position 1 ++ ": invalid start byte"
  | invalidContinuation lead position length =>
    "'utf-8' codec can't decode " ++ place lead position length ++ ": invalid continuation byte"
  | cutOff lead position length =>
    "'utf-8' codec can't decode " ++ place lead position length ++ ": unexpected end of data"

end Utf8

end SbtWorkspace
