/-! Bytes as text. The bytes of a character are its first byte, which says how many follow, and
those; where they break off or do not fit, the bytes so far are one broken piece. `decode` refuses
broken pieces and says where the first one is; `decodeLossy` puts a replacement character for each.
-/
namespace Lettermill.Text
set_option autoImplicit false

abbrev Bytes := List UInt8

def bytesOf (s : String) : Bytes := s.toUTF8.toList

/-- Bytes in the form of a text: each is the character with its number. -/
def widen (bs : Bytes) : List Char := bs.map fun b => Char.ofNat b.toNat

def narrow (cs : List Char) : Bytes := cs.map fun c => UInt8.ofNat c.toNat

inductive BytePiece where
  | char (c : Char)
  /-- Bytes that are no character; `cutOff` says that the sequence ended there. -/
  | broken (size : Nat) (cutOff : Bool)

/-- For the first byte of a character: how many bytes follow, between which bounds the next of them
lies, and the bits that it carries. -/
def leadByte? (b : Nat) : Option (Nat × Nat × Nat × Nat) :=
  if b < 0x80 then some (0, 0, 0, b)
  else if b < 0xc2 then none
  else if b < 0xe0 then some (1, 0x80, 0xbf, b - 0xc0)
  else if b = 0xe0 then some (2, 0xa0, 0xbf, 0)
  else if b = 0xed then some (2, 0x80, 0x9f, 13)
  else if b < 0xf0 then some (2, 0x80, 0xbf, b - 0xe0)
  else if b = 0xf0 then some (3, 0x90, 0xbf, 0)
  else if b < 0xf4 then some (3, 0x80, 0xbf, b - 0xf0)
  else if b = 0xf4 then some (3, 0x80, 0x8f, 4)
  else none

/-- Reads the bytes that are still owed to a character of which `used` were read. -/
def trailBytes : Nat → Nat → Nat → Nat → Nat → Bytes → BytePiece × Bytes
  | 0, _, _, value, _, bs => (.char (Char.ofNat value), bs)
  | _ + 1, _, _, _, used, [] => (.broken used true, [])
  | owed + 1, low, high, value, used, b :: bs =>
    if low ≤ b.toNat ∧ b.toNat ≤ high then
      trailBytes owed 0x80 0xbf (value * 64 + (b.toNat - 0x80)) (used + 1) bs
    else (.broken used false, b :: bs)

def bytePieces : Nat → Bytes → List BytePiece
  | 0, _ => []
  | _, [] => []
  | fuel + 1, b :: bs =>
    match leadByte? b.toNat with
    | none => .broken 1 false :: bytePieces fuel bs
    | some (owed, low, high, value) =>
      let (piece, rest) := trailBytes owed low high value 1 bs
      piece :: bytePieces fuel rest

/-- Where a byte sequence stops being text: how many bytes before are text, how many bytes are
broken, and whether the sequence just ended too early. -/
structure Utf8Error where
  offset : Nat
  size : Nat
  cutOff : Bool
  deriving DecidableEq, Repr

def Utf8Error.message (e : Utf8Error) : String :=
  if e.cutOff then "incomplete utf-8 byte sequence from index " ++ toString e.offset
  else "invalid utf-8 sequence of " ++ toString e.size ++ " bytes from index " ++ toString e.offset

/-- The characters of pieces, or the first that is broken; `offset` counts the bytes before. -/
def joinPieces (offset : Nat) : List BytePiece → Except Utf8Error (List Char)
  | [] => .ok []
  | .char c :: rest => (joinPieces (offset + c.utf8Size) rest).map (c :: ·)
  | .broken size cutOff :: _ => .error ⟨offset, size, cutOff⟩

def decode (bs : Bytes) : Except Utf8Error String :=
  (joinPieces 0 (bytePieces bs.length bs)).map String.ofList

/-- The text of a byte sequence, with a replacement character for each broken piece. -/
def decodeLossy (bs : Bytes) : String :=
  String.ofList ((bytePieces bs.length bs).map fun
    | .char c => c
    | .broken _ _ => '\ufffd')

end Lettermill.Text
