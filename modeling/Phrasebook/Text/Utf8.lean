import Phrasebook.Text.Hex

/-!
# UTF-8

Bytes of a text, and texts of bytes. A refusal says which bytes cannot be read and why: the first byte of a character
may be none that starts one, a later byte may not continue it, or the bytes may end within it.
-/

namespace Phrasebook.Text.Utf8

def encode (cs : List Char) : List UInt8 := cs.flatMap String.utf8EncodeChar

/-- Why bytes are not the start of a character. -/
inductive Reason where
  | startByte
  | continuationByte
  | endOfData
  deriving DecidableEq, Repr

def Reason.message : Reason → String
  | startByte => "invalid start byte"
  | continuationByte => "invalid continuation byte"
  | endOfData => "unexpected end of data"

/-- Bytes that cannot be read: where they start, how many they are, the first of them, and the reason. -/
structure Fault where
  place : Nat
  count : Nat
  first : UInt8
  reason : Reason
  deriving DecidableEq, Repr

def Fault.message (f : Fault) : String :=
  let place :=
    if f.count == 1 then
      "byte 0x" ++ String.ofList (hexDigits 2 f.first.toNat) ++ s!" in position {f.place}"
    else s!"bytes in position {f.place}-{f.place + f.count - 1}"
  "'utf-8' codec can't decode " ++ place ++ ": " ++ f.reason.message

/-- Bytes that can follow the first of a character. -/
def isContinuation (b : UInt8) : Bool := 0x80 ≤ b && b ≤ 0xbf

/-- The six low bits of a continuation byte. -/
def low (b : UInt8) : Nat := b.toNat % 64

/-- Whether a second byte can follow the first of a character of three bytes. -/
def continuesThree (a b : UInt8) : Bool :=
  isContinuation b && !(a == 0xe0 && b < 0xa0) && !(a == 0xed && 0xa0 ≤ b)

/-- Whether a second byte can follow the first of a character of four bytes. -/
def continuesFour (a b : UInt8) : Bool :=
  isContinuation b && !(a == 0xf0 && b < 0x90) && !(a == 0xf4 && 0x90 ≤ b)

/-- The text of bytes that start at a place. -/
def decodeFrom (place : Nat) : List UInt8 → Except Fault (List Char)
  | [] => .ok []
  | a :: r =>
    if a < 0x80 then (decodeFrom (place + 1) r).map (Char.ofNat a.toNat :: ·)
    else if a < 0xc2 || 0xf4 < a then .error ⟨place, 1, a, .startByte⟩
    else if a < 0xe0 then
      match r with
      | [] => .error ⟨place, 1, a, .endOfData⟩
      | b :: r' =>
        if !isContinuation b then .error ⟨place, 1, a, .continuationByte⟩
        else (decodeFrom (place + 2) r').map (Char.ofNat (a.toNat % 32 * 64 + low b) :: ·)
    else if a < 0xf0 then
      match r with
      | [] => .error ⟨place, 1, a, .endOfData⟩
      | b :: r' =>
        if !continuesThree a b then .error ⟨place, 1, a, .continuationByte⟩
        else match r' with
          | [] => .error ⟨place, 2, a, .endOfData⟩
          | c :: r'' =>
            if !isContinuation c then .error ⟨place, 2, a, .continuationByte⟩
            else (decodeFrom (place + 3) r'').map
              (Char.ofNat (a.toNat % 16 * 4096 + low b * 64 + low c) :: ·)
    else
      match r with
      | [] => .error ⟨place, 1, a, .endOfData⟩
      | b :: r' =>
        if !continuesFour a b then .error ⟨place, 1, a, .continuationByte⟩
        else match r' with
          | [] => .error ⟨place, 2, a, .endOfData⟩
          | c :: r'' =>
            if !isContinuation c then .error ⟨place, 2, a, .continuationByte⟩
            else match r'' with
              | [] => .error ⟨place, 3, a, .endOfData⟩
              | d :: r''' =>
                if !isContinuation d then .error ⟨place, 3, a, .continuationByte⟩
                else (decodeFrom (place + 4) r''').map
                  (Char.ofNat (a.toNat % 8 * 262144 + low b * 4096 + low c * 64 + low d) :: ·)

def decode (bytes : List UInt8) : Except Fault (List Char) := decodeFrom 0 bytes

/-- The mark for bytes that cannot be read. -/
def mark : Char := '\uFFFD'

/-- The text of bytes with a mark for every fault; at most as many faults as the number says. -/
def decodeMarked : Nat → List UInt8 → List Char
  | 0, _ => []
  | n + 1, bytes =>
    match decode bytes with
    | .ok cs => cs
    | .error f =>
      (decode (bytes.take f.place)).toOption.getD [] ++ mark :: decodeMarked n (bytes.drop (f.place + f.count))

end Phrasebook.Text.Utf8
