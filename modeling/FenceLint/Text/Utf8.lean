import FenceLint.Text.Quoted

/-!
# Decoding UTF-8

Strict decoding: the shortest encodings of the characters, and nothing else.  The first fault is
reported with the bytes that belong to it: a byte that starts nothing, the part of a sequence
before the byte that breaks it, or a sequence that the end of the data cuts off.
-/

namespace FenceLint.Text

/-- What is wrong with the bytes. -/
inductive DecodeFault where
  /-- A byte that no encoding starts with. -/
  | start
  /-- A sequence is broken off by a byte that may not follow. -/
  | continuation
  /-- The data ends inside a sequence. -/
  | truncated
deriving Repr, DecidableEq, Inhabited

/-- A fault and the bytes it is reported for. -/
structure DecodeError where
  /-- What is wrong. -/
  fault : DecodeFault
  /-- The first of the bytes. -/
  byte : UInt8
  /-- The offset of the first of the bytes. -/
  offset : Nat
  /-- How many bytes there are. -/
  length : Nat
deriving Repr, DecidableEq, Inhabited

namespace DecodeError

/-- The wording of a fault. -/
def message (e : DecodeError) : String :=
  let place :=
    if e.length ≤ 1 then
      "byte 0x" ++ String.ofList (hexPadded 2 e.byte.toNat) ++ " in position " ++ toString e.offset
    else
      "bytes in position " ++ toString e.offset ++ "-" ++ toString (e.offset + e.length - 1)
  let cause := match e.fault with
    | .start => "invalid start byte"
    | .continuation => "invalid continuation byte"
    | .truncated => "unexpected end of data"
  "'utf-8' codec can't decode " ++ place ++ ": " ++ cause

end DecodeError

namespace Utf8

/-- A byte that continues a sequence. -/
def isContinuation (b : UInt8) : Bool := 0x80 ≤ b && b < 0xc0

/-- The byte `b` may follow `a` as the second of a sequence: what it excludes are longer encodings
than needed, halves of pairs, and code points that are too large. -/
def isSecond (a b : UInt8) : Bool :=
  isContinuation b && !(a == 0xe0 && b < 0xa0) && !(a == 0xed && 0xa0 ≤ b) &&
    !(a == 0xf0 && b < 0x90) && !(a == 0xf4 && 0x90 ≤ b)

/-- The bits of a byte that continues a sequence. -/
def low (b : UInt8) : Nat := b.toNat % 64

/-- Decodes bytes that stand at an offset. -/
def decodeFrom (offset : Nat) : List UInt8 → Except DecodeError (List Char)
  | [] => .ok []
  | a :: rest =>
    let fault := fun (f : DecodeFault) (length : Nat) => .error ⟨f, a, offset, length⟩
    if a < 0x80 then (decodeFrom (offset + 1) rest).map (Char.ofNat a.toNat :: ·)
    else if a < 0xc2 || 0xf5 ≤ a then fault .start 1
    else
      match rest with
      | [] => fault .truncated 1
      | b :: rest =>
        if !isSecond a b then fault .continuation 1
        else if a < 0xe0 then
          (decodeFrom (offset + 2) rest).map (Char.ofNat (a.toNat % 32 * 64 + low b) :: ·)
        else
          match rest with
          | [] => fault .truncated 2
          | c :: rest =>
            if !isContinuation c then fault .continuation 2
            else if a < 0xf0 then
              (decodeFrom (offset + 3) rest).map
                (Char.ofNat ((a.toNat % 16 * 64 + low b) * 64 + low c) :: ·)
            else
              match rest with
              | [] => fault .truncated 3
              | d :: rest =>
                if !isContinuation d then fault .continuation 3
                else
                  (decodeFrom (offset + 4) rest).map
                    (Char.ofNat (((a.toNat % 8 * 64 + low b) * 64 + low c) * 64 + low d) :: ·)

/-- Decodes bytes. -/
def decode (bytes : List UInt8) : Except DecodeError (List Char) := decodeFrom 0 bytes

end Utf8

end FenceLint.Text
