/-!
# Base64

The standard alphabet with padding to groups of four.  Encoding always pads.  Decoding demands
the padding, ignores the low bits that the last symbol leaves over, and reports the first fault
it meets with its byte offset.
-/

namespace DocFilter
namespace Text
namespace Base64

/-- The symbol of a six-bit value. -/
def symbol (n : Nat) : Char :=
  if n < 26 then Char.ofNat (65 + n)
  else if n < 52 then Char.ofNat (71 + n)
  else if n < 62 then Char.ofNat (n - 4)
  else if n = 62 then '+'
  else '/'

/-- The six-bit value of a symbol, given as a byte. -/
def value? (b : UInt8) : Option Nat :=
  let n := b.toNat
  if 65 ≤ n ∧ n ≤ 90 then some (n - 65)
  else if 97 ≤ n ∧ n ≤ 122 then some (n - 71)
  else if 48 ≤ n ∧ n ≤ 57 then some (n + 4)
  else if n = 43 then some 62
  else if n = 47 then some 63
  else none

/-- The byte of the padding sign. -/
def padding : UInt8 := 61

/-- The symbols of a byte string, three bytes at a time. -/
def encodeChars : List UInt8 → List Char
  | [] => []
  | [a] =>
      [symbol (a.toNat / 4), symbol (a.toNat % 4 * 16), '=', '=']
  | [a, b] =>
      [symbol (a.toNat / 4), symbol (a.toNat % 4 * 16 + b.toNat / 16),
        symbol (b.toNat % 16 * 4), '=']
  | a :: b :: c :: rest =>
      symbol (a.toNat / 4) :: symbol (a.toNat % 4 * 16 + b.toNat / 16) ::
        symbol (b.toNat % 16 * 4 + c.toNat / 64) :: symbol (c.toNat % 64) ::
        encodeChars rest

/-- The padded text of a byte string. -/
def encode (bytes : List UInt8) : String :=
  String.ofList (encodeChars bytes)

/-- Why a text is not the encoding of a byte string. -/
inductive DecodeError where
  /-- A byte that cannot stand at its offset. -/
  | invalidSymbol (byte : UInt8) (offset : Nat)
  /-- Too few symbols in the last group. -/
  | invalidLength (length : Nat)
  /-- The last group is not padded to four. -/
  | invalidPadding
deriving DecidableEq, Repr

/-- The wording of a decoding fault. -/
def DecodeError.message : DecodeError → String
  | .invalidSymbol b i => "Invalid symbol " ++ toString b.toNat ++ ", offset " ++ toString i ++ "."
  | .invalidLength n => "Invalid input length: " ++ toString n
  | .invalidPadding => "Invalid padding"

/-- The value of the symbol at an offset. -/
def valueAt (b : UInt8) (offset : Nat) : Except DecodeError Nat :=
  match value? b with
  | some v => .ok v
  | none => .error (.invalidSymbol b offset)

/-- The three bytes of four six-bit values. -/
def quadBytes (v w x y : Nat) : List UInt8 :=
  [UInt8.ofNat (v * 4 + w / 16), UInt8.ofNat (w % 16 * 16 + x / 4), UInt8.ofNat (x % 4 * 64 + y)]

/-- Decodes groups of four symbols without padding. -/
def decodeQuads (offset : Nat) : List UInt8 → Except DecodeError (List UInt8)
  | a :: b :: c :: d :: rest => do
      let v ← valueAt a offset
      let w ← valueAt b (offset + 1)
      let x ← valueAt c (offset + 2)
      let y ← valueAt d (offset + 3)
      let tail ← decodeQuads (offset + 4) rest
      return quadBytes v w x y ++ tail
  | _ => .ok []

/-- The symbols of the last group and the number of padding signs behind them.

`pad` is the offset and the count of the padding signs met so far. -/
def lastSymbols (start offset : Nat) (pad : Option (Nat × Nat)) :
    List UInt8 → Except DecodeError (List Nat × Nat)
  | [] => .ok ([], (pad.map Prod.snd).getD 0)
  | b :: rest =>
      if b = padding then
        if offset < start + 2 then .error (.invalidSymbol b offset)
        else
          match pad with
          | none => lastSymbols start (offset + 1) (some (offset, 1)) rest
          | some (first, count) => lastSymbols start (offset + 1) (some (first, count + 1)) rest
      else
        match pad with
        | some (first, _) => .error (.invalidSymbol padding first)
        | none => do
            let v ← valueAt b offset
            let (vs, count) ← lastSymbols start (offset + 1) none rest
            return (v :: vs, count)

/-- The bytes of the symbols of the last group. -/
def lastBytes : List Nat → List UInt8
  | [v, w] => (quadBytes v w 0 0).take 1
  | [v, w, x] => (quadBytes v w x 0).take 2
  | [v, w, x, y] => quadBytes v w x y
  | _ => []

/-- Decodes the last group, of one to four bytes, that begins at `start`. -/
def decodeLast (start : Nat) (group : List UInt8) : Except DecodeError (List UInt8) := do
  let (symbols, pads) ← lastSymbols start start none group
  if symbols.length < 2 then .error (.invalidLength (start + symbols.length))
  else if (symbols.length + pads) % 4 ≠ 0 then .error .invalidPadding
  else .ok (lastBytes symbols)

/-- A lone byte behind full groups is looked at before all others, unless it is padding. -/
def checkLoneByte (bytes : List UInt8) : Except DecodeError Unit :=
  match bytes.length % 4, bytes.getLast? with
  | 1, some b =>
      if b = padding ∨ (value? b).isSome then .ok ()
      else .error (.invalidSymbol b (bytes.length - 1))
  | _, _ => .ok ()

/-- The byte string that a text encodes. -/
def decode (bytes : List UInt8) : Except DecodeError (List UInt8) := do
  if bytes.isEmpty then return []
  checkLoneByte bytes
  let start := (bytes.length - 1) / 4 * 4
  let front ← decodeQuads 0 (bytes.take start)
  let back ← decodeLast start (bytes.drop start)
  return front ++ back

end Base64
end Text
end DocFilter
