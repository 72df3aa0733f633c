namespace ArityLint.Utf8

inductive Reason where
  | start
  | continuation
  | truncated
  deriving DecidableEq, Repr

def Reason.message : Reason → String
  | .start => "invalid start byte"
  | .continuation => "invalid continuation byte"
  | .truncated => "unexpected end of data"

/-- The undecodable bytes from `start` up to `stop`, of which the first is `first`. -/
structure Flaw where
  first : UInt8
  start : Nat
  stop : Nat
  reason : Reason
  deriving DecidableEq, Repr

def hexDigits (width n : Nat) : String :=
  let ds := Nat.toDigits 16 n
  String.ofList (List.replicate (width - ds.length) '0' ++ ds)

def Flaw.message (f : Flaw) : String :=
  "'utf-8' codec can't decode " ++
    (if f.stop ≤ f.start + 1 then
      "byte 0x" ++ hexDigits 2 f.first.toNat ++ " in position " ++ toString f.start
    else "bytes in position " ++ toString f.start ++ "-" ++ toString (f.stop - 1)) ++
    ": " ++ f.reason.message

/-- How many bytes follow a lead byte, and the least and greatest value of the next one. -/
def lead (b : UInt8) : Option (Nat × UInt8 × UInt8) :=
  if b < 0x80 then some (0, 0x80, 0xBF)
  else if b < 0xC2 then none
  else if b < 0xE0 then some (1, 0x80, 0xBF)
  else if b = 0xE0 then some (2, 0xA0, 0xBF)
  else if b = 0xED then some (2, 0x80, 0x9F)
  else if b < 0xF0 then some (2, 0x80, 0xBF)
  else if b = 0xF0 then some (3, 0x90, 0xBF)
  else if b < 0xF4 then some (3, 0x80, 0xBF)
  else if b = 0xF4 then some (3, 0x80, 0x8F)
  else none

/-- The number of bytes that continue a sequence which still owes `owed` bytes, and why it stops. -/
def continued : (owed : Nat) → UInt8 → UInt8 → List UInt8 → Nat × Option Reason
  | 0, _, _, _ => (0, none)
  | _ + 1, _, _, [] => (0, some .truncated)
  | owed + 1, lo, hi, b :: rest =>
    if lo ≤ b ∧ b ≤ hi then
      let (k, why) := continued owed 0x80 0xBF rest
      (k + 1, why)
    else (0, some .continuation)

/-- The first flaw at or after `pos`, where `skip` bytes of a sound sequence are still to be
passed. -/
def firstFlaw : (skip pos : Nat) → List UInt8 → Option Flaw
  | _, _, [] => none
  | skip + 1, pos, _ :: rest => firstFlaw skip (pos + 1) rest
  | 0, pos, b :: rest =>
    match lead b with
    | none => some ⟨b, pos, pos + 1, .start⟩
    | some (owed, lo, hi) =>
      match continued owed lo hi rest with
      | (k, some why) => some ⟨b, pos, pos + 1 + k, why⟩
      | (_, none) => firstFlaw owed (pos + 1) rest

def decode (bytes : ByteArray) : Except Flaw String :=
  match String.fromUTF8? bytes with
  | some s => .ok s
  | none => .error ((firstFlaw 0 0 bytes.toList).getD ⟨0, 0, 1, .start⟩)

/-- For each byte of the encoding of `cs` the index of its character, counted from `i`, and last the
index after them all. -/
def charIndices : List Char → Nat → List Nat
  | [], i => [i]
  | c :: cs, i => List.replicate c.utf8Size i ++ charIndices cs (i + 1)

/-- A text as bytes, with the table from bytes to characters when the two counts differ. -/
structure Encoded where
  bytes : ByteArray
  table : Option (Array Nat)

def Encoded.ofString (s : String) : Encoded :=
  let bytes := s.toUTF8
  ⟨bytes, if bytes.size = s.length then none else some (charIndices s.toList 0).toArray⟩

/-- The character offset of a byte offset; none beyond the end of the table. -/
def Encoded.char? (e : Encoded) (byte : Nat) : Option Nat :=
  match e.table with
  | none => some byte
  | some table => table[byte]?

def Encoded.text (e : Encoded) (start stop : Nat) : Except Flaw String :=
  decode (e.bytes.extract start stop)

end ArityLint.Utf8
