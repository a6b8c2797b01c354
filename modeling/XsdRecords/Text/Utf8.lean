/-! # Reading bytes as UTF-8 text

`decode` turns bytes into characters and locates the first fault: the index of the sequence that
is wrong and, unless the bytes just end too early, how many of its bytes are certainly wrong.
`encode` is the way back. -/

namespace XsdRecords.Text.Utf8

/-- The first place where bytes stop being UTF-8. -/
inductive Fault where
  /-- `length` bytes from `index` on belong to no character. -/
  | invalid (length index : Nat)
  /-- The bytes end inside the character that starts at `index`. -/
  | incomplete (index : Nat)
  deriving DecidableEq, Repr

def Fault.message : Fault → String
  | .invalid length index => s!"invalid utf-8 sequence of {length} bytes from index {index}"
  | .incomplete index => s!"incomplete utf-8 byte sequence from index {index}"

/-- What a leading byte announces: the bits it contributes, the number of bytes that follow, and
the range of the first of these. -/
structure Lead where
  bits : Nat
  follow : Nat
  low : UInt8
  high : UInt8
  deriving DecidableEq, Repr

/-- Reads a leading byte; continuation bytes, overlong leads and leads past the last plane are
none. -/
def Lead.ofByte? (b : UInt8) : Option Lead :=
  let n := b.toNat
  if n < 0x80 then some ⟨n, 0, 0, 0⟩
  else if n < 0xC2 then none
  else if n < 0xE0 then some ⟨n - 0xC0, 1, 0x80, 0xBF⟩
  else if n = 0xE0 then some ⟨0, 2, 0xA0, 0xBF⟩
  else if n = 0xED then some ⟨0xD, 2, 0x80, 0x9F⟩
  else if n < 0xF0 then some ⟨n - 0xE0, 2, 0x80, 0xBF⟩
  else if n = 0xF0 then some ⟨0, 3, 0x90, 0xBF⟩
  else if n < 0xF4 then some ⟨n - 0xF0, 3, 0x80, 0xBF⟩
  else if n = 0xF4 then some ⟨4, 3, 0x80, 0x8F⟩
  else none

/-- Reads `follow` continuation bytes after `taken` bytes whose value so far is `value`.  The
first must lie in `[low, high]`, the others anywhere in `[0x80, 0xBF]`.  A failure is the number of
bytes that are certainly wrong, or `none` if the bytes end. -/
def readFollow (value taken : Nat) (low high : UInt8) :
    Nat → List UInt8 → Except (Option Nat) Nat
  | 0, _ => .ok value
  | _ + 1, [] => .error none
  | follow + 1, b :: rest =>
    if low ≤ b && b ≤ high then
      readFollow (value * 0x40 + (b.toNat - 0x80)) (taken + 1) 0x80 0xBF follow rest
    else .error (some taken)

/-- Reads the first character of `b :: rest` and the number of bytes of `rest` it takes. -/
def readChar (b : UInt8) (rest : List UInt8) : Except (Option Nat) (Char × Nat) :=
  match Lead.ofByte? b with
  | none => .error (some 1)
  | some lead =>
    (readFollow lead.bits 1 lead.low lead.high lead.follow rest).map
      (fun value => (Char.ofNat value, lead.follow))

/-- Decodes bytes that stand at `index` of the whole. -/
def decodeFrom (index : Nat) (bytes : List UInt8) : Except Fault (List Char) :=
  match bytes with
  | [] => .ok []
  | b :: rest =>
    match readChar b rest with
    | .error none => .error (.incomplete index)
    | .error (some length) => .error (.invalid length index)
    | .ok (c, follow) =>
      (decodeFrom (index + 1 + follow) (rest.drop follow)).map (c :: ·)
  termination_by bytes.length
  decreasing_by simp only [List.length_drop, List.length_cons]; omega

def decode (bytes : List UInt8) : Except Fault (List Char) :=
  decodeFrom 0 bytes

def decodeText (bytes : List UInt8) : Except Fault String :=
  (decode bytes).map String.ofList

def encodeChar (c : Char) : List UInt8 :=
  let n := c.toNat
  let follow (unit : Nat) : UInt8 := (0x80 + n / unit % 0x40).toUInt8
  if n < 0x80 then [n.toUInt8]
  else if n < 0x800 then [(0xC0 + n / 0x40).toUInt8, follow 1]
  else if n < 0x10000 then [(0xE0 + n / 0x1000).toUInt8, follow 0x40, follow 1]
  else [(0xF0 + n / 0x40000).toUInt8, follow 0x1000, follow 0x40, follow 1]

/-- A character has as many bytes as its size says. -/
theorem length_encodeChar (c : Char) : (encodeChar c).length = c.utf8Size := by
  have size : c.utf8Size =
      if c.toNat < 0x80 then 1 else if c.toNat < 0x800 then 2
      else if c.toNat < 0x10000 then 3 else 4 := by
    simp only [Char.utf8Size, UInt32.le_iff_toNat_le, ← Nat.lt_succ_iff]
    rfl
  simp only [size, encodeChar]
  split
  · rfl
  · split
    · rfl
    · split <;> rfl

def encode (cs : List Char) : List UInt8 :=
  cs.flatMap encodeChar

@[simp] theorem encode_nil : encode [] = [] := rfl

@[simp] theorem encode_append (cs ds : List Char) : encode (cs ++ ds) = encode cs ++ encode ds :=
  List.flatMap_append

@[simp] theorem length_encode_cons (c : Char) (cs : List Char) :
    (encode (c :: cs)).length = c.utf8Size + (encode cs).length := by
  simp [encode, length_encodeChar]

def encodeText (text : String) : List UInt8 :=
  encode text.toList

end XsdRecords.Text.Utf8
