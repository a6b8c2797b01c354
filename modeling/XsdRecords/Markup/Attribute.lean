import XsdRecords.Markup.Byte
import XsdRecords.Markup.Reference

/-! # The attributes of a start tag

The text of a start tag is a name and attributes: a key, `=` and a quoted value each.  `scan` reads
one attribute and leaves a shorter rest; `readAttributes` reads attributes up to the first fault. -/

namespace XsdRecords.Markup

/-- The name that starts the text of a tag. -/
def tagName (text : List UInt8) : List UInt8 :=
  text.takeWhile (!Byte.isBlank ·)

/-- A key, where it stands, and the bytes between the quotes of its value. -/
structure RawAttribute where
  key : List UInt8
  offset : Nat
  value : List UInt8
  deriving DecidableEq, Repr

/-- What stands next in the attributes of a tag. -/
inductive AttributeScan where
  | finished
  | fault (fault : AttributeFault)
  | found (raw : RawAttribute) (rest : List UInt8)

def skipBlanks (bytes : List UInt8) : List UInt8 :=
  bytes.dropWhile Byte.isBlank

/-- Whether a byte belongs to a key past its first byte. -/
def isKeyByte (b : UInt8) : Bool :=
  !(b = Byte.equals || Byte.isBlank b)

/-- Reads the value that must follow `=` in a tag text of `total` bytes. -/
def scanValue (total : Nat) (key : List UInt8) (offset : Nat) (bytes : List UInt8) :
    AttributeScan :=
  match skipBlanks bytes with
  | [] => .fault (.expectedValue total)
  | quote :: text =>
    if Byte.isQuote quote then
      match text.dropWhile (· ≠ quote) with
      | [] => .fault (.openQuote total (Char.ofNat quote.toNat))
      | _ :: rest => .found ⟨key, offset, text.takeWhile (· ≠ quote)⟩ rest
    else .fault (.unquotedValue (total - (text.length + 1)))

/-- Reads the next attribute of a tag text of `total` bytes, whose attributes so far are `seen`. -/
def scanAttribute (total : Nat) (seen : List RawAttribute) (bytes : List UInt8) :
    AttributeScan :=
  match skipBlanks bytes with
  | [] => .finished
  | first :: more =>
    let key := first :: more.takeWhile isKeyByte
    let offset := total - (more.length + 1)
    match skipBlanks (more.dropWhile isKeyByte) with
    | [] => .fault (.expectedEquals total)
    | b :: rest =>
      if b = Byte.equals then
        match seen.find? (·.key = key) with
        | some previous => .fault (.duplicated offset previous.offset)
        | none => scanValue total key offset rest
      else .fault (.expectedEquals (total - (rest.length + 1)))

theorem length_skipBlanks_le (bytes : List UInt8) :
    (skipBlanks bytes).length ≤ bytes.length :=
  (List.dropWhile_sublist Byte.isBlank).length_le

theorem length_of_scanValue {total : Nat} {key : List UInt8} {offset : Nat}
    {bytes rest : List UInt8} {raw : RawAttribute}
    (h : scanValue total key offset bytes = .found raw rest) :
    rest.length < bytes.length := by
  unfold scanValue at h
  split at h
  · cases h
  · rename_i quote text heq
    have blanks := length_skipBlanks_le bytes
    rw [heq, List.length_cons] at blanks
    split at h
    · split at h
      · cases h
      · rename_i b after hdrop
        have dropped := (List.dropWhile_sublist (l := text) (· ≠ quote)).length_le
        rw [hdrop, List.length_cons] at dropped
        cases h
        omega
    · cases h

theorem length_of_scanAttribute {total : Nat} {seen : List RawAttribute}
    {bytes rest : List UInt8} {raw : RawAttribute}
    (h : scanAttribute total seen bytes = .found raw rest) :
    rest.length < bytes.length := by
  unfold scanAttribute at h
  split at h
  · cases h
  · rename_i first more heq
    have blanks := length_skipBlanks_le bytes
    rw [heq, List.length_cons] at blanks
    dsimp only at h
    split at h
    · cases h
    · rename_i b after hskip
      have skipped := length_skipBlanks_le (more.dropWhile isKeyByte)
      have dropped := (List.dropWhile_sublist (l := more) isKeyByte).length_le
      rw [hskip, List.length_cons] at skipped
      split at h
      · split at h
        · cases h
        · have := length_of_scanValue h
          omega
      · cases h

/-- Decodes the key and the value of an attribute and resolves the references of the value. -/
def RawAttribute.read (a : RawAttribute) : Except ReaderFault (String × String) :=
  match Text.Utf8.decodeText a.key, Text.Utf8.decode a.value with
  | .error fault, _ => .error (.utf8 fault)
  | _, .error fault => .error (.utf8 fault)
  | .ok key, .ok value =>
    match resolve value with
    | .error fault => .error (.reference fault)
    | .ok value => .ok (key, String.ofList value)

/-- Reads attributes, as keys and values, up to the first fault. -/
def readAttributesFrom (total : Nat) (seen : List RawAttribute) (bytes : List UInt8) :
    List (String × String) × Option ReaderFault :=
  match _ : scanAttribute total seen bytes with
  | .finished => ([], none)
  | .fault fault => ([], some (.attributes fault))
  | .found raw rest =>
    match raw.read with
    | .error fault => ([], some fault)
    | .ok pair =>
      let (more, fault) := readAttributesFrom total (seen ++ [raw]) rest
      (pair :: more, fault)
  termination_by bytes.length
  decreasing_by exact length_of_scanAttribute ‹_›

/-- Reads the attributes in the text of a start tag up to the first fault. -/
def readAttributes (text : List UInt8) : List (String × String) × Option ReaderFault :=
  readAttributesFrom text.length [] (text.dropWhile (!Byte.isBlank ·))

end XsdRecords.Markup
