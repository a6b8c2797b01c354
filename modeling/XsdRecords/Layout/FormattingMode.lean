/-! # Formatting modes

A formatting mode tells how the values of a field are written: one encoding hint in the low byte
and independent flags above it. -/

namespace XsdRecords.Layout

/-- A formatting mode by its bits. -/
structure FormattingMode where
  bits : UInt32
  deriving DecidableEq, Repr

namespace FormattingMode

/-- No hint and no flags. -/
def default : FormattingMode := ⟨0x0⟩
/-- The hint for decimal digits. -/
def dec : FormattingMode := ⟨0x1⟩
/-- The hint for hexadecimal digits. -/
def hex : FormattingMode := ⟨0x2⟩
/-- The hint for base 64. -/
def base64 : FormattingMode := ⟨0x3⟩
/-- The hint for plain text. -/
def text : FormattingMode := ⟨0x4⟩
/-- The bits of the hint. -/
def hintMask : FormattingMode := ⟨0xff⟩
/-- The field has no tag of its own. -/
def untagged : FormattingMode := ⟨0x100⟩
/-- The field is written as an attribute. -/
def asAttribute : FormattingMode := ⟨0x200⟩
/-- The field is the simple content of its record. -/
def simpleContent : FormattingMode := ⟨0x400⟩
/-- The field may be nil. -/
def nillable : FormattingMode := ⟨0x800⟩
/-- The field is written as a list with blanks between the items. -/
def list : FormattingMode := ⟨0x1000⟩

instance : Inhabited FormattingMode := ⟨default⟩

/-- The encoding hint alone. -/
def encoding (m : FormattingMode) : FormattingMode :=
  ⟨m.bits &&& hintMask.bits⟩

/-- Whether every flag of `other` is set and its hint, if it has one, is the hint of `m`. -/
def contains (m other : FormattingMode) : Bool :=
  let flags := other.bits &&& ~~~hintMask.bits
  let hint := other.bits &&& hintMask.bits
  (m.bits &&& flags) = flags && (hint = 0 || (m.bits &&& hintMask.bits) = hint)

/-- Sets all bits of `other`. -/
def insert (m other : FormattingMode) : FormattingMode :=
  ⟨m.bits ||| other.bits⟩

theorem or_and_bits (a b c : UInt32) : (a ||| b) &&& c = (a &&& c) ||| (b &&& c) :=
  UInt32.toBitVec_inj.1 BitVec.and_or_distrib_right

/-- A mode contains a flag if its bit is set. -/
theorem contains_flag {flag : FormattingMode} (h : flag.bits &&& hintMask.bits = 0)
    (m : FormattingMode) : m.contains flag = decide (m.bits &&& flag.bits = flag.bits) := by
  have flags : ~~~hintMask.bits &&& flag.bits = flag.bits := by
    have parts := or_and_bits hintMask.bits (~~~hintMask.bits) flag.bits
    rw [UInt32.and_comm hintMask.bits, h, UInt32.zero_or] at parts
    rw [← parts]
    simp
  simp only [contains, h, UInt32.and_comm flag.bits, flags]
  simp

/-- A flag is set by no other. -/
theorem contains_insert_of_disjoint (flag other : FormattingMode)
    (h : flag.bits &&& hintMask.bits = 0) (disjoint : other.bits &&& flag.bits = 0)
    (m : FormattingMode) : (m.insert other).contains flag = m.contains flag := by
  rw [contains_flag h, contains_flag h, insert, or_and_bits, disjoint, UInt32.or_zero]

theorem contains_insert_self (flag : FormattingMode) (h : flag.bits &&& hintMask.bits = 0)
    (m : FormattingMode) : (m.insert flag).contains flag = true := by
  have absorbed : m.bits &&& flag.bits ||| flag.bits = flag.bits := by
    refine UInt32.toBitVec_inj.1 (BitVec.eq_of_getElem_eq fun i bound => ?_)
    simp only [UInt32.toBitVec_or, UInt32.toBitVec_and, BitVec.getElem_or, BitVec.getElem_and]
    generalize m.bits.toBitVec[i] = a, flag.bits.toBitVec[i] = b
    revert a b
    decide
  rw [contains_flag h, insert, or_and_bits, UInt32.and_self, absorbed, decide_eq_true rfl]

/-- Clears all bits of `other`. -/
def erase (m other : FormattingMode) : FormattingMode :=
  ⟨m.bits &&& ~~~other.bits⟩

instance : OrOp FormattingMode := ⟨insert⟩

/-- The name of the encoding hint. -/
def hintName (m : FormattingMode) : String :=
  if m.encoding = default then "DEFAULT"
  else if m.encoding = dec then "DEC"
  else if m.encoding = hex then "HEX"
  else if m.encoding = base64 then "BASE64"
  else if m.encoding = text then "TEXT"
  else "UNKNOWN"

/-- The flags that have names, in the order in which they are written. -/
def flags : List (FormattingMode × String) :=
  [(untagged, "UNTAGGED"), (asAttribute, "ATTRIBUTE"), (simpleContent, "SIMPLE_CONTENT"),
    (nillable, "NILLABLE"), (list, "LIST")]

/-- Writes a mode: its hint, then each flag after a bar. -/
def render (m : FormattingMode) : String :=
  let set := flags.filter fun (flag, _) => m.contains flag
  m.hintName ++ String.join (set.map fun (_, name) => "|" ++ name)

end FormattingMode

end XsdRecords.Layout
