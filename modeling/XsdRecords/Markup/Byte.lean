import XsdRecords.Text.Utf8

/-! # Bytes with a meaning in markup -/

namespace XsdRecords.Markup.Byte

def less : UInt8 := 0x3C
def greater : UInt8 := 0x3E
def ampersand : UInt8 := 0x26
def semicolon : UInt8 := 0x3B
def slash : UInt8 := 0x2F
def bang : UInt8 := 0x21
def question : UInt8 := 0x3F
def equals : UInt8 := 0x3D
def singleQuote : UInt8 := 0x27
def doubleQuote : UInt8 := 0x22
def dash : UInt8 := 0x2D
def openBracket : UInt8 := 0x5B
def closeBracket : UInt8 := 0x5D
def lineFeed : UInt8 := 0x0A

/-- Whether a byte is blank in markup: space, tab, carriage return or line feed. -/
def isBlank (b : UInt8) : Bool :=
  b = 0x20 || b = 0x09 || b = 0x0D || b = lineFeed

/-- Whether a byte opens and closes a quoted value. -/
def isQuote (b : UInt8) : Bool :=
  b = singleQuote || b = doubleQuote

/-- A byte with the letters of ASCII in upper case. -/
def toUpper (b : UInt8) : UInt8 :=
  if 0x61 ≤ b && b ≤ 0x7A then b - 0x20 else b

def ofText (text : String) : List UInt8 :=
  Text.Utf8.encodeText text

end XsdRecords.Markup.Byte
