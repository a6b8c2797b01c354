import XsdRecords.Diagnostic.Problem
import XsdRecords.Markup.Reader
import XsdRecords.Number.Integer
import XsdRecords.Text.Blank

/-! # Numbers and truth values in the attributes of a tag -/

namespace XsdRecords.Session

open XsdRecords.Markup (StartTag)
open XsdRecords.Number (IntegerRange readDecimal?)

/-- The largest number of occurrences, which stands for no bound. -/
def unboundedOccurs : Int := IntegerRange.int32.high

/-- Whether a text says that something is so. -/
def isTrue (text : String) : Bool :=
  text = "true" || text = "1"

/-- Reads a number of thirty-two bits, blanks around it not counting. -/
def readNumber (attributeName text : String) : Except Problem Int :=
  match readDecimal? IntegerRange.int32 (Text.trim text.toList) with
  | some n => .ok n
  | none => .error (.invalidNumber attributeName text)

def readMaxOccurs (text : String) : Except Problem Int :=
  if text = "unbounded" then .ok unboundedOccurs else readNumber "maxOccurs" text

/-- The least number of occurrences that a tag gives, if it gives one. -/
def minOccurs? (tag : StartTag) : Except Problem (Option Int) :=
  (tag.plain? "minOccurs").mapM (readNumber "minOccurs")

/-- The largest number of occurrences that a tag gives, if it gives one. -/
def maxOccurs? (tag : StartTag) : Except Problem (Option Int) :=
  (tag.plain? "maxOccurs").mapM readMaxOccurs

/-- The annotated id of a tag, if it has one. -/
def annotatedId? (tag : StartTag) : Except Problem (Option Int) :=
  (tag.annotated? "id").mapM (readNumber "id")

end XsdRecords.Session
