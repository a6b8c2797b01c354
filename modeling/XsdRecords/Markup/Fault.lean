import XsdRecords.Number.Integer
import XsdRecords.Text.Utf8

/-! # Faults of marked-up text

What can be wrong with a document as markup, and how it is worded.  A syntax fault leaves nothing
readable after it; after an ill-formed tag or reference reading may go on. -/

namespace XsdRecords.Markup

/-- A piece of markup that the document ends inside, or that is none. -/
inductive SyntaxFault where
  | badBang
  | openInstruction
  | openDeclaration
  | openComment
  | openDoctype
  | openCData
  | openTag
  | openSingleQuote
  | openDoubleQuote
  deriving DecidableEq, Repr

/-- The wording of markup that is not closed. -/
def notClosed (what mark : String) : String :=
  what ++ " not closed: `" ++ mark ++ "` not found before end of input"

def SyntaxFault.message : SyntaxFault → String
  | badBang => "unknown or missed symbol in markup"
  | openInstruction => notClosed "processing instruction" "?>"
  | openDeclaration => notClosed "XML declaration" "?>"
  | openComment => notClosed "comment" "-->"
  | openDoctype => notClosed "DOCTYPE" ">"
  | openCData => notClosed "CDATA" "]]>"
  | openTag => notClosed "tag" ">"
  | openSingleQuote => notClosed "attribute value" "'"
  | openDoubleQuote => notClosed "attribute value" "\""

/-- Markup that is complete but does not fit. -/
inductive FormFault where
  | mismatchedEnd (expected found : String)
  | unmatchedEnd (name : String)
  | missingDoctypeName
  | openReference
  deriving DecidableEq, Repr

def FormFault.message : FormFault → String
  | mismatchedEnd expected found =>
    "expected `</" ++ expected ++ ">`, but `</" ++ found ++ ">` was found"
  | unmatchedEnd name => "close tag `</" ++ name ++ ">` does not match any open tag"
  | missingDoctypeName =>
    "`<!DOCTYPE>` declaration does not contain a name of a document type"
  | openReference => notClosed "entity or character reference" ";"

/-- Something wrong with the attributes of a tag, at an offset in the text of the tag. -/
inductive AttributeFault where
  | expectedEquals (offset : Nat)
  | expectedValue (offset : Nat)
  | unquotedValue (offset : Nat)
  | openQuote (offset : Nat) (quote : Char)
  | duplicated (offset previous : Nat)
  deriving DecidableEq, Repr

def AttributeFault.message : AttributeFault → String
  | expectedEquals offset =>
    s!"position {offset}: attribute key must be directly followed by `=` or space"
  | expectedValue offset => s!"position {offset}: `=` must be followed by an attribute value"
  | unquotedValue offset =>
    s!"position {offset}: attribute value must be enclosed in `\"` or `'`"
  | openQuote offset quote =>
    s!"position {offset}: missing closing quote `" ++ quote.toString ++ "` in attribute value"
  | duplicated offset previous =>
    s!"position {offset}: duplicated attribute, previous declaration at position {previous}"

/-- Why a numeric character reference stands for no character. -/
inductive CharRefFault where
  | sign
  | number (fault : Number.IntegerFault)
  | notScalar (codepoint : Nat)
  | null
  deriving DecidableEq, Repr

def CharRefFault.message : CharRefFault → String
  | sign => "unexpected number sign"
  | number fault => fault.message
  | notScalar codepoint => s!"`{codepoint}` is not a valid codepoint"
  | null => "0x0 character is not permitted in XML"

/-- Why a reference in a value stands for nothing; ranges count bytes of the value. -/
inductive ReferenceFault where
  | unknownEntity (start stop : Nat) (name : String)
  | unterminated (start stop : Nat)
  | charRef (fault : CharRefFault)
  deriving DecidableEq, Repr

def ReferenceFault.message : ReferenceFault → String
  | unknownEntity start stop name => s!"at {start}..{stop}: unrecognized entity `{name}`"
  | unterminated start stop =>
    s!"Error while escaping character at range {start}..{stop}: Cannot find ';' after '&'"
  | charRef fault => "invalid character reference: " ++ fault.message

/-- Why a document cannot be read on. -/
inductive ReaderFault where
  | markup (fault : SyntaxFault)
  | form (fault : FormFault)
  | attributes (fault : AttributeFault)
  | reference (fault : ReferenceFault)
  | utf8 (fault : Text.Utf8.Fault)
  | io (reason : String)
  | notOpen
  deriving DecidableEq, Repr

def ReaderFault.message : ReaderFault → String
  | .markup fault => "syntax error: " ++ fault.message
  | .form fault => "ill-formed document: " ++ fault.message
  | .attributes fault => "error while parsing attribute: " ++ fault.message
  | .reference fault => fault.message
  | .utf8 fault => "UTF-8 error: " ++ fault.message
  | .io reason => "IO error: " ++ reason
  | .notOpen => "no document is open"

end XsdRecords.Markup
