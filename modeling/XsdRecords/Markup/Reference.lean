import XsdRecords.Markup.Fault
import XsdRecords.Text.Slice

/-! # References in attribute values

A reference is `&`, a name or a character number, and `;`.  `resolve` replaces the references of a
value by what they stand for. -/

namespace XsdRecords.Markup

/-- The character that a named reference stands for. -/
def namedEntity? (name : String) : Option Char :=
  match name with
  | "lt" => some '<'
  | "gt" => some '>'
  | "amp" => some '&'
  | "apos" => some '\''
  | "quot" => some '"'
  | _ => none

/-- Reads the digits of a character reference, which have no sign. -/
def readCodepoint (base : Nat) (digits : List Char) : Except CharRefFault Nat :=
  match digits with
  | '+' :: _ | '-' :: _ => .error .sign
  | _ =>
    match Number.readInteger base .nat32 digits with
    | .ok n => .ok n.toNat
    | .error fault => .error (.number fault)

/-- The character that a numeric reference stands for. -/
def readCharRef (digits : List Char) : Except CharRefFault Char :=
  let codepoint := match digits with
    | 'x' :: hex => readCodepoint 16 hex
    | decimal => readCodepoint 10 decimal
  codepoint.bind fun n =>
    if n = 0 then .error .null
    else if n.isValidChar then .ok (Char.ofNat n)
    else .error (.notScalar n)

/-- The character that a reference stands for, given the byte after `&` and the byte of `;`. -/
def readReference (start stop : Nat) (body : List Char) : Except ReferenceFault Char :=
  match body with
  | '#' :: digits =>
    match readCharRef digits with
    | .ok c => .ok c
    | .error fault => .error (.charRef fault)
  | name =>
    let name := String.ofList name
    match namedEntity? name with
    | some c => .ok c
    | none => .error (.unknownEntity start stop name)

/-- Whether a character neither begins nor ends a reference. -/
def isReferenceBody (c : Char) : Bool :=
  c ≠ '&' && c ≠ ';'

/-- Resolves the references of the part of a value of `total` bytes that starts at `offset`. -/
def resolveFrom (total offset : Nat) (cs : List Char) : Except ReferenceFault (List Char) :=
  match cs with
  | [] => .ok []
  | c :: rest =>
    if c = '&' then
      let body := rest.takeWhile isReferenceBody
      let ending := rest.dropWhile isReferenceBody
      if ending.head? = some ';' then
        let stop := offset + 1 + Text.byteLength body
        match readReference (offset + 1) stop body with
        | .ok d => (resolveFrom total (stop + 1) ending.tail).map (d :: ·)
        | .error fault => .error fault
      else .error (.unterminated offset total)
    else (resolveFrom total (offset + c.utf8Size) rest).map (c :: ·)
  termination_by cs.length
  decreasing_by
    · have shorter := (List.dropWhile_sublist (l := rest) isReferenceBody).length_le
      simp only [List.length_tail, List.length_cons]
      omega
    · simp

def resolve (cs : List Char) : Except ReferenceFault (List Char) :=
  resolveFrom (Text.byteLength cs) 0 cs

end XsdRecords.Markup
