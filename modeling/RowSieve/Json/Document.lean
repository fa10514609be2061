import RowSieve.Json.Text

/-!
# JSON documents

`Json.parse?` reads a text that is one JSON document with blanks around it, and nothing but that:
no comma at the end of a list, no zeros in front of a number, no bare control character in a
string.  The document keeps the order of its members and every repetition of a name; numbers and
strings are kept as they are spelled.
-/

namespace RowSieve

/-- A JSON document. -/
inductive Json where
  /-- `null` -/
  | null
  /-- `true` or `false` -/
  | boolean (b : Bool)
  /-- A number, as it is spelled. -/
  | number (spelling : List Char)
  /-- A string, as it is spelled between its quotes. -/
  | text (spelling : List Char)
  /-- A list of documents. -/
  | array (items : List Json)
  /-- Named documents in their order; the names are as they are spelled. -/
  | object (members : List (List Char × Json))

namespace Json

/-- The blanks that may stand between the parts of a document. -/
def isSpace (c : Char) : Bool := c = ' ' || c = '\t' || c = '\n' || c = '\r'

/-- The text without the blanks in front of it. -/
def skipSpaces (cs : List Char) : List Char := cs.dropWhile isSpace

/-- One or more digits, and what follows them. -/
def splitDigits? (cs : List Char) : Option (List Char × List Char) :=
  let digits := cs.takeWhile Char.isDigit
  if digits.isEmpty then none else some (digits, cs.dropWhile Char.isDigit)

/-- The part of a number before its point: a zero stands alone. -/
def splitWhole? : List Char → Option (List Char × List Char)
  | '0' :: rest => some (['0'], rest)
  | cs => splitDigits? cs

/-- The part of a number from its point on, if there is one. -/
def splitFraction? : List Char → Option (List Char × List Char)
  | '.' :: rest => (splitDigits? rest).map fun (digits, rest) => ('.' :: digits, rest)
  | cs => some ([], cs)

/-- The exponent of a number, if there is one. -/
def splitExponent? : List Char → Option (List Char × List Char)
  | [] => some ([], [])
  | e :: rest =>
    if e = 'e' || e = 'E' then
      match rest with
      | s :: digits =>
        if s = '+' || s = '-' then
          (splitDigits? digits).map fun (digits, rest) => (e :: s :: digits, rest)
        else (splitDigits? rest).map fun (digits, rest) => (e :: digits, rest)
      | [] => none
    else some ([], e :: rest)

/-- A number without its minus, and what follows it. -/
def splitMagnitude? (cs : List Char) : Option (List Char × List Char) := do
  let (whole, cs) ← splitWhole? cs
  let (fraction, cs) ← splitFraction? cs
  let (exponent, cs) ← splitExponent? cs
  return (whole ++ fraction ++ exponent, cs)

/-- A number, and what follows it. -/
def splitNumber? : List Char → Option (List Char × List Char)
  | '-' :: rest => (splitMagnitude? rest).map fun (digits, rest) => ('-' :: digits, rest)
  | cs => splitMagnitude? cs

mutual

/-- The document that a text begins with, and what follows it. -/
def readValue : (bound : Nat) → List Char → Option (Json × List Char)
  | 0, _ => none
  | bound + 1, cs =>
    match skipSpaces cs with
    | 'n' :: 'u' :: 'l' :: 'l' :: rest => some (.null, rest)
    | 't' :: 'r' :: 'u' :: 'e' :: rest => some (.boolean true, rest)
    | 'f' :: 'a' :: 'l' :: 's' :: 'e' :: rest => some (.boolean false, rest)
    | '"' :: rest => (splitText? rest).map fun (spelling, rest) => (.text spelling, rest)
    | '[' :: rest =>
      match skipSpaces rest with
      | ']' :: rest => some (.array [], rest)
      | rest => (readItems bound rest).map fun (items, rest) => (.array items, rest)
    | '{' :: rest =>
      match skipSpaces rest with
      | '}' :: rest => some (.object [], rest)
      | rest => (readMembers bound rest).map fun (members, rest) => (.object members, rest)
    | rest => (splitNumber? rest).map fun (spelling, rest) => (.number spelling, rest)

/-- The rest of a list, from one of its items on. -/
def readItems : (bound : Nat) → List Char → Option (List Json × List Char)
  | 0, _ => none
  | bound + 1, cs =>
    match readValue bound cs with
    | none => none
    | some (item, rest) =>
      match skipSpaces rest with
      | ',' :: rest => (readItems bound rest).map fun (items, rest) => (item :: items, rest)
      | ']' :: rest => some ([item], rest)
      | _ => none

/-- The rest of an object, from one of its names on. -/
def readMembers : (bound : Nat) → List Char → Option (List (List Char × Json) × List Char)
  | 0, _ => none
  | bound + 1, cs =>
    match skipSpaces cs with
    | '"' :: rest =>
      match splitText? rest with
      | none => none
      | some (name, rest) =>
        match skipSpaces rest with
        | ':' :: rest =>
          match readValue bound rest with
          | none => none
          | some (value, rest) =>
            match skipSpaces rest with
            | ',' :: rest =>
              (readMembers bound rest).map fun (members, rest) => ((name, value) :: members, rest)
            | '}' :: rest => some ([(name, value)], rest)
            | _ => none
        | _ => none
    | _ => none

end

/-- The document that a text is. -/
def parse? (cs : List Char) : Option Json :=
  (readValue (cs.length + 1) cs).bind fun (document, rest) =>
    if (skipSpaces rest).isEmpty then some document else none

/-- What a string stands for; other documents stand for no text. -/
def text? : Json → Option String
  | .text spelling => decodeText? spelling
  | _ => none

end Json

end RowSieve
