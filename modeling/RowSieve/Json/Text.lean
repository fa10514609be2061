/-!
# JSON strings

`Json.quote` writes a text as a JSON string: quotes, backslashes and control characters are
escaped, all else stands as it is.  `Json.splitText?` splits a string literal off a document,
leaving its escapes as they are spelled, and `Json.decodeText?` says what a spelling stands for.
An escape that names one half of a surrogate pair without the other stands for nothing.
-/

namespace RowSieve

namespace Json

/-- The last `count` hexadecimal digits of a number. -/
def hexDigits : (count : Nat) → Nat → List Char
  | 0, _ => []
  | count + 1, n => hexDigits count (n / 16) ++ [Nat.digitChar (n % 16)]

/-- A character inside a JSON string. -/
def escapeChar (c : Char) : List Char :=
  if c = '"' then ['\\', '"']
  else if c = '\\' then ['\\', '\\']
  else if c = '\x08' then ['\\', 'b']
  else if c = '\t' then ['\\', 't']
  else if c = '\n' then ['\\', 'n']
  else if c = '\x0c' then ['\\', 'f']
  else if c = '\r' then ['\\', 'r']
  else if c.val < 0x20 then '\\' :: 'u' :: hexDigits 4 c.toNat
  else [c]

/-- A text as a JSON string. -/
def quote (s : String) : String := String.ofList ('"' :: s.toList.flatMap escapeChar ++ ['"'])

/-- The value of a hexadecimal digit of either case. -/
def hexValue? (c : Char) : Option Nat :=
  if c.isDigit then some (c.toNat - '0'.toNat)
  else if 'a' ≤ c && c ≤ 'f' then some (c.toNat - 'a'.toNat + 10)
  else if 'A' ≤ c && c ≤ 'F' then some (c.toNat - 'A'.toNat + 10)
  else none

/-- The value of four hexadecimal digits. -/
def hexValue4? (a b c d : Char) : Option Nat := do
  let a ← hexValue? a
  let b ← hexValue? b
  let c ← hexValue? c
  let d ← hexValue? d
  return ((a * 16 + b) * 16 + c) * 16 + d

/-- Splits a string literal, whose opening quote is gone, into its spelling and what follows the
closing quote. -/
def splitText? : List Char → Option (List Char × List Char)
  | [] => none
  | '"' :: rest => some ([], rest)
  | '\\' :: 'u' :: a :: b :: c :: d :: rest =>
    if (hexValue4? a b c d).isSome then
      (splitText? rest).map fun (spelling, rest) =>
        ('\\' :: 'u' :: a :: b :: c :: d :: spelling, rest)
    else none
  | '\\' :: c :: rest =>
    if ['"', '\\', '/', 'b', 'f', 'n', 'r', 't'].contains c then
      (splitText? rest).map fun (spelling, rest) => ('\\' :: c :: spelling, rest)
    else none
  | c :: rest =>
    if c = '\\' || c.val < 0x20 then none
    else (splitText? rest).map fun (spelling, rest) => (c :: spelling, rest)

/-- The character that a one-letter escape stands for. -/
def unescape (c : Char) : Char :=
  if c = 'b' then '\x08'
  else if c = 'f' then '\x0c'
  else if c = 'n' then '\n'
  else if c = 'r' then '\r'
  else if c = 't' then '\t'
  else c

/-- The number is the first half of a surrogate pair. -/
def isHighSurrogate (n : Nat) : Bool := 0xD800 ≤ n && n < 0xDC00

/-- The number is the second half of a surrogate pair. -/
def isLowSurrogate (n : Nat) : Bool := 0xDC00 ≤ n && n < 0xE000

/-- What the spelling of a string stands for, `bound` being at least its length. -/
def decodeWithin : (bound : Nat) → List Char → Option (List Char)
  | 0, _ => some []
  | _ + 1, [] => some []
  | bound + 1, '\\' :: 'u' :: a :: b :: c :: d :: rest => do
    let high ← hexValue4? a b c d
    if isLowSurrogate high then none
    else if isHighSurrogate high then
      match rest with
      | '\\' :: 'u' :: a :: b :: c :: d :: rest => do
        let low ← hexValue4? a b c d
        if isLowSurrogate low then
          let code := 0x10000 + (high - 0xD800) * 0x400 + (low - 0xDC00)
          (decodeWithin bound rest).map (Char.ofNat code :: ·)
        else none
      | _ => none
    else (decodeWithin bound rest).map (Char.ofNat high :: ·)
  | bound + 1, '\\' :: c :: rest => (decodeWithin bound rest).map (unescape c :: ·)
  | bound + 1, c :: rest => (decodeWithin bound rest).map (c :: ·)

/-- What the spelling of a string stands for. -/
def decodeText? (spelling : List Char) : Option String :=
  (decodeWithin spelling.length spelling).map String.ofList

end Json

end RowSieve
