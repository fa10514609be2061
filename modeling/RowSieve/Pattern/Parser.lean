import RowSieve.Json.Text
import RowSieve.Pattern.Basic

/-!
# Reading patterns

`Pattern.parse?` reads the usual notation for patterns: characters and their escapes, sets in
brackets, conditions on places, groups, alternatives and repetitions.  Flags in a group switch
between readings: whether case matters, whether a point accepts the end of a line, whether `^` and
`$` look at lines or at the text, and whether blanks in the pattern count.

What is not in the notation is refused: look-around, references to earlier groups, escapes of
letters without a meaning, repetitions of nothing.
-/

namespace RowSieve

namespace Pattern

/-- How the rest of a group is read. -/
structure Flags where
  /-- Case does not matter. -/
  ignoreCase : Bool
  /-- `^` and `$` look at lines. -/
  multiLine : Bool
  /-- A point accepts the end of a line. -/
  dotAll : Bool
  /-- Classes cover all scripts. -/
  unicode : Bool
  /-- Blanks and comments in the pattern do not count. -/
  verbose : Bool
  /-- A carriage return ends lines too. -/
  crlf : Bool
deriving Repr, Inhabited

/-- The flags of a pattern that sets none. -/
def Flags.initial : Flags := ⟨false, false, false, true, false, false⟩

/-- Sets or clears the flag of a letter. -/
def Flags.set? (f : Flags) (letter : Char) (value : Bool) : Option Flags :=
  match letter with
  | 'i' => some { f with ignoreCase := value }
  | 'm' => some { f with multiLine := value }
  | 's' => some { f with dotAll := value }
  | 'u' => some { f with unicode := value }
  | 'x' => some { f with verbose := value }
  | 'R' => some { f with crlf := value }
  | 'U' => some f
  | _ => none

/-- The pattern without the blanks and comments in front of it, if they do not count. -/
def skipVerbose (f : Flags) : (bound : Nat) → List Char → List Char
  | 0, cs => cs
  | _ + 1, [] => []
  | bound + 1, c :: cs =>
    if !f.verbose then c :: cs
    else if Text.isBlank c then skipVerbose f bound cs
    else if c = '#' then skipVerbose f bound (cs.dropWhile (· ≠ '\n'))
    else c :: cs

/-- The pattern without the blanks and comments in front of it, if they do not count. -/
def skip (f : Flags) (cs : List Char) : List Char := skipVerbose f cs.length cs

/-! ### Characters and classes -/

/-- The digits, of all scripts or only the ten of ASCII. -/
def digits (f : Flags) : CharSet := if f.unicode then .digit else .range '0' '9'

/-- The blanks, all or only those of ASCII. -/
def blanks (f : Flags) : CharSet :=
  if f.unicode then .blank else .union (.range '\t' '\r') (.single ' ')

/-- The letters, digits and the underscore of ASCII. -/
def asciiWord : CharSet :=
  .unionAll [.range '0' '9', .range 'A' 'Z', .single '_', .range 'a' 'z']

/-- The characters of words, of all scripts or only those of ASCII. -/
def wordChars (f : Flags) : CharSet := if f.unicode then .word else asciiWord

/-- The set with all variants in case, if case does not matter. -/
def foldIf (f : Flags) (s : CharSet) : CharSet := if f.ignoreCase then .folded s else s

/-- The complement of a set.  Restricted to ASCII it would leave parts of characters behind. -/
def complement? (f : Flags) (s : CharSet) : Option CharSet :=
  if f.unicode then some (.complement s) else none

/-- The class that a name between `[:` and `:]` stands for. -/
def namedClass? (name : String) : Option CharSet :=
  match name with
  | "alnum" => some (.unionAll [.range '0' '9', .range 'A' 'Z', .range 'a' 'z'])
  | "alpha" => some (.union (.range 'A' 'Z') (.range 'a' 'z'))
  | "ascii" => some (.range '\x00' '\x7f')
  | "blank" => some (.union (.single ' ') (.single '\t'))
  | "cntrl" => some (.union (.range '\x00' '\x1f') (.single '\x7f'))
  | "digit" => some (.range '0' '9')
  | "graph" => some (.range '!' '~')
  | "lower" => some (.range 'a' 'z')
  | "print" => some (.range ' ' '~')
  | "punct" => some (.unionAll [.range '!' '/', .range ':' '@', .range '[' '\x60', .range '{' '~'])
  | "space" => some (.union (.range '\t' '\r') (.single ' '))
  | "upper" => some (.range 'A' 'Z')
  | "word" => some asciiWord
  | "xdigit" => some (.unionAll [.range '0' '9', .range 'A' 'F', .range 'a' 'f'])
  | _ => none

/-- What an escape stands for. -/
inductive Escape where
  /-- A character. -/
  | char (c : Char)
  /-- A class of characters. -/
  | set (s : CharSet)
  /-- A condition on the place. -/
  | look (condition : Look)

/-- The value of hexadecimal digits. -/
def hexNumber? (cs : List Char) : Option Nat :=
  if cs.isEmpty then none
  else cs.foldlM (fun n c => (Json.hexValue? c).map (16 * n + ·)) 0

/-- The character with the code point that digits spell. -/
def hexChar? (cs : List Char) : Option Char := do
  let n ← hexNumber? cs
  if h : n.isValidChar then some ⟨n.toUInt32, by
    rw [UInt32.isValidChar, UInt32.toNat_ofNat_of_lt' (by
      simp only [Nat.isValidChar] at h; simp [UInt32.size]; omega)]; exact h⟩
  else none

/-- A code point in hexadecimal, either with `count` digits or in braces. -/
def readHex? (count : Nat) (cs : List Char) : Option (Char × List Char) :=
  match cs with
  | '{' :: cs =>
    match cs.dropWhile (· ≠ '}') with
    | '}' :: rest => (hexChar? (cs.takeWhile (· ≠ '}'))).map (·, rest)
    | _ => none
  | cs =>
    if cs.length < count then none else (hexChar? (cs.take count)).map (·, cs.drop count)

/-- The character has a meaning of its own in patterns. -/
def isMeta (c : Char) : Bool :=
  ['\\', '.', '+', '*', '?', '(', ')', '|', '[', ']', '{', '}', '^', '$', '#', '&', '-',
    '~'].contains c

/-- The character may stand for itself after a backslash. -/
def isEscapable (c : Char) : Bool :=
  isMeta c || (c.val < 128 && !c.isAlphanum && c ≠ '<' && c ≠ '>')

/-- The condition that a name in braces after `\b` stands for. -/
def namedBoundary? (f : Flags) (name : String) : Option Look :=
  match name with
  | "start" => some (.wordStart (wordChars f))
  | "end" => some (.wordEnd (wordChars f))
  | "start-half" => some (.wordStartHalf (wordChars f))
  | "end-half" => some (.wordEndHalf (wordChars f))
  | _ => none

/-- What follows `\b`: the name of a boundary in braces, or nothing. -/
def readBoundary? (f : Flags) (cs : List Char) : Option (Look × List Char) :=
  let isNameChar (c : Char) : Bool := c.isAlpha || c = '-'
  match cs with
  | '{' :: c :: rest =>
    if isNameChar c then
      match (c :: rest).dropWhile isNameChar with
      | '}' :: after =>
        (namedBoundary? f (String.ofList ((c :: rest).takeWhile isNameChar))).map (·, after)
      | _ => none
    else some (.wordBoundary (wordChars f), cs)
  | _ => some (.wordBoundary (wordChars f), cs)

/-- What follows a backslash. -/
def readEscape? (f : Flags) : List Char → Option (Escape × List Char)
  | [] => none
  | 'x' :: cs => (readHex? 2 cs).map fun (c, rest) => (.char c, rest)
  | 'u' :: cs => (readHex? 4 cs).map fun (c, rest) => (.char c, rest)
  | 'U' :: cs => (readHex? 8 cs).map fun (c, rest) => (.char c, rest)
  | 'd' :: cs => some (.set (digits f), cs)
  | 's' :: cs => some (.set (blanks f), cs)
  | 'w' :: cs => some (.set (wordChars f), cs)
  | 'D' :: cs => (complement? f (digits f)).map fun s => (.set s, cs)
  | 'S' :: cs => (complement? f (blanks f)).map fun s => (.set s, cs)
  | 'W' :: cs => (complement? f (wordChars f)).map fun s => (.set s, cs)
  | 'a' :: cs => some (.char '\x07', cs)
  | 'f' :: cs => some (.char '\x0c', cs)
  | 't' :: cs => some (.char '\t', cs)
  | 'n' :: cs => some (.char '\n', cs)
  | 'r' :: cs => some (.char '\r', cs)
  | 'v' :: cs => some (.char '\x0b', cs)
  | 'A' :: cs => some (.look .textStart, cs)
  | 'z' :: cs => some (.look .textEnd, cs)
  | 'b' :: cs => (readBoundary? f cs).map fun (boundary, rest) => (.look boundary, rest)
  | 'B' :: cs => some (.look (.noBoundary (wordChars f)), cs)
  | '<' :: cs => some (.look (.wordStart (wordChars f)), cs)
  | '>' :: cs => some (.look (.wordEnd (wordChars f)), cs)
  | c :: cs => if isEscapable c then some (.char c, cs) else none

/-! ### Sets in brackets -/

/-- A class between `[:` and `:]`, whose bracket and colon are gone. -/
def readNamedClass? (cs : List Char) : Option (CharSet × List Char) :=
  let (negated, cs) := match cs with
    | '^' :: cs => (true, cs)
    | cs => (false, cs)
  match cs.dropWhile (· ≠ ':') with
  | ':' :: ']' :: rest =>
    (namedClass? (String.ofList (cs.takeWhile (· ≠ ':')))).map fun s =>
      (if negated then .complement s else s, rest)
  | _ => none

/-- A character or an escape in a set. -/
def readMember? (f : Flags) : List Char → Option (Escape × List Char)
  | [] => none
  | '\\' :: cs =>
    match readEscape? f cs with
    | some (.look _, _) => none
    | r => r
  | c :: cs => some (.char c, cs)

/-- A member of a set, or a range between two of them. -/
def readRange? (f : Flags) (cs : List Char) : Option (CharSet × List Char) := do
  let (first, rest) ← readMember? f cs
  let alone := match first with
    | .char c => some (CharSet.single c)
    | .set s => some s
    | .look _ => none
  match skip f rest with
  | '-' :: after =>
    match skip f after with
    | ']' :: _ => alone.map (·, rest)
    | '-' :: _ => alone.map (·, rest)
    | after => do
      let (last, rest) ← readMember? f after
      match first, last with
      | .char low, .char high => if low ≤ high then some (.range low high, rest) else none
      | _, _ => none
  | _ => alone.map (·, rest)

/-- Dashes at the beginning of a set stand for themselves. -/
def readDashes (f : Flags) : (bound : Nat) → List Char → List CharSet × List Char
  | 0, cs => ([], cs)
  | bound + 1, cs =>
    match skip f cs with
    | '-' :: rest =>
      let (found, rest) := readDashes f bound rest
      (.single '-' :: found, rest)
    | rest => ([], rest)

mutual

/-- A set whose opening bracket is gone, up to its closing bracket. -/
def readSet? (f : Flags) : (bound : Nat) → List Char → Option (CharSet × List Char)
  | 0, _ => none
  | bound + 1, cs =>
    let (negated, cs) := match skip f cs with
      | '^' :: cs => (true, cs)
      | cs => (false, cs)
    let (found, cs) := readDashes f cs.length cs
    let (found, cs) := match found, skip f cs with
      | [], ']' :: cs => ([CharSet.single ']'], cs)
      | found, cs => (found, cs)
    match readMembers? f bound none (.unionAll found) cs with
    | none => none
    | some (s, rest) =>
      let s := foldIf f s
      if negated then (complement? f s).map (·, rest) else some (s, rest)

/-- Members of a set up to its closing bracket.  `left` is what stands before the last operator,
waiting to be joined with what has been `found` after it. -/
def readMembers? (f : Flags) : (bound : Nat) → (left : Option (CharSet → CharSet)) →
    (found : CharSet) → List Char → Option (CharSet × List Char)
  | 0, _, _, _ => none
  | bound + 1, left, found, cs =>
    let join (s : CharSet) : CharSet := match left with
      | none => s
      | some g => g (foldIf f s)
    let operator (g : CharSet → CharSet → CharSet) (rest : List Char) :=
      readMembers? f bound (some (g (foldIf f (join found)))) .none rest
    match skip f cs with
    | [] => none
    | ']' :: rest => some (join found, rest)
    | '&' :: '&' :: rest => operator .intersection rest
    | '-' :: '-' :: rest => operator .difference rest
    | '~' :: '~' :: rest => operator .symmetricDifference rest
    | '[' :: rest =>
      let class? := match rest with
        | ':' :: rest => readNamedClass? rest
        | _ => none
      match class? with
      | some (s, rest) => readMembers? f bound left (.union found s) rest
      | none =>
        match readSet? f bound rest with
        | none => none
        | some (s, rest) => readMembers? f bound left (.union found s) rest
    | rest =>
      match readRange? f rest with
      | none => none
      | some (s, rest) => readMembers? f bound left (.union found s) rest

end

/-! ### Repetitions -/

/-- A count of repetitions, with blanks around it. -/
def readCount? (cs : List Char) : Option (Nat × List Char) :=
  let cs := cs.dropWhile Text.isBlank
  match cs.takeWhile Char.isDigit with
  | [] => none
  | ds =>
    let n := ds.foldl (fun n c => 10 * n + (c.toNat - '0'.toNat)) 0
    if n < 2 ^ 32 then some (n, (cs.dropWhile Char.isDigit).dropWhile Text.isBlank) else none

/-- The counts in braces, whose opening brace is gone. -/
def readCounts? (f : Flags) (cs : List Char) : Option (Nat × Option Nat × List Char) := do
  let (least, rest) ← readCount? (skip f cs)
  match rest with
  | '}' :: rest => some (least, some least, rest)
  | ',' :: rest =>
    match skip f rest with
    | '}' :: rest => some (least, none, rest)
    | rest => do
      let (most, rest) ← readCount? rest
      match rest with
      | '}' :: rest => if least ≤ most then some (least, some most, rest) else none
      | _ => none
  | _ => none

/-- The text begins with a sign of repetition. -/
def startsRepetition : List Char → Bool
  | c :: _ => c = '*' || c = '+' || c = '?' || c = '{'
  | [] => false

/-- A question mark after a repetition prefers short pieces, which makes no difference here. -/
def skipLazy (f : Flags) (cs : List Char) : List Char :=
  match skip f cs with
  | '?' :: rest => rest
  | _ => cs

/-- Repetitions of a pattern, each of them of what is in front of it. -/
def readRepetitions? (f : Flags) : (bound : Nat) → Pattern → List Char →
    Option (Pattern × List Char)
  | 0, p, cs => some (p, cs)
  | bound + 1, p, cs =>
    match skip f cs with
    | '*' :: rest => readRepetitions? f bound (.repetition p 0 none) (skipLazy f rest)
    | '+' :: rest => readRepetitions? f bound (.repetition p 1 none) (skipLazy f rest)
    | '?' :: rest => readRepetitions? f bound (.repetition p 0 (some 1)) (skipLazy f rest)
    | '{' :: rest =>
      match readCounts? f rest with
      | none => none
      | some (least, most, rest) =>
        readRepetitions? f bound (.repetition p least most) (skipLazy f rest)
    | _ => some (p, cs)

/-! ### Groups -/

/-- Letters of flags up to the end of the flags.  `seen` are the letters so far and `value` is what
they set, which a dash turns around once. -/
def readFlags? (f : Flags) (seen : List Char) (value : Bool) : List Char →
    Option (Flags × List Char × List Char)
  | [] => none
  | ':' :: rest => if seen.head? = some '-' then none else some (f, seen, ':' :: rest)
  | ')' :: rest => if seen.head? = some '-' then none else some (f, seen, ')' :: rest)
  | c :: rest =>
    if seen.contains c then none
    else if c = '-' then readFlags? f ('-' :: seen) false rest
    else
      match f.set? c value with
      | none => none
      | some f => readFlags? f (c :: seen) value rest

/-- The name of a group up to the bracket that closes it. -/
def readName? (cs : List Char) : Option (String × List Char) :=
  match cs.takeWhile (· ≠ '>'), cs.dropWhile (· ≠ '>') with
  | c :: name, '>' :: rest =>
    if (Text.isAlphabetic c || c = '_') && name.all fun c =>
        Text.isAlphabetic c || Text.isNumeric c || c = '_' || c = '.' || c = '[' || c = ']' then
      some (String.ofList (c :: name), rest)
    else none
  | _, _ => none

/-- The condition at the beginning of a line or of the text. -/
def startLook (f : Flags) : Look :=
  if f.multiLine then (if f.crlf then .crlfStart else .lineStart) else .textStart

/-- The condition at the end of a line or of the text. -/
def endLook (f : Flags) : Look :=
  if f.multiLine then (if f.crlf then .crlfEnd else .lineEnd) else .textEnd

/-- The characters that a point accepts. -/
def dotSet? (f : Flags) : Option CharSet :=
  complement? f <|
    if f.dotAll then .none
    else if f.crlf then .union (.single '\n') (.single '\r')
    else .single '\n'

mutual

/-- Alternatives up to the end of a group.  The flags that hold at its end are given too. -/
def readAlternatives? : (bound : Nat) → Flags → List Char → Option (Pattern × Flags × List Char)
  | 0, _, _ => none
  | bound + 1, f, cs =>
    match readSequence? bound f cs with
    | none => none
    | some (p, f, '|' :: rest) =>
      (readAlternatives? bound f rest).map fun (q, f, rest) => (.either p q, f, rest)
    | some r => some r

/-- Pieces up to the end of an alternative. -/
def readSequence? : (bound : Nat) → Flags → List Char → Option (Pattern × Flags × List Char)
  | 0, _, _ => none
  | bound + 1, f, cs =>
    match skip f cs with
    | [] => some (.empty, f, [])
    | '|' :: rest => some (.empty, f, '|' :: rest)
    | ')' :: rest => some (.empty, f, ')' :: rest)
    | rest =>
      match readPiece? bound f rest with
      | none => none
      | some (none, f, rest) =>
        if startsRepetition (skip f rest) then none else readSequence? bound f rest
      | some (some p, f, rest) =>
        match readRepetitions? f rest.length p rest with
        | none => none
        | some (p, rest) =>
          (readSequence? bound f rest).map fun (q, f, rest) => (.sequence p q, f, rest)

/-- One piece, or flags for the rest of the group. -/
def readPiece? : (bound : Nat) → Flags → List Char → Option (Option Pattern × Flags × List Char)
  | 0, _, _ => none
  | _ + 1, _, [] => none
  | bound + 1, f, c :: cs =>
    match c with
    | '*' => none
    | '+' => none
    | '?' => none
    | '{' => none
    | '.' => (dotSet? f).map fun s => (some (.char s), f, cs)
    | '^' => some (some (.look (startLook f)), f, cs)
    | '$' => some (some (.look (endLook f)), f, cs)
    | '[' => (readSet? f (2 * cs.length + 2) cs).map fun (s, rest) => (some (.char s), f, rest)
    | '\\' =>
      match readEscape? f cs with
      | some (.char c, rest) => some (some (.char (foldIf f (.single c))), f, rest)
      | some (.set s, rest) => some (some (.char s), f, rest)
      | some (.look l, rest) => some (some (.look l), f, rest)
      | none => none
    | '(' => readGroup? bound f cs
    | c => some (some (.char (foldIf f (.single c))), f, cs)

/-- A group whose opening parenthesis is gone, or flags for the rest of the group around it. -/
def readGroup? : (bound : Nat) → Flags → List Char → Option (Option Pattern × Flags × List Char)
  | 0, _, _ => none
  | bound + 1, f, cs =>
    let body (inner : Flags) (wrap : Pattern → Pattern) (cs : List Char) :=
      match readAlternatives? bound inner cs with
      | some (p, _, ')' :: rest) => some (some (wrap p), f, rest)
      | _ => none
    match skip f cs with
    | '?' :: '=' :: _ => none
    | '?' :: '!' :: _ => none
    | '?' :: '<' :: '=' :: _ => none
    | '?' :: '<' :: '!' :: _ => none
    | '?' :: 'P' :: '<' :: rest =>
      match readName? rest with
      | some (name, rest) => body f (.named name) rest
      | none => none
    | '?' :: '<' :: rest =>
      match readName? rest with
      | some (name, rest) => body f (.named name) rest
      | none => none
    | '?' :: rest =>
      match readFlags? f [] true rest with
      | some (inner, _, ':' :: rest) => body inner id rest
      | some (outer, seen, ')' :: rest) => if seen.isEmpty then none else some (none, outer, rest)
      | _ => none
    | rest => body f id rest

end

/-- The names are all different. -/
def distinct : List String → Bool
  | [] => true
  | name :: names => !names.contains name && distinct names

/-- The pattern that a text spells. -/
def parse? (source : String) : Option Pattern :=
  match readAlternatives? (4 * source.length + 8) .initial source.toList with
  | some (p, _, []) => if distinct p.names && p.size ≤ maxSize then some p else none
  | _ => none

end Pattern

end RowSieve
