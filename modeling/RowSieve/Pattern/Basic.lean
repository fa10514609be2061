import RowSieve.Pattern.CharSet
import RowSieve.Power

/-!
# Patterns

A `Pattern` describes pieces of a text.  `Pattern.occursIn` tells whether a text has such a piece
anywhere.

Places in a text of `n` characters are the numbers from `0` to `n`, and a set of places is a
number whose bits tell which places belong to it.  `Pattern.advance` sends a set of places to the
set of all places where a piece that begins at one of them can end; a character moves the bits by
one, a condition on the place keeps some of them, and a repetition goes on until no place is
added.
-/

namespace RowSieve

/-- A condition on a place in a text. -/
inductive Look where
  /-- The beginning of the text. -/
  | textStart
  /-- The end of the text. -/
  | textEnd
  /-- The beginning of a line. -/
  | lineStart
  /-- The end of a line. -/
  | lineEnd
  /-- The beginning of a line, where a carriage return ends lines too. -/
  | crlfStart
  /-- The end of a line, where a carriage return ends lines too. -/
  | crlfEnd
  /-- There is a word on one side only. -/
  | wordBoundary (letters : Pattern.CharSet)
  /-- There is a word on both sides or on neither. -/
  | noBoundary (letters : Pattern.CharSet)
  /-- A word begins. -/
  | wordStart (letters : Pattern.CharSet)
  /-- A word ends. -/
  | wordEnd (letters : Pattern.CharSet)
  /-- There is no word before the place. -/
  | wordStartHalf (letters : Pattern.CharSet)
  /-- There is no word after the place. -/
  | wordEndHalf (letters : Pattern.CharSet)
deriving Repr, Inhabited

/-- The condition holds between two characters, either of which is missing at an end of the text. -/
def Look.holds (before after : Option Char) : Look → Bool
  | textStart => before.isNone
  | textEnd => after.isNone
  | lineStart => before.all (· = '\n')
  | lineEnd => after.all (· = '\n')
  | crlfStart => before.all fun c => c = '\n' || (c = '\r' && after ≠ some '\n')
  | crlfEnd => after.all fun c => c = '\r' || (c = '\n' && before ≠ some '\r')
  | wordBoundary letters => before.any letters.contains != after.any letters.contains
  | noBoundary letters => before.any letters.contains == after.any letters.contains
  | wordStart letters => !before.any letters.contains && after.any letters.contains
  | wordEnd letters => before.any letters.contains && !after.any letters.contains
  | wordStartHalf letters => !before.any letters.contains
  | wordEndHalf letters => !after.any letters.contains

/-- A description of pieces of a text. -/
inductive Pattern where
  /-- The piece without characters. -/
  | empty
  /-- One character. -/
  | char (set : Pattern.CharSet)
  /-- The piece without characters, at certain places. -/
  | look (condition : Look)
  /-- One piece after the other. -/
  | sequence (first second : Pattern)
  /-- Either piece. -/
  | either (first second : Pattern)
  /-- At least `least` and at most `most` pieces, one after the other. -/
  | repetition (p : Pattern) (least : Nat) (most : Option Nat)
  /-- A piece with a name. -/
  | named (name : String) (p : Pattern)
deriving Repr, Inhabited

namespace Pattern

/-- The places for which a test of the characters on both sides holds. -/
def placesWhere (test : Option Char → Option Char → Bool) : (before : Option Char) → List Char → Nat
  | before, [] => if test before none then 1 else 0
  | before, c :: cs =>
    2 * placesWhere test (some c) cs + if test before (some c) then 1 else 0

/-- Applies a step up to `count` times, or until it changes nothing. -/
def iterate (step : Nat → Nat) : (count : Nat) → (places : Nat) → Nat
  | 0, places => places
  | count + 1, places => if step places = places then places else iterate step count (step places)

/-- The places where pieces end that begin at the given places. -/
def advance (text : List Char) : Pattern → (places : Nat) → Nat
  | empty, places => places
  | char set, places =>
    2 * (places &&& placesWhere (fun _ after => after.any set.contains) none text)
  | look condition, places =>
    places &&& placesWhere (fun before after => condition.holds before after) none text
  | sequence p q, places => advance text q (advance text p places)
  | either p q, places => advance text p places ||| advance text q places
  | repetition p least most, places =>
    let more := match most with
      | some most => most - least
      | none => text.length + 1
    iterate (fun s => s ||| advance text p s) more (iterate (advance text p) least places)
  | named _ p, places => advance text p places

/-- The text has a piece that the pattern describes. -/
def occursIn (p : Pattern) (text : String) : Bool :=
  p.advance text.toList (2 ^ (text.length + 1) - 1) ≠ 0

/-- The names in a pattern. -/
def names : Pattern → List String
  | sequence p q => p.names ++ q.names
  | either p q => p.names ++ q.names
  | repetition p _ _ => p.names
  | named name p => name :: p.names
  | _ => []

/-- How many characters a pattern spells out, with every repetition written in full. -/
def size : Pattern → Nat
  | empty => 1
  | char _ => 1
  | look _ => 1
  | sequence p q => p.size + q.size
  | either p q => p.size + q.size + 1
  | repetition p least most => p.size * max 1 (max least (most.getD 1))
  | named _ p => p.size + 1

/-- Patterns that spell out more than this are refused. -/
def maxSize : Nat := 300000

end Pattern

end RowSieve
