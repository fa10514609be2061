import RowSieve.Dictionary
import RowSieve.Store.Entry
import RowSieve.Text.Blank
import RowSieve.Text.Line

/-!
# The key/value store

A `Store` maps keys to values and writes every change to the end of a log.  `Store.load` reads a log
from its beginning, so the last value of a key counts; blank lines do not matter, and any other line
that is no entry makes the log unreadable.

Entries are collected in `pending` until `Store.flush` moves them to the log.  A store that has been
closed can still be read.
-/

namespace RowSieve

/-- Values under keys, with their log. -/
structure Store where
  /-- The log. -/
  log : List UInt8
  /-- What is to be written to the log. -/
  pending : List UInt8
  /-- The values. -/
  data : Dictionary String
  /-- Values can still be put. -/
  isOpen : Bool
deriving Inhabited

namespace Store

/-- What goes wrong with a store. -/
inductive Error where
  /-- The log is no text. -/
  | unreadable
  /-- A line of the log is no entry. -/
  | corrupt (line : Nat)
  /-- The store has been closed. -/
  | closed
deriving DecidableEq, Repr

/-- The wording of an error. -/
def Error.message : Error → String
  | unreadable => "store I/O error: stream did not contain valid UTF-8"
  | corrupt line => s!"corrupt store entry on line {line}: not an entry"
  | closed => "store is closed"

/-- The values after the lines of a log. -/
def replay : List Line → Dictionary String → Except Error (Dictionary String)
  | [], data => .ok data
  | line :: lines, data =>
    match line.text with
    | none => .error .unreadable
    | some s =>
      if Text.allBlank s.toList then replay lines data
      else match Entry.ofLine? s.toList with
        | none => .error (.corrupt line.number)
        | some e => replay lines (data.insert e.key e.value)

/-- The store of a log. -/
def load (log : List UInt8) : Except Error Store :=
  (replay (linesOf log) .empty).map fun data => ⟨log, [], data, true⟩

/-- The bytes of the line of an entry. -/
def entryBytes (key value : String) : List UInt8 := (Entry.line ⟨key, value⟩).toUTF8.data.toList

/-- Puts a value under a key. -/
def put (s : Store) (key value : String) : Except Error Store :=
  if s.isOpen then
    .ok { s with
      pending := s.pending ++ entryBytes key value
      data := s.data.insert key value }
  else .error .closed

/-- The value under a key. -/
def get? (s : Store) (key : String) : Option String := s.data.get? key

/-- The number of keys. -/
def size (s : Store) : Nat := s.data.size

/-- Moves what is pending to the log. -/
def flush (s : Store) : Store := { s with log := s.log ++ s.pending, pending := [] }

/-- Moves what is pending to the log, which ends there. -/
def close (s : Store) : Store := { s.flush with isOpen := false }

end Store

end RowSieve
