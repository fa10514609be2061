import RowSieve.Text.Alphabetic
import RowSieve.Text.Blank
import RowSieve.Text.Case

/-!
# Sets of characters

A `CharSet` describes the characters that one step of a pattern accepts.  Sets are made from ranges
and from the classes of digits, blanks and word characters, with the operations on sets;
`CharSet.folded` adds everything that differs only in case.
-/

namespace RowSieve

namespace Text

/-- Code points from 128 on of decimal digits. -/
def decimalRanges : RangeTable :=
  [(0x660, 0x66A), (0x6F0, 0x6FA), (0x7C0, 0x7CA), (0x966, 0x970), (0x9E6, 0x9F0), (0xA66, 0xA70),
   (0xAE6, 0xAF0), (0xB66, 0xB70), (0xBE6, 0xBF0), (0xC66, 0xC70), (0xCE6, 0xCF0), (0xD66, 0xD70),
   (0xDE6, 0xDF0), (0xE50, 0xE5A), (0xED0, 0xEDA), (0xF20, 0xF2A), (0x1040, 0x104A),
   (0x1090, 0x109A), (0x17E0, 0x17EA), (0x1810, 0x181A), (0x1946, 0x1950), (0x19D0, 0x19DA),
   (0x1A80, 0x1A8A), (0x1A90, 0x1A9A), (0x1B50, 0x1B5A), (0x1BB0, 0x1BBA), (0x1C40, 0x1C4A),
   (0x1C50, 0x1C5A), (0xA620, 0xA62A), (0xA8D0, 0xA8DA), (0xA900, 0xA90A), (0xA9D0, 0xA9DA),
   (0xA9F0, 0xA9FA), (0xAA50, 0xAA5A), (0xABF0, 0xABFA), (0xFF10, 0xFF1A), (0x104A0, 0x104AA),
   (0x10D30, 0x10D3A), (0x10D40, 0x10D4A), (0x11066, 0x11070), (0x110F0, 0x110FA),
   (0x11136, 0x11140), (0x111D0, 0x111DA), (0x112F0, 0x112FA), (0x11450, 0x1145A),
   (0x114D0, 0x114DA), (0x11650, 0x1165A), (0x116C0, 0x116CA), (0x116D0, 0x116E4),
   (0x11730, 0x1173A), (0x118E0, 0x118EA), (0x11950, 0x1195A), (0x11BF0, 0x11BFA),
   (0x11C50, 0x11C5A), (0x11D50, 0x11D5A), (0x11DA0, 0x11DAA), (0x11DE0, 0x11DEA),
   (0x11F50, 0x11F5A), (0x16130, 0x1613A), (0x16A60, 0x16A6A), (0x16AC0, 0x16ACA),
   (0x16B50, 0x16B5A), (0x16D70, 0x16D7A), (0x1CCF0, 0x1CCFA), (0x1D7CE, 0x1D800),
   (0x1E140, 0x1E14A), (0x1E2F0, 0x1E2FA), (0x1E4F0, 0x1E4FA), (0x1E5F1, 0x1E5FB),
   (0x1E950, 0x1E95A), (0x1FBF0, 0x1FBFA)]

/-- Code points from 128 on of marks, which stand with other characters. -/
def markRanges : RangeTable :=
  [(0x300, 0x370), (0x483, 0x48A), (0x591, 0x5BE), (0x5BF, 0x5C0), (0x5C1, 0x5C3), (0x5C4, 0x5C6),
   (0x5C7, 0x5C8), (0x610, 0x61B), (0x64B, 0x660), (0x670, 0x671), (0x6D6, 0x6DD), (0x6DF, 0x6E5),
   (0x6E7, 0x6E9), (0x6EA, 0x6EE), (0x711, 0x712), (0x730, 0x74B), (0x7A6, 0x7B1), (0x7EB, 0x7F4),
   (0x7FD, 0x7FE), (0x816, 0x81A), (0x81B, 0x824), (0x825, 0x828), (0x829, 0x82E), (0x859, 0x85C),
   (0x897, 0x8A0), (0x8CA, 0x8E2), (0x8E3, 0x904), (0x93A, 0x93D), (0x93E, 0x950), (0x951, 0x958),
   (0x962, 0x964), (0x981, 0x984), (0x9BC, 0x9BD), (0x9BE, 0x9C5), (0x9C7, 0x9C9), (0x9CB, 0x9CE),
   (0x9D7, 0x9D8), (0x9E2, 0x9E4), (0x9FE, 0x9FF), (0xA01, 0xA04), (0xA3C, 0xA3D), (0xA3E, 0xA43),
   (0xA47, 0xA49), (0xA4B, 0xA4E), (0xA51, 0xA52), (0xA70, 0xA72), (0xA75, 0xA76), (0xA81, 0xA84),
   (0xABC, 0xABD), (0xABE, 0xAC6), (0xAC7, 0xACA), (0xACB, 0xACE), (0xAE2, 0xAE4), (0xAFA, 0xB00),
   (0xB01, 0xB04), (0xB3C, 0xB3D), (0xB3E, 0xB45), (0xB47, 0xB49), (0xB4B, 0xB4E), (0xB55, 0xB58),
   (0xB62, 0xB64), (0xB82, 0xB83), (0xBBE, 0xBC3), (0xBC6, 0xBC9), (0xBCA, 0xBCE), (0xBD7, 0xBD8),
   (0xC00, 0xC05), (0xC3C, 0xC3D), (0xC3E, 0xC45), (0xC46, 0xC49), (0xC4A, 0xC4E), (0xC55, 0xC57),
   (0xC62, 0xC64), (0xC81, 0xC84), (0xCBC, 0xCBD), (0xCBE, 0xCC5), (0xCC6, 0xCC9), (0xCCA, 0xCCE),
   (0xCD5, 0xCD7), (0xCE2, 0xCE4), (0xCF3, 0xCF4), (0xD00, 0xD04), (0xD3B, 0xD3D), (0xD3E, 0xD45),
   (0xD46, 0xD49), (0xD4A, 0xD4E), (0xD57, 0xD58), (0xD62, 0xD64), (0xD81, 0xD84), (0xDCA, 0xDCB),
   (0xDCF, 0xDD5), (0xDD6, 0xDD7), (0xDD8, 0xDE0), (0xDF2, 0xDF4), (0xE31, 0xE32), (0xE34, 0xE3B),
   (0xE47, 0xE4F), (0xEB1, 0xEB2), (0xEB4, 0xEBD), (0xEC8, 0xECF), (0xF18, 0xF1A), (0xF35, 0xF36),
   (0xF37, 0xF38), (0xF39, 0xF3A), (0xF3E, 0xF40), (0xF71, 0xF85), (0xF86, 0xF88), (0xF8D, 0xF98),
   (0xF99, 0xFBD), (0xFC6, 0xFC7), (0x102B, 0x103F), (0x1056, 0x105A), (0x105E, 0x1061),
   (0x1062, 0x1065), (0x1067, 0x106E), (0x1071, 0x1075), (0x1082, 0x108E), (0x108F, 0x1090),
   (0x109A, 0x109E), (0x135D, 0x1360), (0x1712, 0x1716), (0x1732, 0x1735), (0x1752, 0x1754),
   (0x1772, 0x1774), (0x17B4, 0x17D4), (0x17DD, 0x17DE), (0x180B, 0x180E), (0x180F, 0x1810),
   (0x1885, 0x1887), (0x18A9, 0x18AA), (0x1920, 0x192C), (0x1930, 0x193C), (0x1A17, 0x1A1C),
   (0x1A55, 0x1A5F), (0x1A60, 0x1A7D), (0x1A7F, 0x1A80), (0x1AB0, 0x1ADE), (0x1AE0, 0x1AEC),
   (0x1B00, 0x1B05), (0x1B34, 0x1B45), (0x1B6B, 0x1B74), (0x1B80, 0x1B83), (0x1BA1, 0x1BAE),
   (0x1BE6, 0x1BF4), (0x1C24, 0x1C38), (0x1CD0, 0x1CD3), (0x1CD4, 0x1CE9), (0x1CED, 0x1CEE),
   (0x1CF4, 0x1CF5), (0x1CF7, 0x1CFA), (0x1DC0, 0x1E00), (0x20D0, 0x20F1), (0x2CEF, 0x2CF2),
   (0x2D7F, 0x2D80), (0x2DE0, 0x2E00), (0x302A, 0x3030), (0x3099, 0x309B), (0xA66F, 0xA673),
   (0xA674, 0xA67E), (0xA69E, 0xA6A0), (0xA6F0, 0xA6F2), (0xA802, 0xA803), (0xA806, 0xA807),
   (0xA80B, 0xA80C), (0xA823, 0xA828), (0xA82C, 0xA82D), (0xA880, 0xA882), (0xA8B4, 0xA8C6),
   (0xA8E0, 0xA8F2), (0xA8FF, 0xA900), (0xA926, 0xA92E), (0xA947, 0xA954), (0xA980, 0xA984),
   (0xA9B3, 0xA9C1), (0xA9E5, 0xA9E6), (0xAA29, 0xAA37), (0xAA43, 0xAA44), (0xAA4C, 0xAA4E),
   (0xAA7B, 0xAA7E), (0xAAB0, 0xAAB1), (0xAAB2, 0xAAB5), (0xAAB7, 0xAAB9), (0xAABE, 0xAAC0),
   (0xAAC1, 0xAAC2), (0xAAEB, 0xAAF0), (0xAAF5, 0xAAF7), (0xABE3, 0xABEB), (0xABEC, 0xABEE),
   (0xFB1E, 0xFB1F), (0xFE00, 0xFE10), (0xFE20, 0xFE30), (0x101FD, 0x101FE), (0x102E0, 0x102E1),
   (0x10376, 0x1037B), (0x10A01, 0x10A04), (0x10A05, 0x10A07), (0x10A0C, 0x10A10),
   (0x10A38, 0x10A3B), (0x10A3F, 0x10A40), (0x10AE5, 0x10AE7), (0x10D24, 0x10D28),
   (0x10D69, 0x10D6E), (0x10EAB, 0x10EAD), (0x10EFA, 0x10F00), (0x10F46, 0x10F51),
   (0x10F82, 0x10F86), (0x11000, 0x11003), (0x11038, 0x11047), (0x11070, 0x11071),
   (0x11073, 0x11075), (0x1107F, 0x11083), (0x110B0, 0x110BB), (0x110C2, 0x110C3),
   (0x11100, 0x11103), (0x11127, 0x11135), (0x11145, 0x11147), (0x11173, 0x11174),
   (0x11180, 0x11183), (0x111B3, 0x111C1), (0x111C9, 0x111CD), (0x111CE, 0x111D0),
   (0x1122C, 0x11238), (0x1123E, 0x1123F), (0x11241, 0x11242), (0x112DF, 0x112EB),
   (0x11300, 0x11304), (0x1133B, 0x1133D), (0x1133E, 0x11345), (0x11347, 0x11349),
   (0x1134B, 0x1134E), (0x11357, 0x11358), (0x11362, 0x11364), (0x11366, 0x1136D),
   (0x11370, 0x11375), (0x113B8, 0x113C1), (0x113C2, 0x113C3), (0x113C5, 0x113C6),
   (0x113C7, 0x113CB), (0x113CC, 0x113D1), (0x113D2, 0x113D3), (0x113E1, 0x113E3),
   (0x11435, 0x11447), (0x1145E, 0x1145F), (0x114B0, 0x114C4), (0x115AF, 0x115B6),
   (0x115B8, 0x115C1), (0x115DC, 0x115DE), (0x11630, 0x11641), (0x116AB, 0x116B8),
   (0x1171D, 0x1172C), (0x1182C, 0x1183B), (0x11930, 0x11936), (0x11937, 0x11939),
   (0x1193B, 0x1193F), (0x11940, 0x11941), (0x11942, 0x11944), (0x119D1, 0x119D8),
   (0x119DA, 0x119E1), (0x119E4, 0x119E5), (0x11A01, 0x11A0B), (0x11A33, 0x11A3A),
   (0x11A3B, 0x11A3F), (0x11A47, 0x11A48), (0x11A51, 0x11A5C), (0x11A8A, 0x11A9A),
   (0x11B60, 0x11B68), (0x11C2F, 0x11C37), (0x11C38, 0x11C40), (0x11C92, 0x11CA8),
   (0x11CA9, 0x11CB7), (0x11D31, 0x11D37), (0x11D3A, 0x11D3B), (0x11D3C, 0x11D3E),
   (0x11D3F, 0x11D46), (0x11D47, 0x11D48), (0x11D8A, 0x11D8F), (0x11D90, 0x11D92),
   (0x11D93, 0x11D98), (0x11EF3, 0x11EF7), (0x11F00, 0x11F02), (0x11F03, 0x11F04),
   (0x11F34, 0x11F3B), (0x11F3E, 0x11F43), (0x11F5A, 0x11F5B), (0x13440, 0x13441),
   (0x13447, 0x13456), (0x1611E, 0x16130), (0x16AF0, 0x16AF5), (0x16B30, 0x16B37),
   (0x16F4F, 0x16F50), (0x16F51, 0x16F88), (0x16F8F, 0x16F93), (0x16FE4, 0x16FE5),
   (0x16FF0, 0x16FF2), (0x1BC9D, 0x1BC9F), (0x1CF00, 0x1CF2E), (0x1CF30, 0x1CF47),
   (0x1D165, 0x1D16A), (0x1D16D, 0x1D173), (0x1D17B, 0x1D183), (0x1D185, 0x1D18C),
   (0x1D1AA, 0x1D1AE), (0x1D242, 0x1D245), (0x1DA00, 0x1DA37), (0x1DA3B, 0x1DA6D),
   (0x1DA75, 0x1DA76), (0x1DA84, 0x1DA85), (0x1DA9B, 0x1DAA0), (0x1DAA1, 0x1DAB0),
   (0x1E000, 0x1E007), (0x1E008, 0x1E019), (0x1E01B, 0x1E022), (0x1E023, 0x1E025),
   (0x1E026, 0x1E02B), (0x1E08F, 0x1E090), (0x1E130, 0x1E137), (0x1E2AE, 0x1E2AF),
   (0x1E2EC, 0x1E2F0), (0x1E4EC, 0x1E4F0), (0x1E5EE, 0x1E5F0), (0x1E6E3, 0x1E6E4),
   (0x1E6E6, 0x1E6E7), (0x1E6EE, 0x1E6F0), (0x1E6F5, 0x1E6F6), (0x1E8D0, 0x1E8D7),
   (0x1E944, 0x1E94B), (0xE0100, 0xE01F0)]

/-- Code points from 128 on of punctuation that connects words. -/
def connectorRanges : RangeTable :=
  [(0x203F, 0x2041), (0x2054, 0x2055), (0xFE33, 0xFE35), (0xFE4D, 0xFE50), (0xFF3F, 0xFF40)]

/-- The character is a decimal digit, in any script. -/
def isDecimal (c : Char) : Bool :=
  if c.val < 128 then c.isDigit else decimalRanges.covers c.toNat

/-- The character belongs to a word: a letter with its marks, a decimal digit, a connector or a
joiner. -/
def isWordPart (c : Char) : Bool :=
  if c.val < 128 then c.isAlphanum || c = '_'
  else
    alphabeticRanges.covers c.toNat || markRanges.covers c.toNat || decimalRanges.covers c.toNat ||
      connectorRanges.covers c.toNat || c.val = 0x200C || c.val = 0x200D

/-- The character itself and all that differ from it only in case. -/
def caseVariants (c : Char) : List Char :=
  let base := foldCase c
  base :: base.toLower :: foldShifts.filterMap fun (s : Shift) =>
    let n := ((base.toNat : Int) - s.distance).toNat
    if s.low ≤ n && n ≤ s.high && (n - s.low) % s.step == 0 then some (Char.ofNat n) else none

end Text

namespace Pattern

/-- A set of characters. -/
inductive CharSet where
  /-- No characters. -/
  | none
  /-- All characters from `low` to `high`. -/
  | range (low high : Char)
  /-- Decimal digits. -/
  | digit
  /-- Blanks. -/
  | blank
  /-- Characters of words. -/
  | word
  /-- All characters but those of a set. -/
  | complement (s : CharSet)
  /-- The characters of either set. -/
  | union (s t : CharSet)
  /-- The characters of both sets. -/
  | intersection (s t : CharSet)
  /-- The characters of a set and all that differ from them only in case. -/
  | folded (s : CharSet)
deriving Repr, Inhabited

namespace CharSet

/-- The set has one member. -/
def single (c : Char) : CharSet := range c c

/-- All characters. -/
def all : CharSet := complement none

/-- The characters of the first set that are not in the second. -/
def difference (s t : CharSet) : CharSet := intersection s (complement t)

/-- The characters of exactly one of two sets. -/
def symmetricDifference (s t : CharSet) : CharSet := union (difference s t) (difference t s)

/-- The union of sets. -/
def unionAll (sets : List CharSet) : CharSet := sets.foldr union none

/-- The set holds a character. -/
def contains : CharSet → Char → Bool
  | none, _ => false
  | range low high, c => low ≤ c && c ≤ high
  | digit, c => Text.isDecimal c
  | blank, c => Text.isBlank c
  | word, c => Text.isWordPart c
  | complement s, c => !s.contains c
  | union s t, c => s.contains c || t.contains c
  | intersection s t, c => s.contains c && t.contains c
  | folded s, c => (Text.caseVariants c).any s.contains

end CharSet

end Pattern

end RowSieve
