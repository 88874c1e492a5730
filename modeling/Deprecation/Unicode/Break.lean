/-
# Classes of characters in segmentation

Text is segmented into user-perceived characters, words and sentences by three partitions of
the characters into classes.  Most classes are put together from general categories, scripts
and binary properties, with the few characters that are added or taken away.
-/
import Deprecation.Unicode.Property
import Deprecation.Unicode.Script

namespace Deprecation.Unicode

open Text

/-! ## Building blocks -/

/-- The characters of a general category. -/
def inCategory (name : String) : Ranges := Ranges.normal ((category? name).getD []).flatten

/-- The characters with a binary property. -/
def withProperty (name : String) : Ranges := (property? name).getD []

/-- The characters of a script. -/
def inScript (name : String) : Ranges := (script? name).getD []

/-- The characters that are drawn with the character before them. -/
def graphemeExtenders : Ranges := withProperty "grext"

/-- The format characters that go in front of what they format. -/
def prependedMarks : Ranges := withProperty "pcm"

/-! ## User-perceived characters -/

/-- The classes that user-perceived characters are found by. -/
inductive GraphemeBreak where
  | cr
  | lf
  | control
  | extend
  | zwj
  | regionalIndicator
  | prepend
  | spacingMark
  | leading
  | vowel
  | trailing
  | openSyllable
  | closedSyllable
deriving DecidableEq, Repr

namespace GraphemeBreak

/-- The class with a name or an abbreviation. -/
def named (name : String) : Option GraphemeBreak :=
  if name = "cr" then some cr
  else if name = "lf" then some lf
  else if name = "control" ∨ name = "cn" then some control
  else if name = "extend" ∨ name = "ex" then some extend
  else if name = "zwj" then some zwj
  else if name = "regionalindicator" ∨ name = "ri" then some regionalIndicator
  else if name = "prepend" ∨ name = "pp" then some prepend
  else if name = "spacingmark" ∨ name = "sm" then some spacingMark
  else if name = "l" then some leading
  else if name = "v" then some vowel
  else if name = "t" then some trailing
  else if name = "lv" then some openSyllable
  else if name = "lvt" then some closedSyllable
  else none

/-- Control characters, and code points that are to be ignored although nothing is assigned
to them. -/
def controls : Ranges :=
  let ignored := Ranges.inter (withProperty "di") (inCategory "cn")
  let all := Ranges.normal
    (inCategory "cc" ++ inCategory "cf" ++ inCategory "zl" ++ inCategory "zp" ++ ignored)
  Ranges.diff all
    (Ranges.normal (prependedMarks ++ graphemeExtenders ++ Ranges.ofText "A D 200D"))

/-- Marks that take space, without those that end a syllable. -/
def spacingMarks : Ranges :=
  let marks := Ranges.union (inCategory "mc") (Ranges.ofText "E33 EB3")
  Ranges.diff marks (Ranges.union graphemeExtenders (Ranges.ofText
    "102B-102C 1038 1062-1064 1067-106D 1083 1087-108C 108F 109A-109C 1A61 1A63-1A64 AA7B AA7D
    11720-11721"))

/-- The Hangul syllables without a final consonant: every twenty-eighth. -/
def openSyllables : Ranges :=
  (List.range 399).map fun i => (0xAC00 + 28 * i, 0xAC00 + 28 * i)

/-- The members of a class. -/
def ranges : GraphemeBreak → Ranges
  | cr => [(0xD, 0xD)]
  | lf => [(0xA, 0xA)]
  | control => controls
  | extend => Ranges.union graphemeExtenders (withProperty "emod")
  | zwj => [(0x200D, 0x200D)]
  | regionalIndicator => withProperty "ri"
  | prepend => Ranges.union prependedMarks (Ranges.ofText
    "D4E 111C2-111C3 113D1 1193F 11941 11A3A 11A84-11A89 11D46 11F02")
  | spacingMark => spacingMarks
  | leading => Ranges.ofText "1100-115F A960-A97C"
  | vowel => Ranges.ofText "1160-11A7 D7B0-D7C6 16D63 16D67-16D6A"
  | trailing => Ranges.ofText "11A8-11FF D7CB-D7FB"
  | openSyllable => openSyllables
  | closedSyllable => Ranges.diff [(0xAC00, 0xD7A3)] openSyllables

end GraphemeBreak

/-! ## Words -/

/-- The classes that words are found by. -/
inductive WordBreak where
  | letter
  | cr
  | doubleQuote
  | extend
  | extendNumLet
  | format
  | hebrewLetter
  | katakana
  | lf
  | midLetter
  | midNum
  | midNumLet
  | newline
  | numeric
  | regionalIndicator
  | singleQuote
  | space
  | zwj
deriving DecidableEq, Repr

namespace WordBreak

/-- The class with a name or an abbreviation. -/
def named (name : String) : Option WordBreak :=
  if name = "aletter" ∨ name = "le" then some letter
  else if name = "cr" then some cr
  else if name = "doublequote" ∨ name = "dq" then some doubleQuote
  else if name = "extend" then some extend
  else if name = "extendnumlet" ∨ name = "ex" then some extendNumLet
  else if name = "format" ∨ name = "fo" then some format
  else if name = "hebrewletter" ∨ name = "hl" then some hebrewLetter
  else if name = "katakana" ∨ name = "ka" then some katakana
  else if name = "lf" then some lf
  else if name = "midletter" ∨ name = "ml" then some midLetter
  else if name = "midnum" ∨ name = "mn" then some midNum
  else if name = "midnumlet" ∨ name = "mb" then some midNumLet
  else if name = "newline" ∨ name = "nl" then some newline
  else if name = "numeric" ∨ name = "nu" then some numeric
  else if name = "regionalindicator" ∨ name = "ri" then some regionalIndicator
  else if name = "singlequote" ∨ name = "sq" then some singleQuote
  else if name = "wsegspace" then some space
  else if name = "zwj" then some zwj
  else none

/-- Characters that belong to the word before them. -/
def extenders : Ranges :=
  Ranges.normal (graphemeExtenders ++ inCategory "mc" ++ withProperty "emod")

/-- The letters of the Hebrew script. -/
def hebrewLetters : Ranges := Ranges.inter (inScript "hebrew") (inCategory "lo")

/-- The characters that katakana words are written with. -/
def katakanaLetters : Ranges :=
  Ranges.union (inScript "katakana") (Ranges.ofText "3031-3035 309B-309C 30A0 30FC FF70")

/-- The letters of scripts that are written without spaces between words. -/
def unspacedLetters : Ranges := Ranges.ofText
  "E01-E30 E32-E33 E40-E46 E81-E82 E84 E86-E8A E8C-EA3 EA5 EA7-EB0 EB2-EB3 EBD EC0-EC4 EC6
  EDC-EDF 1000-102A 103F 1050-1055 105A-105D 1061 1065-1066 106E-1070 1075-1081 108E 1780-17B3
  17D7 17DC 1950-196D 1970-1974 1980-19AB 19B0-19C9 1A20-1A54 1AA7 A9E0-A9E4 A9E6-A9EF
  A9FA-A9FE AA60-AA76 AA7A AA7E-AAAF"

/-- The letters of scripts that are written with spaces between words, and signs that are
used like letters. -/
def letters : Ranges :=
  let signs := Ranges.ofText "2C2-2C5 2D2-2D7 2DE-2DF 2E5-2EB 2ED 2EF-2FF 55A-55C 55E 58A 5F3 70F
    A708-A716 A720-A721 A789-A78A AB5B"
  let others := Ranges.normal
    (withProperty "ideo" ++ katakanaLetters ++ hebrewLetters ++ extenders
      ++ inScript "hiragana" ++ unspacedLetters)
  Ranges.union (Ranges.diff (withProperty "alpha") others) signs

/-- The characters that numbers are written with. -/
def numerals : Ranges :=
  Ranges.diff
    (Ranges.normal (inCategory "nd" ++ prependedMarks ++ Ranges.ofText "66B 19DA"))
    [(0x70F, 0x70F)]

/-- The members of a class. -/
def ranges : WordBreak → Ranges
  | letter => letters
  | cr => [(0xD, 0xD)]
  | doubleQuote => [(0x22, 0x22)]
  | extend => extenders
  | extendNumLet => Ranges.union (inCategory "pc") [(0x202F, 0x202F)]
  | format => Ranges.diff (inCategory "cf")
    (Ranges.normal (prependedMarks ++ graphemeExtenders ++ Ranges.ofText "200B 200D"))
  | hebrewLetter => hebrewLetters
  | katakana => katakanaLetters
  | lf => [(0xA, 0xA)]
  | midLetter => Ranges.ofText "3A B7 387 55F 5F4 2027 FE13 FE55 FF1A"
  | midNum => Ranges.ofText "2C 3B 37E 589 60C-60D 66C 7F8 2044 FE50 FE54 FF0C FF1B"
  | midNumLet => Ranges.ofText "2E 2018-2019 2024 FE52 FF07 FF0E"
  | newline => Ranges.ofText "B-C 85 2028-2029"
  | numeric => numerals
  | regionalIndicator => withProperty "ri"
  | singleQuote => [(0x27, 0x27)]
  | space => Ranges.ofText "20 1680 2000-2006 2008-200A 205F 3000"
  | zwj => [(0x200D, 0x200D)]

end WordBreak

/-! ## Sentences -/

/-- The classes that sentences are found by. -/
inductive SentenceBreak where
  | ambiguousEnd
  | close
  | cr
  | extend
  | format
  | lf
  | lower
  | numeric
  | otherLetter
  | goesOn
  | separator
  | space
  | sureEnd
  | upper
deriving DecidableEq, Repr

namespace SentenceBreak

/-- The class with a name or an abbreviation. -/
def named (name : String) : Option SentenceBreak :=
  if name = "aterm" ∨ name = "at" then some ambiguousEnd
  else if name = "close" ∨ name = "cl" then some close
  else if name = "cr" then some cr
  else if name = "extend" ∨ name = "ex" then some extend
  else if name = "format" ∨ name = "fo" then some format
  else if name = "lf" then some lf
  else if name = "lower" ∨ name = "lo" then some lower
  else if name = "numeric" ∨ name = "nu" then some numeric
  else if name = "oletter" ∨ name = "le" then some otherLetter
  else if name = "scontinue" ∨ name = "sc" then some goesOn
  else if name = "sep" ∨ name = "se" then some separator
  else if name = "sp" then some space
  else if name = "sterm" ∨ name = "st" then some sureEnd
  else if name = "upper" ∨ name = "up" then some upper
  else none

/-- Full stops, which may also belong to an abbreviation. -/
def fullStops : Ranges := Ranges.ofText "2E 2024 FE52 FF0E"

/-- Characters that belong to the character before them. -/
def extenders : Ranges :=
  Ranges.normal (graphemeExtenders ++ inCategory "mc" ++ [(0x200D, 0x200D)])

/-- Small letters; the Georgian ones do not count, since no capital begins a sentence there. -/
def smallLetters : Ranges :=
  Ranges.diff (withProperty "lower")
    (Ranges.union graphemeExtenders (Ranges.ofText "10D0-10FB 10FD-10FF"))

/-- Capital letters. -/
def capitals : Ranges :=
  Ranges.diff (Ranges.union (inCategory "lt") (withProperty "upper")) [(0x1C90, 0x1CBF)]

/-- Letters without case. -/
def caseless : Ranges :=
  Ranges.diff (Ranges.union (withProperty "alpha") [(0x5F3, 0x5F3)])
    (Ranges.normal (smallLetters ++ capitals ++ extenders))

/-- Brackets and quotation marks. -/
def closers : Ranges :=
  let marks := Ranges.ofText "22 27 275B-2760 2E00-2E01 2E06-2E08 2E0B 1F676-1F678"
  Ranges.normal
    (inCategory "ps" ++ inCategory "pe" ++ inCategory "pi" ++ inCategory "pf" ++ marks)

/-- The members of a class. -/
def ranges : SentenceBreak → Ranges
  | ambiguousEnd => fullStops
  | close => closers
  | cr => [(0xD, 0xD)]
  | extend => extenders
  | format => Ranges.union [(0x70F, 0x70F)] (Ranges.diff (inCategory "cf")
    (Ranges.normal (prependedMarks ++ graphemeExtenders ++ [(0x200D, 0x200D)])))
  | lf => [(0xA, 0xA)]
  | lower => smallLetters
  | numeric => Ranges.union WordBreak.numerals [(0x66C, 0x66C)]
  | otherLetter => caseless
  | goesOn => Ranges.ofText
    "2C-2D 3A-3B 37E 55D 60C-60D 7F8 1802 1808 2013-2014 3001 FE10-FE11 FE13-FE14 FE31-FE32
    FE50-FE51 FE54-FE55 FE58 FE63 FF0C-FF0D FF1A-FF1B FF64"
  | separator => Ranges.ofText "85 2028-2029"
  | space => Ranges.ofText "9 B-C 20 A0 1680 2000-200A 202F 205F 3000"
  | sureEnd => Ranges.diff (withProperty "sterm") fullStops
  | upper => capitals

end SentenceBreak

end Deprecation.Unicode
