import Shipyard.Unicode.Property
import Shipyard.Unicode.Script

/-!
# The bounds of characters, words and sentences

What a character means for the bounds of what a reader sees as one character, of words and of
sentences.
-/

namespace Shipyard.Unicode

/-- The Hangul syllables without a final consonant. -/
def openSyllables : CodeSet :=
  .ofText "AC00-D788/1C"

/-- The code points with a meaning for the bounds of the characters that a reader sees. -/
def graphemeBreak? (name : String) : Option CodeSet :=
  match name with
  | "ex" | "extend" => some (graphemeExtend.union (tabled "emod"))
  | "lv" => some openSyllables
  | "lvt" => some (CodeSet.diff ⟨[(0xAC00, 0xD7A3)]⟩ openSyllables)
  | name => Entry.find? graphemeEntries name

/-- Marks that go with the letter in front of them. -/
def wordExtend : CodeSet :=
  .unions [graphemeExtend, categories ["mc"], tabled "emod"]

/-- Letters of the scripts that set spaces between words. -/
def wordLetters : CodeSet :=
  let unspaced := CodeSet.unions
    [tabled "ideo", wordExtend, Entry.setOf wordEntries ["katakana", "hebrewletter"],
     Entry.setOf scriptEntries ["hiragana", "thai", "lao", "khmer", "myanmar"],
     .ofText "1950-196D 1970-1974 1980-19AB 19B0-19C9 1A20-1A54 1AA7 AA80-AAAF AAB1 AAB5-AAB6
      AAB9-AABD AAC0-AAC2/2 AADB-AADD 11700-1171A 11740-11746"]
  (alphabetic.diff unspaced).union
    (.ofText "2C2-2C5 2D2-2D7 2DE-2DF 2E5-2EB 2ED 2EF-2FF 55A-55C 55E 58A 5F3 70F A708-A716
      A720-A721 A789-A78A AB5B")

/-- The code points with a meaning for the bounds of words. -/
def wordBreak? (name : String) : Option CodeSet :=
  match name with
  | "extend" => some wordExtend
  | "le" | "aletter" => some wordLetters
  | name => Entry.find? wordEntries name

/-- Marks that go with what is in front of them in a sentence. -/
def sentenceExtend : CodeSet :=
  .unions [graphemeExtend, categories ["mc"], .single 0x200D]

/-- The small letters of the scripts in which sentences begin with capitals. -/
def sentenceLower : CodeSet :=
  lowercase.diff (graphemeExtend.union (.ofText "10D0-10FA 10FD-10FF"))

/-- The letters that may begin a sentence. -/
def sentenceUpper : CodeSet :=
  (uppercase.union (categories ["lt"])).diff (.ofText "1C90-1CBA 1CBD-1CBF")

/-- The code points with a meaning for the bounds of sentences. -/
def sentenceBreak? (name : String) : Option CodeSet :=
  match name with
  | "ex" | "extend" => some sentenceExtend
  | "lo" | "lower" => some sentenceLower
  | "up" | "upper" => some sentenceUpper
  | "le" | "oletter" =>
    some ((alphabetic.diff (.unions [sentenceLower, sentenceUpper, sentenceExtend])).union
      (.single 0x5F3))
  | name => Entry.find? sentenceEntries name

end Shipyard.Unicode
