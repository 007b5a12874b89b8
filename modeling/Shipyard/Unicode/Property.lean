import Shipyard.Unicode.Category
import Shipyard.Unicode.Tables.Property
import Shipyard.Unicode.Tables.Segmentation

/-!
# Properties of characters

Some properties have tables of their own, others follow from the categories and from properties that
are kept for the purpose.
-/

namespace Shipyard.Unicode

/-- The code points with a property that has a table. -/
def tabled (name : String) : CodeSet :=
  Entry.setOf propertyEntries [name]

/-- Small letters, and what counts as one. -/
def lowercase : CodeSet :=
  (categories ["ll"]).union (tabled "olower")

/-- Capital letters, and what counts as one. -/
def uppercase : CodeSet :=
  (categories ["lu"]).union (tabled "oupper")

/-- Letters and other characters that words are spelled with. -/
def alphabetic : CodeSet :=
  .unions [lowercase, uppercase, categories ["lt", "lm", "lo", "nl"], tabled "oalpha"]

/-- Characters that have a case. -/
def cased : CodeSet :=
  .unions [lowercase, uppercase, categories ["lt"]]

/-- Characters that do not part the letters in front of them from those behind them. -/
def caseIgnorable : CodeSet :=
  (categories ["mn", "me", "cf", "lm", "sk"]).union
    (Entry.setOf wordEntries ["midletter", "midnumlet", "singlequote"])

/-- What stands in patterns only, and so in no name. -/
def patternOnly : CodeSet :=
  (tabled "patsyn").union (tabled "patws")

/-- Characters that an identifier may begin with. -/
def identifierStart : CodeSet :=
  ((categories ["lu", "ll", "lt", "lm", "lo", "nl"]).union (tabled "oids")).diff patternOnly

/-- Characters that an identifier may go on with. -/
def identifierContinue : CodeSet :=
  (CodeSet.unions [identifierStart, categories ["mn", "mc", "nd", "pc"], tabled "oidc"]).diff
    patternOnly

/-- Characters that may go on with an identifier but decompose into others that may not. -/
def unstableContinue : CodeSet :=
  .ofText "37A 309B-309C FC5E-FC63 FDFA-FDFB FE70-FE7E/2"

/-- Characters that may begin an identifier but decompose into others that may not. -/
def unstableStart : CodeSet :=
  unstableContinue.union (.ofText "E33 EB3 FF9E-FF9F")

/-- Characters that show nothing if they are not known. -/
def defaultIgnorable : CodeSet :=
  (CodeSet.unions [tabled "odi", categories ["cf"], tabled "vs"]).diff
    (.unions [tabled "space", tabled "pcm", .ofText "FFF9-FFFB 13430-1343F"])

/-- Characters that a reader sees as a part of what stands in front of them. -/
def graphemeExtend : CodeSet :=
  (categories ["me", "mn"]).union (tabled "ogrext")

/-- Characters that others attach to. -/
def graphemeBase : CodeSet :=
  assigned.diff ((categories ["cc", "cf", "co", "zl", "zp"]).union graphemeExtend)

/-- Characters that another case takes the place of at the start of a word. -/
def titlecaseChanges : CodeSet :=
  ((tabled "cwu").diff
      (.ofText "1C5-1CB/3 1F2 10D0-10FA 10FD-10FF 1F88-1F8F 1F98-1F9F 1FA8-1FAF 1FBC 1FCC 1FFC")).union
    (.ofText "1C4-1CA/3 1F1")

/-- Characters that change where case is of no account. -/
def foldingChanges : CodeSet :=
  ((tabled "cwl").diff (.ofText "13A0-13F5")).union
    (.ofText "B5 DF 149 17F 345 3C2 3D0-3D1 3D5-3D6 3F0-3F1 3F5 587 13F8-13FD 1C80-1C88 1E9A-1E9B
      1F80-1F87 1F90-1F97 1FA0-1FA7 1FB2-1FB4 1FB7 1FC2-1FC4 1FC7 1FF2-1FF4 1FF7 AB70-ABBF
      FB00-FB06 FB13-FB17")

/-- The code points with a property. -/
def property? (name : String) : Option CodeSet :=
  match name with
  | "lower" | "lowercase" => some lowercase
  | "upper" | "uppercase" => some uppercase
  | "alpha" | "alphabetic" => some alphabetic
  | "cased" => some cased
  | "ci" | "caseignorable" => some caseIgnorable
  | "math" => some ((categories ["sm"]).union (tabled "omath"))
  | "ids" | "idstart" => some identifierStart
  | "idc" | "idcontinue" => some identifierContinue
  | "xids" | "xidstart" => some (identifierStart.diff unstableStart)
  | "xidc" | "xidcontinue" => some (identifierContinue.diff unstableContinue)
  | "di" | "defaultignorablecodepoint" => some defaultIgnorable
  | "grext" | "graphemeextend" => some graphemeExtend
  | "grbase" | "graphemebase" => some graphemeBase
  | "cwt" | "changeswhentitlecased" => some titlecaseChanges
  | "cwcf" | "changeswhencasefolded" => some foldingChanges
  | "cwcm" | "changeswhencasemapped" =>
    some (.unions [tabled "cwl", tabled "cwu", titlecaseChanges])
  | name => Entry.find? propertyEntries name

end Shipyard.Unicode
