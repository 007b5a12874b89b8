import Shipyard.Text.Punycode
import Shipyard.Unicode.Direction
import Shipyard.Unicode.Joining
import Shipyard.Unicode.Tables.HostName

/-!
# The names of hosts

A name may be written in the characters of all scripts. `hostName?` brings it into letters, digits
and hyphens, label by label: capital letters become small ones, characters that mean the same become
one, and a label with characters from U+0080 on is written behind `xn--`. A label that comes in that
form has to be the one that its own characters would lead to.
-/

namespace Shipyard.Http

open Shipyard.Unicode

/-- The characters that stand for one other character. -/
def hostRuns : List CodeRun :=
  CodeRun.ofText hostRunText

/-- The code points that a word lists behind its colon, between plus signs. -/
def expansionCodes : Nat → List Char → List Nat
  | 0, _ => []
  | fuel + 1, cs =>
    match Text.hexPrefix (cs.drop 1) with
    | (code, []) => [code]
    | (code, rest) => code :: expansionCodes fuel rest

/-- A character that stands for several others, with those. -/
def expansion (word : List Char) : Nat × List Nat :=
  let (code, rest) := Text.hexPrefix word
  (code, expansionCodes rest.length rest)

/-- The characters that stand for several others. -/
def hostExpansions : List (Nat × List Nat) :=
  (words hostExpansionText.toList).map expansion

/-- The characters that are left out. -/
def hostOmitted : CodeSet :=
  .ofText hostOmittedText

/-- The characters that may not stand in a name. -/
def hostRefused : CodeSet :=
  .ofText hostRefusedText

/-- What becomes of a character in a name. -/
def hostCodes? (code : Nat) : Option (List Nat) :=
  if hostRefused.has code then none
  else if hostOmitted.has code then some []
  else
    match hostRuns.findSome? (·.counterpart? code), hostExpansions.lookup code with
    | some other, _ => some [other]
    | none, some codes => some codes
    | none, none => some [code]

/-- Characters below U+0080 that have no place in the name of a host. -/
def forbiddenInHost : List Char :=
  ['#', '/', ':', '<', '>', '?', '@', '[', '\\', ']', '^', '|', '%']

/-- Whether a character has a place in the name of a host. -/
def isHostChar (code : Nat) : Bool :=
  0x20 < code && code ≠ 0x7F && !(forbiddenInHost.map Char.toNat).contains code

/-- The labels of a name, which are apart by full stops. -/
def labels : List Nat → List (List Nat)
  | [] => [[]]
  | code :: codes =>
    if code = '.'.toNat then [] :: labels codes
    else
      match labels codes with
      | [] => [[code]]
      | label :: others => (code :: label) :: others

/-- What stands in front of a label in letters, digits and hyphens. -/
def labelPrefix : List Nat :=
  "xn--".toList.map Char.toNat

/-- Whether all characters of a label are below U+0080. -/
def isBasic (label : List Nat) : Bool :=
  label.all (· < 0x80)

/-- Whether a label is in the form that names are brought into. -/
def isSettled (label : List Nat) : Bool :=
  label.all (fun code => code ≠ '.'.toNat && hostCodes? code == some [code]) &&
    composed label == label

/-- The characters of a label that may be in letters, digits and hyphens. -/
def labelCodes? (label : List Nat) : Option (List Nat) :=
  if !labelPrefix.isPrefixOf label then some label
  else if !isBasic label then none
  else do
    let codes ← Text.Punycode.decode? ((label.drop labelPrefix.length).map Char.ofNat)
    if isBasic codes || !isSettled codes then none else return codes

/-- Whether a label does not begin with a mark, and has joiners only where they are at home. -/
def isLabel (label : List Nat) : Bool :=
  !label.head?.any marks.has && areJoinersAtHome [] label

/-- A label in letters, digits and hyphens. -/
def basicLabel (label : List Nat) : List Char :=
  if isBasic label then label.map Char.ofNat
  else labelPrefix.map Char.ofNat ++ Text.Punycode.encode label

/-- A name in letters, digits and hyphens. -/
def hostName? (name : List Char) : Option (List Char) := do
  let codes ← name.mapM fun c => hostCodes? c.toNat
  let found ← (labels (composed codes.flatten)).mapM labelCodes?
  if found.all (fun label => isLabel label && label.all isHostChar) && areDirectional found then
    return ['.'].intercalate (found.map basicLabel)
  else none

end Shipyard.Http
