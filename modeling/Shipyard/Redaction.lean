/-!
# Redaction

What may be shown of a secret. A value of up to eight characters becomes stars, at least three of
them; of a longer value the first four characters stay, followed by eight stars.
-/

namespace Shipyard

/-- What is shown in the place of a secret value. -/
def redact (value : String) : String :=
  let cs := value.toList
  if cs.length ≤ 8 then String.ofList (List.replicate (max cs.length 3) '*')
  else String.ofList (cs.take 4 ++ List.replicate 8 '*')

/-- The characters before the first `mark` and those behind it, if `mark` occurs. -/
def splitAtFirst (mark : Char) (cs : List Char) : Option (List Char × List Char) :=
  match cs.dropWhile (· != mark) with
  | [] => none
  | _ :: rest => some (cs.takeWhile (· != mark), rest)

/-- What is shown in the place of `key=value`: the value is redacted. A text without an equals sign
is no assignment and stays. -/
def redactAssignment (pair : String) : String :=
  match splitAtFirst '=' pair.toList with
  | some (key, value) => String.ofList key ++ "=" ++ redact (String.ofList value)
  | none => pair

end Shipyard
