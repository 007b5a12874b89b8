import Shipyard.Http.Address
import Shipyard.Http.HostName
import Shipyard.Text.Blank
import Shipyard.Text.Utf8

/-!
# URLs

A URL has a scheme, perhaps the authority that it belongs to, a path, and perhaps a query and a
fragment. `Url.parse?` reads one from a text and brings it into its usual form: scheme and host in
small letters, without a port that goes without saying, without the segments of a path that stand
for the place itself or for the one above, and with characters that have no place in a URL as their
bytes in hexadecimal. White space at the ends of a text is of no account, nor are tabs and the ends
of lines anywhere.

Some schemes are special: their URLs have a host and a path, a backslash is as good as a slash, and
slashes in front of the host may be left out.
-/

namespace Shipyard.Http

/-- A byte in hexadecimal behind a percent sign. -/
def percentByte (b : UInt8) : List Char :=
  ['%', (Nat.digitChar (b.toNat / 16)).toUpper, (Nat.digitChar (b.toNat % 16)).toUpper]

/-- A character, by its bytes if it is a control, lies above U+007E or is forbidden. -/
def urlChar (forbidden : List Char) (c : Char) : List Char :=
  if c.toNat < 0x20 ∨ 0x7F ≤ c.toNat ∨ forbidden.contains c then
    c.toString.toUTF8.toList.flatMap percentByte
  else [c]

/-- A text with the characters that are forbidden by their bytes. -/
def urlText (forbidden : List Char) (cs : List Char) : List Char :=
  cs.flatMap (urlChar forbidden)

/-- Characters that have no place in a fragment. -/
def forbiddenInFragment : List Char := [' ', '"', '<', '>', '\x60']

/-- Characters that have no place in a path. -/
def forbiddenInPath : List Char := forbiddenInFragment ++ ['#', '?', '\x7b', '\x7d']

/-- Characters that have no place in the name of a user. -/
def forbiddenInUser : List Char :=
  forbiddenInPath ++ ['/', ':', ';', '=', '@', '[', '\\', ']', '^', '|']

/-- Characters that have no place in a query; the apostrophe has none if the scheme is special. -/
def forbiddenInQuery (special : Bool) : List Char :=
  [' ', '"', '#', '<', '>'] ++ if special then ['\''] else []

/-- The byte that a percent sign and two hexadecimal digits stand for. -/
def escapedByte? : List Char → Option UInt8
  | '%' :: a :: b :: _ => do
    let high ← Text.hexDigit? a
    let low ← Text.hexDigit? b
    return UInt8.ofNat (16 * high + low)
  | _ => none

/-- The bytes of a text without its first `skip` characters. A percent sign and two hexadecimal
digits stand for one byte. -/
def percentDecode (skip : Nat) : List Char → List UInt8
  | [] => []
  | c :: cs =>
    match skip, escapedByte? (c :: cs) with
    | skip + 1, _ => percentDecode skip cs
    | 0, some b => b :: percentDecode 2 cs
    | 0, none => c.toString.toUTF8.toList ++ percentDecode 0 cs

/-- The text behind percent signs, if its bytes are well-formed. -/
def percentDecoded? (cs : List Char) : Option String :=
  Text.Utf8.decode? (percentDecode 0 cs)

/-- What a URL belongs to. -/
structure Authority where
  /-- The name of a user, as it is written. -/
  user : List Char
  /-- The password behind a colon, as it is written. -/
  password : Option (List Char)
  host : List Char
  /-- The port, unless it is the one that goes without saying. -/
  port : Option Nat
  deriving DecidableEq, Repr

/-- A URL in its usual form. -/
structure Url where
  scheme : List Char
  authority : Option Authority
  path : List Char
  query : Option (List Char)
  fragment : Option (List Char)
  deriving DecidableEq, Repr

/-- A special scheme: its name, and the port that goes without saying. -/
def specialSchemes : List (List Char × Option Nat) :=
  [("http".toList, some 80), ("https".toList, some 443), ("ws".toList, some 80),
   ("wss".toList, some 443), ("ftp".toList, some 21), ("file".toList, none)]

/-- Whether a scheme is special. -/
def isSpecial (scheme : List Char) : Bool :=
  (specialSchemes.lookup scheme).isSome

/-- Whether a scheme is that of files. -/
def isFile (scheme : List Char) : Bool :=
  scheme == "file".toList

/-- Whether a character is as good as a slash. -/
def isSlash (special : Bool) (c : Char) : Bool :=
  c == '/' || (special && c == '\\')

/-- Whether a character ends a path. -/
def endsPath (c : Char) : Bool :=
  c == '?' || c == '#'

/-- Whether a character ends an authority. -/
def endsAuthority (special : Bool) (c : Char) : Bool :=
  isSlash special c || endsPath c

/-- The parts of a text between slashes. -/
def segmentsOf (special : Bool) (cs : List Char) : List (List Char) :=
  partsAt '/' (cs.map fun c => if isSlash special c then '/' else c)

/-- Whether a segment stands for the place itself. -/
def isHere (segment : List Char) : Bool :=
  [".", "%2e"].contains (String.ofList (segment.map Char.toLower))

/-- Whether a segment stands for the place above. -/
def isAbove (segment : List Char) : Bool :=
  ["..", ".%2e", "%2e.", "%2e%2e"].contains (String.ofList (segment.map Char.toLower))

/-- Whether a segment begins with the letter of a drive, which is never left. -/
def isDrive : List Char → Bool
  | letter :: sign :: rest =>
    letter.isAlpha && (sign == ':' || sign == '|') && (rest.isEmpty || rest.head? == some '\\')
  | _ => false

/-- The segments above, the last one first. -/
def leave : List (List Char) → List (List Char)
  | [] => []
  | last :: above => if isDrive last then last :: above else above

/-- The segments of a path without those that stand for other ones; `above` stands in front of them,
the last one first. A path that ends in such a segment ends in a slash. -/
def resolve (above : List (List Char)) : List (List Char) → List (List Char)
  | [] => above.reverse
  | [segment] =>
    if isAbove segment then ([] :: leave above).reverse
    else if isHere segment then ([] :: above).reverse
    else (segment :: above).reverse
  | segment :: others =>
    if isAbove segment then resolve (leave above) others
    else if isHere segment then resolve above others
    else resolve (segment :: above) others

/-- A path of segments. -/
def pathOf (segments : List (List Char)) : List Char :=
  (resolve [] (segments.map (urlText forbiddenInPath))).flatMap ('/' :: ·)

/-- The path behind an authority. -/
def pathBehind (special : Bool) (cs : List Char) : List Char :=
  match cs with
  | [] => if special then ['/'] else []
  | c :: rest => pathOf (segmentsOf special (if isSlash special c then rest else c :: rest))

/-- The letter of a drive with a colon, if a segment is one. -/
def usualDrive (segment : List Char) : List Char :=
  match segment with
  | [letter, sign] => if isDrive [letter, sign] then [letter, ':'] else [letter, sign]
  | segment => segment

/-- The path of a file. The letter of a drive has a colon, and no segment in front is empty. -/
def filePath (cs : List Char) : List Char :=
  let segments :=
    match segmentsOf true (match cs with | c :: rest => if isSlash true c then rest else c :: rest
                                         | [] => []) with
    | first :: others => usualDrive first :: others
    | [] => []
  '/' :: (pathOf segments).dropWhile (· == '/')

/-- The query and the fragment at the end of a URL. -/
def readEnd (special : Bool) (cs : List Char) : Option (List Char) × Option (List Char) :=
  let fragment (cs : List Char) : Option (List Char) :=
    match cs with
    | [] => none
    | _ :: rest => some (urlText forbiddenInFragment rest)
  match cs with
  | '?' :: rest =>
    (some (urlText (forbiddenInQuery special) (rest.takeWhile (· != '#'))),
      fragment (rest.dropWhile (· != '#')))
  | cs => (none, fragment cs)

/-- A host of a special scheme: an address, or the name of a host. -/
def specialHost? (cs : List Char) : Option (List Char) := do
  let text ← percentDecoded? cs
  let name ← hostName? text.toList
  if name.isEmpty then none
  else if endsInNumber name then (fourByteValue? name).map showFourBytes
  else return name

/-- A host of another scheme, of which little is known. -/
def otherHost? (cs : List Char) : Option (List Char) :=
  let forbidden : List Char :=
    ['\x00', '\t', '\n', '\r', ' ', '#', '/', ':', '<', '>', '?', '@', '[', '\\', ']', '^', '|']
  if cs.any forbidden.contains then none else some (urlText [] cs)

/-- A host. -/
def host? (special : Bool) (cs : List Char) : Option (List Char) :=
  match cs with
  | '[' :: rest =>
    if rest.getLast? = some ']' then
      (eightPieces? rest.dropLast).map fun pieces => ['['] ++ showEightPieces pieces ++ [']']
    else none
  | cs => if special then specialHost? cs else otherHost? cs

/-- The characters of a host and what stands behind them. A colon ends it unless it stands in
brackets. -/
def takeHost (inBrackets : Bool) : List Char → List Char × List Char
  | [] => ([], [])
  | c :: cs =>
    if c = ':' ∧ !inBrackets then ([], c :: cs)
    else
      let (host, rest) := takeHost (c = '[' || (inBrackets && c ≠ ']')) cs
      (c :: host, rest)

/-- The greatest port. -/
def portLimit : Nat := 65535

/-- A port behind its colon, unless it goes without saying, and what stands behind it. -/
def readPort (usual : Option Nat) (cs : List Char) : Option (Option Nat × List Char) :=
  let digits := cs.takeWhile Char.isDigit
  let rest := cs.dropWhile Char.isDigit
  let number := Text.decimalValue digits
  if portLimit < number then none
  else
    match rest with
    | [] | '\\' :: _ =>
      some (if digits.isEmpty || usual == some number then none else some number, rest)
    | _ => none

/-- The user, if there is one, in front of the last sign of an authority, and what stands behind
it. -/
def splitUser (cs : List Char) : Option (List Char) × List Char :=
  let host := (cs.reverse.takeWhile (· != '@')).reverse
  if cs.contains '@' then (some (cs.take (cs.length - host.length - 1)), host) else (none, cs)

/-- An authority, and what stands behind its port. A host may be missing if the scheme is not
special and nothing else is there. -/
def readAuthority (scheme cs : List Char) : Option (Authority × List Char) := do
  let special := isSpecial scheme
  let (user?, located) := splitUser cs
  let user := user?.getD []
  let name := user.takeWhile (· != ':')
  let password := (user.dropWhile (· != ':')).drop 1
  let (hostText, behind) := takeHost false located
  let host ← if special && hostText.isEmpty then none else host? special hostText
  let isNamed := !name.isEmpty || !password.isEmpty
  if host.isEmpty && (isNamed || !behind.isEmpty) then none
  else
    let (port, rest) ←
      match behind with
      | ':' :: digits => readPort ((specialSchemes.lookup scheme).getD none) digits
      | rest => some (none, rest)
    return (⟨urlText forbiddenInUser name,
      if password.isEmpty then none else some (urlText forbiddenInUser password), host, port⟩, rest)

/-- The URL behind the slashes in front of its authority. If a sign of a user stands first, a host
has to follow. -/
def readBehindSlashes (scheme cs : List Char) : Option Url := do
  let special := isSpecial scheme
  let text := cs.takeWhile fun c => !endsAuthority special c
  let rest := cs.dropWhile fun c => !endsAuthority special c
  if text = ['@'] ∧ !rest.isEmpty then none
  else
    let (authority, left) ← readAuthority scheme text
    let rest := left ++ rest
    let (query, fragment) := readEnd special (rest.dropWhile (!endsPath ·))
    return ⟨scheme, some authority, pathBehind special (rest.takeWhile (!endsPath ·)), query,
      fragment⟩

/-- The URL of a file behind the colon of its scheme. -/
def readFile (scheme cs : List Char) : Option Url := do
  let here := cs.takeWhile (!endsPath ·)
  let (query, fragment) := readEnd true (cs.dropWhile (!endsPath ·))
  let url (host path : List Char) : Url :=
    ⟨scheme, some ⟨[], none, host, none⟩, filePath path, query, fragment⟩
  match here with
  | a :: b :: behind =>
    let text := behind.takeWhile fun c => !isSlash true c
    if isSlash true a && isSlash true b && !isDrive text && !text.isEmpty then
      let host ← host? true text
      return url (if host = "localhost".toList then [] else host)
        (behind.dropWhile fun c => !isSlash true c)
    else if isSlash true a && isSlash true b then return url [] behind
    else return url [] here
  | path => return url [] path

/-- The URL of a scheme that is not special, behind the colon. -/
def readOther (scheme cs : List Char) : Option Url :=
  let here := cs.takeWhile (!endsPath ·)
  let (query, fragment) := readEnd false (cs.dropWhile (!endsPath ·))
  match cs with
  | '/' :: '/' :: rest => readBehindSlashes scheme rest
  | '/' :: _ => some ⟨scheme, none, pathBehind false here, query, fragment⟩
  | _ => some ⟨scheme, none, urlText [] here, query, fragment⟩

/-- Whether a text may be a scheme. -/
def isScheme (cs : List Char) : Bool :=
  cs.head?.any Char.isAlpha && cs.all fun c => c.isAlphanum || c == '+' || c == '-' || c == '.'

/-- The characters of a text that count. -/
def countedChars (cs : List Char) : List Char :=
  (Text.stripWhile (fun c => c.toNat ≤ 0x20) cs).filter fun c => c != '\t' && c != '\n' && c != '\r'

namespace Url

/-- The URL that a text is. -/
def parse? (text : String) : Option Url :=
  let cs := countedChars text.toList
  let scheme := (cs.takeWhile (· != ':')).map Char.toLower
  match cs.dropWhile (· != ':') with
  | ':' :: rest =>
    if !isScheme scheme then none
    else if isFile scheme then readFile scheme rest
    else if isSpecial scheme then readBehindSlashes scheme (rest.dropWhile (isSlash true))
    else readOther scheme rest
  | _ => none

/-- Whether a URL names a host. -/
def hasHost (url : Url) : Bool :=
  url.authority.any fun authority => !authority.host.isEmpty

/-- The authority of a URL behind its slashes. A path that would be taken for one has a segment in
front that stands for the place itself. -/
def authorityText (url : Url) : List Char :=
  match url.authority with
  | none => if "//".toList.isPrefixOf url.path then ['/', '.'] else []
  | some authority =>
    let user := authority.user ++ (authority.password.map (':' :: ·)).getD []
    ['/', '/'] ++ (if user.isEmpty then [] else user ++ ['@']) ++ authority.host ++
      (authority.port.map fun port => ':' :: Nat.toDigits 10 port).getD []

/-- A URL as a text. -/
def text (url : Url) : String :=
  String.ofList (url.scheme ++ ':' :: url.authorityText ++ url.path ++
    (url.query.map ('?' :: ·)).getD [] ++ (url.fragment.map ('#' :: ·)).getD [])

end Url

end Shipyard.Http
