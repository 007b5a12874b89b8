import Shipyard.Http.Service
import Shipyard.Http.Url

/-!
# Requests that cannot be sent

A request can only be sent to a URL of the scheme `http` or `https` that names a host, and with a
token that has no control characters. In the problem of a request that was not sent the URL is shown
in its usual form, without the user and the password, which go into a header of their own.
-/

namespace Shipyard.Http

/-- A URL without its user and its password, if those can go into a header. -/
def Url.withoutUser (url : Url) : Url :=
  match url.authority with
  | none => url
  | some authority =>
    match percentDecoded? authority.user, authority.password.bind percentDecoded? with
    | none, _ => url
    | some "", none => url
    | some _, _ => { url with authority := some { authority with user := [], password := none } }

/-- Whether a request may go to a URL with a scheme. -/
def isWebScheme (scheme : List Char) : Bool :=
  scheme == "http".toList || scheme == "https".toList

/-- The greatest length of a URL that a request may go to. -/
def urlLengthLimit : Nat := 65534

/-- Characters of a host that a request may not go to. -/
def unsendable : List Char := ['"', '\x60', '\x7b', '\x7d']

/-- Whether a request may go to a URL. -/
def Url.isSendable (url : Url) : Bool :=
  isWebScheme url.scheme && url.text.length ≤ urlLengthLimit &&
    !(url.authority.any fun authority => authority.host.any unsendable.contains)

/-- Whether a token can stand in the header of a request. -/
def isHeaderText (token : String) : Bool :=
  token.toList.all fun c => c == '\t' || (0x20 ≤ c.toNat && c.toNat ≠ 0x7F)

/-- What is told of a request that could not be sent. -/
def unsentProblem (request : Request) : String :=
  match Url.parse? request.url with
  | none => "builder error"
  | some url =>
    if !url.hasHost then "builder error for url (" ++ url.text ++ ")"
    else if request.bearer.any fun token => !isHeaderText token then "builder error"
    else
      let url := url.withoutUser
      if url.isSendable then "error sending request for url (" ++ url.text ++ ")"
      else "builder error for url (" ++ url.text ++ ")"

end Shipyard.Http
