import Shipyard.Context
import Shipyard.Http.Service
import Shipyard.Redaction
import Shipyard.ReleaseFile.Encode
import Shipyard.Text.Quoted

/-!
# Logging in

The requests to the token endpoint and the tokens in its responses. An access token that is too
short is taken for the text of an error.
-/

namespace Shipyard.Conformance

/-- The bytes that an access token has at least. -/
def leastTokenSize : Nat := 20

/-- The tokens of an identity. -/
structure Tokens where
  access : String
  refresh : Option String
  deriving DecidableEq, Repr

/-- Why a response gives no tokens. -/
inductive TokenFault where
  | notJson (status : Nat)
  | absent (status : Nat)
  | short (status size : Nat)
  deriving DecidableEq, Repr

/-- The wording of a fault. -/
def TokenFault.message : TokenFault → String
  | .notJson status => "HTTP " ++ Cause.integerText status ++ ": response is not JSON"
  | .absent status => "HTTP " ++ Cause.integerText status ++ ": no access_token in response"
  | .short status size =>
    "HTTP " ++ Cause.integerText status ++ ": access_token is " ++ Cause.integerText size ++
      " chars, expected at least " ++ Cause.integerText leastTokenSize

/-- A request to the token endpoint. -/
def tokenRequest (authUrl grant : String) (body : List (String × Json)) : Http.Request where
  method := .post
  url := Text.trimEndSlashes authUrl ++ "/token?grant_type=" ++ grant
  body := some (.object (Dictionary.ofEntries body))

/-- The request with which an identity logs in. -/
def loginRequest (authUrl : String) (identity : Identity) : Http.Request :=
  tokenRequest authUrl "password"
    [(identity.method.name, .text identity.identifier), ("password", .text identity.password)]

/-- The request for new tokens. -/
def refreshRequest (authUrl token : String) : Http.Request :=
  tokenRequest authUrl "refresh_token" [("refresh_token", .text token)]

/-- The text of a member that is not empty. -/
def filledMember? (document : Json) (name : String) : Option String :=
  ((document.member? name).bind Json.text?).filter fun text => !text.isEmpty

/-- The tokens in a response. -/
def Tokens.ofResponse (response : Http.Response) : Except TokenFault Tokens :=
  match response.json? with
  | none => .error (.notJson response.status)
  | some document =>
    match filledMember? document "access_token" with
    | none => .error (.absent response.status)
    | some access =>
      if access.utf8ByteSize < leastTokenSize then
        .error (.short response.status access.utf8ByteSize)
      else .ok ⟨access, filledMember? document "refresh_token"⟩

/-- A text with a name in a diagnostic. -/
def shownField (name value : String) : String :=
  name ++ ": " ++ value

/-- A record in a diagnostic. -/
def shownRecord (name : String) (fields : List String) : String :=
  name ++ " \x7b " ++ String.intercalate ", " fields ++ " \x7d"

/-- A login method in a diagnostic. -/
def shownMethod : LoginMethod → String
  | .phone => "Phone"
  | .email => "Email"

/-- An identity in a diagnostic, its password redacted. -/
def shownIdentity (identity : Identity) : String :=
  shownRecord "Identity"
    [ shownField "name" (Text.quoted identity.name),
      shownField "method" (shownMethod identity.method),
      shownField "identifier" (Text.quoted identity.identifier),
      shownField "password" (Text.quoted (redact identity.password)) ]

/-- Tokens in a diagnostic, both redacted. -/
def Tokens.shown (tokens : Tokens) : String :=
  shownRecord "AuthSession"
    [ shownField "access_token" (Text.quoted (redact tokens.access)),
      shownField "refresh_token"
        (match tokens.refresh with
          | some token => "Some(" ++ Text.quoted (redact token) ++ ")"
          | none => "None") ]

end Shipyard.Conformance
