import Shipyard.Json.Printer
import Shipyard.ReleaseFile.Basic

/-!
# Writing release files

A release file as a document with every section and every field; what is absent is null.
-/

namespace Shipyard

/-- The name of a login method in documents. -/
def LoginMethod.name : LoginMethod → String
  | .phone => "phone"
  | .email => "email"

namespace ReleaseFile

/-- A `remote` section as a document. -/
def RemoteSection.toJson (s : RemoteSection) : Json :=
  .object
    [ ("host", .text s.host), ("user", .text s.user), ("port", .ofNat s.port),
      ("identityFile", .ofText? s.identityFile), ("workDir", .text s.workDir) ]

/-- A `secret` section as a document. -/
def SecretSection.toJson (s : SecretSection) : Json :=
  .object
    [("file", .text s.file), ("key", .text s.key), ("buildArg", .ofText? s.buildArg)]

/-- A `builder` section as a document. -/
def BuilderSection.toJson (s : BuilderSection) : Json :=
  .object
    [ ("registrationFile", .ofText? s.registrationFile),
      ("targetPlatform", .text s.targetPlatform) ]

/-- A `retry` section as a document. -/
def RetrySection.toJson (s : RetrySection) : Json :=
  .object [("maxAttempts", .ofNat s.maxAttempts), ("delaySecs", .ofNat s.delaySecs)]

/-- A `timeouts` section as a document. -/
def TimeoutSection.toJson (s : TimeoutSection) : Json :=
  .object
    [ ("connectSecs", .ofNat s.connectSecs), ("transferSecs", .ofNat s.transferSecs),
      ("probeSecs", .ofNat s.probeSecs) ]

/-- An `api` section as a document. -/
def ApiSection.toJson (s : ApiSection) : Json :=
  .object
    [ ("baseUrl", .text s.baseUrl), ("authUrl", .ofText? s.authUrl),
      ("healthPath", .text s.healthPath), ("healthExpect", .text s.healthExpect),
      ("settleSecs", .ofNat s.settleSecs), ("healthAttempts", .ofNat s.healthAttempts) ]

/-- An identity as a document. -/
def IdentitySection.toJson (s : IdentitySection) : Json :=
  .object
    [ ("name", .text s.name), ("method", .text s.method.name), ("identifier", .text s.identifier),
      ("password", .ofText? s.password), ("passwordEnv", .ofText? s.passwordEnv) ]

/-- A release file as a document. -/
def toJson (f : ReleaseFile) : Json :=
  .object
    [ ("projectDir", .text f.projectDir), ("image", .text f.image),
      ("dockerfile", .text f.dockerfile), ("dockerBin", .text f.dockerBin),
      ("service", .text f.service), ("remote", f.remote.toJson), ("secret", f.secret.toJson),
      ("builder", f.builder.toJson), ("retry", f.retry.toJson), ("timeouts", f.timeouts.toJson),
      ("api", f.api.toJson), ("identities", .array (f.identities.map IdentitySection.toJson)) ]

/-- A release file as text. -/
def print (f : ReleaseFile) : String :=
  f.toJson.compact

end ReleaseFile

end Shipyard
