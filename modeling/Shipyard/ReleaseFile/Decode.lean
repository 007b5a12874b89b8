import Shipyard.Failure
import Shipyard.Json.Decode
import Shipyard.ReleaseFile.Basic

/-!
# Reading release files

The slots of every section, and the reading of a whole release file.
-/

namespace Shipyard

open Json

/-- The names of the login methods in documents. -/
def LoginMethod.variants : List (String × LoginMethod) :=
  [("phone", .phone), ("email", .email)]

namespace ReleaseFile

/-- A `remote` section. -/
def RemoteSection.decode : Decoder RemoteSection :=
  Decode.record "struct RemoteConfig"
    [ .may "host" Decode.text fun v s => { s with host := v },
      .may "user" Decode.text fun v s => { s with user := v },
      .may "port" Decode.natural16 fun v s => { s with port := v },
      .may "identityFile" (Decode.optional Decode.text) fun v s => { s with identityFile := v },
      .may "workDir" Decode.text fun v s => { s with workDir := v } ]
    {}

/-- A `secret` section. -/
def SecretSection.decode : Decoder SecretSection :=
  Decode.record "struct SecretConfig"
    [ .may "file" Decode.text fun v s => { s with file := v },
      .may "key" Decode.text fun v s => { s with key := v },
      .may "buildArg" (Decode.optional Decode.text) fun v s => { s with buildArg := v } ]
    {}

/-- A `builder` section. -/
def BuilderSection.decode : Decoder BuilderSection :=
  Decode.record "struct BuilderConfig"
    [ .may "registrationFile" (Decode.optional Decode.text) fun v s =>
        { s with registrationFile := v },
      .may "targetPlatform" Decode.text fun v s => { s with targetPlatform := v } ]
    {}

/-- A `retry` section. -/
def RetrySection.decode : Decoder RetrySection :=
  Decode.record "struct RetryConfig"
    [ .may "maxAttempts" Decode.natural32 fun v s => { s with maxAttempts := v },
      .may "delaySecs" Decode.natural64 fun v s => { s with delaySecs := v } ]
    {}

/-- A `timeouts` section. -/
def TimeoutSection.decode : Decoder TimeoutSection :=
  Decode.record "struct TimeoutConfig"
    [ .may "connectSecs" Decode.natural64 fun v s => { s with connectSecs := v },
      .may "transferSecs" Decode.natural64 fun v s => { s with transferSecs := v },
      .may "probeSecs" Decode.natural64 fun v s => { s with probeSecs := v } ]
    {}

/-- An `api` section. -/
def ApiSection.decode : Decoder ApiSection :=
  Decode.record "struct ApiConfig"
    [ .may "baseUrl" Decode.text fun v s => { s with baseUrl := v },
      .may "authUrl" (Decode.optional Decode.text) fun v s => { s with authUrl := v },
      .may "healthPath" Decode.text fun v s => { s with healthPath := v },
      .may "healthExpect" Decode.text fun v s => { s with healthExpect := v },
      .may "settleSecs" Decode.natural64 fun v s => { s with settleSecs := v },
      .may "healthAttempts" Decode.natural32 fun v s => { s with healthAttempts := v } ]
    {}

/-- An entry of `identities`. -/
def IdentitySection.decode : Decoder IdentitySection :=
  Decode.record "struct IdentityConfig"
    [ .must "name" Decode.text fun v s => { s with name := v },
      .must "method" (Decode.choice LoginMethod.variants) fun v s => { s with method := v },
      .must "identifier" Decode.text fun v s => { s with identifier := v },
      .may "password" (Decode.optional Decode.text) fun v s => { s with password := v },
      .may "passwordEnv" (Decode.optional Decode.text) fun v s => { s with passwordEnv := v } ]
    { name := "", method := .phone, identifier := "" }

/-- The slots of a release file. -/
def slots : List (Decode.Slot ReleaseFile) :=
  [ .may "projectDir" Decode.text fun v s => { s with projectDir := v },
    .may "image" Decode.text fun v s => { s with image := v },
    .may "dockerfile" Decode.text fun v s => { s with dockerfile := v },
    .may "dockerBin" Decode.text fun v s => { s with dockerBin := v },
    .may "service" Decode.text fun v s => { s with service := v },
    .may "remote" RemoteSection.decode fun v s => { s with remote := v },
    .may "secret" SecretSection.decode fun v s => { s with secret := v },
    .may "builder" BuilderSection.decode fun v s => { s with builder := v },
    .may "retry" RetrySection.decode fun v s => { s with retry := v },
    .may "timeouts" TimeoutSection.decode fun v s => { s with timeouts := v },
    .may "api" ApiSection.decode fun v s => { s with api := v },
    .may "identities" (Decode.list IdentitySection.decode) fun v s => { s with identities := v } ]

/-- The content of a release file. -/
def decode : Decoder ReleaseFile :=
  Decode.record "struct ReleaseConfig" slots {}

/-- The release file that a text is; `origin` tells in a failure where the text came from. -/
def parse (text origin : String) : Except Failure ReleaseFile :=
  match decodeText decode text with
  | .ok file => .ok file
  | .error fault => .error (Cause.invalidJson origin fault.message)

end ReleaseFile

end Shipyard
