/-!
# The release file

What a release file says, section by section. A section that is left out and a field that is left
out have the defaults given here; the one place where the two differ is `RemoteSection.port`,
which is 22 in a `remote` section without a port and 0 where there is no such section.
-/

namespace Shipyard

/-- How an identity logs in. -/
inductive LoginMethod where
  | phone
  | email
  deriving DecidableEq, Repr

namespace ReleaseFile

/-- Where the service runs. -/
structure RemoteSection where
  host : String := ""
  user : String := ""
  port : Nat := 22
  identityFile : Option String := none
  workDir : String := ""
  deriving DecidableEq, Repr

/-- Where the build-time secret is kept on the remote host. -/
structure SecretSection where
  /-- The `key=value` file, in the work directory unless it is absolute. -/
  file : String := ".env"
  key : String := "DATABASE_URL"
  /-- The name of the build argument; the key if there is none. -/
  buildArg : Option String := none
  deriving DecidableEq, Repr

/-- Where images are built. -/
structure BuilderSection where
  registrationFile : Option String := none
  targetPlatform : String := "linux/amd64"
  deriving DecidableEq, Repr

/-- How often remote operations are tried. -/
structure RetrySection where
  maxAttempts : Nat := 3
  delaySecs : Nat := 5
  deriving DecidableEq, Repr

/-- How long to wait for connections and for answers. -/
structure TimeoutSection where
  connectSecs : Nat := 30
  transferSecs : Nat := 60
  probeSecs : Nat := 15
  deriving DecidableEq, Repr

/-- Where the service answers. -/
structure ApiSection where
  baseUrl : String := ""
  /-- The root of the token endpoint; below the base URL if there is none. -/
  authUrl : Option String := none
  healthPath : String := "/health"
  healthExpect : String := "OK"
  settleSecs : Nat := 15
  healthAttempts : Nat := 3
  deriving DecidableEq, Repr

/-- Someone who logs in while the service is checked. -/
structure IdentitySection where
  name : String
  method : LoginMethod
  identifier : String
  password : Option String := none
  /-- The environment variable that holds the password. -/
  passwordEnv : Option String := none
  deriving DecidableEq, Repr

end ReleaseFile

open ReleaseFile

/-- What a release file says. -/
structure ReleaseFile where
  projectDir : String := "."
  image : String := ""
  dockerfile : String := "Dockerfile"
  dockerBin : String := "docker"
  service : String := "appflowy_cloud"
  remote : RemoteSection := { port := 0 }
  secret : SecretSection := {}
  builder : BuilderSection := {}
  retry : RetrySection := {}
  timeouts : TimeoutSection := {}
  api : ApiSection := {}
  identities : List IdentitySection := []
  deriving DecidableEq, Repr

/-- The release file that is read when none is named. -/
def ReleaseFile.defaultPath : String := "flowship.json"

end Shipyard
