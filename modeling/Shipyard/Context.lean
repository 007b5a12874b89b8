import Shipyard.Host
import Shipyard.ReleaseFile.Decode
import Shipyard.Retry
import Shipyard.Text.Blank

/-!
# The context of a run

A release file is checked once and becomes the context of the run: required values are there, the
identity file exists, URLs have no slash at the end, and every identity has a password.
-/

namespace Shipyard

/-- Where the service runs. -/
structure Target where
  host : String
  user : String
  port : Nat
  identityFile : Option String
  workDir : String
  deriving DecidableEq, Repr

/-- The name of the archive in the work directory. -/
def archiveName : String := "appflowy_cloud.tar"

namespace Target

/-- User and host. -/
def address (t : Target) : String := t.user ++ "@" ++ t.host

/-- A path in the work directory; an absolute path stays. -/
def pathInWorkDir (t : Target) (path : String) : String :=
  if path.toList.head? = some '/' then path else Text.trimEndSlashes t.workDir ++ "/" ++ path

/-- Where the archive is put, and where it is loaded from. -/
def archivePath (t : Target) : String := t.pathInWorkDir archiveName

end Target

/-- Whether a path is a URL of its own. -/
def isWholeUrl (path : String) : Bool :=
  "http://".toList.isPrefixOf path.toList || "https://".toList.isPrefixOf path.toList

/-- A path below a base URL, with one slash in between. A path that is a URL of its own stays. -/
def joinUrl (base path : String) : String :=
  if isWholeUrl path then path
  else Text.trimEndSlashes base ++ "/" ++ Text.trimStartSlashes path

/-- Where the service answers. -/
structure Endpoints where
  baseUrl : String
  authUrl : String
  healthPath : String
  healthExpect : String
  settleSecs : Nat
  healthAttempts : Nat
  deriving DecidableEq, Repr

namespace Endpoints

/-- The URL of a path of the service. -/
def url (e : Endpoints) (path : String) : String := joinUrl e.baseUrl path

/-- The URL that tells whether the service is ready. -/
def healthUrl (e : Endpoints) : String := e.url e.healthPath

end Endpoints

/-- Someone who logs in while the service is checked. -/
structure Identity where
  name : String
  method : LoginMethod
  identifier : String
  password : String
  deriving DecidableEq, Repr

/-- Everything a run goes by. -/
structure Context where
  projectDir : String
  image : String
  dockerfile : String
  dockerBin : String
  service : String
  target : Target
  secret : ReleaseFile.SecretSection
  builder : ReleaseFile.BuilderSection
  retry : RetryPolicy
  timeouts : ReleaseFile.TimeoutSection
  api : Endpoints
  identities : List Identity
  deriving DecidableEq, Repr

namespace Context

/-- Where the secret is read from on the remote host. -/
def secretPath (c : Context) : String := c.target.pathInWorkDir c.secret.file

/-- The build argument that carries the secret. -/
def secretArgument (c : Context) : String := c.secret.buildArg.getD c.secret.key

/-- Refuse a required value that is blank. -/
def require (key value : String) : Except Failure Unit :=
  if Text.isBlankText value then .error (Cause.missingKey key (some ReleaseFile.defaultPath))
  else .ok ()

/-- Refuse a release file in which a required value is blank; the first such value is named. -/
def requireAll (file : ReleaseFile) : Except Failure Unit := do
  require "image" file.image
  require "remote.host" file.remote.host
  require "remote.user" file.remote.user
  require "remote.workDir" file.remote.workDir
  require "api.baseUrl" file.api.baseUrl

/-- A setting that is neither absent nor empty. -/
def nonEmpty? (setting : Option String) : Option String :=
  setting.filter fun text => !text.isEmpty

/-- The endpoints of an `api` section. -/
def endpoints (api : ReleaseFile.ApiSection) : Endpoints :=
  let baseUrl := Text.trimEndSlashes api.baseUrl
  { baseUrl
    authUrl := Text.trimEndSlashes ((nonEmpty? api.authUrl).getD (baseUrl ++ "/gotrue"))
    healthPath := api.healthPath
    healthExpect := api.healthExpect
    settleSecs := api.settleSecs
    healthAttempts := max api.healthAttempts 1 }

variable {m : Type → Type} [Monad m]

/-- The identity file that is used, if one is set. It has to exist. -/
def identityFile (host : Host m) (setting : Option String) : ExceptT Failure m (Option String) := do
  match nonEmpty? setting with
  | none => return none
  | some path =>
    let path ← host.expandHome path
    if ← host.pathExists path then return some path
    else throw (Cause.identityFileNotFound path).failure

/-- The password of an identity: the one that is written down, or the value of a variable. -/
def password (host : Host m) (identity : ReleaseFile.IdentitySection) :
    ExceptT Failure m String := do
  match nonEmpty? identity.password, identity.passwordEnv with
  | some password, _ => return password
  | none, some name =>
    match ← host.environment name with
    | some password => return password
    | none =>
      throw (Cause.invalidValue ("identities." ++ identity.name ++ ".passwordEnv") (some name)
        "environment variable is not set").failure
  | none, none =>
    throw (Cause.missingKey ("identities." ++ identity.name ++ ".password") none).failure

/-- An identity with its password. -/
def identity (host : Host m) (entry : ReleaseFile.IdentitySection) :
    ExceptT Failure m Identity := do
  return ⟨entry.name, entry.method, entry.identifier, ← password host entry⟩

/-- The identities of a release file, in order. -/
def identitiesOf (host : Host m) :
    List ReleaseFile.IdentitySection → ExceptT Failure m (List Identity)
  | [] => return []
  | s :: sections => do
    let first ← identity host s
    let others ← identitiesOf host sections
    return first :: others

/-- The context that a release file stands for on a machine. -/
def ofReleaseFile (host : Host m) (file : ReleaseFile) : ExceptT Failure m Context := do
  ExceptT.mk (pure (requireAll file))
  let identityFile ← identityFile host file.remote.identityFile
  let identities ← identitiesOf host file.identities
  return {
    projectDir := ← host.expandHome file.projectDir
    image := file.image
    dockerfile := file.dockerfile
    dockerBin := file.dockerBin
    service := file.service
    target :=
      { host := file.remote.host, user := file.remote.user, port := file.remote.port, identityFile,
        workDir := file.remote.workDir }
    secret := file.secret
    builder := file.builder
    retry := ⟨file.retry.maxAttempts, file.retry.delaySecs⟩
    timeouts := file.timeouts
    api := endpoints file.api
    identities }

end Context

end Shipyard
