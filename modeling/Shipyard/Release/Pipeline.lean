import Shipyard.Release.Report
import Shipyard.Secret

/-!
# Making a release

The image is built with its secret, saved and copied to the target, and put into service there;
then the service is checked. The first stage that fails ends the release. Probes that fail do not:
they only count in the verdict.
-/

namespace Shipyard.Release

open Conformance (Case Tally)

/-- Which groups of stages are left out. -/
structure Options where
  skipBuild : Bool := false
  skipDeploy : Bool := false
  skipTests : Bool := false
  deriving DecidableEq, Repr

/-- What a release works with. -/
structure Setting (m : Type → Type) where
  host : Host m
  session : Remote.Session m
  service : Http.Service m
  context : Context
  cases : List Case
  identities : List Identity

/-- A failure on its way out of the pipeline. -/
def aborted (failure : Failure) : Failure :=
  failure.tagged "summary" Tally.empty.summary

/-- How often the health URL is asked. -/
def healthPolicy (context : Context) : RetryPolicy :=
  ⟨context.api.healthAttempts, context.retry.delaySecs⟩

variable {m : Type → Type} [Monad m]

/-- The first group of stages: the decision where to build, and the build. -/
def makeImage (setting : Setting m) : Run m (Builder.Decision × Builder.BuildReport) := do
  let context := setting.context
  let secret ← inStage setting.host .resolveSecret
    (Secret.resolve setting.session context.secretPath context.secret.key)
  let decision ← inStage setting.host .selectBuilder (Builder.decide setting.host context)
  let build ← inStage setting.host .build
    ((Builder.ImageBuild.ofContext context decision secret).run setting.host)
  return (decision, build)

/-- The second group of stages: the delivered archive, and the deployment. -/
def putIntoService (setting : Setting m) : Run m (Archive.Delivered × Deploy.Report) := do
  let context := setting.context
  let archive ← inStage setting.host .exportImage (Archive.saveImage setting.host context)
  let delivered ← inStage setting.host .transfer
    (Archive.transfer setting.host setting.session context.target archive)
  let report ← inStage setting.host .deploy
    ((Deploy.Plan.ofContext context).run setting.session.execute)
  return (delivered, report)

/-- The third group of stages: the check of the service. -/
def checkService (setting : Setting m) : Run m TestReport := do
  let api := setting.context.api
  let health ← inStage setting.host .health
    (Health.verify setting.service setting.host.pause api (healthPolicy setting.context))
  let conformance ← inStage setting.host .conformance
    (ExceptT.lift (Conformance.run setting.service api setting.cases setting.identities))
  return ⟨health, conformance, conformance.tally.verdict⟩

/-- A group of stages, unless it is left out. -/
def unlessSkipped {α : Type} (isSkipped : Bool) (stages : List Stage) (action : Run m α) :
    Run m (Option α) := do
  if isSkipped then
    skip stages
    return none
  else return some (← action)

/-- The stages of a release. -/
def stages (setting : Setting m) (options : Options) : Run m Report := do
  let startedAt ← setting.host.timestamp
  let image ← unlessSkipped options.skipBuild Stage.ofBuild (makeImage setting)
  let service ← unlessSkipped options.skipDeploy Stage.ofDeploy (putIntoService setting)
  let test ← unlessSkipped options.skipTests Stage.ofTests (checkService setting)
  let finishedAt ← setting.host.timestamp
  return {
    image := setting.context.image
    target := setting.session.channel.address
    startedAt, finishedAt
    stages := ← get
    builder := image.map (·.1)
    build := image.map (·.2)
    archive := service.map (·.1)
    deploy := service.map (·.2)
    test
    verdict := (test.map (·.verdict)).getD Tally.empty.verdict }

/-- Make a release: the report or the failure, and the records of the stages. -/
def make (setting : Setting m) (options : Options) :
    m (Except Failure Report × List StageRecord) := do
  let (result, records) ← (stages setting options).run.run []
  return (result.mapError aborted, records)

/-- Check the service without a release. -/
def verify (setting : Setting m) : m (Except Failure TestReport × List StageRecord) := do
  let (result, records) ← (checkService setting).run.run []
  return (result.mapError aborted, records)

end Shipyard.Release
