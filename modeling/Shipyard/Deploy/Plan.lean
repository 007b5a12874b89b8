import Shipyard.Context
import Shipyard.Shell.Quote

/-!
# Deployment plans

The steps that put a new image into service, each a command to be run in the work directory of the
target. The mode of a step tells what its failure means.
-/

namespace Shipyard.Deploy

/-- What the failure of a step means. -/
inductive StepMode where
  /-- Nothing: the plan goes on. -/
  | bestEffort
  /-- The end of the plan. -/
  | required
  /-- Nothing; the output of the step is reported. -/
  | observational
  deriving DecidableEq, Repr

/-- The name of a mode in documents. -/
def StepMode.name : StepMode → String
  | .bestEffort => "best_effort"
  | .required => "required"
  | .observational => "observational"

/-- A step of a plan. -/
structure Step where
  name : String
  command : String
  mode : StepMode
  deriving DecidableEq, Repr

/-- Steps to be made in a work directory. -/
structure Plan where
  workDir : String
  steps : List Step
  deriving DecidableEq, Repr

/-- The name of the step that removes the archive. It is also made when an earlier step has failed.
-/
def cleanupStep : String := "cleanup-archive"

/-- A step as a document. -/
def Step.toJson (s : Step) : Json :=
  .object [("name", .text s.name), ("command", .text s.command), ("mode", .text s.mode.name)]

namespace Plan

/-- A plan as a document. -/
def toJson (p : Plan) : Json :=
  .object [("workDir", .text p.workDir), ("steps", .array (p.steps.map Step.toJson))]

/-- The plan of a context: stop the service and remove its image, load the archive and start the
service, remove the archive and show the state of the service. -/
def ofContext (context : Context) : Plan :=
  let service := Shell.quoteArgument context.service
  let image := Shell.quoteArgument context.image
  let archive := Shell.quotePath context.target.archivePath
  { workDir := context.target.workDir
    steps :=
      [ ⟨"stop-old-instance", "docker compose stop " ++ service, .bestEffort⟩,
        ⟨"remove-old-image", "docker rmi -f " ++ image, .bestEffort⟩,
        ⟨"load-image", "docker load -i " ++ archive, .required⟩,
        ⟨"start-instance", "docker compose up -d " ++ service, .required⟩,
        ⟨cleanupStep, "rm -f " ++ archive, .bestEffort⟩,
        ⟨"report-status", "docker compose ps " ++ service, .observational⟩ ] }

/-- The command line of a step, as it is given to the target. -/
def commandLine (p : Plan) (step : Step) : String :=
  Shell.inDirectory p.workDir step.command

end Plan

end Shipyard.Deploy
