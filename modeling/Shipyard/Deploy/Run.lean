import Shipyard.Deploy.Plan
import Shipyard.Remote.Session

/-!
# Making a deployment

The steps of a plan are made in order. A required step that fails ends the plan: the clean-up steps
behind it are still made, whatever becomes of them, and the failure of the step is reported. A step
that could not be made because the host was out of reach ends the plan at once.
-/

namespace Shipyard.Deploy

/-- A step that has been made. -/
structure StepResult where
  name : String
  mode : StepMode
  success : Bool
  exitCode : Int
  /-- What an observational step had to say. -/
  output : Option String
  deriving DecidableEq, Repr

/-- The result of a step that has ended. -/
def Step.result (s : Step) (c : Completion) : StepResult where
  name := s.name
  mode := s.mode
  success := c.success
  exitCode := c.exitCode
  output :=
    if s.mode = .observational ∧ Text.isBlankText c.stdout = false then some (Text.trim c.stdout)
    else none

/-- A step that has been made as a document. -/
def StepResult.toJson (r : StepResult) : Json :=
  .object
    ([ ("name", .text r.name), ("mode", .text r.mode.name), ("success", .bool r.success),
       ("exitCode", .ofInt r.exitCode) ] ++ Json.optional "output" (r.output.map .text))

/-- A deployment that has been made. -/
structure Report where
  steps : List StepResult
  deriving DecidableEq, Repr

namespace Report

/-- The state of the service: the last thing that an observational step had to say. -/
def status (r : Report) : Option String :=
  (r.steps.filterMap StepResult.output).getLast?

/-- A deployment as a document. -/
def toJson (r : Report) : Json :=
  .object (("steps", .array (r.steps.map StepResult.toJson)) ::
    Json.optional "status" (r.status.map .text))

end Report

/-- The failure of a required step. -/
def Step.failure (s : Step) (c : Completion) : Failure :=
  (Cause.stepFailed s.name c.exitCode c.errorText).failure

/-- Whether the end of a step ends the plan. -/
def Step.isFatal (s : Step) (c : Completion) : Bool :=
  s.mode = .required && !c.success

variable {m : Type → Type} [Monad m]

/-- Make the clean-up steps among `steps`, whatever becomes of them. -/
def cleanUp (plan : Plan) (execute : String → ExceptT Failure m Completion) :
    List Step → m Unit
  | [] => return
  | step :: later => do
    if step.name = cleanupStep then
      let _ ← (execute (plan.commandLine step)).run
    cleanUp plan execute later

/-- Make steps in order. -/
def makeSteps (plan : Plan) (execute : String → ExceptT Failure m Completion) :
    List Step → ExceptT Failure m (List StepResult)
  | [] => return []
  | step :: later => do
    let completion ← execute (plan.commandLine step)
    if step.isFatal completion then
      ExceptT.lift (cleanUp plan execute later)
      throw (step.failure completion)
    else
      let results ← makeSteps plan execute later
      return step.result completion :: results

/-- Make the steps of a plan with something that runs commands on the target. -/
def Plan.run (plan : Plan) (execute : String → ExceptT Failure m Completion) :
    ExceptT Failure m Report := do
  return ⟨← makeSteps plan execute plan.steps⟩

end Shipyard.Deploy
