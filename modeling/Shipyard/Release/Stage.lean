import Shipyard.Builder.Image

/-!
# Stages of a release

A release is made in stages, in the order of `Stage.all`. Every stage leaves a record. A failure is
tagged with the stage it came from, and on its way out with the counts of a run in which nothing was
probed, since probes are only counted once nothing can fail any more.
-/

namespace Shipyard.Release

/-- A stage of a release. -/
inductive Stage where
  | resolveSecret
  | selectBuilder
  | build
  | exportImage
  | transfer
  | deploy
  | health
  | conformance
  deriving DecidableEq, Repr

namespace Stage

/-- The name of a stage in documents. -/
def name : Stage → String
  | .resolveSecret => "resolve-secret"
  | .selectBuilder => "select-builder"
  | .build => "build"
  | .exportImage => "export"
  | .transfer => "transfer"
  | .deploy => "deploy"
  | .health => "health"
  | .conformance => "conformance"

/-- The stages in which the image is made. -/
def ofBuild : List Stage := [.resolveSecret, .selectBuilder, .build]

/-- The stages in which the image is put into service. -/
def ofDeploy : List Stage := [.exportImage, .transfer, .deploy]

/-- The stages in which the service is checked. -/
def ofTests : List Stage := [.health, .conformance]

/-- All stages in their order. -/
def all : List Stage := ofBuild ++ ofDeploy ++ ofTests

end Stage

/-- What became of a stage. -/
inductive StageStatus where
  | success
  | skipped
  | failed
  deriving DecidableEq, Repr

/-- The name of a status in documents. -/
def StageStatus.name : StageStatus → String
  | .success => "success"
  | .skipped => "skipped"
  | .failed => "failed"

/-- The record of a stage. -/
structure StageRecord where
  stage : Stage
  status : StageStatus
  duration : Decimal.Binary64
  deriving DecidableEq, Repr

namespace StageRecord

/-- The record of a stage that was left out. -/
def skipped (stage : Stage) : StageRecord :=
  ⟨stage, .skipped, .zero false⟩

/-- A record as a document. -/
def toJson (r : StageRecord) : Json :=
  .object
    [ ("name", .text r.stage.name), ("status", .text r.status.name),
      ("durationSecs", .number (.decimal r.duration)) ]

end StageRecord

/-- A part of a release: it leaves records, and may fail. -/
abbrev Run (m : Type → Type) : Type → Type :=
  ExceptT Failure (StateT (List StageRecord) m)

variable {m : Type → Type} [Monad m] {α : Type}

/-- Make a stage. -/
def inStage (host : Host m) (stage : Stage) (action : ExceptT Failure m α) : Run m α :=
  ExceptT.mk fun records => do
    let start ← host.nanoseconds
    let result ← action.run
    let finish ← host.nanoseconds
    let status := if result.toBool then StageStatus.success else .failed
    return (result.mapError (·.tagged "stage" stage.name),
      records ++ [⟨stage, status, Builder.elapsed start finish⟩])

/-- Leave stages out. -/
def skip (stages : List Stage) : Run m Unit :=
  ExceptT.mk fun records => return (.ok (), records ++ stages.map .skipped)

end Shipyard.Release
