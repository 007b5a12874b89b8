import Shipyard.Archive
import Shipyard.Conformance.Runner
import Shipyard.Deploy.Run
import Shipyard.Health
import Shipyard.Release.Stage

/-!
# Release reports

What is told of a check of the service and of a whole release.
-/

namespace Shipyard.Release

/-- A check of the service. -/
structure TestReport where
  health : Health.Report
  conformance : Conformance.Report
  verdict : Conformance.Verdict
  deriving DecidableEq, Repr

/-- A check of the service as a document. -/
def TestReport.toJson (r : TestReport) : Json :=
  .object
    [ ("health", r.health.toJson), ("conformance", r.conformance.toJson),
      ("verdict", r.verdict.toJson) ]

/-- A release. What belongs to stages that were left out is absent. -/
structure Report where
  image : String
  target : String
  startedAt : String
  finishedAt : String
  stages : List StageRecord
  builder : Option Builder.Decision := none
  build : Option Builder.BuildReport := none
  archive : Option Archive.Delivered := none
  deploy : Option Deploy.Report := none
  test : Option TestReport := none
  verdict : Conformance.Verdict
  deriving DecidableEq, Repr

/-- A release as a document. -/
def Report.toJson (r : Report) : Json :=
  .object
    ([ ("image", .text r.image), ("target", .text r.target), ("startedAt", .text r.startedAt),
       ("finishedAt", .text r.finishedAt), ("stages", .array (r.stages.map StageRecord.toJson)) ] ++
      Json.optional "builder" (r.builder.map (·.toJson)) ++
      Json.optional "build" (r.build.map (·.toJson)) ++
      Json.optional "artifact" (r.archive.map (·.toJson)) ++
      Json.optional "deploy" (r.deploy.map (·.toJson)) ++
      Json.optional "test" (r.test.map (·.toJson)) ++ [("verdict", r.verdict.toJson)])

end Shipyard.Release
