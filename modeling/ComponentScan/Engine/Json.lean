import ComponentScan.Engine.Session
import ComponentScan.Json.Value

/-!
# Summaries in JSON
-/

namespace ComponentScan

def ExtractionSummary.toJson (s : ExtractionSummary) : Json :=
  .object
    [("files_visited", .nat s.filesVisited), ("files_failed", .nat s.filesFailed),
      ("descriptors_accepted", .nat s.accepted), ("descriptors_duplicate", .nat s.duplicate),
      ("descriptors_unspecific", .nat s.unspecific)]

def AbsorptionSummary.toJson (s : AbsorptionSummary) : Json :=
  .object
    [("matches", .nat s.found), ("matches_dropped", .nat s.dropped),
      ("artifacts_absorbed", .nat s.absorbed), ("components_added", .nat s.components),
      ("expansions_applied", .nat s.expansions), ("artifacts_removed", .nat s.removed)]

def RunSummary.toJson (s : RunSummary) : Json :=
  .object
    [("extraction", s.extraction.toJson), ("immediate", s.immediate.toJson),
      ("deferred",
        match s.deferred with
        | none => .null
        | some d => d.toJson)]

end ComponentScan
