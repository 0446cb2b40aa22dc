/-!
# Metrics

The quantities that are measured during a scan: counters add up amounts, histograms collect
durations.
-/

namespace ComponentScan

inductive Metric where
  | filesDispatched
  | descriptorsAccepted
  | contributorFailures
  | extractionSeconds
  | matchesFound
  | matchesDropped
  | artifactsAbsorbed
  | expansions
  | matchingSeconds
  deriving Repr, DecidableEq

namespace Metric

def all : List Metric :=
  [filesDispatched, descriptorsAccepted, contributorFailures, extractionSeconds, matchesFound,
    matchesDropped, artifactsAbsorbed, expansions, matchingSeconds]

theorem mem_all (m : Metric) : m ∈ all := by
  cases m <;> decide

/-- The part of the name after the common front. -/
def shortName : Metric → String
  | filesDispatched => "extraction_files_dispatched_total"
  | descriptorsAccepted => "extraction_descriptors_accepted_total"
  | contributorFailures => "extraction_contributor_failures_total"
  | extractionSeconds => "extraction_duration_seconds"
  | matchesFound => "matching_matches_total"
  | matchesDropped => "matching_matches_dropped_total"
  | artifactsAbsorbed => "matching_artifacts_absorbed_total"
  | expansions => "matching_expansions_total"
  | matchingSeconds => "matching_duration_seconds"

def name (m : Metric) : String := "compscan_" ++ m.shortName

def isHistogram : Metric → Bool
  | extractionSeconds | matchingSeconds => true
  | _ => false

/-- The name of the label that tells several series of a metric apart. -/
def label? : Metric → Option String
  | contributorFailures => some "contributor"
  | matchesFound | matchingSeconds => some "mode"
  | _ => none

def description : Metric → String
  | filesDispatched => "Total number of scanned files dispatched to contributors"
  | descriptorsAccepted =>
    "Total number of component pattern descriptors accepted into the pattern store"
  | contributorFailures => "Total number of contributor invocations that returned an error"
  | extractionSeconds => "Time to complete one extraction pass in seconds"
  | matchesFound => "Total number of anchor matches produced"
  | matchesDropped => "Total number of matches dropped because they absorbed no files"
  | artifactsAbsorbed => "Total number of artifacts absorbed into matched components"
  | expansions => "Total number of expansion inventories merged into the scan"
  | matchingSeconds => "Time to match and apply one descriptor set in seconds"

end Metric

end ComponentScan
