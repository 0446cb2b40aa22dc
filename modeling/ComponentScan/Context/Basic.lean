import ComponentScan.Artifact.Basic

/-!
# Scan contexts

The inventory of one scan while components are being found in it: the artifacts in their order,
the assets that were declared, and the assets the scan itself lies in.
-/

namespace ComponentScan

/-- An asset that artifacts belong to, such as an image, an archive or a component. -/
structure Asset where
  id : String
  attributes : StringMap String := .empty
  deriving Repr, DecidableEq

/-- The inventory of one scan. -/
structure ScanContext where
  /-- Where the scan took place, for information. -/
  baseDir : String
  /-- The assets around the scan, the outermost first. -/
  assetIdChain : List String := []
  artifacts : List Artifact := []
  assets : List Asset := []
  deriving Repr, DecidableEq

namespace ScanContext

/-- The context of a scan that has found these files. -/
def ofScanned (baseDir : String) (files : List ScannedFile) (chain : List String) :
    ScanContext :=
  { baseDir, assetIdChain := chain, artifacts := files.map Artifact.ofScanned }

/-- The artifacts that are files. -/
def files (c : ScanContext) : List Artifact :=
  c.artifacts.filter Artifact.isFile

def addArtifacts (c : ScanContext) (artifacts : List Artifact) : ScanContext :=
  { c with artifacts := c.artifacts ++ artifacts }

/-- Adds an asset to a list. An asset of the same id takes over its attributes instead. -/
def mergeAsset (assets : List Asset) (asset : Asset) : List Asset :=
  match assets with
  | [] => [asset]
  | a :: rest =>
    if a.id = asset.id then { a with attributes := a.attributes.union asset.attributes } :: rest
    else a :: mergeAsset rest asset

/-- Declares an asset. -/
def addAsset (c : ScanContext) (asset : Asset) : ScanContext :=
  { c with assets := mergeAsset c.assets asset }

/-- The number of artifacts that have been absorbed. -/
def absorbedCount (c : ScanContext) : Nat :=
  c.artifacts.countP Artifact.absorbed

/-- Removes the artifacts that have been absorbed. -/
def purge (c : ScanContext) : ScanContext :=
  { c with artifacts := c.artifacts.filter (!·.absorbed) }

end ScanContext

end ComponentScan
