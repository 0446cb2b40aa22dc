import ComponentScan.Path

/-!
# Ownership roots

An anchor of `k` segments that is found at a file stands on the file's last `k` segments. The
directory in front of them is the *anchor root*. A component owns what lies below its *base
directory*: the anchor root itself for an anchor of one segment, and otherwise the directory
that the anchor's first segment names.
-/

namespace ComponentScan

/-- The two directories that decide what a component found at a file may own. -/
structure Ownership where
  anchorRoot : String
  baseDir : String
  deriving Repr, DecidableEq

namespace Ownership

/-- The scan root on both counts. -/
def scanRoot : Ownership := ⟨"", ""⟩

/-- The number of segments of an anchor. -/
def segmentCount (anchor : String) : Nat :=
  (Path.segments anchor).length

/-- The ownership roots of an anchor of `count` segments found at `path`. An anchor without
segments, or with more segments than the path, gives the scan root. -/
def ofPath (path : String) (count : Nat) : Ownership :=
  let parts := Path.segments path
  if count = 0 ∨ parts.length < count then scanRoot
  else
    let above := parts.length - count
    let anchorRoot := Path.ofSegments (parts.take above)
    { anchorRoot
      baseDir := if 1 < count then Path.ofSegments (parts.take (above + 1)) else anchorRoot }

end Ownership

end ComponentScan
