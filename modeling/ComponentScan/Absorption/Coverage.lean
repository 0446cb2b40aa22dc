import ComponentScan.AnchorMatch

/-!
# Coverage

Which files belong to a component. Its glob lists are read twice: against the whole path, and,
below the base directory of the component, against the path seen from the anchor root. Paths are
folded, and so are the two directories.
-/

namespace ComponentScan

/-- The compiled glob lists of a descriptor. -/
structure Coverage where
  includes : GlobList
  excludes : GlobList
  deriving Repr

namespace Coverage

def ofDescriptor (d : Descriptor) : Except EngineError Coverage :=
  return { includes := ← GlobList.parse d.includes, excludes := ← GlobList.parse d.excludes }

/-- Whether a folded path is covered by a component that owns these folded directories. -/
def covers (c : Coverage) (folded : Ownership) (path : String) : Bool :=
  if c.excludes.accepts path then false
  else if c.includes.accepts path then true
  else if Path.within path folded.baseDir then
    let relative := Path.relativeTo path folded.anchorRoot
    !c.excludes.accepts relative && c.includes.accepts relative
  else false

end Coverage

/-- The directories with their case folded. -/
def Ownership.fold (o : Ownership) : Ownership :=
  ⟨Text.fold o.anchorRoot, Text.fold o.baseDir⟩

end ComponentScan
