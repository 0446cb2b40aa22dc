import ComponentScan.Descriptor.Basic

/-!
# Descriptor stores

The descriptors that were accepted, in their order, no two with one qualifier.
-/

namespace ComponentScan

structure DescriptorStore where
  descriptors : List Descriptor := []
  deriving Repr, DecidableEq

namespace DescriptorStore

def size (s : DescriptorStore) : Nat := s.descriptors.length

def isEmpty (s : DescriptorStore) : Bool := s.descriptors.isEmpty

/-- Whether a descriptor with this qualifier was accepted. -/
def contains (s : DescriptorStore) (qualifier : String) : Bool :=
  s.descriptors.any (·.qualifier == qualifier)

/-- Whether a descriptor is new, and the store with it. -/
def insert (s : DescriptorStore) (d : Descriptor) : Bool × DescriptorStore :=
  if s.contains d.qualifier then (false, s) else (true, ⟨s.descriptors ++ [d]⟩)

/-- The descriptors of one pass. -/
def ofMode (s : DescriptorStore) (mode : Mode) : List Descriptor :=
  s.descriptors.filter (·.mode == mode)

end DescriptorStore

end ComponentScan
