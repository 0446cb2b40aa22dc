/-!
# Scan ids

The id of a scan is made of 16 random bytes, which are written as a random UUID.
-/

namespace ComponentScan.ScanId

/-- The bytes with the version and the variant of a random UUID. -/
def marked (bytes : List UInt8) : List UInt8 :=
  bytes.mapIdx fun i b =>
    if i = 6 then (b &&& 0x0f) ||| 0x40
    else if i = 8 then (b &&& 0x3f) ||| 0x80
    else b

/-- A byte as two hexadecimal digits. -/
def digits (b : UInt8) : List Char :=
  [Nat.digitChar (b.toNat / 16), Nat.digitChar (b.toNat % 16)]

/-- The id that is made of 16 bytes. -/
def ofBytes (bytes : List UInt8) : String :=
  let ds := (marked bytes).flatMap digits
  let part (start length : Nat) := String.ofList ((ds.drop start).take length)
  String.intercalate "-" [part 0 8, part 8 4, part 12 4, part 16 4, part 20 12]

end ComponentScan.ScanId
