/-!
# Device versions
-/

namespace SecurityKey

/-- A firmware version; 0.0.0 stands for an unknown one. -/
structure Version where
  major : UInt8 := 0
  minor : UInt8 := 0
  build : UInt8 := 0
  deriving DecidableEq

namespace Version

/-- The text of a version. -/
def describe (v : Version) : String :=
  toString v.major.toNat ++ "." ++ toString v.minor.toNat ++ "." ++ toString v.build.toNat

/-- The order of versions: by the major number, then the minor number, then the build. -/
def compare (v w : Version) : Ordering :=
  (Ord.compare v.major w.major).then ((Ord.compare v.minor w.minor).then (Ord.compare v.build w.build))

end Version

end SecurityKey
