import RemoteQuery.Capability.Set
import RemoteQuery.Target.Basic

/-!
# RemoteQuery.Dialect.Native

A target that speaks the generic function vocabulary.
-/

namespace RemoteQuery.Dialect.Native

/-- A reported precision, or the default when none is reported. -/
def positiveOr (value : Int32) (default : Nat) : UInt32 :=
  UInt32.ofNat (if 0 < value.toInt then value.toInt.toNat else default)

/-- Intervals, geometries, zoned timestamps and hash values, by name. -/
def claimType (r : RemoteType) : Option CanonicalType :=
  let name := r.upperName
  if Text.beginsWith name "INTERVAL YEAR" then some (.intervalYearToMonth (positiveOr r.size 2))
  else if Text.beginsWith name "INTERVAL DAY" then
    some (.intervalDayToSecond (positiveOr r.size 2) (positiveOr r.scale 3))
  else if Text.beginsWith name "GEOMETRY" then
    some (.geometry (UInt32.ofNat r.scale.toInt.toNat))
  else if name == "TIMESTAMP WITH LOCAL TIME ZONE" then some (.timestamp true)
  -- Hash values travel as hexadecimal text, two characters a byte.
  else if name == "HASHTYPE" then some (.cappedChar (r.size.toInt * 2) .ascii)
  else none

/-- The native target. -/
def target : Target where
  profile := { name := "NATIVE" }
  claimType := claimType

/-- Everything. -/
def capabilities : CapabilitySet := .all

end RemoteQuery.Dialect.Native
