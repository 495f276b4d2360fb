import Mathlib.Data.Int.Notation
import TboxProv.Json.Utf8

/-!
# Data model

The records of `tbox/prov/types.h`.  A `system_clock` time point counts
nanoseconds since the epoch in 64 bits.
-/

namespace TboxProv

abbrev TimePoint := Int64

/-- `system_clock::to_time_t`: whole seconds, dropping the fraction. -/
def toTimeT (t : TimePoint) : ℤ := t.toInt.tdiv 1000000000

/-- `system_clock::from_time_t`, in the 64-bit arithmetic of the clock. -/
def fromTimeT (seconds : Int64) : TimePoint := Int64.ofInt (seconds.toInt * 1000000000)

/-- An `enum class : uint8_t`; a stored record can hold any 8-bit value. -/
structure ProvisionState where
  value : UInt8
  deriving DecidableEq

namespace ProvisionState

def none : ProvisionState := ⟨0⟩
def vinWritten : ProvisionState := ⟨1⟩
def bound : ProvisionState := ⟨2⟩
def failed : ProvisionState := ⟨3⟩

/-- `provision_state_to_string` -/
def toString (state : ProvisionState) : String :=
  if state = none then "NONE"
  else if state = vinWritten then "VIN_WRITTEN"
  else if state = bound then "BOUND"
  else if state = failed then "FAILED"
  else "UNKNOWN"

@[simp] theorem vinWritten_ne_bound : vinWritten ≠ bound := by decide

end ProvisionState

structure VehicleBinding where
  vin : Bytes := []
  ecuUid : Bytes := []
  sn : Bytes := []
  state : ProvisionState := .none
  locked : Bool := false
  boundAt : TimePoint := 0
  lastError : Bytes := []
  retryCount : UInt32 := 0
  rewriteCount : UInt32 := 0
  lastRewriteAt : TimePoint := 0
  deriving DecidableEq

structure VehicleConfig where
  variantCoding : List UInt8 := []
  writtenAt : TimePoint := 0
  verified : Bool := false
  deriving DecidableEq

structure ProductionInfo where
  productionDate : Bytes := []
  batchNum : Bytes := []
  stationId : Bytes := []
  writtenAt : TimePoint := 0
  deriving DecidableEq

end TboxProv
