import TboxProv.Json.Utf8

/-!
# Error codes

`ErrorCode` is an `enum class : uint32_t`: a cast from an integer can give it
any 32-bit value, listed or not, so it is a wrapped `UInt32`.
-/

namespace TboxProv

structure ErrorCode where
  value : UInt32
  deriving DecidableEq

namespace ErrorCode

def success : ErrorCode := ⟨0⟩
def securityAccessNotGranted : ErrorCode := ⟨1001⟩
def invalidVinFormat : ErrorCode := ⟨1002⟩
def vinWriteFailed : ErrorCode := ⟨1003⟩
def readbackVerificationFailed : ErrorCode := ⟨1004⟩
def vinConflictUnauthorized : ErrorCode := ⟨1005⟩
def configWriteFailed : ErrorCode := ⟨1006⟩
def productionInfoWriteFailed : ErrorCode := ⟨1007⟩
def seUidReadFailed : ErrorCode := ⟨1008⟩
def seMissingConfigNotFound : ErrorCode := ⟨1009⟩
def seMissingProductionFailClosed : ErrorCode := ⟨1010⟩
def internalError : ErrorCode := ⟨9999⟩
def storageError : ErrorCode := ⟨9998⟩
def ecuUidReadError : ErrorCode := ⟨9997⟩
def invalidState : ErrorCode := ⟨9996⟩
def snUnavailable : ErrorCode := ⟨9995⟩

def strings : List (ErrorCode × String) :=
  [(success, "SUCCESS"),
   (securityAccessNotGranted, "PROV-1001"),
   (invalidVinFormat, "PROV-1002"),
   (vinWriteFailed, "PROV-1003"),
   (readbackVerificationFailed, "PROV-1004"),
   (vinConflictUnauthorized, "PROV-1005"),
   (configWriteFailed, "PROV-1006"),
   (productionInfoWriteFailed, "PROV-1007"),
   (seUidReadFailed, "PROV-1008"),
   (seMissingConfigNotFound, "PROV-1009"),
   (seMissingProductionFailClosed, "PROV-1010"),
   (internalError, "INTERNAL-9999"),
   (storageError, "INTERNAL-9998"),
   (ecuUidReadError, "INTERNAL-9997"),
   (invalidState, "INTERNAL-9996"),
   (snUnavailable, "SN-UNAVAILABLE-9995")]

/-- `error_code_to_string` -/
def toString (code : ErrorCode) : String := (strings.lookup code).getD "UNKNOWN"

@[simp] theorem invalidState_ne_success : invalidState ≠ success := by decide

@[simp] theorem invalidVinFormat_ne_success : invalidVinFormat ≠ success := by decide

@[simp] theorem vinWriteFailed_ne_success : vinWriteFailed ≠ success := by decide

@[simp] theorem readback_ne_success : readbackVerificationFailed ≠ success := by decide

@[simp] theorem vinConflict_ne_success : vinConflictUnauthorized ≠ success := by decide

@[simp] theorem storageError_ne_success : storageError ≠ success := by decide

@[simp] theorem securityAccess_ne_success : securityAccessNotGranted ≠ success := by decide

@[simp] theorem configWriteFailed_ne_success : configWriteFailed ≠ success := by decide

@[simp] theorem productionInfoWriteFailed_ne_success : productionInfoWriteFailed ≠ success := by
  decide

end ErrorCode

end TboxProv
