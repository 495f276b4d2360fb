import TboxProv.ErrorCode

/-!
# Identifier sources

Results of the injected UID and SN providers.  A failed result carries whatever
error code its provider put there; the default-constructed one carries success.
-/

namespace TboxProv

structure UidReadResult where
  uid : Bytes := []
  success : Bool := false
  errorCode : ErrorCode := .success
  errorMessage : Bytes := []
  deriving DecidableEq

namespace UidReadResult

def ofUid (uid : Bytes) : UidReadResult := { uid, success := true }

def ofError (errorCode : ErrorCode) (errorMessage : Bytes) : UidReadResult :=
  { errorCode, errorMessage }

end UidReadResult

/-- `EcuUid::validate`: a length check. -/
def EcuUid.validate (uid : Bytes) : Bool :=
  !uid.isEmpty && 8 ≤ uid.length && uid.length ≤ 32

structure SnReadResult where
  sn : Bytes := []
  success : Bool := false
  errorMessage : Bytes := []
  snSource : Bytes := []
  environment : Bytes := []
  failureStage : Bytes := []
  deriving DecidableEq

end TboxProv
