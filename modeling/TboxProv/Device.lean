import TboxProv.Crash.Trace
import TboxProv.Crash.Transaction
import TboxProv.Providers
import TboxProv.Records
import TboxProv.VinGrammar

/-!
# The device that is provisioned

What the component is for, without files, JSON, caches and read-backs.  A device holds at
most one record of each kind and a lock that survives a power cycle; whatever changes it is
a transaction of edits, each of which is made whole or not at all.
-/

namespace TboxProv

open Crash

structure Device where
  binding : Option VehicleBinding := none
  config : Option VehicleConfig := none
  productionInfo : Option ProductionInfo := none
  locked : Bool := false
  deriving DecidableEq

namespace Device

inductive Edit
  | bind (record : VehicleBinding)
  | configure (record : VehicleConfig)
  | label (record : ProductionInfo)
  | lock
  deriving DecidableEq

def apply : Edit → Device → Device
  | .bind record, d => { d with binding := some record }
  | .configure record, d => { d with config := some record }
  | .label record, d => { d with productionInfo := some record }
  | .lock, d => { d with locked := true }

/-- The record of a VIN; binding the same VIN again counts as a rewrite. -/
def record (d : Device) (vin ecuUid : Bytes) (boundAt rewrittenAt : TimePoint)
    (state : ProvisionState) : VehicleBinding :=
  let first : VehicleBinding := { vin, ecuUid, state, boundAt := wholeSeconds boundAt }
  match d.binding with
  | none => first
  | some old =>
      if old.vin = vin then
        { first with
          rewriteCount := old.rewriteCount + 1, lastRewriteAt := wholeSeconds rewrittenAt }
      else first

/-- A locked record of another VIN is in the way. -/
def conflicts (d : Device) (vin : Bytes) : Bool :=
  d.binding.any fun old ↦ old.locked && old.vin != vin

end Device

/-! ## Requests -/

/-- What can be asked of a device, with everything from outside that the answer depends on. -/
inductive Request where
  | start (available : Bool)
  | close
  | bind (rewrite : Bool) (vin : Bytes) (uid : UidReadResult) (boundAt rewrittenAt : TimePoint)
      (fate : ℕ → Fate)
  | configure (data : List UInt8) (writtenAt : TimePoint) (fate : ℕ → Fate)
  | label (info : ProductionInfo) (writtenAt : TimePoint) (fate : ℕ → Fate)
  | readVin
  | readBinding (sn : SnReadResult)
  | readState
  | isUp
  | powerCycle

inductive Answer where
  | code (code : ErrorCode)
  | vin (vin : Bytes)
  | binding (binding : VehicleBinding)
  | state (state : ProvisionState)
  | up (up : Bool)
  | closed
  deriving DecidableEq

/-- A device with the session that is running on it. -/
structure Provisioner where
  device : Device := {}
  up : Bool := false
  closing : Bool := false
  deriving DecidableEq

instance decidableIsVin (s : Bytes) : Decidable (VinGrammar.IsVin s) :=
  decidable_of_iff (VinValidator.validate s = true) VinValidator.validate_iff_isVin

instance decidableInfoUtf8 (info : ProductionInfo) : Decidable info.Utf8 :=
  inferInstanceAs (Decidable (_ ∧ _ ∧ _))

namespace Provisioner

/-- What a binding request is answered without an edit, if it is. -/
def bindRefusal (s : Provisioner) (rewrite : Bool) (vin : Bytes) (uid : UidReadResult) :
    Option ErrorCode :=
  if !s.up || s.closing then some .invalidState
  else if ¬ VinGrammar.IsVin vin then some .invalidVinFormat
  else if rewrite && s.device.conflicts vin then some .vinConflictUnauthorized
  else if !uid.success then some uid.errorCode
  else if s.device.locked ∨ ¬ Utf8 uid.uid then some .vinWriteFailed
  else none

def writeRefusal (s : Provisioner) : Option ErrorCode :=
  if !s.up || s.closing then some .invalidState
  else if s.device.locked then some .securityAccessNotGranted
  else none

def labelRefusal (s : Provisioner) (info : ProductionInfo) : Option ErrorCode :=
  s.writeRefusal.or (if ¬ info.Utf8 then some .productionInfoWriteFailed else none)

/-- The VIN as written, then as bound, then the lock where it is wanted. -/
def bindStages (protecting : Bool) (written bound : VehicleBinding) :
    List (Stage Device.Edit ErrorCode) :=
  [⟨.bind written, some .vinWriteFailed⟩, ⟨.bind bound, some .vinWriteFailed⟩] ++
    if protecting then [⟨.lock, some .storageError⟩] else []

theorem bindStages_eq (protecting : Bool) (written bound : VehicleBinding) :
    bindStages protecting written bound =
      ⟨.bind written, some .vinWriteFailed⟩ :: ⟨.bind bound, some .vinWriteFailed⟩ ::
        if protecting then [⟨.lock, some .storageError⟩] else [] := rfl

/-- Marking the configuration as verified may fail silently. -/
def configureStages (data : List UInt8) (writtenAt : TimePoint) :
    List (Stage Device.Edit ErrorCode) :=
  [⟨.configure { variantCoding := data, writtenAt := wholeSeconds writtenAt },
      some .configWriteFailed⟩,
    ⟨.configure { variantCoding := data, writtenAt := wholeSeconds writtenAt, verified := true },
      none⟩]

def labelStages (info : ProductionInfo) (writtenAt : TimePoint) :
    List (Stage Device.Edit ErrorCode) :=
  [⟨.label { info with writtenAt := wholeSeconds writtenAt }, some .productionInfoWriteFailed⟩]

/-- A crash in the transaction ends the session. -/
def transact (s : Provisioner) (stages : List (Stage Device.Edit ErrorCode)) (fate : ℕ → Fate) :
    Option Answer × Provisioner :=
  match perform Device.apply ErrorCode.success stages fate s.device with
  | (some code, device) => (some (.code code), { s with device })
  | (none, device) => (none, { device })

def refuseOr (s : Provisioner) (refusal : Option ErrorCode)
    (stages : List (Stage Device.Edit ErrorCode)) (fate : ℕ → Fate) : Option Answer × Provisioner :=
  match refusal with
  | some code => (some (.code code), s)
  | none => s.transact stages fate

/-- An empty serial number is filled in from its source. -/
def shown (sn : SnReadResult) (record : VehicleBinding) : VehicleBinding :=
  if record.sn = [] ∧ sn.success = true then { record with sn := sn.sn } else record

/-- The answer is none where the session ends before there is one. -/
def step (protecting : Bool) : Request → Provisioner → Option Answer × Provisioner
  | .start available, s =>
      if s.up then (some (.code .success), s)
      else if available then (some (.code .success), { s with up := true })
      else (some (.code .storageError), s)
  | .close, s => (some .closed, { s with closing := true })
  | .bind rewrite vin uid boundAt rewrittenAt fate, s =>
      let record := s.device.record vin uid.uid boundAt rewrittenAt
      s.refuseOr (s.bindRefusal rewrite vin uid)
        (bindStages protecting (record .vinWritten) (record .bound)) fate
  | .configure data writtenAt fate, s =>
      s.refuseOr s.writeRefusal (configureStages data writtenAt) fate
  | .label info writtenAt fate, s =>
      s.refuseOr (s.labelRefusal info) (labelStages info writtenAt) fate
  | .readVin, s => (some (.vin (if s.up then s.device.binding.elim [] (·.vin) else [])), s)
  | .readBinding sn, s =>
      (some (.binding (if s.up then s.device.binding.elim {} (shown sn) else {})), s)
  | .readState, s =>
      (some (.state (if s.up then s.device.binding.elim .none (·.state) else .none)), s)
  | .isUp, s => (some (.up s.up), s)
  | .powerCycle, s => (none, { device := s.device })

end Provisioner

end TboxProv
