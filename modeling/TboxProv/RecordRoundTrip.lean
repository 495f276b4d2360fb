import TboxProv.Runs

/-!
# Records through the storage

A record that is written and read back is the same up to its times, which lose the
fraction of a second.  The three kinds of records go through one family of lemmas, and
nothing that is written shows in the reads of the other kinds.
-/

namespace TboxProv

/-! ## Whole seconds -/

/-- The time point without its fraction of a second, towards the epoch. -/
def TimePoint.truncated (t : TimePoint) : TimePoint :=
  Int64.ofInt (t.toInt - t.toInt.tmod 1000000000)

theorem toTimeT_mul (t : TimePoint) :
    toTimeT t * 1000000000 = t.toInt - t.toInt.tmod 1000000000 := by
  have hdiv := Int.mul_tdiv_add_tmod t.toInt 1000000000
  unfold toTimeT
  omega

theorem fraction_bounds (t : TimePoint) :
    -1000000000 < t.toInt.tmod 1000000000 ∧ t.toInt.tmod 1000000000 < 1000000000 :=
  ⟨Int.lt_tmod_of_pos _ (by decide), Int.tmod_lt_of_pos _ (by decide)⟩

/-- Dropping the fraction stays in the range of the clock. -/
theorem truncated_bounds (t : TimePoint) :
    -2 ^ 63 ≤ t.toInt - t.toInt.tmod 1000000000 ∧
      t.toInt - t.toInt.tmod 1000000000 < 2 ^ 63 := by
  have hlo := t.le_toInt
  have hhi := t.toInt_lt
  obtain ⟨hmin, hmax⟩ := fraction_bounds t
  rcases le_total 0 t.toInt with hpos | hneg
  · have hfraction := Int.tmod_nonneg 1000000000 hpos
    omega
  · have hfraction := Int.tmod_nonneg 1000000000 (Int.neg_nonneg.2 hneg)
    rw [Int.neg_tmod] at hfraction
    omega

theorem wholeSeconds_eq_truncated (t : TimePoint) : wholeSeconds t = t.truncated := by
  obtain ⟨hlo, hhi⟩ := truncated_bounds t
  have hmul := toTimeT_mul t
  have hseconds : (Int64.ofInt (toTimeT t)).toInt = toTimeT t :=
    Int64.toInt_ofInt_of_le (by omega) (by omega)
  rw [wholeSeconds, fromTimeT, hseconds, hmul, TimePoint.truncated]

@[simp] theorem TimePoint.truncated_truncated (t : TimePoint) :
    t.truncated.truncated = t.truncated := by
  obtain ⟨hlo, hhi⟩ := truncated_bounds t
  have hwhole : t.truncated.toInt = 1000000000 * toTimeT t := by
    rw [TimePoint.truncated, Int64.toInt_ofInt_of_le hlo hhi, ← toTimeT_mul, Int.mul_comm]
  rw [TimePoint.truncated, hwhole, Int.mul_tmod_right, Int.sub_zero, ← hwhole, Int64.ofInt_toInt]

namespace ProtectedStorageImpl

open Crash Store

/-! ## The three records -/

inductive Record where
  | binding (binding : VehicleBinding)
  | config (config : VehicleConfig)
  | productionInfo (info : ProductionInfo)

namespace Record

def key : Record → Key
  | binding _ => .binding
  | config _ => .config
  | productionInfo _ => .productionInfo

def json : Record → Json
  | binding b => bindingJson b
  | config c => configJson c
  | productionInfo i => productionInfoJson i

/-- All strings of the record. -/
def Utf8 : Record → Prop
  | binding b => b.Utf8
  | config _ => True
  | productionInfo i => i.Utf8

def truncated : Record → Record
  | binding b => binding { b with
      boundAt := b.boundAt.truncated
      lastRewriteAt := b.lastRewriteAt.truncated }
  | config c => config { c with writtenAt := c.writtenAt.truncated }
  | productionInfo i => productionInfo { i with writtenAt := i.writtenAt.truncated }

variable (P : Platform)

def write (outcome : SaveOutcome) : Record → StorageAction ErrorCode
  | binding b => writeVehicleBinding P outcome b
  | config c => writeVehicleConfig P outcome c
  | productionInfo i => writeProductionInfo P outcome i

end Record

/-- What the three reads return. -/
structure Reads where
  binding : Option (Option VehicleBinding)
  config : Option (Option VehicleConfig)
  productionInfo : Option (Option ProductionInfo)

/-- The reads after one of them has got a new value. -/
def Reads.update (reads : Reads) : Record → Reads
  | .binding b => { reads with binding := some (some b) }
  | .config c => { reads with config := some (some c) }
  | .productionInfo i => { reads with productionInfo := some (some i) }

variable (P : Platform) (s : Machine ProtectedStorageImpl)

def reads : Reads where
  binding := (readVehicleBinding P s).val
  config := (readVehicleConfig P s).val
  productionInfo := (readProductionInfo P s).val

def stored (record : Record) : Machine ProtectedStorageImpl := (record.write P .stored s).state

structure RoundTrips (record : Record) : Prop where
  written : (record.write P .stored s).val = some .success
  read : reads P (stored P s record) = (reads P s).update record.truncated
  rewritten : (record.truncated.write P .stored (stored P s record)).val = some .success
  reread : reads P (stored P (stored P s record) record.truncated) = reads P (stored P s record)

/-- The write is refused, and everything can be read as before. -/
structure Rejected (record : Record) : Prop where
  code (outcome : SaveOutcome) : (record.write P outcome s).val = some .storageError
  unchanged (outcome : SaveOutcome) : (record.write P outcome s).state = s

variable {P s}

namespace Record

variable (record : Record)

theorem plain : record.json.Plain := by
  cases record with
  | binding b => exact bindingJson_plain b
  | config c => exact configJson_plain c
  | productionInfo i => exact productionInfoJson_plain i

theorem utf8_json : record.json.Utf8 ↔ record.Utf8 := by
  cases record with
  | binding b => exact ⟨utf8_of_bindingJson, bindingJson_utf8⟩
  | config c => exact ⟨fun _ ↦ trivial, fun _ ↦ configJson_utf8 c⟩
  | productionInfo i => exact ⟨utf8_of_productionInfoJson, productionInfoJson_utf8⟩

@[simp] theorem utf8_truncated : record.truncated.Utf8 ↔ record.Utf8 := by
  cases record <;> rfl

@[simp] theorem truncated_truncated : record.truncated.truncated = record.truncated := by
  cases record <;> simp [truncated]

/-- The three writes are the same up to their messages. -/
theorem exists_write : ∃ message, ∀ outcome,
    record.write P outcome =
      writeRecord P outcome record.key (P.json.dump 4 record.json) message := by
  cases record with
  | binding | config | productionInfo => exact ⟨_, fun _ ↦ rfl⟩

end Record

theorem Reads.update_update (reads : Reads) (record : Record) :
    (reads.update record.truncated).update record.truncated =
      reads.update record.truncated := by
  cases record <;> rfl

/-! ## One write -/

variable (P s) in
theorem reads_eq :
    reads P s =
      { binding := some (bindingIn P (s.disk .binding))
        config := some (configIn P (s.disk .config))
        productionInfo := some (productionInfoIn P (s.disk .productionInfo)) } := by
  simp [reads, readVehicleConfig, readProductionInfo, configIn, productionInfoIn]

/-- A file with the record in it is what the record's read returns. -/
theorem reads_put (hP : P.json.Lawful) {record : Record} {content : Bytes}
    (h : sealed P (P.json.dump 4 record.json) = .ok content) :
    reads P (s.put record.key (.file content)) = (reads P s).update record.truncated := by
  rw [reads_eq, reads_eq]
  cases record with
  | binding b =>
      have hread : bindingIn P (.file content) = some b.reread := bindingIn_sealed hP h
      simp [Record.key, Record.truncated, Reads.update, hread, VehicleBinding.reread,
        wholeSeconds_eq_truncated]
  | config c =>
      have hread : configIn P (.file content) = some c.reread := configIn_sealed hP h
      simp [Record.key, Record.truncated, Reads.update, hread, VehicleConfig.reread,
        wholeSeconds_eq_truncated]
  | productionInfo i =>
      have hread : productionInfoIn P (.file content) = some i.reread :=
        productionInfoIn_sealed hP h
      simp [Record.key, Record.truncated, Reads.update, hread, ProductionInfo.reread,
        wholeSeconds_eq_truncated]

theorem write_stored (hP : P.json.Lawful) (hprot : s.mem.writeProtected = false)
    {record : Record} (hutf8 : record.Utf8) :
    (record.write P .stored s).val = some .success ∧
      reads P (stored P s record) = (reads P s).update record.truncated ∧
      (stored P s record).mem = s.mem := by
  obtain ⟨content, hcontent⟩ := exists_sealed hP record.plain (record.utf8_json.2 hutf8)
  obtain ⟨message, hwrite⟩ := record.exists_write (P := P)
  obtain ⟨hval, hstate⟩ := writeRecord_ok P s .stored record.key _ message hprot hcontent
  rw [← hwrite] at hval hstate
  refine ⟨hval, ?_, ?_⟩
  · rw [stored, hstate]
    exact reads_put hP hcontent
  · rw [stored, hstate]
    rfl

theorem roundTrips_of_utf8 (hP : P.json.Lawful) (hprot : s.mem.writeProtected = false)
    {record : Record} (hutf8 : record.Utf8) : RoundTrips P s record := by
  obtain ⟨hval, hread, hmem⟩ := write_stored hP hprot hutf8
  obtain ⟨hval', hread', -⟩ := write_stored hP (by rw [hmem]; exact hprot)
    (record.utf8_truncated.2 hutf8)
  refine ⟨hval, hread, hval', ?_⟩
  rw [hread', hread, record.truncated_truncated, Reads.update_update]

theorem rejected_of_not_utf8 (hP : P.json.Lawful) (hprot : s.mem.writeProtected = false)
    {record : Record} (hutf8 : ¬ record.Utf8) : Rejected P s record := by
  obtain ⟨message, hwrite⟩ := record.exists_write (P := P)
  cases hsealed : sealed P (P.json.dump 4 record.json) with
  | ok content => exact absurd (record.utf8_json.1 (utf8_of_sealed hP hsealed)) hutf8
  | error e =>
      have hboth : ∀ outcome, (record.write P outcome s).val = some .storageError ∧
          (record.write P outcome s).state = s := by
        intro outcome
        rw [hwrite]
        exact writeRecord_error P s outcome record.key _ message hprot hsealed
      exact ⟨fun outcome ↦ (hboth outcome).1, fun outcome ↦ (hboth outcome).2⟩

/-- Every record whose strings are UTF-8 survives, and every other one is turned away. -/
theorem record_round_trip (hP : P.json.Lawful) (hprot : s.mem.writeProtected = false)
    (record : Record) :
    (record.Utf8 → RoundTrips P s record) ∧ (¬ record.Utf8 → Rejected P s record) :=
  ⟨roundTrips_of_utf8 hP hprot, rejected_of_not_utf8 hP hprot⟩

/-! ## Any number of writes -/

/-- After any writes each read returns the last record of its kind. -/
theorem reads_run (hP : P.json.Lawful) (hprot : s.mem.writeProtected = false)
    {records : List Record} (hutf8 : ∀ record ∈ records, record.Utf8) :
    reads P (run (fun record s ↦ stored P s record) records s) =
      records.foldl (fun reads record ↦ reads.update record.truncated) (reads P s) := by
  induction records generalizing s with
  | nil => rfl
  | cons record records ih =>
      obtain ⟨-, hread, hmem⟩ := write_stored hP hprot (hutf8 record List.mem_cons_self)
      have hrest : ∀ record ∈ records, record.Utf8 := fun record' hmem' ↦
        hutf8 record' (List.mem_cons_of_mem record hmem')
      have hnext : (stored P s record).mem.writeProtected = false := by rw [hmem]; exact hprot
      rw [run_cons, ih hnext hrest, hread, List.foldl_cons]

def quotedBinding : Record :=
  .binding { vin := bytes "\"\n", boundAt := 1500000000, rewriteCount := 4294967295 }

def misencodedInfo : Record := .productionInfo { batchNum := [255] }

theorem record_round_trip_sample :
    RoundTrips ProvService.textPlatform ⟨Disk.empty, {}⟩ quotedBinding ∧
      Rejected ProvService.textPlatform ⟨Disk.empty, {}⟩ misencodedInfo := by
  have hquoted : quotedBinding.Utf8 := ⟨Utf8.bytes _, Utf8.nil, Utf8.nil, Utf8.nil⟩
  have hmisencoded : ¬ misencodedInfo.Utf8 := by
    rintro ⟨-, hbatch, -⟩
    exact absurd hbatch (by decide)
  exact ⟨(record_round_trip ProvService.textPlatform_lawful rfl _).1 hquoted,
    (record_round_trip ProvService.textPlatform_lawful rfl _).2 hmisencoded⟩

end ProtectedStorageImpl

end TboxProv
