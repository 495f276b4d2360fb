import TboxProv.Runs

/-!
# Strict decoding of stored bindings

What a stored snapshot says, taken strictly: every member has its own JSON type, and
every number is an integer of its range.  The deserializer converts numbers instead, and
takes fractions, booleans and integers of any size.
-/

namespace TboxProv.ProtectedStorageImpl

open Crash Store

/-! ## Snapshots -/

/-- The content of a strict snapshot; times are in seconds. -/
structure Snapshot where
  vin : Bytes
  ecuUid : Bytes
  sn : Bytes
  state : Fin 4
  locked : Bool
  boundAt : ℤ
  lastError : Bytes
  retryCount : UInt32
  rewriteCount : UInt32
  lastRewriteAt : ℤ

namespace Snapshot

/-- The members of an object that say what the snapshot is. -/
structure WrittenIn (fields : List (String × Json)) (snap : Snapshot) : Prop where
  vin : fields.lookup "vin" = some (.string snap.vin)
  ecuUid : fields.lookup "ecu_uid" = some (.string snap.ecuUid)
  sn : fields.lookup "sn" = some (.string snap.sn) ∨ fields.lookup "sn" = none ∧ snap.sn = []
  state : fields.lookup "state" = some (.integer snap.state.val)
  locked : fields.lookup "locked" = some (.boolean snap.locked)
  boundAt : fields.lookup "bound_at" = some (.integer snap.boundAt)
  lastError : fields.lookup "last_error" = some (.string snap.lastError)
  retryCount : fields.lookup "retry_count" = some (.integer snap.retryCount.toNat)
  rewriteCount : fields.lookup "rewrite_count" = some (.integer snap.rewriteCount.toNat)
  lastRewriteAt : fields.lookup "last_rewrite_at" = some (.integer snap.lastRewriteAt)

/-- A time point is exactly so many seconds after the epoch. -/
def IsSeconds (t : TimePoint) (seconds : ℤ) : Prop := t.toInt = seconds * 1000000000

/-- The binding has exactly the values of the snapshot. -/
structure HeldBy (b : VehicleBinding) (snap : Snapshot) : Prop where
  vin : b.vin = snap.vin
  ecuUid : b.ecuUid = snap.ecuUid
  sn : b.sn = snap.sn
  state : b.state.value.toNat = snap.state.val
  locked : b.locked = snap.locked
  boundAt : IsSeconds b.boundAt snap.boundAt
  lastError : b.lastError = snap.lastError
  retryCount : b.retryCount = snap.retryCount
  rewriteCount : b.rewriteCount = snap.rewriteCount
  lastRewriteAt : IsSeconds b.lastRewriteAt snap.lastRewriteAt

end Snapshot

variable (P : Platform)

/-- The text is an object that says exactly this. -/
def SnapshotIn (data : Bytes) (snap : Snapshot) : Prop :=
  ∃ fields, P.json.parse data = .ok (.object fields) ∧ snap.WrittenIn fields

/-- The read gives a binding exactly for a strict snapshot, and then the values in it. -/
structure ReadsStrictly (s : Machine ProtectedStorageImpl) (data : Bytes) : Prop where
  accepts : (∃ b, (readVehicleBinding P s).val = some (some b)) ↔ ∃ snap, SnapshotIn P data snap
  refuses : (readVehicleBinding P s).val = some none ↔ ¬ ∃ snap, SnapshotIn P data snap
  values : ∀ b snap, (readVehicleBinding P s).val = some (some b) → SnapshotIn P data snap →
    snap.HeldBy b

/-! ## What the conversions take -/

def IsNumber : Json → Prop
  | .integer _ | .float _ => True
  | _ => False

def IsCounter : Json → Prop
  | .boolean _ | .integer _ | .float _ => True
  | _ => False

/-- Every member has a type that its conversion takes. -/
structure Convertible (fields : List (String × Json)) : Prop where
  vin : ∃ v, fields.lookup "vin" = some (.string v)
  ecuUid : ∃ v, fields.lookup "ecu_uid" = some (.string v)
  sn : fields.lookup "sn" = none ∨ ∃ v, fields.lookup "sn" = some (.string v)
  state : ∃ j, fields.lookup "state" = some j ∧ IsNumber j
  locked : ∃ v, fields.lookup "locked" = some (.boolean v)
  boundAt : ∃ j, fields.lookup "bound_at" = some j ∧ IsNumber j
  lastError : ∃ v, fields.lookup "last_error" = some (.string v)
  retryCount : ∃ j, fields.lookup "retry_count" = some j ∧ IsCounter j
  rewriteCount : ∃ j, fields.lookup "rewrite_count" = some j ∧ IsCounter j
  lastRewriteAt : ∃ j, fields.lookup "last_rewrite_at" = some j ∧ IsNumber j

def IntegerIn (fields : List (String × Json)) (key : String) (lo hi : ℤ) : Prop :=
  ∃ z, fields.lookup key = some (.integer z) ∧ lo ≤ z ∧ z < hi

/-- The nanoseconds of this many seconds fit into 64 bits. -/
def SecondsIn (fields : List (String × Json)) (key : String) : Prop :=
  ∃ z, fields.lookup key = some (.integer z) ∧
    -2 ^ 63 ≤ z * 1000000000 ∧ z * 1000000000 < 2 ^ 63

/-- The numbers are integers of their ranges. -/
structure Unconverted (fields : List (String × Json)) : Prop where
  state : IntegerIn fields "state" 0 4
  boundAt : SecondsIn fields "bound_at"
  retryCount : IntegerIn fields "retry_count" 0 (2 ^ 32)
  rewriteCount : IntegerIn fields "rewrite_count" 0 (2 ^ 32)
  lastRewriteAt : SecondsIn fields "last_rewrite_at"

variable {P} {fields : List (String × Json)} {key : String} {j : Json}

def member (fields : List (String × Json)) (key : String) : Json :=
  (fields.lookup key).getD .null

theorem member_of_lookup (h : fields.lookup key = some j) : member fields key = j := by
  rw [member, h, Option.getD_some]

theorem lookup_of_member (h : j ≠ .null) (hj : member fields key = j) :
    fields.lookup key = some j := by
  unfold member at hj
  cases hlookup : fields.lookup key with
  | none =>
      rw [hlookup] at hj
      exact absurd hj.symm h
  | some j' =>
      rw [hlookup] at hj
      rw [← hj, Option.getD_some]

theorem getString_member_iff {v : Bytes} :
    (member fields key).getString = .ok v ↔ fields.lookup key = some (.string v) := by
  constructor
  · intro h
    apply lookup_of_member (by simp)
    cases hj : member fields key <;> rw [hj] at h <;> cases h
    rfl
  · intro h
    rw [member_of_lookup h, Json.getString_string]

theorem getBool_member_iff {v : Bool} :
    (member fields key).getBool = .ok v ↔ fields.lookup key = some (.boolean v) := by
  constructor
  · intro h
    apply lookup_of_member (by simp)
    cases hj : member fields key <;> rw [hj] at h <;> cases h
    rfl
  · intro h
    rw [member_of_lookup h, Json.getBool_boolean]

theorem getEnum8_ok_iff : (∃ n, P.json.getEnum8 j = .ok n) ↔ IsNumber j := by
  cases j <;> simp [JsonLib.getEnum8, Json.getArithmetic, IsNumber, Except.map]

theorem getInt64_ok_iff : (∃ n, P.json.getInt64 j = .ok n) ↔ IsNumber j := by
  cases j <;> simp [JsonLib.getInt64, Json.getArithmetic, IsNumber, Except.map]

theorem getUInt32_ok_iff : (∃ n, P.json.getUInt32 j = .ok n) ↔ IsCounter j := by
  cases j <;> simp [JsonLib.getUInt32, Json.getNumber, Json.getArithmetic, IsCounter, Except.map]

theorem isNumber_member_iff :
    IsNumber (member fields key) ↔ ∃ j, fields.lookup key = some j ∧ IsNumber j := by
  unfold member
  cases fields.lookup key <;> simp [IsNumber]

theorem isCounter_member_iff :
    IsCounter (member fields key) ↔ ∃ j, fields.lookup key = some j ∧ IsCounter j := by
  unfold member
  cases fields.lookup key <;> simp [IsCounter]

/-! ## What the deserializer reads -/

theorem bind_eq_ok_iff {α β : Type} {x : Throws α} {f : α → Throws β} {b : β} :
    (x >>= f) = .ok b ↔ ∃ a, x = .ok a ∧ f a = .ok b := by
  cases x <;> simp

/-- `sn` of an object: empty in an old snapshot. -/
def SnIs (fields : List (String × Json)) (sn : Bytes) : Prop :=
  fields.lookup "sn" = some (.string sn) ∨ fields.lookup "sn" = none ∧ sn = []

theorem value_sn_iff {sn : Bytes} :
    (Json.object fields).value Json.getString "sn" [] = .ok sn ↔ SnIs fields sn := by
  simp only [Json.value, SnIs]
  cases hsn : fields.lookup "sn" with
  | none => simp [eq_comm]
  | some j => cases j <;> simp [Json.getString]

theorem exists_snIs_iff : (∃ sn, SnIs fields sn) ↔
    fields.lookup "sn" = none ∨ ∃ v, fields.lookup "sn" = some (.string v) := by
  constructor
  · rintro ⟨sn, hsn | ⟨hnone, -⟩⟩
    · exact Or.inr ⟨sn, hsn⟩
    · exact Or.inl hnone
  · rintro (hnone | ⟨sn, hsn⟩)
    · exact ⟨[], Or.inr ⟨hnone, rfl⟩⟩
    · exact ⟨sn, Or.inl hsn⟩

/-- The members of an object, each converted to the type of its field. -/
structure ReadsAs (P : Platform) (fields : List (String × Json)) (b : VehicleBinding) : Prop where
  vin : fields.lookup "vin" = some (.string b.vin)
  ecuUid : fields.lookup "ecu_uid" = some (.string b.ecuUid)
  sn : SnIs fields b.sn
  state : P.json.getEnum8 (member fields "state") = .ok b.state.value
  locked : fields.lookup "locked" = some (.boolean b.locked)
  boundAt : ∃ t, P.json.getInt64 (member fields "bound_at") = .ok t ∧ b.boundAt = fromTimeT t
  lastError : fields.lookup "last_error" = some (.string b.lastError)
  retryCount : P.json.getUInt32 (member fields "retry_count") = .ok b.retryCount
  rewriteCount : P.json.getUInt32 (member fields "rewrite_count") = .ok b.rewriteCount
  lastRewriteAt : ∃ t, P.json.getInt64 (member fields "last_rewrite_at") = .ok t ∧
    b.lastRewriteAt = fromTimeT t

theorem subscript_object (key : String) :
    (Json.object fields).subscript key = .ok (member fields key) := rfl

theorem readBindingJson_ok_iff {b : VehicleBinding} :
    readBindingJson P (.object fields) = .ok b ↔ ReadsAs P fields b := by
  simp only [readBindingJson, subscript_object, Throws.ok_bind, bind_eq_ok_iff,
    getString_member_iff, getBool_member_iff, value_sn_iff, Throws.pure_eq, Except.ok.injEq]
  constructor
  · rintro ⟨vin, hvin, ecuUid, hecuUid, sn, hsn, state, hstate, locked, hlocked, t, ht, lastError,
      hlastError, retryCount, hretryCount, rewriteCount, hrewriteCount, t', ht', rfl⟩
    exact ⟨hvin, hecuUid, hsn, hstate, hlocked, ⟨t, ht, rfl⟩, hlastError, hretryCount,
      hrewriteCount, ⟨t', ht', rfl⟩⟩
  · rintro ⟨hvin, hecuUid, hsn, hstate, hlocked, ⟨t, ht, hboundAt⟩, hlastError, hretryCount,
      hrewriteCount, ⟨t', ht', hlastRewriteAt⟩⟩
    refine ⟨_, hvin, _, hecuUid, _, hsn, _, hstate, _, hlocked, t, ht, _, hlastError, _,
      hretryCount, _, hrewriteCount, t', ht', ?_⟩
    rw [← hboundAt, ← hlastRewriteAt]

theorem readBindingJson_other {e : Json} (h : ∀ fields, e ≠ .object fields) (b : VehicleBinding) :
    readBindingJson P e ≠ .ok b := by
  cases e with
  | object fields => exact absurd rfl (h fields)
  | null | boolean | integer | float | string | array =>
      simp [readBindingJson, Json.subscript, Json.getString]

/-- The deserializer accepts exactly the objects whose members it can convert. -/
theorem readBindingJson_accepts_iff :
    (∃ b, readBindingJson P (.object fields) = .ok b) ↔ Convertible fields := by
  simp only [readBindingJson_ok_iff]
  constructor
  · rintro ⟨b, h⟩
    obtain ⟨t, ht, -⟩ := h.boundAt
    obtain ⟨t', ht', -⟩ := h.lastRewriteAt
    exact {
      vin := ⟨_, h.vin⟩
      ecuUid := ⟨_, h.ecuUid⟩
      sn := exists_snIs_iff.1 ⟨_, h.sn⟩
      state := isNumber_member_iff.1 (getEnum8_ok_iff.1 ⟨_, h.state⟩)
      locked := ⟨_, h.locked⟩
      boundAt := isNumber_member_iff.1 (getInt64_ok_iff.1 ⟨t, ht⟩)
      lastError := ⟨_, h.lastError⟩
      retryCount := isCounter_member_iff.1 (getUInt32_ok_iff.1 ⟨_, h.retryCount⟩)
      rewriteCount := isCounter_member_iff.1 (getUInt32_ok_iff.1 ⟨_, h.rewriteCount⟩)
      lastRewriteAt := isNumber_member_iff.1 (getInt64_ok_iff.1 ⟨t', ht'⟩) }
  · intro h
    obtain ⟨vin, hvin⟩ := h.vin
    obtain ⟨ecuUid, hecuUid⟩ := h.ecuUid
    obtain ⟨sn, hsn⟩ := exists_snIs_iff.2 h.sn
    obtain ⟨state, hstate⟩ := getEnum8_ok_iff.2 (isNumber_member_iff.2 h.state)
    obtain ⟨locked, hlocked⟩ := h.locked
    obtain ⟨t, ht⟩ := getInt64_ok_iff.2 (isNumber_member_iff.2 h.boundAt)
    obtain ⟨lastError, hlastError⟩ := h.lastError
    obtain ⟨retryCount, hretryCount⟩ := getUInt32_ok_iff.2 (isCounter_member_iff.2 h.retryCount)
    obtain ⟨rewriteCount, hrewriteCount⟩ :=
      getUInt32_ok_iff.2 (isCounter_member_iff.2 h.rewriteCount)
    obtain ⟨t', ht'⟩ := getInt64_ok_iff.2 (isNumber_member_iff.2 h.lastRewriteAt)
    exact ⟨{ vin, ecuUid, sn, state := ⟨state⟩, locked, boundAt := fromTimeT t, lastError,
             retryCount, rewriteCount, lastRewriteAt := fromTimeT t' },
      hvin, hecuUid, hsn, hstate, hlocked, ⟨t, ht, rfl⟩, hlastError, hretryCount, hrewriteCount,
      ⟨t', ht', rfl⟩⟩

/-! ## Snapshots and bindings -/

theorem isSeconds_fromTimeT {z : ℤ} (hlo : -2 ^ 63 ≤ z * 1000000000)
    (hhi : z * 1000000000 < 2 ^ 63) : Snapshot.IsSeconds (fromTimeT (Int64.ofInt z)) z := by
  have hz : (Int64.ofInt z).toInt = z := Int64.toInt_ofInt_of_le (by omega) (by omega)
  rw [Snapshot.IsSeconds, fromTimeT, hz]
  exact Int64.toInt_ofInt_of_le hlo hhi

theorem IsSeconds.bounds {t : TimePoint} {z : ℤ} (h : Snapshot.IsSeconds t z) :
    -2 ^ 63 ≤ z * 1000000000 ∧ z * 1000000000 < 2 ^ 63 := by
  rw [← h]
  exact ⟨t.le_toInt, t.toInt_lt⟩

variable {snap : Snapshot} {b : VehicleBinding}

theorem WrittenIn.convertible (h : snap.WrittenIn fields) : Convertible fields where
  vin := ⟨_, h.vin⟩
  ecuUid := ⟨_, h.ecuUid⟩
  sn := exists_snIs_iff.1 ⟨_, h.sn⟩
  state := ⟨_, h.state, trivial⟩
  locked := ⟨_, h.locked⟩
  boundAt := ⟨_, h.boundAt, trivial⟩
  lastError := ⟨_, h.lastError⟩
  retryCount := ⟨_, h.retryCount, trivial⟩
  rewriteCount := ⟨_, h.rewriteCount, trivial⟩
  lastRewriteAt := ⟨_, h.lastRewriteAt, trivial⟩

theorem string_unique {v w : Bytes} (hv : fields.lookup key = some (.string v))
    (hw : fields.lookup key = some (.string w)) : v = w := by
  rw [hv] at hw
  cases hw
  rfl

/-- An integer member read as a time is that time, if its nanoseconds fit. -/
theorem isSeconds_of_member {z : ℤ} {t : Int64} (hz : fields.lookup key = some (.integer z))
    (hfits : SecondsIn fields key) (ht : P.json.getInt64 (member fields key) = .ok t) :
    Snapshot.IsSeconds (fromTimeT t) z := by
  rw [member_of_lookup hz, JsonLib.getInt64_integer] at ht
  cases ht
  obtain ⟨z', hz', hlo, hhi⟩ := hfits
  rw [hz] at hz'
  cases hz'
  exact isSeconds_fromTimeT hlo hhi

theorem count_of_member {n m : UInt32} (hn : fields.lookup key = some (.integer n.toNat))
    (hm : P.json.getUInt32 (member fields key) = .ok m) : m = n := by
  rw [member_of_lookup hn, JsonLib.getUInt32_integer, ofInt_toNat_uint32] at hm
  cases hm
  rfl

theorem state_of_member {n : Fin 4} {m : UInt8} (hn : fields.lookup key = some (.integer n.val))
    (hm : P.json.getEnum8 (member fields key) = .ok m) : m.toNat = n.val := by
  rw [member_of_lookup hn, JsonLib.getEnum8_integer] at hm
  cases hm
  have hlt := n.isLt
  have hcast : UInt8.ofInt (n.val : ℤ) = UInt8.ofNat n.val := by
    rw [UInt8.ofInt]
    congr 1
    omega
  rw [hcast, UInt8.toNat_ofNat']
  omega

theorem sn_unique {v w : Bytes} (hv : SnIs fields v) (hw : SnIs fields w) : v = w := by
  rcases hv with hv | ⟨hv, rfl⟩ <;> rcases hw with hw | ⟨hw, rfl⟩
  · exact string_unique hv hw
  · rw [hv] at hw
    cases hw
  · rw [hv] at hw
    cases hw
  · rfl

theorem ReadsAs.heldBy (h : ReadsAs P fields b) (hsnap : snap.WrittenIn fields)
    (hboundAt : SecondsIn fields "bound_at") (hlast : SecondsIn fields "last_rewrite_at") :
    snap.HeldBy b := by
  obtain ⟨t, ht, hb⟩ := h.boundAt
  obtain ⟨t', ht', hb'⟩ := h.lastRewriteAt
  refine {
    vin := string_unique h.vin hsnap.vin
    ecuUid := string_unique h.ecuUid hsnap.ecuUid
    sn := sn_unique h.sn hsnap.sn
    state := state_of_member hsnap.state h.state
    locked := ?_
    boundAt := ?_
    lastError := string_unique h.lastError hsnap.lastError
    retryCount := count_of_member hsnap.retryCount h.retryCount
    rewriteCount := count_of_member hsnap.rewriteCount h.rewriteCount
    lastRewriteAt := ?_ }
  · have hlocked := hsnap.locked
    rw [h.locked, Option.some.injEq, Json.boolean.injEq] at hlocked
    exact hlocked
  · rw [hb]
    exact isSeconds_of_member hsnap.boundAt hboundAt ht
  · rw [hb']
    exact isSeconds_of_member hsnap.lastRewriteAt hlast ht'

theorem HeldBy.unconverted (h : snap.HeldBy b) (hsnap : snap.WrittenIn fields) :
    Unconverted fields where
  state := ⟨_, hsnap.state, by omega, by have := snap.state.isLt; omega⟩
  boundAt := ⟨_, hsnap.boundAt, IsSeconds.bounds h.boundAt⟩
  retryCount := ⟨_, hsnap.retryCount, by omega, by have := snap.retryCount.toNat_lt; omega⟩
  rewriteCount := ⟨_, hsnap.rewriteCount, by omega, by have := snap.rewriteCount.toNat_lt; omega⟩
  lastRewriteAt := ⟨_, hsnap.lastRewriteAt, IsSeconds.bounds h.lastRewriteAt⟩

theorem exists_count (h : IntegerIn fields key 0 (2 ^ 32)) :
    ∃ n : UInt32, fields.lookup key = some (.integer n.toNat) := by
  obtain ⟨z, hz, hlo, hhi⟩ := h
  refine ⟨UInt32.ofNat z.toNat, ?_⟩
  have hn : (UInt32.ofNat z.toNat).toNat = z.toNat := by
    rw [UInt32.toNat_ofNat']
    omega
  rw [hn, Int.toNat_of_nonneg hlo, hz]

/-- An object that needs no conversion is a snapshot. -/
theorem Convertible.exists_snapshot (h : Convertible fields) (hstrict : Unconverted fields) :
    ∃ snap : Snapshot, snap.WrittenIn fields := by
  obtain ⟨vin, hvin⟩ := h.vin
  obtain ⟨ecuUid, hecuUid⟩ := h.ecuUid
  obtain ⟨sn, hsn⟩ := exists_snIs_iff.2 h.sn
  obtain ⟨z, hz, hlo, hhi⟩ := hstrict.state
  obtain ⟨locked, hlocked⟩ := h.locked
  obtain ⟨boundAt, hboundAt, -⟩ := hstrict.boundAt
  obtain ⟨lastError, hlastError⟩ := h.lastError
  obtain ⟨retryCount, hretryCount⟩ := exists_count hstrict.retryCount
  obtain ⟨rewriteCount, hrewriteCount⟩ := exists_count hstrict.rewriteCount
  obtain ⟨lastRewriteAt, hlastRewriteAt, -⟩ := hstrict.lastRewriteAt
  have hstate : fields.lookup "state" = some (.integer (⟨z.toNat, by omega⟩ : Fin 4).val) := by
    rw [hz, Int.toNat_of_nonneg hlo]
  exact ⟨⟨vin, ecuUid, sn, ⟨z.toNat, by omega⟩, locked, boundAt, lastError, retryCount,
      rewriteCount, lastRewriteAt⟩,
    hvin, hecuUid, hsn, hstate, hlocked, hboundAt, hlastError, hretryCount, hrewriteCount,
    hlastRewriteAt⟩

/-! ## The read -/

variable {s : Machine ProtectedStorageImpl} {data : Bytes}

/-- The read gives what the text decodes to, and nothing where that throws. -/
theorem readVehicleBinding_stored (hstored : loaded P (s.disk .binding) = .ok (some data)) :
    (readVehicleBinding P s).val = some (deserializeBinding P data).toOption := by
  rw [readVehicleBinding_val, bindingIn, recordIn, hstored]

theorem read_some_iff (hstored : loaded P (s.disk .binding) = .ok (some data)) :
    (readVehicleBinding P s).val = some (some b) ↔ deserializeBinding P data = .ok b := by
  rw [readVehicleBinding_stored hstored, Option.some.injEq]
  cases deserializeBinding P data <;> simp [Except.toOption]

theorem read_none_iff (hstored : loaded P (s.disk .binding) = .ok (some data)) :
    (readVehicleBinding P s).val = some none ↔ ¬ ∃ b, deserializeBinding P data = .ok b := by
  rw [readVehicleBinding_stored hstored, Option.some.injEq]
  cases deserializeBinding P data <;> simp [Except.toOption]

theorem deserializeBinding_object (h : P.json.parse data = .ok (.object fields)) :
    deserializeBinding P data = readBindingJson P (.object fields) := by
  rw [deserializeBinding, h]
  rfl

theorem deserializeBinding_other (h : ∀ fields, P.json.parse data ≠ .ok (.object fields))
    (b : VehicleBinding) : deserializeBinding P data ≠ .ok b := by
  unfold deserializeBinding
  cases hparse : P.json.parse data with
  | error e => simp
  | ok j =>
      apply readBindingJson_other
      rintro fields rfl
      exact h fields hparse

theorem snapshotIn_iff (h : P.json.parse data = .ok (.object fields)) :
    SnapshotIn P data snap ↔ snap.WrittenIn fields := by
  constructor
  · rintro ⟨fields', h', hsnap⟩
    rw [h] at h'
    cases h'
    exact hsnap
  · intro hsnap
    exact ⟨fields, h, hsnap⟩

theorem readsStrictly_object (hstored : loaded P (s.disk .binding) = .ok (some data))
    (h : P.json.parse data = .ok (.object fields)) :
    ReadsStrictly P s data ↔ (Convertible fields → Unconverted fields) := by
  have haccepts : (∃ b, deserializeBinding P data = .ok b) ↔ Convertible fields := by
    rw [deserializeBinding_object h]
    exact readBindingJson_accepts_iff
  constructor
  · intro hstrict hconv
    obtain ⟨b, hb⟩ := haccepts.2 hconv
    have hread := (read_some_iff hstored).2 hb
    obtain ⟨snap, hsnap⟩ := hstrict.accepts.1 ⟨b, hread⟩
    exact HeldBy.unconverted (hstrict.values b snap hread hsnap) ((snapshotIn_iff h).1 hsnap)
  · intro hstrict
    have hsnapshot : Convertible fields ↔ ∃ snap, SnapshotIn P data snap := by
      constructor
      · intro hconv
        obtain ⟨snap, hsnap⟩ := hconv.exists_snapshot (hstrict hconv)
        exact ⟨snap, (snapshotIn_iff h).2 hsnap⟩
      · rintro ⟨snap, hsnap⟩
        exact WrittenIn.convertible ((snapshotIn_iff h).1 hsnap)
    refine ⟨?_, ?_, ?_⟩
    · simp only [read_some_iff hstored]
      exact haccepts.trans hsnapshot
    · rw [read_none_iff hstored, haccepts, hsnapshot]
    · intro b snap hread hsnap
      have hwritten := (snapshotIn_iff h).1 hsnap
      have hunconverted := hstrict (WrittenIn.convertible hwritten)
      have hb := (read_some_iff hstored).1 hread
      rw [deserializeBinding_object h, readBindingJson_ok_iff] at hb
      exact hb.heldBy hwritten hunconverted.boundAt hunconverted.lastRewriteAt

theorem readsStrictly_other (hstored : loaded P (s.disk .binding) = .ok (some data))
    (h : ∀ fields, P.json.parse data ≠ .ok (.object fields)) : ReadsStrictly P s data := by
  have hrefused := deserializeBinding_other h
  have hno : ¬ ∃ snap, SnapshotIn P data snap := by
    rintro ⟨snap, fields, hparse, -⟩
    exact h fields hparse
  refine ⟨?_, ?_, ?_⟩
  · simp only [read_some_iff hstored]
    exact iff_of_false (fun ⟨b, hb⟩ ↦ hrefused b hb) hno
  · rw [read_none_iff hstored]
    exact iff_of_true (fun ⟨b, hb⟩ ↦ hrefused b hb) hno
  · intro b snap hread
    exact absurd ((read_some_iff hstored).1 hread) (hrefused b)

/-- A stored text is read strictly exactly if it is no object, or has a member that its
conversion refuses, or has integers of their ranges as its numbers. -/
theorem reads_strictly_iff (hstored : loaded P (s.disk .binding) = .ok (some data)) :
    ReadsStrictly P s data ↔
      ∀ fields, P.json.parse data = .ok (.object fields) → Convertible fields →
        Unconverted fields := by
  by_cases h : ∃ fields, P.json.parse data = .ok (.object fields)
  · obtain ⟨fields, h⟩ := h
    rw [readsStrictly_object hstored h]
    constructor
    · intro hstrict fields' h'
      rw [h] at h'
      cases h'
      exact hstrict
    · intro hstrict
      exact hstrict fields h
  · have hother := not_exists.1 h
    exact iff_of_true (readsStrictly_other hstored hother) fun fields hparse ↦
      absurd hparse (hother fields)

/-- A store that holds one text as the binding. -/
def holding (text : Bytes) : Machine ProtectedStorageImpl where
  disk := Function.update Disk.empty .binding
    (match envelope ProvService.textPlatform text with
      | .ok content => .file content
      | .error _ => .absent)
  mem := {}

theorem loaded_holding {text : Bytes} (h : Utf8 text) :
    loaded ProvService.textPlatform ((holding text).disk .binding) = .ok (some text) := by
  obtain ⟨content, hcontent⟩ := exists_envelope ProvService.textPlatform_lawful h
  simp only [holding, Function.update_self, hcontent]
  exact loaded_envelope ProvService.textPlatform_lawful hcontent

/-- A snapshot of no known state. -/
def strayFields : List (String × Json) :=
  [("bound_at", .integer 0), ("ecu_uid", .string []), ("last_error", .string []),
   ("last_rewrite_at", .integer 0), ("locked", .boolean false), ("retry_count", .integer 0),
   ("rewrite_count", .integer 0), ("state", .integer 7), ("vin", .string [])]

def strayText : Bytes := JsonText.printValue (-1) 0 (.object strayFields)

theorem dump_strayText :
    ProvService.textPlatform.json.dump (-1) (.object strayFields) = .ok strayText := rfl

theorem parse_strayText :
    ProvService.textPlatform.json.parse strayText = .ok (.object strayFields) := by
  have hsorted : (strayFields.map Prod.fst).Pairwise (· < ·) := by decide
  refine ProvService.textPlatform_lawful.parse_of_dump ⟨hsorted, ?_⟩ dump_strayText
  simp [strayFields, Json.PlainFields, Json.Plain]

theorem loaded_strayText :
    loaded ProvService.textPlatform ((holding strayText).disk .binding) = .ok (some strayText) :=
  loaded_holding (ProvService.textPlatform_lawful.dump_utf8 _ _ _ dump_strayText)

theorem reads_strictly_sample :
    ReadsStrictly ProvService.textPlatform (holding strayText) strayText ↔
      ∀ fields, ProvService.textPlatform.json.parse strayText = .ok (.object fields) →
        Convertible fields → Unconverted fields :=
  reads_strictly_iff loaded_strayText

theorem stray_state_read :
    loaded ProvService.textPlatform ((holding strayText).disk .binding) = .ok (some strayText) ∧
      ¬ ReadsStrictly ProvService.textPlatform (holding strayText) strayText := by
  refine ⟨loaded_strayText, fun hstrict ↦ ?_⟩
  have hread : ∃ b, deserializeBinding ProvService.textPlatform strayText = .ok b := by
    rw [deserializeBinding_object parse_strayText]
    exact ⟨_, rfl⟩
  obtain ⟨b, hb⟩ := hread
  obtain ⟨snap, hsnap⟩ := hstrict.accepts.1 ⟨b, (read_some_iff loaded_strayText).2 hb⟩
  have hstate := ((snapshotIn_iff parse_strayText).1 hsnap).state
  have hseven : strayFields.lookup "state" = some (.integer 7) := rfl
  rw [hseven, Option.some.injEq, Json.integer.injEq] at hstate
  have hlt := snap.state.isLt
  omega

end TboxProv.ProtectedStorageImpl
