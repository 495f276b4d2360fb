import TboxProv.ProvClient

/-!
# Decoding the answers to reads

The client assigns the members of a binding one after another inside one `try`.  The
first member of a wrong type ends the decoding, and what was assigned before it stays.
-/

namespace TboxProv.ProvClient

open ProvService

/-! ## Assignments that may throw -/

/-- The parts `i` of an `α`, each read and written on its own. -/
structure Parts {ι : Type} {V : ι → Type} {α : Type} (read : ∀ i, α → V i)
    (write : ∀ i, α → V i → α) : Prop where
  write_read : ∀ i a, write i a (read i a) = a
  read_write : ∀ i a v, read i (write i a v) = v
  read_write_of_ne : ∀ i j a v, j ≠ i → read j (write i a v) = read j a

section Assignments

variable {ι : Type} {V : ι → Type} {α : Type} (read : ∀ i, α → V i) (write : ∀ i, α → V i → α)
  (decode : ∀ i, Throws (V i))

def assignments (is : List ι) : List (α → Throws α) :=
  is.map fun i a ↦ do return write i a (← decode i)

variable {read write decode} {a : α} {e : Exception} {i : ι} {is pre post : List ι} {v : V i}

theorem tryAssign_cons_ok (h : decode i = .ok v) :
    tryAssign a (assignments write decode (i :: is)) =
      tryAssign (write i a v) (assignments write decode is) := by
  simp [assignments, tryAssign, h]

/-- Nothing is assigned from the first exception on. -/
theorem tryAssign_refused (h : decode i = .error e) :
    tryAssign a (assignments write decode (pre ++ i :: post)) =
      tryAssign a (assignments write decode pre) := by
  induction pre generalizing a with
  | nil => simp [assignments, tryAssign, h]
  | cons j pre ih =>
      cases hj : decode j with
      | ok v =>
          rw [List.cons_append, tryAssign_cons_ok hj, tryAssign_cons_ok hj]
          exact ih
      | error e' => simp [assignments, tryAssign, hj]

theorem read_tryAssign_other (hparts : Parts read write) (hi : i ∉ is) :
    read i (tryAssign a (assignments write decode is)) = read i a := by
  induction is generalizing a with
  | nil => rfl
  | cons j is ih =>
      rw [List.mem_cons, not_or] at hi
      cases hj : decode j with
      | ok v =>
          rw [tryAssign_cons_ok hj, ih hi.2]
          exact hparts.read_write_of_ne j i a v hi.1
      | error e => simp [assignments, tryAssign, hj]

theorem read_tryAssign (hparts : Parts read write) (hnodup : is.Nodup)
    (hok : ∀ j ∈ is, ∃ v, decode j = .ok v) (hi : i ∈ is) :
    decode i = .ok (read i (tryAssign a (assignments write decode is))) := by
  induction is generalizing a with
  | nil => cases hi
  | cons j is ih =>
      rw [List.nodup_cons] at hnodup
      obtain ⟨v, hv⟩ := hok j List.mem_cons_self
      rw [tryAssign_cons_ok hv]
      rcases List.mem_cons.1 hi with rfl | hi
      · rw [read_tryAssign_other hparts hnodup.1, hparts.read_write, hv]
      · exact ih hnodup.2 (fun k hk ↦ hok k (List.mem_cons_of_mem j hk)) hi

/-- Assigning what is there changes nothing. -/
theorem tryAssign_same (hparts : Parts read write) (h : ∀ j ∈ is, decode j = .ok (read j a)) :
    tryAssign a (assignments write decode is) = a := by
  induction is with
  | nil => rfl
  | cons j is ih =>
      rw [tryAssign_cons_ok (h j List.mem_cons_self), hparts.write_read]
      exact ih fun k hk ↦ h k (List.mem_cons_of_mem j hk)

/-- The assignments all succeed, or one of them is the first to throw. -/
theorem all_ok_or_refused (is : List ι) :
    (∀ i ∈ is, ∃ v, decode i = .ok v) ∨
      ∃ pre i post e, is = pre ++ i :: post ∧ decode i = .error e ∧
        ∀ j ∈ pre, ∃ v, decode j = .ok v := by
  induction is with
  | nil => simp
  | cons j is ih =>
      cases hj : decode j with
      | error e => exact Or.inr ⟨[], j, is, e, rfl, hj, by simp⟩
      | ok v =>
          rcases ih with hall | ⟨pre, i, post, e, rfl, hi, hpre⟩
          · left
            rintro k hk
            rcases List.mem_cons.1 hk with rfl | hk
            · exact ⟨v, hj⟩
            · exact hall k hk
          · refine Or.inr ⟨j :: pre, i, post, e, rfl, hi, ?_⟩
            rintro k hk
            rcases List.mem_cons.1 hk with rfl | hk
            · exact ⟨v, hj⟩
            · exact hpre k hk

end Assignments

/-! ## The members of an answer -/

inductive Member where
  | vin
  | ecuUid
  | sn
  | state
  | locked
  deriving DecidableEq

namespace Member

def key : Member → String
  | vin => "vin"
  | ecuUid => "ecu_uid"
  | sn => "sn"
  | state => "state"
  | locked => "locked"

abbrev Value : Member → Type
  | vin | ecuUid | sn => Bytes
  | state => ProvisionState
  | locked => Bool

def read : (m : Member) → VehicleBinding → m.Value
  | vin => VehicleBinding.vin
  | ecuUid => VehicleBinding.ecuUid
  | sn => VehicleBinding.sn
  | state => VehicleBinding.state
  | locked => VehicleBinding.locked

def write : (m : Member) → VehicleBinding → m.Value → VehicleBinding
  | vin, b, v => { b with vin := v }
  | ecuUid, b, v => { b with ecuUid := v }
  | sn, b, v => { b with sn := v }
  | state, b, v => { b with state := v }
  | locked, b, v => { b with locked := v }

theorem parts : Parts read write where
  write_read m b := by cases m <;> rfl
  read_write m b v := by cases m <;> rfl
  read_write_of_ne m k b v hne := by
    cases m <;> cases k <;> first | rfl | exact absurd rfl hne

variable (P : Platform)

/-- The conversion of a member that is present. -/
def get : (m : Member) → Json → Throws m.Value
  | vin | ecuUid | sn => Json.getString
  | state => fun j ↦ do return provisionState (← P.json.getInt32 j)
  | locked => Json.getBool

/-- In the order of the assignments. -/
def all : List Member := [vin, ecuUid, sn, state, locked]

def decode (fields : List (String × Json)) (m : Member) : Throws m.Value :=
  match fields.lookup m.key with
  | some j => m.get P j
  | none => .ok (m.read {})

/-- The type that the code asks for. -/
def Typed : Member → Json → Prop
  | vin, .string _ | ecuUid, .string _ | sn, .string _ => True
  | state, .boolean _ | state, .integer _ | state, .float _ => True
  | locked, .boolean _ => True
  | _, _ => False

/-- What a member that is present says, whatever the code makes of it. -/
def Denotes : (m : Member) → Json → m.Value → Prop
  | vin, j, v | ecuUid, j, v | sn, j, v => j = .string v
  | state, j, v =>
      (j = .integer 0 ∧ v = ProvisionState.none) ∨
        (j = .integer 1 ∧ v = ProvisionState.vinWritten) ∨
          (j = .integer 2 ∧ v = ProvisionState.bound) ∨
            (j = .integer 3 ∧ v = ProvisionState.failed)
  | locked, j, v => j = .boolean v

/-- The members that say anything: a text, one of the four states, a flag. -/
def Meaningful : Member → Json → Prop
  | vin, j | ecuUid, j | sn, j => ∃ text, j = .string text
  | state, j => ∃ z : ℤ, j = .integer z ∧ (z = 0 ∨ z = 1 ∨ z = 2 ∨ z = 3)
  | locked, j => ∃ flag, j = .boolean flag

/-- The members whose conversion to an 8-bit state is not `NONE`. -/
def NonzeroState : Json → Prop
  | .boolean b => b = true
  | .integer z => ¬ 2 ^ 8 ∣ z
  | .float q => ¬ 2 ^ 8 ∣ P.json.truncate (-2 ^ 31) (2 ^ 31 - 1) q
  | _ => False

/-- The members that assign what a default binding has. -/
def Blank : Member → Json → Prop
  | vin, j | ecuUid, j | sn, j => j = .string []
  | state, j => Typed state j ∧ ¬ NonzeroState P j
  | locked, j => j = .boolean false

end Member

/-! ## Narrowing the state -/

theorem uint8_ofInt_eq_zero_iff (z : ℤ) : UInt8.ofInt z = 0 ↔ 2 ^ 8 ∣ z := by
  rw [UInt8.ofInt, ← UInt8.toNat_inj, UInt8.toNat_ofNat', UInt8.toNat_zero]
  omega

theorem dvd_toInt_ofInt (z : ℤ) : 2 ^ 8 ∣ (Int32.ofInt z).toInt ↔ 2 ^ 8 ∣ z := by
  have hsize : Int32.size = 2 ^ 32 := rfl
  rw [Int32.toInt_ofInt, hsize, Int.bmod_def]
  split <;> omega

theorem provisionState_ofInt_eq_none_iff (z : ℤ) :
    provisionState (Int32.ofInt z) = .none ↔ 2 ^ 8 ∣ z := by
  rw [provisionState, ProvisionState.none, ProvisionState.mk.injEq, uint8_ofInt_eq_zero_iff,
    dvd_toInt_ofInt]

namespace Member

variable {P : Platform} {fields : List (String × Json)} {m : Member} {j : Json}

theorem typed_iff : m.Typed j ↔ ∃ v, m.get P j = .ok v := by
  cases m <;> cases j <;>
    simp [Typed, get, Json.getString, Json.getBool, JsonLib.getInt32, Json.getNumber,
      Json.getArithmetic, Except.map]

theorem get_state {z : ℤ} (h : P.json.getInt32 j = .ok (Int32.ofInt z)) :
    state.get P j = .ok ProvisionState.none ↔ 2 ^ 8 ∣ z := by
  rw [← provisionState_ofInt_eq_none_iff]
  simp [get, h]

theorem blank_iff : m.Blank P j ↔ m.get P j = .ok (m.read {}) := by
  cases m with
  | vin | ecuUid | sn => cases j <;> simp [Blank, get, read, Json.getString]
  | locked => cases j <;> simp [Blank, get, read, Json.getBool]
  | state =>
      cases j with
      | null | string | array | object =>
          simp [Blank, Typed, get, JsonLib.getInt32, Json.getNumber, Json.getArithmetic, Except.map]
      | boolean b =>
          have hget : P.json.getInt32 (.boolean b) = .ok (Int32.ofInt (if b then 1 else 0)) := rfl
          refine Iff.trans ?_ (get_state hget).symm
          cases b <;> simp [Blank, Typed, NonzeroState]
      | integer z =>
          refine Iff.trans ?_ (get_state (P.json.getInt32_integer z)).symm
          simp [Blank, Typed, NonzeroState]
      | float q =>
          have hget : P.json.getInt32 (.float q) =
              .ok (Int32.ofInt (P.json.truncate (-2 ^ 31) (2 ^ 31 - 1) q)) := rfl
          refine Iff.trans ?_ (get_state hget).symm
          simp [Blank, Typed, NonzeroState]

theorem meaningful_iff : m.Meaningful j ↔ ∃ v, m.Denotes j v := by
  cases m with
  | vin | ecuUid | sn | locked => rfl
  | state =>
      constructor
      · rintro ⟨z, rfl, rfl | rfl | rfl | rfl⟩
        · exact ⟨_, .inl ⟨rfl, rfl⟩⟩
        · exact ⟨_, .inr (.inl ⟨rfl, rfl⟩)⟩
        · exact ⟨_, .inr (.inr (.inl ⟨rfl, rfl⟩))⟩
        · exact ⟨_, .inr (.inr (.inr ⟨rfl, rfl⟩))⟩
      · rintro ⟨v, ⟨rfl, -⟩ | ⟨rfl, -⟩ | ⟨rfl, -⟩ | ⟨rfl, -⟩⟩
        · exact ⟨0, rfl, .inl rfl⟩
        · exact ⟨1, rfl, .inr (.inl rfl)⟩
        · exact ⟨2, rfl, .inr (.inr (.inl rfl))⟩
        · exact ⟨3, rfl, .inr (.inr (.inr rfl))⟩

/-- The code's conversion agrees with what a member says, where it says anything. -/
theorem get_of_denotes {v : m.Value} (h : m.Denotes j v) : m.get P j = .ok v := by
  cases m with
  | vin | ecuUid | sn | locked =>
      obtain rfl : j = _ := h
      rfl
  | state =>
      have hget : ∀ z : ℤ, state.get P (.integer z) = .ok (provisionState (Int32.ofInt z)) := by
        intro z
        simp only [get, P.json.getInt32_integer]
        rfl
      rcases h with ⟨rfl, rfl⟩ | ⟨rfl, rfl⟩ | ⟨rfl, rfl⟩ | ⟨rfl, rfl⟩ <;> exact hget _

theorem typed_of_nonzeroState (h : NonzeroState P j) : state.Typed j := by
  cases j with
  | null | string | array | object => exact h
  | boolean | integer | float => trivial

theorem nonzeroState_iff :
    NonzeroState P j ↔ ∃ s, state.get P j = .ok s ∧ s ≠ ProvisionState.none := by
  constructor
  · intro h
    obtain ⟨s, hs⟩ := typed_iff.1 (typed_of_nonzeroState h)
    refine ⟨s, hs, fun hnone ↦ ?_⟩
    subst hnone
    exact (blank_iff.2 hs).2 h
  · rintro ⟨s, hs, hne⟩
    by_contra h
    have hblank : state.get P j = .ok ProvisionState.none :=
      blank_iff.1 ⟨typed_iff.2 ⟨s, hs⟩, h⟩
    rw [hs, Except.ok.injEq] at hblank
    exact hne hblank

theorem decode_ok_iff :
    (∃ v, m.decode P fields = .ok v) ↔ ∀ j, fields.lookup m.key = some j → m.Typed j := by
  unfold decode
  cases hj : fields.lookup m.key with
  | none => simp
  | some j => simpa using typed_iff.symm

theorem decode_default_iff :
    m.decode P fields = .ok (m.read {}) ↔
      ∀ j, fields.lookup m.key = some j → m.Blank P j := by
  unfold decode
  cases hj : fields.lookup m.key with
  | none => simp
  | some j => simp [blank_iff]

theorem nodup_all : all.Nodup := by decide

theorem mem_all (m : Member) : m ∈ all := by cases m <;> decide

end Member

/-! ## Decoding an object -/

section Decoding

variable (P : Platform) (response : Bytes) {fields : List (String × Json)}

/-- Every member that is present is what the response says, the others are the defaults. -/
def Decoded (fields : List (String × Json)) (b : VehicleBinding) : Prop :=
  ∀ m : Member, match fields.lookup m.key with
    | some j => m.Denotes j (m.read b)
    | none => m.read b = m.read {}

/-- Every member is what the code's conversion makes of it. -/
def Assigned (fields : List (String × Json)) (b : VehicleBinding) : Prop :=
  ∀ m : Member, m.decode P fields = .ok (m.read b)

/-- The state is exactly the integer 1, 2 or 3. -/
def ExactState (fields : List (String × Json)) : Prop :=
  ∃ z : ℤ, fields.lookup "state" = some (.integer z) ∧ (z = 1 ∨ z = 2 ∨ z = 3)

structure AllOrNothing : Prop where
  binding : readBinding P (handsBack response) = ({} : VehicleBinding) ∨
    ∃ fields, P.json.parse response = .ok (.object fields) ∧
      Decoded fields (readBinding P (handsBack response))
  bindingState : (readBinding P (handsBack response)).state ≠ ProvisionState.none →
    ∃ fields, P.json.parse response = .ok (.object fields) ∧ ExactState fields
  state : getProvisionState P (handsBack response) ≠ ProvisionState.none →
    ∃ fields, P.json.parse response = .ok (.object fields) ∧ ExactState fields

/-- A state that is not cast to `NONE` is one of the three others. -/
def StateFits (fields : List (String × Json)) : Prop :=
  ∀ j, fields.lookup "state" = some j → Member.NonzeroState P j → ExactState fields

def AllMeaningful (fields : List (String × Json)) : Prop :=
  ∀ (m : Member) (j : Json), fields.lookup m.key = some j → m.Meaningful j

def AllBlank (fields : List (String × Json)) : Prop :=
  ∀ (m : Member) (j : Json), fields.lookup m.key = some j → m.Blank P j

/-- Nothing but defaults was assigned before some member of a wrong type. -/
def BlankUntilRefused (fields : List (String × Json)) : Prop :=
  ∃ pre m post, Member.all = pre ++ m :: post ∧
    (∃ j, fields.lookup m.key = some j ∧ ¬ m.Typed j) ∧
      ∀ k ∈ pre, ∀ j, fields.lookup k.key = some j → k.Blank P j

variable {P response}

theorem value_eq_decode (fields : List (String × Json)) (m : Member) :
    (Json.object fields).value (m.get P) m.key (m.read {}) = m.decode P fields := by
  cases hfield : fields.lookup m.key with
  | none => simp only [Json.value, Member.decode, hfield]
  | some j => simp only [Json.value, Member.decode, hfield]

theorem state_eq_decode (fields : List (String × Json)) :
    (do return provisionState (← (Json.object fields).value P.json.getInt32 "state" 0)) =
      Member.state.decode P fields := by
  have hkey : Member.state.key = "state" := rfl
  simp only [Json.value, Member.decode, hkey]
  cases fields.lookup "state" <;> rfl

theorem bindingOf_object (h : P.json.parse response = .ok (.object fields)) :
    bindingOf P response =
      tryAssign {} (assignments Member.write (Member.decode P fields) Member.all) := by
  have hvin := value_eq_decode (P := P) fields .vin
  have hecuUid := value_eq_decode (P := P) fields .ecuUid
  have hsn := value_eq_decode (P := P) fields .sn
  have hlocked := value_eq_decode (P := P) fields .locked
  simp only [Member.get, Member.key, Member.read] at hvin hecuUid hsn hlocked
  simp only [bindingOf, h, assignments, Member.all, List.map_cons, List.map_nil, hvin, hecuUid,
    hsn, hlocked, ← state_eq_decode, bind_assoc, pure_bind]
  rfl

theorem bindingOf_other (h : ∀ fields, P.json.parse response ≠ .ok (.object fields)) :
    bindingOf P response = {} := by
  unfold bindingOf
  cases hparse : P.json.parse response with
  | error e => rfl
  | ok j =>
      cases j with
      | object fields => exact absurd hparse (h fields)
      | null | boolean | integer | float | string | array => rfl

theorem stateOf_object (h : P.json.parse response = .ok (.object fields)) :
    stateOf P response = caught .none (Member.state.decode P fields) := by
  rw [stateOf, h, ← state_eq_decode]
  rfl

theorem stateOf_other (h : ∀ fields, P.json.parse response ≠ .ok (.object fields)) :
    stateOf P response = .none := by
  unfold stateOf
  cases hparse : P.json.parse response with
  | error e => rfl
  | ok j =>
      cases j with
      | object fields => exact absurd hparse (h fields)
      | null | boolean | integer | float | string | array => rfl

/-- Either all members are assigned, or only those before the first of a wrong type. -/
theorem bindingOf_cases (h : P.json.parse response = .ok (.object fields)) :
    Assigned P fields (bindingOf P response) ∨
      ∃ pre m post, Member.all = pre ++ m :: post ∧ (∃ e, m.decode P fields = .error e) ∧
        (∀ k ∈ pre, k.decode P fields = .ok (k.read (bindingOf P response))) ∧
          (∀ k ∉ pre, k.read (bindingOf P response) = k.read {}) ∧
            bindingOf P response =
              tryAssign {} (assignments Member.write (Member.decode P fields) pre) := by
  have hdecode : (∀ m ∈ Member.all, ∃ v, m.decode P fields = .ok v) ∨
      ∃ pre m post e, Member.all = pre ++ m :: post ∧ m.decode P fields = .error e ∧
        ∀ k ∈ pre, ∃ v, k.decode P fields = .ok v := all_ok_or_refused Member.all
  obtain hall | ⟨pre, m, post, e, hsplit, hm, hpre⟩ := hdecode
  · left
    intro m
    rw [bindingOf_object h]
    exact read_tryAssign Member.parts Member.nodup_all hall (Member.mem_all m)
  · right
    have hb : bindingOf P response =
        tryAssign {} (assignments Member.write (Member.decode P fields) pre) := by
      rw [bindingOf_object h, hsplit, tryAssign_refused hm]
    have hnodup : pre.Nodup := by
      have hall := Member.nodup_all
      rw [hsplit, List.nodup_append] at hall
      exact hall.1
    refine ⟨pre, m, post, hsplit, ⟨e, hm⟩, ?_, ?_, hb⟩
    · intro k hk
      rw [hb]
      exact read_tryAssign Member.parts hnodup hpre hk
    · intro k hk
      rw [hb]
      exact read_tryAssign_other Member.parts hk

/-- A binding that says what the response says is what the code assigns. -/
theorem Decoded.assigned {b : VehicleBinding} (h : Decoded fields b) : Assigned P fields b := by
  intro m
  have hm := h m
  unfold Member.decode
  cases hj : fields.lookup m.key with
  | none =>
      simp only [hj] at hm ⊢
      rw [hm]
  | some j =>
      simp only [hj] at hm ⊢
      exact Member.get_of_denotes hm

theorem Decoded.allMeaningful {b : VehicleBinding} (h : Decoded fields b) :
    AllMeaningful fields := by
  intro m j hj
  have hm := h m
  simp only [hj] at hm
  exact Member.meaningful_iff.2 ⟨_, hm⟩

theorem Assigned.decoded {b : VehicleBinding} (h : Assigned P fields b)
    (hall : AllMeaningful fields) : Decoded fields b := by
  intro m
  have hm := h m
  unfold Member.decode at hm
  cases hj : fields.lookup m.key with
  | none =>
      simp only [hj, Except.ok.injEq] at hm ⊢
      exact hm.symm
  | some j =>
      simp only [hj] at hm ⊢
      obtain ⟨v, hv⟩ := Member.meaningful_iff.1 (hall m j hj)
      rw [Member.get_of_denotes hv, Except.ok.injEq] at hm
      rwa [← hm]

theorem bindingOf_of_allBlank (h : P.json.parse response = .ok (.object fields))
    (hblank : AllBlank P fields) : bindingOf P response = {} := by
  rw [bindingOf_object h]
  exact tryAssign_same Member.parts fun m _ ↦ Member.decode_default_iff.2 (hblank m)

theorem bindingOf_decoded_iff (h : P.json.parse response = .ok (.object fields)) :
    (bindingOf P response = {} ∨ Decoded fields (bindingOf P response)) ↔
      AllMeaningful fields ∨ AllBlank P fields ∨ BlankUntilRefused P fields := by
  rcases bindingOf_cases h with hall | ⟨pre, m, post, hsplit, ⟨e, hm⟩, hpre, -, hb⟩
  · constructor
    · rintro (hempty | hdecoded)
      · rw [hempty] at hall
        exact .inr (.inl fun m ↦ Member.decode_default_iff.1 (hall m))
      · exact .inl hdecoded.allMeaningful
    · rintro (hmeaningful | hblank | ⟨pre, m, post, -, ⟨j, hj, hno⟩, -⟩)
      · exact .inr (hall.decoded hmeaningful)
      · exact .inl (bindingOf_of_allBlank h hblank)
      · exact absurd (Member.decode_ok_iff.1 ⟨_, hall m⟩ j hj) hno
  · have hrefused : ∃ j, fields.lookup m.key = some j ∧ ¬ m.Typed j := by
      by_contra hno
      push Not at hno
      obtain ⟨v, hv⟩ := Member.decode_ok_iff.2 hno
      rw [hm] at hv
      cases hv
    obtain ⟨j, hj, hno⟩ := hrefused
    constructor
    · rintro (hempty | hdecoded)
      · refine .inr (.inr ⟨pre, m, post, hsplit, ⟨j, hj, hno⟩, fun k hk ↦ ?_⟩)
        have hk := hpre k hk
        rw [hempty] at hk
        exact Member.decode_default_iff.1 hk
      · have hv := hdecoded.assigned (P := P) m
        rw [hm] at hv
        cases hv
    · rintro (hmeaningful | hblank | ⟨pre', m', post', hsplit', ⟨j', hj', hno'⟩, hblank⟩)
      · obtain ⟨v, hv⟩ := Member.meaningful_iff.1 (hmeaningful m j hj)
        exact absurd (Member.typed_iff.2 ⟨v, Member.get_of_denotes (P := P) hv⟩) hno
      · exact absurd (Member.typed_iff.2 ⟨_, Member.blank_iff.1 (hblank m j hj)⟩) hno
      · left
        have hm' : m' ∉ pre := fun hmem ↦ hno' (Member.decode_ok_iff.1 ⟨_, hpre m' hmem⟩ j' hj')
        -- the first refused member is not behind the given one
        have hsub : pre ⊆ pre' := by
          rw [hsplit] at hsplit'
          rcases List.append_eq_append_iff.1 hsplit' with ⟨as, rfl, -⟩ | ⟨bs, rfl, hbs⟩
          · exact List.subset_append_left pre as
          · cases bs with
            | nil => simp
            | cons b bs =>
                rw [List.cons_append, List.cons.injEq] at hbs
                exact absurd (by simp [hbs.1]) hm'
        rw [hb]
        apply tryAssign_same Member.parts
        intro k hk
        exact Member.decode_default_iff.2 (hblank k (hsub hk))

/-! ## The state -/

/-- The binding takes over the state, or it got no state at all. -/
theorem bindingOf_state (response : Bytes) :
    (bindingOf P response).state = stateOf P response ∨
      (bindingOf P response).state = .none := by
  by_cases h : ∃ fields, P.json.parse response = .ok (.object fields)
  · obtain ⟨fields, h⟩ := h
    have hread (hstate : Member.state.decode P fields =
        .ok (Member.state.read (bindingOf P response))) :
        (bindingOf P response).state = stateOf P response := by
      rw [stateOf_object h, hstate]
      rfl
    rcases bindingOf_cases h with hall | ⟨pre, m, post, -, -, hpre, hrest, -⟩
    · exact Or.inl (hread (hall .state))
    · by_cases hmem : Member.state ∈ pre
      · exact Or.inl (hread (hpre .state hmem))
      · exact Or.inr (hrest .state hmem)
  · rw [bindingOf_other (not_exists.1 h)]
    exact Or.inr rfl

theorem stateOf_ne_none_iff (h : P.json.parse response = .ok (.object fields)) :
    stateOf P response ≠ .none ↔
      ∃ j, fields.lookup "state" = some j ∧ Member.NonzeroState P j := by
  have hkey : Member.state.key = "state" := rfl
  rw [stateOf_object h, Member.decode, hkey]
  cases hj : fields.lookup "state" with
  | none => simp [caught, Member.read]
  | some j =>
      simp only [Option.some.injEq, exists_eq_left', Member.nonzeroState_iff]
      cases hget : Member.state.get P j with
      | error e => simp [caught]
      | ok s => simp [caught]

/-! ## All or nothing -/

theorem readBinding_handsBack (response : Bytes) :
    readBinding P (handsBack response) = bindingOf P response := rfl

theorem getProvisionState_handsBack (response : Bytes) :
    getProvisionState P (handsBack response) = stateOf P response := rfl

/-- Decoding is all or nothing exactly where the state fits and either every member says
something, or nothing but defaults stands before one of a wrong type, or nothing but
defaults is there at all. -/
theorem allOrNothing_iff (response : Bytes) :
    AllOrNothing P response ↔
      ∀ fields, P.json.parse response = .ok (.object fields) →
        StateFits P fields ∧
          (AllMeaningful fields ∨ AllBlank P fields ∨ BlankUntilRefused P fields) := by
  constructor
  · rintro ⟨hbinding, -, hstate⟩ fields h
    rw [getProvisionState_handsBack] at hstate
    constructor
    · intro j hj hnonzero
      obtain ⟨fields', h', hexact⟩ := hstate ((stateOf_ne_none_iff h).2 ⟨j, hj, hnonzero⟩)
      rw [h] at h'
      cases h'
      exact hexact
    · rw [← bindingOf_decoded_iff h]
      rcases hbinding with hempty | ⟨fields', h', hall⟩
      · exact Or.inl hempty
      · rw [h] at h'
        cases h'
        exact Or.inr hall
  · intro hfits
    by_cases h : ∃ fields, P.json.parse response = .ok (.object fields)
    · obtain ⟨fields, h⟩ := h
      obtain ⟨hstate, hbinding⟩ := hfits fields h
      have hexact (hne : stateOf P response ≠ .none) :
          ∃ fields, P.json.parse response = .ok (.object fields) ∧ ExactState fields := by
        obtain ⟨j, hj, hnonzero⟩ := (stateOf_ne_none_iff h).1 hne
        exact ⟨fields, h, hstate j hj hnonzero⟩
      refine ⟨?_, fun hne ↦ ?_, hexact⟩
      · rcases (bindingOf_decoded_iff h).2 hbinding with hempty | hall
        · exact Or.inl hempty
        · exact Or.inr ⟨fields, h, hall⟩
      · rw [readBinding_handsBack] at hne
        rcases bindingOf_state response with hsame | hnone
        · rw [hsame] at hne
          exact hexact hne
        · exact absurd hnone hne
    · have hempty := bindingOf_other (not_exists.1 h)
      refine ⟨Or.inl hempty, fun hne ↦ ?_, fun hne ↦ ?_⟩
      · rw [readBinding_handsBack, hempty] at hne
        exact absurd rfl hne
      · exact absurd (stateOf_other (not_exists.1 h)) hne

def mistyped : List (String × Json) := [("locked", .integer 1), ("vin", .string (bytes "A"))]

def mistypedResponse : Bytes := bytes "\x7b\"locked\":1,\"vin\":\"A\"\x7d"

theorem parse_mistypedResponse :
    textPlatform.json.parse mistypedResponse = .ok (.object mistyped) := by
  have hdump : textPlatform.json.dump (-1) (.object mistyped) = .ok mistypedResponse := rfl
  have hsorted : (mistyped.map Prod.fst).Pairwise (· < ·) := by decide
  exact textPlatform_lawful.parse_of_dump ⟨hsorted, ⟨by omega, by omega⟩, trivial, trivial⟩ hdump

def wide : List (String × Json) := [("state", .integer 257)]

def wideResponse : Bytes := bytes "\x7b\"state\":257\x7d"

theorem parse_wideResponse : textPlatform.json.parse wideResponse = .ok (.object wide) := by
  have hdump : textPlatform.json.dump (-1) (.object wide) = .ok wideResponse := rfl
  have hsorted : (wide.map Prod.fst).Pairwise (· < ·) := by decide
  exact textPlatform_lawful.parse_of_dump ⟨hsorted, ⟨by omega, by omega⟩, trivial⟩ hdump

def narrowed : List (String × Json) := [("state", .integer 256), ("vin", .string (bytes "A"))]

def narrowedResponse : Bytes := bytes "\x7b\"state\":256,\"vin\":\"A\"\x7d"

theorem parse_narrowedResponse :
    textPlatform.json.parse narrowedResponse = .ok (.object narrowed) := by
  have hdump : textPlatform.json.dump (-1) (.object narrowed) = .ok narrowedResponse := rfl
  have hsorted : (narrowed.map Prod.fst).Pairwise (· < ·) := by decide
  exact textPlatform_lawful.parse_of_dump ⟨hsorted, ⟨by omega, by omega⟩, trivial, trivial⟩ hdump

/-- A VIN is assigned, but some other member is not what the response says. -/
theorem not_allOrNothing_of_vin (h : P.json.parse response = .ok (.object fields)) {vin : Bytes}
    (hvin : (bindingOf P response).vin = vin) (hne : vin ≠ [])
    (hno : ¬ AllMeaningful fields) : ¬ AllOrNothing P response := by
  intro hall
  rcases hall.binding with hempty | ⟨fields', hparse, hdecoded⟩
  · rw [readBinding_handsBack] at hempty
    rw [hempty] at hvin
    exact hne hvin.symm
  · rw [h] at hparse
    cases hparse
    exact hno hdecoded.allMeaningful

theorem decoding_not_all_or_nothing :
    ¬ AllOrNothing textPlatform mistypedResponse ∧
      ¬ AllOrNothing textPlatform narrowedResponse ∧
        ¬ AllOrNothing textPlatform wideResponse := by
  refine ⟨?_, ?_, ?_⟩
  · have hvin : (bindingOf textPlatform mistypedResponse).vin = bytes "A" := by
      rw [bindingOf, parse_mistypedResponse]
      rfl
    refine not_allOrNothing_of_vin parse_mistypedResponse hvin (by decide) fun hall ↦ ?_
    obtain ⟨flag, hflag⟩ := hall .locked (.integer 1) rfl
    cases hflag
  · have hvin : (bindingOf textPlatform narrowedResponse).vin = bytes "A" := by
      rw [bindingOf, parse_narrowedResponse]
      rfl
    refine not_allOrNothing_of_vin parse_narrowedResponse hvin (by decide) fun hall ↦ ?_
    obtain ⟨z, hz, hsmall⟩ := hall .state (.integer 256) rfl
    cases hz
    omega
  · intro h
    have hne : stateOf textPlatform wideResponse ≠ .none := by
      rw [stateOf, parse_wideResponse]
      decide
    obtain ⟨fields, hparse, z, hz, hexact⟩ := h.state hne
    rw [parse_wideResponse] at hparse
    cases hparse
    cases hz
    omega

end Decoding

end TboxProv.ProvClient
