import TboxProv.Crash.Relational
import TboxProv.Identity

/-!
# Services with different identifiers

Two services are given different VINs and UIDs at the same places.  Apart from the
binding record, which holds the identifiers, they go through the same states: no
branch of the code tells the two apart.
-/

namespace TboxProv

open Crash Store

section Definitions

variable (P : Platform) (O : List Output → List Output → Prop) (ρ υ : Bytes → Bytes → Prop)

/-- What the corresponding VINs and UIDs have in common.  A line of the log that shows the
hash of a UID compares with the line that shows the other's. -/
structure Identifiers : Prop where
  vin_eq_iff : ∀ {v v' w w'}, ρ v v' → ρ w w' → (v = w ↔ v' = w')
  vin_valid : ∀ {v v'}, ρ v v' → VinValidator.validate v = VinValidator.validate v'
  vin_hash : ∀ {v v'}, ρ v v' → ProvService.hashVin P v = ProvService.hashVin P v'
  uid_line : ∀ {u u'}, υ u u' → ∀ line : FieldValue → Output,
    O [line (ProvService.hashEcuUid P u)] [line (ProvService.hashEcuUid P u')]

structure VehicleBinding.Corresponds (binding binding' : VehicleBinding) : Prop where
  vin : ρ binding.vin binding'.vin
  ecuUid : υ binding.ecuUid binding'.ecuUid
  rest : binding' = { binding with vin := binding'.vin, ecuUid := binding'.ecuUid }

structure Machine.Corresponds {μ : Type} (s t : Machine μ) : Prop where
  mem : t.mem = s.mem
  other : ∀ key, key ≠ .binding → t.disk key = s.disk key
  binding : Option.Rel (VehicleBinding.Corresponds ρ υ) (bindingIn P (s.disk .binding))
    (bindingIn P (t.disk .binding))

/-- The same outcome of a save, but that a file which is left torn may hold something else:
what gets into it comes from the data that is saved. -/
inductive SaveOutcome.Alike : SaveOutcome → SaveOutcome → Prop where
  | same (outcome : SaveOutcome) : Alike outcome outcome
  | torn (entry entry' : Entry) : Alike (.replaced entry) (.replaced entry')

/-- The same outside, but for the UID and the SN that are read and for torn files. -/
structure Env.Corresponds (env env' : Env) : Prop where
  uid : env'.uid = { env.uid with uid := env'.uid.uid }
  uids : env.uid.success = true → υ env.uid.uid env'.uid.uid
  sn : env'.sn = { env.sn with sn := env'.sn.sn }
  rootDir : env'.rootDir = env.rootDir
  serviceDir : env'.serviceDir = env.serviceDir
  save : ∀ n, (env.save n).Alike (env'.save n)
  clock : env'.clock = env.clock

/-- A UID that is read can be encoded. -/
def Env.Utf8 (env : Env) : Prop := env.uid.success = true → TboxProv.Utf8 env.uid.uid

end Definitions

variable {P : Platform} {O : List Output → List Output → Prop} {ρ υ : Bytes → Bytes → Prop}
  {μ : Type} {s t : Machine μ}

namespace VehicleBinding.Corresponds

variable {binding binding' : VehicleBinding} (h : binding.Corresponds ρ υ binding')
include h

theorem reread : binding.reread.Corresponds ρ υ binding'.reread := by
  refine ⟨h.vin, h.ecuUid, ?_⟩
  rw [h.rest]
  rfl

end VehicleBinding.Corresponds

namespace Machine.Corresponds

theorem put_other (h : s.Corresponds P ρ υ t) {key : Key} (hkey : key ≠ .binding) (entry : Entry) :
    (s.put key entry).Corresponds P ρ υ (t.put key entry) := by
  refine ⟨h.mem, fun key' hkey' ↦ ?_, ?_⟩
  · by_cases hsame : key' = key
    · subst hsame
      simp
    · simpa [hsame] using h.other key' hkey'
  · simpa [hkey.symm] using h.binding

theorem put_binding (h : s.Corresponds P ρ υ t) {entry entry' : Entry}
    (hentry : Option.Rel (VehicleBinding.Corresponds ρ υ) (bindingIn P entry)
      (bindingIn P entry')) :
    (s.put .binding entry).Corresponds P ρ υ (t.put .binding entry') := by
  refine ⟨h.mem, fun key hkey ↦ ?_, ?_⟩
  · simpa [hkey] using h.other key hkey
  · simpa using hentry

end Machine.Corresponds

namespace SaveOutcome.Alike

variable {outcome outcome' : SaveOutcome} (h : outcome.Alike outcome')
include h

theorem returned : outcome'.returned = outcome.returned := by
  cases h <;> rfl

theorem eq_of_not_replaced (hne : ∀ entry, outcome ≠ .replaced entry) : outcome' = outcome := by
  cases h with
  | same => rfl
  | torn entry => exact absurd rfl (hne entry)

end SaveOutcome.Alike

/-- Saves that leave no record of their own making keep the correspondence. -/
theorem leaves_corresponds {outcome outcome' : SaveOutcome} (halike : outcome.Alike outcome')
    (hnever : ProvService.NeverInvents P outcome) (hnever' : ProvService.NeverInvents P outcome')
    {data data' : Bytes} {old old' : Entry}
    (hdata : Option.Rel (VehicleBinding.Corresponds ρ υ) (bindingIn P (.file data))
      (bindingIn P (.file data')))
    (hold : Option.Rel (VehicleBinding.Corresponds ρ υ) (bindingIn P old) (bindingIn P old')) :
    Option.Rel (VehicleBinding.Corresponds ρ υ) (bindingIn P (outcome.leaves data old))
      (bindingIn P (outcome'.leaves data' old')) := by
  have hundecoded : ∀ entry entry', bindingIn P entry = none → bindingIn P entry' = none →
      Option.Rel (VehicleBinding.Corresponds ρ υ) (bindingIn P entry) (bindingIn P entry') := by
    intro entry entry' h h'
    rw [h, h']
    exact .none
  cases halike with
  | torn entry entry' => exact hundecoded entry entry' (hnever entry rfl) (hnever' entry' rfl)
  | same =>
      cases outcome with
      | stored | killedAfter => exact hdata
      | failed | lost | killedBefore => exact hold
      | replaced entry => exact hundecoded entry entry (hnever entry rfl) (hnever entry rfl)

/-- A record in UTF-8 is written as a file that it is read from. -/
theorem exists_stored (hP : P.json.Lawful) {binding : VehicleBinding} (hutf8 : binding.Utf8) :
    ∃ text data, serializeBinding P binding = .ok text ∧ envelope P text = .ok data ∧
      bindingIn P (.file data) = some binding.reread := by
  obtain ⟨data, hdata⟩ := exists_sealed hP (bindingJson_plain binding) (bindingJson_utf8 hutf8)
  cases htext : serializeBinding P binding with
  | error e =>
      have hfailed : P.json.dump 4 (bindingJson binding) = .error e := htext
      simp [sealed, hfailed] at hdata
  | ok text =>
      have hdumped : P.json.dump 4 (bindingJson binding) = .ok text := htext
      refine ⟨text, data, rfl, ?_, bindingIn_sealed hP hdata⟩
      simpa [sealed, hdumped] using hdata

/-! ## The store -/

section Storage

variable (hO : Comparison O)
include hO

omit hO in
variable (P) in
theorem load_out {key : Key} (h : t.disk key = s.disk key) :
    (load P key t).out = (load P key s).out := by
  unfold load
  simp only [Prog.bind_out, Prog.get_out, Prog.get_val, Prog.get_state, Option.elim_some, h]
  cases s.disk key with
  | absent | inaccessible => rfl
  | file data => cases hopen : openEnvelope P (readFromFile (.file data)) <;> simp [hopen]
  | unreadable => cases hopen : openEnvelope P (readFromFile .unreadable) <;> simp [hopen]

variable (P ρ υ μ) in
theorem load_simulates {key : Key} (hkey : key ≠ .binding) :
    Prog.Simulates O (Machine.Corresponds P ρ υ) Eq (load P key : Action μ _) (load P key) := by
  intro s t hS
  have hentry := hS.other key hkey
  refine .of_some (load_val P s key) (load_val P t key) (by rw [hentry]) ?_ ?_
  · rw [load_state, load_state]
    exact hS
  · rw [load_out P hentry]
    exact hO.refl _

section Saves

variable {outcome outcome' : SaveOutcome} (halike : outcome.Alike outcome')
include halike

omit hO in
theorem atomicWrite_out (key : Key) (data data' : Bytes) :
    (atomicWrite outcome key data s).out = (atomicWrite outcome' key data' t).out := by
  cases halike with
  | torn => rfl
  | same =>
      cases outcome with
      | failed what => cases what <;> rfl
      | stored | lost | replaced | killedBefore | killedAfter => rfl

theorem atomicWrite_simulates {S : Machine μ → Machine μ → Prop} {key : Key} {data data' : Bytes}
    (hput : ∀ s t, S s t → S (s.put key (outcome.leaves data (s.disk key)))
      (t.put key (outcome'.leaves data' (t.disk key)))) :
    Prog.Simulates O S Eq (atomicWrite outcome key data : Action μ _)
      (atomicWrite outcome' key data') := by
  intro s t hS
  refine ⟨?_, ?_, ?_⟩
  · rw [atomicWrite_val, atomicWrite_val, halike.returned]
    cases outcome.returned with
    | none => exact .none
    | some saved => exact .some rfl
  · rw [atomicWrite_state, atomicWrite_state]
    exact hput s t hS
  · rw [atomicWrite_out halike key data data']
    exact hO.refl _

theorem save_simulates_of_ok {S : Machine μ → Machine μ → Prop} {key : Key}
    {value value' data data' : Bytes} (hdata : envelope P value = .ok data)
    (hdata' : envelope P value' = .ok data')
    (hput : ∀ s t, S s t → S (s.put key (outcome.leaves data (s.disk key)))
      (t.put key (outcome'.leaves data' (t.disk key)))) :
    Prog.Simulates O S Eq (save P outcome key value : Action μ _)
      (save P outcome' key value') := by
  unfold save
  rw [hdata, hdata']
  refine .bind hO (atomicWrite_simulates hO halike hput) fun saved saved' hsaved ↦ ?_
  subst hsaved
  exact .pure hO rfl

end Saves

variable (P ρ υ μ) in
theorem save_simulates (outcome : SaveOutcome) {key : Key} (hkey : key ≠ .binding)
    (value : Bytes) :
    Prog.Simulates O (Machine.Corresponds P ρ υ) Eq (save P outcome key value : Action μ _)
      (save P outcome key value) := by
  cases hdata : envelope P value with
  | error e =>
      unfold save
      rw [hdata]
      exact .pure hO rfl
  | ok data =>
      apply save_simulates_of_ok hO (.same outcome) hdata hdata
      intro s t hS
      rw [hS.other key hkey]
      exact hS.put_other hkey _

end Storage

/-! ## The protected storage -/

namespace ProtectedStorageImpl

section Simulates

variable (hO : Comparison O)
include hO

theorem writeRecord_of_saves {outcome outcome' : SaveOutcome} {key : Key} {text text' : Bytes}
    (message : String)
    (hsave : Prog.Simulates O (Machine.Corresponds P ρ υ) Eq
      (save P outcome key text : StorageAction _) (save P outcome' key text')) :
    Prog.Simulates O (Machine.Corresponds P ρ υ) Eq
      (writeRecord P outcome key (.ok text) message)
      (writeRecord P outcome' key (.ok text') message) := by
  unfold writeRecord
  refine .bind hO (.get hO) fun a b hab ↦ .ite (by rw [hab.mem]) (.pure hO rfl) ?_
  refine .bind hO hsave fun saved saved' hsaved ↦ ?_
  subst hsaved
  cases saved with
  | error e => exact .bind hO (.emit (hO.refl _)) fun _ _ _ ↦ .pure hO rfl
  | ok saved => exact .ite Iff.rfl (.pure hO rfl) (.pure hO rfl)

variable (P ρ υ) in
theorem writeRecord_simulates (outcome : SaveOutcome) {key : Key} (hkey : key ≠ .binding)
    (serialized : Throws Bytes) (message : String) :
    Prog.Simulates O (Machine.Corresponds P ρ υ) Eq
      (writeRecord P outcome key serialized message)
      (writeRecord P outcome key serialized message) := by
  cases serialized with
  | ok text => exact writeRecord_of_saves hO message (save_simulates P ρ υ _ hO outcome hkey text)
  | error e =>
      unfold writeRecord
      refine .bind hO (.get hO) fun a b hab ↦ .ite (by rw [hab.mem]) (.pure hO rfl) ?_
      exact .bind hO (.emit (hO.refl _)) fun _ _ _ ↦ .pure hO rfl

section WriteBinding

variable (hP : P.json.Lawful) {outcome outcome' : SaveOutcome} (halike : outcome.Alike outcome')
  (hnever : ProvService.NeverInvents P outcome) (hnever' : ProvService.NeverInvents P outcome')
  {binding binding' : VehicleBinding} (h : binding.Corresponds ρ υ binding')
include hP halike hnever hnever' h

/-- Two records that differ in their identifiers are saved alike. -/
theorem writeVehicleBinding_simulates (hutf8 : binding.Utf8) (hutf8' : binding'.Utf8) :
    Prog.Simulates O (Machine.Corresponds P ρ υ) Eq
      (writeVehicleBinding P outcome binding) (writeVehicleBinding P outcome' binding') := by
  obtain ⟨text, data, htext, hdata, hread⟩ := exists_stored hP hutf8
  obtain ⟨text', data', htext', hdata', hread'⟩ := exists_stored hP hutf8'
  unfold writeVehicleBinding
  rw [htext, htext']
  refine writeRecord_of_saves hO _ (save_simulates_of_ok hO halike hdata hdata' fun s t hS ↦ ?_)
  refine hS.put_binding (leaves_corresponds halike hnever hnever' ?_ hS.binding)
  rw [hread, hread']
  exact .some h.reread

/-- A protected storage does not get to encode the record. -/
theorem writeVehicleBinding_matches {s t : Machine ProtectedStorageImpl}
    (hutf8 : s.mem.writeProtected = false → binding.Utf8 ∧ binding'.Utf8)
    (hS : s.Corresponds P ρ υ t) :
    Matches O (Machine.Corresponds P ρ υ) Eq
      (writeVehicleBinding P outcome binding s) (writeVehicleBinding P outcome' binding' t) := by
  cases hprot : s.mem.writeProtected with
  | false =>
      obtain ⟨hutf8, hutf8'⟩ := hutf8 hprot
      exact writeVehicleBinding_simulates hO hP halike hnever hnever' h hutf8 hutf8' s t hS
  | true =>
      unfold writeVehicleBinding writeRecord
      refine .get_bind hO hS ?_
      exact .ite (by rw [hS.mem]) (fun _ _ ↦ .pure hO rfl hS) fun hno _ ↦ absurd hprot hno

end WriteBinding

variable (P ρ υ) in
theorem readRecord_simulates {α : Type} {key : Key} (hkey : key ≠ .binding)
    (deserialize : Bytes → Throws α) (message : String) :
    Prog.Simulates O (Machine.Corresponds P ρ υ) Eq
      (readRecord P key deserialize message) (readRecord P key deserialize message) := by
  unfold readRecord
  refine .bind hO (load_simulates P ρ υ _ hO hkey) fun loaded loaded' hloaded ↦ ?_
  subst hloaded
  rcases loaded with e | _ | data
  · exact .bind hO (.emit (hO.refl _)) fun _ _ _ ↦ .pure hO rfl
  · exact .pure hO rfl
  · cases hrecord : deserialize data with
    | error e =>
        simp only [hrecord]
        exact .bind hO (.emit (hO.refl _)) fun _ _ _ ↦ .pure hO rfl
    | ok record =>
        simp only [hrecord]
        exact .pure hO rfl

variable (P ρ υ) in
theorem setWriteProtection_simulates (outcome : SaveOutcome) (locked : Bool) :
    Prog.Simulates O (Machine.Corresponds P ρ υ) Eq
      (setWriteProtection P outcome locked) (setWriteProtection P outcome locked) := by
  unfold setWriteProtection
  refine .bind hO (save_simulates P ρ υ _ hO outcome (by decide) _) fun saved saved' hsaved ↦ ?_
  subst hsaved
  cases saved with
  | error e => exact .bind hO (.emit (hO.refl _)) fun _ _ _ ↦ .pure hO rfl
  | ok saved =>
      refine .ite Iff.rfl (.bind hO (.modify hO ?_) fun _ _ _ ↦ .pure hO rfl) (.pure hO rfl)
      exact fun s t hS ↦ ⟨rfl, hS.other, hS.binding⟩

variable (P ρ υ) in
theorem isWriteProtected_simulates :
    Prog.Simulates O (Machine.Corresponds P ρ υ) Eq isWriteProtected isWriteProtected := by
  unfold isWriteProtected
  exact .bind hO (.get hO) fun a b hab ↦ .pure hO (by rw [hab.mem])

variable (P ρ υ) in
theorem initializeStorage_simulates (root service : DirOutcome) :
    Prog.Simulates O (Machine.Corresponds P ρ υ) Eq
      (initializeStorage P root service) (initializeStorage P root service) := by
  have hdirectory : ∀ outcome, Prog.Simulates O (Machine.Corresponds P ρ υ) Eq
      (createDirectory outcome : StorageAction Bool) (createDirectory outcome) := by
    intro outcome s t hS
    cases outcome with
    | present | created | threw => exact ⟨.some rfl, hS, hO.refl _⟩
  have hopen : Prog.Simulates O (Machine.Corresponds P ρ υ) Eq
      (initializeStore root service : StorageAction Bool) (initializeStore root service) := by
    unfold initializeStore
    refine .bind hO (hdirectory root) fun made made' hmade ↦ .ite (by rw [hmade]) (.pure hO rfl) ?_
    exact .bind hO (hdirectory service) fun made made' hmade ↦
      .ite (by rw [hmade]) (.pure hO rfl) (.pure hO rfl)
  unfold initializeStorage
  refine .bind hO hopen fun opened opened' hopened ↦ .ite (by rw [hopened]) (.pure hO rfl) ?_
  refine .bind hO (load_simulates P ρ υ _ hO (by decide)) fun loaded loaded' hloaded ↦ ?_
  subst hloaded
  rcases loaded with e | _ | data
  · exact .bind hO (.emit (hO.refl _)) fun _ _ _ ↦ .pure hO rfl
  · exact .pure hO rfl
  · refine .bind hO (.modify hO ?_) fun _ _ _ ↦ .pure hO rfl
    exact fun s t hS ↦ ⟨rfl, hS.other, hS.binding⟩

end Simulates

end ProtectedStorageImpl

/-! ## The service -/

namespace ProvService

section Simulates

variable (hO : Comparison O)

theorem onStorage_matches {α β : Type} {A : α → β → Prop}
    {p : ProtectedStorageImpl.StorageAction α} {q : ProtectedStorageImpl.StorageAction β}
    {s t : Machine ProvService} (hS : s.Corresponds P ρ υ t)
    (h : Matches O (Machine.Corresponds P ρ υ) A (p ⟨s.disk, s.mem.storage⟩)
      (q ⟨t.disk, t.mem.storage⟩)) :
    Matches O (Machine.Corresponds P ρ υ) A (onStorage p s) (onStorage q t) := by
  obtain ⟨hval, hstate, hout⟩ := h
  refine ⟨hval, ⟨?_, hstate.other, hstate.binding⟩, hout⟩
  have hmem := hstate.mem
  simp only [onStorage_state, hmem]
  rw [hS.mem]

theorem onStorage_simulates {α β : Type} {A : α → β → Prop}
    {p : ProtectedStorageImpl.StorageAction α} {q : ProtectedStorageImpl.StorageAction β}
    (h : Prog.Simulates O (Machine.Corresponds P ρ υ) A p q) :
    Prog.Simulates O (Machine.Corresponds P ρ υ) A (onStorage p) (onStorage q) :=
  fun s t hS ↦ onStorage_matches hS (h _ _ ⟨by rw [hS.mem], hS.other, hS.binding⟩)

include hO

theorem log_simulates (logger : String) (level : Level) (event message : String)
    (fields : List (String × FieldValue)) :
    Prog.Simulates O (Machine.Corresponds P ρ υ) Eq
      (log logger level event message fields) (log logger level event message fields) :=
  .emit (hO.refl _)

variable (P ρ υ) in
theorem beginShutdown_simulates :
    Prog.Simulates O (Machine.Corresponds P ρ υ) Eq beginShutdown beginShutdown := by
  unfold beginShutdown
  refine .bind hO (.modify hO ?_) fun _ _ _ ↦ log_simulates hO _ _ _ _ _
  exact fun s t hS ↦ ⟨by rw [hS.mem], hS.other, hS.binding⟩

variable (P ρ υ) in
theorem isInitialized_simulates :
    Prog.Simulates O (Machine.Corresponds P ρ υ) Eq isInitialized isInitialized := by
  unfold isInitialized
  exact .bind hO (.get hO) fun a b hab ↦ .pure hO (by rw [hab.mem])

variable (P ρ υ) in
theorem initializeService_simulates {env env' : Env} (hroot : env'.rootDir = env.rootDir)
    (hservice : env'.serviceDir = env.serviceDir) :
    Prog.Simulates O (Machine.Corresponds P ρ υ) Eq
      (initializeService P env) (initializeService P env') := by
  unfold initializeService
  rw [hroot, hservice]
  refine .bind hO (.get hO) fun a b hab ↦ .ite (by rw [hab.mem]) (.pure hO rfl) ?_
  refine .bind hO (.modify hO ?_) fun _ _ _ ↦ ?_
  · exact fun s t hS ↦ ⟨by rw [hS.mem], hS.other, hS.binding⟩
  have hopen := onStorage_simulates (ProtectedStorageImpl.initializeStorage_simulates P ρ υ hO
    env.rootDir env.serviceDir)
  refine .bind hO hopen fun result result' hresult ↦ ?_
  subst hresult
  refine .ite Iff.rfl (.pure hO rfl) (.bind hO (.modify hO ?_) fun _ _ _ ↦ .pure hO rfl)
  exact fun s t hS ↦ ⟨by rw [hS.mem], hS.other, hS.binding⟩

variable (P ρ υ) in
theorem writeVehicleConfig_simulates {env env' : Env} (hsave : env'.save = env.save)
    (hclock : env'.clock = env.clock) (configData : List UInt8) :
    Prog.Simulates O (Machine.Corresponds P ρ υ) Eq
      (writeVehicleConfig P env configData) (writeVehicleConfig P env' configData) := by
  have hwrite : ∀ outcome config, Prog.Simulates O (Machine.Corresponds P ρ υ) Eq
      (onStorage (ProtectedStorageImpl.writeVehicleConfig P outcome config))
      (onStorage (ProtectedStorageImpl.writeVehicleConfig P outcome config)) :=
    fun outcome config ↦ onStorage_simulates
      (ProtectedStorageImpl.writeRecord_simulates P ρ υ hO outcome (by decide) _ _)
  have hread : Prog.Simulates O (Machine.Corresponds P ρ υ) Eq
      (onStorage (ProtectedStorageImpl.readVehicleConfig P))
      (onStorage (ProtectedStorageImpl.readVehicleConfig P)) :=
    onStorage_simulates (ProtectedStorageImpl.readRecord_simulates P ρ υ hO (by decide) _ _)
  unfold writeVehicleConfig
  rw [hsave, hclock]
  refine .bind hO (.get hO) fun a b hab ↦ .ite (by rw [hab.mem]) (.pure hO rfl) ?_
  refine .bind hO (.get hO) fun a b hab ↦ .ite (by rw [hab.mem]) (.pure hO rfl) ?_
  refine .bind hO (onStorage_simulates (ProtectedStorageImpl.isWriteProtected_simulates P ρ υ hO))
    fun locked locked' hlocked ↦ .ite (by rw [hlocked]) (.pure hO rfl) ?_
  refine .bind hO (hwrite _ _) fun result result' hresult ↦ .ite (by rw [hresult]) ?_ ?_
  · exact .bind hO (log_simulates hO _ _ _ _ _) fun _ _ _ ↦ .pure hO rfl
  refine .bind hO hread fun stored stored' hstored ↦ ?_
  subst hstored
  cases stored with
  | none => exact .bind hO (log_simulates hO _ _ _ _ _) fun _ _ _ ↦ .pure hO rfl
  | some stored =>
      refine .ite Iff.rfl ?_ ?_
      · exact .bind hO (log_simulates hO _ _ _ _ _) fun _ _ _ ↦ .pure hO rfl
      · exact .bind hO (hwrite _ _) fun _ _ _ ↦ .pure hO rfl

variable (P ρ υ) in
theorem writeProductionInfo_simulates {env env' : Env} (hsave : env'.save = env.save)
    (hclock : env'.clock = env.clock) (info : ProductionInfo) :
    Prog.Simulates O (Machine.Corresponds P ρ υ) Eq
      (writeProductionInfo P env info) (writeProductionInfo P env' info) := by
  unfold writeProductionInfo
  rw [hsave, hclock]
  refine .bind hO (.get hO) fun a b hab ↦ .ite (by rw [hab.mem]) (.pure hO rfl) ?_
  refine .bind hO (.get hO) fun a b hab ↦ .ite (by rw [hab.mem]) (.pure hO rfl) ?_
  refine .bind hO (onStorage_simulates (ProtectedStorageImpl.isWriteProtected_simulates P ρ υ hO))
    fun locked locked' hlocked ↦ .ite (by rw [hlocked]) (.pure hO rfl) ?_
  refine .bind hO (onStorage_simulates (ProtectedStorageImpl.writeRecord_simulates P ρ υ hO _
    (by decide) _ _)) fun result result' hresult ↦ .ite (by rw [hresult]) ?_ ?_
  · exact .bind hO (log_simulates hO _ _ _ _ _) fun _ _ _ ↦ .pure hO rfl
  refine .bind hO (onStorage_simulates (ProtectedStorageImpl.readRecord_simulates P ρ υ hO
    (by decide) _ _)) fun stored stored' hstored ↦ ?_
  subst hstored
  cases stored with
  | none => exact .bind hO (log_simulates hO _ _ _ _ _) fun _ _ _ ↦ .pure hO rfl
  | some stored =>
      refine .ite Iff.rfl ?_ (.pure hO rfl)
      exact .bind hO (log_simulates hO _ _ _ _ _) fun _ _ _ ↦ .pure hO rfl

end Simulates

/-! ## The binding flow -/

variable (P O) in
/-- What reading the stored binding prints compares. -/
def ReadsAlike (s t : Machine ProvService) : Prop :=
  O (onStorage (ProtectedStorageImpl.readVehicleBinding P) s).out
    (onStorage (ProtectedStorageImpl.readVehicleBinding P) t).out

section Flow

variable {s t : Machine ProvService} {env env' : Env} {vin vin' uid uid' : Bytes}

theorem readVehicleBinding_matches (hS : s.Corresponds P ρ υ t) (hread : ReadsAlike P O s t) :
    Matches O (Machine.Corresponds P ρ υ) (Option.Rel (VehicleBinding.Corresponds ρ υ))
      (onStorage (ProtectedStorageImpl.readVehicleBinding P) s)
      (onStorage (ProtectedStorageImpl.readVehicleBinding P) t) := by
  refine .of_some (onStorage_readVehicleBinding_val P s) (onStorage_readVehicleBinding_val P t)
    hS.binding ?_ hread
  rw [onStorage_readVehicleBinding_state, onStorage_readVehicleBinding_state]
  exact hS

theorem newBinding_corresponds (hI : Identifiers P O ρ υ) (hclock : env'.clock = env.clock)
    {existing existing' : Option VehicleBinding}
    (hexisting : Option.Rel (VehicleBinding.Corresponds ρ υ) existing existing')
    (hvin : ρ vin vin') (huid : υ uid uid') :
    (newBinding env existing vin uid).Corresponds ρ υ (newBinding env' existing' vin' uid') := by
  obtain ⟨hv, hu, -⟩ := newBinding_fields env vin existing uid
  obtain ⟨hv', hu', -⟩ := newBinding_fields env' vin' existing' uid'
  refine ⟨by rw [hv, hv']; exact hvin, by rw [hu, hu']; exact huid, ?_⟩
  rw [hv', hu']
  unfold newBinding
  rw [hclock]
  cases hexisting with
  | none => rfl
  | @some old old' hold =>
      have hcount : old'.rewriteCount = old.rewriteCount := by rw [hold.rest]
      have hsame := hI.vin_eq_iff hold.vin hvin
      by_cases hcase : old.vin = vin
      · simp [hcase, hsame.1 hcase, hcount]
      · have hcase' : old'.vin ≠ vin' := fun h ↦ hcase (hsame.2 h)
        simp [hcase, hcase']

theorem utf8_newBinding (existing : Option VehicleBinding) (hvin : Utf8 vin) (huid : Utf8 uid) :
    (newBinding env existing vin uid).Utf8 := by
  obtain ⟨hv, hu, -, -, hsn, herror⟩ := newBinding_fields env vin existing uid
  refine ⟨by rwa [hv], by rwa [hu], ?_, ?_⟩
  · rw [hsn]
    exact Utf8.nil
  · rw [herror]
    exact Utf8.nil

/-- The log shows the hash of a UID only. -/
theorem log_uid_simulates (hI : Identifiers P O ρ υ) (huid : υ uid uid') (logger : String)
    (level : Level) (event message : String) (field : String × FieldValue)
    (fields : List (String × FieldValue)) :
    Prog.Simulates O (Machine.Corresponds P ρ υ) Eq
      (log logger level event message (field :: ("ecu_uid_hash", hashEcuUid P uid) :: fields))
      (log logger level event message (field :: ("ecu_uid_hash", hashEcuUid P uid') :: fields)) :=
  .emit (hI.uid_line huid fun hash ↦
    .log logger level event message (field :: ("ecu_uid_hash", hash) :: fields))

variable (hO : Comparison O) (hI : Identifiers P O ρ υ)
include hO hI

variable (env) in
theorem establishBinding_matches (hP : P.json.Lawful)
    (hsave : ∀ n, (env.save n).Alike (env'.save n)) (hclock : env'.clock = env.clock)
    (hnever : ∀ n, NeverInvents P (env.save n)) (hnever' : ∀ n, NeverInvents P (env'.save n))
    (hvin : ρ vin vin') (huid : υ uid uid') (hutf8 : s.mem.storage.writeProtected = false →
      (Utf8 vin ∧ Utf8 uid) ∧ Utf8 vin' ∧ Utf8 uid')
    (hS : s.Corresponds P ρ υ t) (hread : ReadsAlike P O s t) :
    Matches O (Machine.Corresponds P ρ υ) Eq
      (establishBinding P env vin uid s) (establishBinding P env' vin' uid' t) := by
  unfold establishBinding
  refine .bind hO (readVehicleBinding_matches hS hread) fun old old' hold _ _ _ ↦ ?_
  simp only [onStorage_readVehicleBinding_state]
  have hnew := newBinding_corresponds hI hclock hold hvin huid
  have hbound : VehicleBinding.Corresponds ρ υ
      { newBinding env old vin uid with state := .bound }
      { newBinding env' old' vin' uid' with state := .bound } := by
    refine ⟨hnew.vin, hnew.ecuUid, ?_⟩
    rw [hnew.rest]
  have hrecord : s.mem.storage.writeProtected = false →
      (newBinding env old vin uid).Utf8 ∧ (newBinding env' old' vin' uid').Utf8 := by
    intro hprot
    obtain ⟨⟨hvin8, huid8⟩, hvin8', huid8'⟩ := hutf8 hprot
    exact ⟨utf8_newBinding old hvin8 huid8, utf8_newBinding old' hvin8' huid8'⟩
  have hfirst := onStorage_matches hS
    (ProtectedStorageImpl.writeVehicleBinding_matches hO hP (hsave 0) (hnever 0) (hnever' 0) hnew
      hrecord ⟨by rw [hS.mem], hS.other, hS.binding⟩)
  refine .bind hO hfirst fun result result' hresult hval _ hS' ↦ ?_
  subst hresult
  refine .ite Iff.rfl (fun _ _ ↦ .pure hO rfl hS') fun hsaved _ ↦ ?_
  have hprot : s.mem.storage.writeProtected = false := by
    by_contra hprot
    rw [Bool.not_eq_false] at hprot
    obtain ⟨hrefused, -⟩ := writeRecord_protected P s (env.save 0) .binding
      (serializeBinding P (newBinding env old vin uid)) "Failed to write vehicle binding: " hprot
    rw [ProtectedStorageImpl.writeVehicleBinding, hrefused, Option.some.injEq] at hval
    exact hsaved (by simp [← hval])
  obtain ⟨hrecord, hrecord'⟩ := hrecord hprot
  have hsecond := onStorage_simulates
    (ProtectedStorageImpl.writeVehicleBinding_simulates hO hP (hsave 1) (hnever 1) (hnever' 1)
      hbound hrecord hrecord')
  refine Prog.Simulates.bind hO hsecond (fun result result' hresult ↦ ?_) _ _ hS'
  subst hresult
  have hcount : (newBinding env' old' vin' uid').rewriteCount =
      (newBinding env old vin uid).rewriteCount := by rw [hnew.rest]
  rw [hI.vin_hash hvin, hcount]
  exact .ite Iff.rfl (.pure hO rfl)
    (.bind hO (log_uid_simulates hI huid _ _ _ _ _ _) fun _ _ _ ↦ .pure hO rfl)

theorem verifyWrite_matches (hvin : ρ vin vin') (hS : s.Corresponds P ρ υ t)
    (hread : ReadsAlike P O s t) :
    Matches O (Machine.Corresponds P ρ υ) Eq (verifyWrite P vin s) (verifyWrite P vin' t) := by
  unfold verifyWrite
  refine .bind hO (readVehicleBinding_matches hS hread) fun found found' hfound _ _ hS' ↦ ?_
  cases hfound with
  | none => exact .pure hO rfl hS'
  | @some binding binding' hbinding =>
      refine .ite (not_congr (hI.vin_eq_iff hbinding.vin hvin)) (fun _ _ ↦ ?_)
        fun _ _ ↦ .pure hO rfl hS'
      rw [hI.vin_hash hvin]
      exact Prog.Simulates.bind hO (log_uid_simulates hI hbinding.ecuUid _ _ _ _ _ _)
        (fun _ _ _ ↦ .pure hO rfl) _ _ hS'

theorem finishVinBindingFlow_simulates (hsave : env'.save 2 = env.save 2) (hvin : ρ vin vin') :
    Prog.Simulates O (Machine.Corresponds P ρ υ) Eq
      (finishVinBindingFlow P env vin) (finishVinBindingFlow P env' vin') := by
  unfold finishVinBindingFlow
  rw [hsave, hI.vin_hash hvin]
  have hlock := onStorage_simulates
    (ProtectedStorageImpl.setWriteProtection_simulates P ρ υ hO (env.save 2) true)
  refine .bind hO (.get hO) fun a b hab ↦ .ite (by rw [hab.mem]) ?_ ?_
  · refine .bind hO hlock fun result result' hresult ↦ ?_
    subst hresult
    exact .ite Iff.rfl (.pure hO rfl)
      (.bind hO (log_simulates hO _ _ _ _ _) fun _ _ _ ↦ .pure hO rfl)
  · refine .bind hO (.pure hO (a := ErrorCode.success) rfl) fun result result' hresult ↦ ?_
    subst hresult
    exact .ite Iff.rfl (.pure hO rfl)
      (.bind hO (log_simulates hO _ _ _ _ _) fun _ _ _ ↦ .pure hO rfl)

/-! ## Calls -/

theorem executeVinBindingFlow_matches (hP : P.json.Lawful) (henv : env.Corresponds υ env')
    (hlock : env'.save 2 = env.save 2) (hnever : ∀ n, NeverInvents P (env.save n))
    (hnever' : ∀ n, NeverInvents P (env'.save n)) (hvin : ρ vin vin')
    (hvalid : VinValidator.validate vin = true)
    (hutf8 : s.mem.storage.writeProtected = false → env.Utf8 ∧ env'.Utf8)
    (hS : s.Corresponds P ρ υ t)
    (hread : env.uid.success = true → ReadsAlike P O s t)
    (hback : env.uid.success = true →
      (establishBinding P env vin env.uid.uid s).val = some .success →
        ReadsAlike P O (establishBinding P env vin env.uid.uid s).state
          (establishBinding P env' vin' env'.uid.uid t).state) :
    Matches O (Machine.Corresponds P ρ υ) Eq
      (executeVinBindingFlow P env vin s) (executeVinBindingFlow P env' vin' t) := by
  have hvin8 := VinValidator.utf8_of_validate hvalid
  have hvin8' := VinValidator.utf8_of_validate ((hI.vin_valid hvin).symm.trans hvalid)
  have hsuccess : env'.uid.success = env.uid.success := by rw [henv.uid]
  have hcode : env'.uid.errorCode = env.uid.errorCode := by rw [henv.uid]
  have hmessage : env'.uid.errorMessage = env.uid.errorMessage := by rw [henv.uid]
  unfold executeVinBindingFlow
  rw [hsuccess, hcode, hmessage, ← hI.vin_hash hvin]
  refine .ite Iff.rfl (fun _ _ ↦ ?_) fun huid _ ↦ ?_
  · exact Prog.Simulates.bind hO (log_simulates hO _ _ _ _ _) (fun _ _ _ ↦ .pure hO rfl) _ _ hS
  simp only [Bool.not_eq_true', Bool.not_eq_false] at huid
  have hencoded : s.mem.storage.writeProtected = false →
      (Utf8 vin ∧ Utf8 env.uid.uid) ∧ Utf8 vin' ∧ Utf8 env'.uid.uid := by
    intro hprot
    obtain ⟨huid8, huid8'⟩ := hutf8 hprot
    exact ⟨⟨hvin8, huid8 huid⟩, hvin8', huid8' (hsuccess.trans huid)⟩
  refine .bind hO (establishBinding_matches env hO hI hP henv.save henv.clock hnever
    hnever' hvin (henv.uids huid) hencoded hS (hread huid)) ?_
  intro result result' hresult hval _ hS'
  subst hresult
  refine .ite Iff.rfl (fun _ _ ↦ ?_) fun hdone _ ↦ ?_
  · exact Prog.Simulates.bind hO (log_simulates hO _ _ _ _ _) (fun _ _ _ ↦ .pure hO rfl) _ _ hS'
  rw [not_not] at hdone
  subst hdone
  refine .bind hO (verifyWrite_matches hO hI hvin hS' (hback huid hval)) ?_
  intro result result' hresult _ _ hS''
  subst hresult
  refine .ite Iff.rfl (fun _ _ ↦ ?_) fun _ _ ↦
    finishVinBindingFlow_simulates hO hI hlock hvin _ _ hS''
  exact Prog.Simulates.bind hO (log_uid_simulates hI (henv.uids huid) _ _ _ _ _ _)
    (fun _ _ _ ↦ .pure hO rfl) _ _ hS''

theorem validateVinFormat_simulates (hvin : ρ vin vin') :
    Prog.Simulates O (Machine.Corresponds P ρ υ) Eq
      (validateVinFormat P vin) (validateVinFormat P vin') := by
  unfold validateVinFormat
  rw [← hI.vin_valid hvin, ← hI.vin_hash hvin]
  exact .ite Iff.rfl (.bind hO (log_simulates hO _ _ _ _ _) fun _ _ _ ↦ .pure hO rfl)
    (.pure hO rfl)

variable (P O) in
/-- Every read of the stored binding in the call prints something comparable, and the
record that is saved can be encoded. -/
structure CallAlike (call : BindingCall) (env : Env) (vin : Bytes) (env' : Env)
    (vin' : Bytes) (s t : Machine ProvService) : Prop where
  existing : s.mem.initialized = true → s.mem.shuttingDown = false →
    VinValidator.validate vin = true → (call = .writeVin → env.uid.success = true) →
      ReadsAlike P O s t
  back : Admits P vin s call → env.uid.success = true →
    (establishBinding P env vin env.uid.uid s).val = some .success →
      ReadsAlike P O (establishBinding P env vin env.uid.uid s).state
        (establishBinding P env' vin' env'.uid.uid t).state
  utf8 : Admits P vin s call → s.mem.storage.writeProtected = false → env.Utf8 ∧ env'.Utf8

omit hO hI in
variable (P) in
/-- The checks that both binding calls make first. -/
def checked (vin : Bytes) (flow : ServiceAction ErrorCode) : ServiceAction ErrorCode := do
  if !(← Prog.get).mem.initialized then return .invalidState
  else if (← Prog.get).mem.shuttingDown then return .invalidState
  else
    let result ← validateVinFormat P vin
    if result ≠ .success then return result
    else flow

theorem checked_matches {flow flow' : ServiceAction ErrorCode} (hvin : ρ vin vin')
    (hS : s.Corresponds P ρ υ t)
    (hflow : s.mem.initialized = true → s.mem.shuttingDown = false →
      VinValidator.validate vin = true →
        Matches O (Machine.Corresponds P ρ υ) Eq (flow s) (flow' t)) :
    Matches O (Machine.Corresponds P ρ υ) Eq (checked P vin flow s) (checked P vin' flow' t) := by
  unfold checked
  refine .get_bind hO hS (.ite (by rw [hS.mem]) (fun _ _ ↦ .pure hO rfl hS) fun hinit _ ↦ ?_)
  refine .get_bind hO hS (.ite (by rw [hS.mem]) (fun _ _ ↦ .pure hO rfl hS) fun hrunning _ ↦ ?_)
  simp only [Bool.not_eq_true', Bool.not_eq_false] at hinit
  simp only [Bool.not_eq_true] at hrunning
  refine .bind hO (validateVinFormat_simulates hO hI hvin s t hS) fun code code' hcode hval _ _ ↦ ?_
  subst hcode
  rw [validateVinFormat_val, Option.some.injEq] at hval
  simp only [validateVinFormat_state]
  refine .ite Iff.rfl (fun _ _ ↦ .pure hO rfl hS) fun hcode _ ↦ ?_
  have hvalid : VinValidator.validate vin = true := by
    by_contra hinvalid
    rw [if_neg hinvalid] at hval
    exact hcode (by simp [← hval])
  exact hflow hinit hrunning hvalid

theorem writeVin_matches (hP : P.json.Lawful) (henv : env.Corresponds υ env')
    (hlock : env'.save 2 = env.save 2) (hnever : ∀ n, NeverInvents P (env.save n))
    (hnever' : ∀ n, NeverInvents P (env'.save n)) (hvin : ρ vin vin')
    (hS : s.Corresponds P ρ υ t)
    (halike : CallAlike P O .writeVin env vin env' vin' s t) :
    Matches O (Machine.Corresponds P ρ υ) Eq (writeVin P env vin s) (writeVin P env' vin' t) := by
  apply checked_matches hO hI hvin hS
  intro hinit hrunning hvalid
  have hadm : Admits P vin s .writeVin :=
    ⟨hinit, hrunning, hvalid, fun hcall ↦ by cases hcall⟩
  exact executeVinBindingFlow_matches hO hI hP henv hlock hnever hnever' hvin hvalid
    (halike.utf8 hadm) hS (fun huid ↦ halike.existing hinit hrunning hvalid fun _ ↦ huid)
    (halike.back hadm)

theorem authorizeRewrite_matches (hP : P.json.Lawful) (henv : env.Corresponds υ env')
    (hlock : env'.save 2 = env.save 2) (hnever : ∀ n, NeverInvents P (env.save n))
    (hnever' : ∀ n, NeverInvents P (env'.save n)) (hvin : ρ vin vin')
    (hS : s.Corresponds P ρ υ t)
    (halike : CallAlike P O .authorizeRewrite env vin env' vin' s t) :
    Matches O (Machine.Corresponds P ρ υ) Eq
      (authorizeRewrite P env vin s) (authorizeRewrite P env' vin' t) := by
  apply checked_matches hO hI hvin hS
  intro hinit hrunning hvalid
  have hexisting : ReadsAlike P O s t :=
    halike.existing hinit hrunning hvalid fun hcall ↦ by cases hcall
  have hflow : Admits P vin s .authorizeRewrite → Matches O (Machine.Corresponds P ρ υ) Eq
      (executeVinBindingFlow P env vin s) (executeVinBindingFlow P env' vin' t) :=
    fun hadm ↦ executeVinBindingFlow_matches hO hI hP henv hlock hnever hnever' hvin hvalid
      (halike.utf8 hadm) hS (fun _ ↦ hexisting) (halike.back hadm)
  refine .bind hO (readVehicleBinding_matches hS hexisting) fun old old' hold hval _ _ ↦ ?_
  rw [onStorage_readVehicleBinding_val, Option.some.injEq] at hval
  simp only [onStorage_readVehicleBinding_state]
  cases hold with
  | none =>
      refine hflow ⟨hinit, hrunning, hvalid, fun _ ↦ ?_⟩
      rintro ⟨binding, hbinding, -⟩
      rw [hval] at hbinding
      cases hbinding
  | @some binding binding' hbinding =>
      have hlocked : binding'.locked = binding.locked := by rw [hbinding.rest]
      have hcount : binding'.rewriteCount = binding.rewriteCount := by rw [hbinding.rest]
      have hne := not_congr (hI.vin_eq_iff hvin hbinding.vin)
      refine .ite (by rw [hlocked, Ne, Ne, hne]) (fun _ _ ↦ ?_) fun hpass _ ↦ ?_
      · rw [← hI.vin_hash hvin, ← hI.vin_hash hbinding.vin, hcount]
        exact Prog.Simulates.bind hO (log_simulates hO _ _ _ _ _) (fun _ _ _ ↦ .pure hO rfl) _ _ hS
      · refine hflow ⟨hinit, hrunning, hvalid, fun _ ↦ ?_⟩
        rintro ⟨old, hold, hconflict⟩
        rw [hval, Option.some.injEq] at hold
        subst hold
        exact hpass hconflict

end Flow

/-! ## Reads -/

section Reads

variable {s t : Machine ProvService} (hO : Comparison O)
include hO

/-- The reads of the service: nothing before it is initialized, then the stored binding. -/
theorem readStored_matches {α : Type} {A : α → α → Prop} {empty : α}
    {rest rest' : Option VehicleBinding → ServiceAction α} (hS : s.Corresponds P ρ υ t)
    (hread : s.mem.initialized = true → ReadsAlike P O s t) (hempty : A empty empty)
    (hrest : ∀ old old', Option.Rel (VehicleBinding.Corresponds ρ υ) old old' →
      Prog.Simulates O (Machine.Corresponds P ρ υ) A (rest old) (rest' old')) :
    Matches O (Machine.Corresponds P ρ υ) A
      ((do
        if !(← Prog.get).mem.initialized then return empty
        else rest (← onStorage (ProtectedStorageImpl.readVehicleBinding P)) :
          ServiceAction α) s)
      ((do
        if !(← Prog.get).mem.initialized then return empty
        else rest' (← onStorage (ProtectedStorageImpl.readVehicleBinding P)) :
          ServiceAction α) t) := by
  refine .get_bind hO hS (.ite (by rw [hS.mem]) (fun _ _ ↦ .pure hO hempty hS) fun hinit _ ↦ ?_)
  simp only [Bool.not_eq_true', Bool.not_eq_false] at hinit
  exact .bind hO (readVehicleBinding_matches hS (hread hinit)) fun old old' hold _ _ hS' ↦
    hrest old old' hold _ _ hS'

theorem readVin_matches (hS : s.Corresponds P ρ υ t)
    (hread : s.mem.initialized = true → ReadsAlike P O s t) :
    Matches O (Machine.Corresponds P ρ υ) (fun _ _ ↦ True) (readVin P s) (readVin P t) := by
  unfold readVin
  apply readStored_matches hO hS hread trivial
  intro old old' hold
  cases hold with
  | none => exact .pure hO trivial
  | some => exact .pure hO trivial

theorem getProvisionState_matches (hS : s.Corresponds P ρ υ t)
    (hread : s.mem.initialized = true → ReadsAlike P O s t) :
    Matches O (Machine.Corresponds P ρ υ) (fun _ _ ↦ True)
      (getProvisionState P s) (getProvisionState P t) := by
  unfold getProvisionState
  apply readStored_matches hO hS hread trivial
  intro old old' hold
  cases hold with
  | none => exact .pure hO trivial
  | some => exact .pure hO trivial

theorem readBinding_matches {env env' : Env} (henv : env.Corresponds υ env')
    (hS : s.Corresponds P ρ υ t) (hread : s.mem.initialized = true → ReadsAlike P O s t) :
    Matches O (Machine.Corresponds P ρ υ) (fun _ _ ↦ True)
      (readBinding P env s) (readBinding P env' t) := by
  have hsuccess : env'.sn.success = env.sn.success := by rw [henv.sn]
  have hsource : env'.sn.snSource = env.sn.snSource := by rw [henv.sn]
  have henvironment : env'.sn.environment = env.sn.environment := by rw [henv.sn]
  have hstage : env'.sn.failureStage = env.sn.failureStage := by rw [henv.sn]
  unfold readBinding
  rw [hsuccess, hsource, henvironment, hstage]
  apply readStored_matches hO hS hread trivial
  intro old old' hold
  cases hold with
  | none => exact .pure hO trivial
  | @some binding binding' hbinding =>
      have hsn : binding'.sn = binding.sn := by rw [hbinding.rest]
      refine .ite (by rw [hsn]) (.pure hO trivial) (.ite Iff.rfl (.pure hO trivial) ?_)
      exact .bind hO (log_simulates hO _ _ _ _ _) fun _ _ _ ↦ .pure hO trivial

end Reads

/-! ## Corresponding calls -/

/-- The same call, with related outsides and VINs. -/
inductive Call.Rel (E : Env → Env → Prop) (V : Bytes → Bytes → Prop) : Call → Call → Prop where
  | initializeService {env env' : Env} (h : E env env') :
      Rel E V (.initializeService env) (.initializeService env')
  | beginShutdown : Rel E V .beginShutdown .beginShutdown
  | binding (call : BindingCall) {env env' : Env} {vin vin' : Bytes} (h : E env env')
      (hvin : V vin vin') : Rel E V (.binding call env vin) (.binding call env' vin')
  | writeVehicleConfig {env env' : Env} (h : E env env') (configData : List UInt8) :
      Rel E V (.writeVehicleConfig env configData) (.writeVehicleConfig env' configData)
  | writeProductionInfo {env env' : Env} (h : E env env') (info : ProductionInfo) :
      Rel E V (.writeProductionInfo env info) (.writeProductionInfo env' info)
  | readVin : Rel E V .readVin .readVin
  | readBinding {env env' : Env} (h : E env env') : Rel E V (.readBinding env) (.readBinding env')
  | getProvisionState : Rel E V .getProvisionState .getProvisionState
  | isInitialized : Rel E V .isInitialized .isInitialized
  | restart : Rel E V .restart .restart

/-- What a save without identifiers leaves is the same in both runs: all of them but the two
of the binding record. -/
def Call.SavesAlike : Call → Call → Prop
  | .binding _ env _, .binding _ env' _ => env'.save 2 = env.save 2
  | .writeVehicleConfig env _, .writeVehicleConfig env' _
  | .writeProductionInfo env _, .writeProductionInfo env' _ => env'.save = env.save
  | _, _ => True

variable (P ρ υ) in
/-- The same call with other identifiers, in neither run of which a save makes up a record. -/
structure Call.Corresponds (c c' : Call) : Prop where
  rel : c.Rel (Env.Corresponds υ) ρ c'
  saves : c.SavesAlike c'
  never : c.NeverInvents P
  never' : c'.NeverInvents P

variable (P O) in
def Call.Alike : Call → Call → Machine ProvService → Machine ProvService → Prop
  | .binding call env vin, .binding _ env' vin', s, t =>
      CallAlike P O call env vin env' vin' s t
  | .readVin, _, s, t | .readBinding _, _, s, t | .getProvisionState, _, s, t =>
      s.mem.initialized = true → ProvService.ReadsAlike P O s t
  | _, _, _, _ => True

theorem Call.Rel.mono {E E' : Env → Env → Prop} {V V' : Bytes → Bytes → Prop} {c c' : Call}
    (h : c.Rel E V c') (hE : ∀ env env', E env env' → E' env env')
    (hV : ∀ vin vin', V vin vin' → V' vin vin') : c.Rel E' V' c' := by
  cases h with
  | initializeService h => exact .initializeService (hE _ _ h)
  | beginShutdown => exact .beginShutdown
  | binding call h hvin => exact .binding call (hE _ _ h) (hV _ _ hvin)
  | writeVehicleConfig h configData => exact .writeVehicleConfig (hE _ _ h) configData
  | writeProductionInfo h info => exact .writeProductionInfo (hE _ _ h) info
  | readVin => exact .readVin
  | readBinding h => exact .readBinding (hE _ _ h)
  | getProvisionState => exact .getProvisionState
  | isInitialized => exact .isInitialized
  | restart => exact .restart

section Calls

variable {s t : Machine ProvService} (hO : Comparison O)
include hO

theorem coded_matches {p q : ServiceAction ErrorCode}
    (h : Matches O (Machine.Corresponds P ρ υ) Eq (p s) (q t)) :
    Matches O (Machine.Corresponds P ρ υ) Eq (coded p s) (coded q t) :=
  .bind hO h fun _ _ hcode _ _ hS ↦ .pure hO (by rw [hcode]) hS

theorem uncoded_matches {α β : Type} {A : α → β → Prop} {p : ServiceAction α}
    {q : ServiceAction β} (h : Matches O (Machine.Corresponds P ρ υ) A (p s) (q t)) :
    Matches O (Machine.Corresponds P ρ υ) Eq (uncoded p s) (uncoded q t) :=
  .bind hO h fun _ _ _ _ _ hS ↦ .pure hO rfl hS

/-- Corresponding calls on corresponding services match. -/
theorem prog_matches (hI : Identifiers P O ρ υ) (hP : P.json.Lawful) {c c' : Call}
    (h : c.Corresponds P ρ υ c') (hS : s.Corresponds P ρ υ t) (halike : c.Alike P O c' s t) :
    Matches O (Machine.Corresponds P ρ υ) Eq (c.prog P s) (c'.prog P t) := by
  obtain ⟨hrel, hsaves, hnever, hnever'⟩ := h
  cases hrel with
  | initializeService henv =>
      exact coded_matches hO
        (initializeService_simulates P ρ υ hO henv.rootDir henv.serviceDir s t hS)
  | beginShutdown => exact uncoded_matches hO (beginShutdown_simulates P ρ υ hO s t hS)
  | binding call henv hvin =>
      cases call with
      | writeVin =>
          exact coded_matches hO
            (writeVin_matches hO hI hP henv hsaves hnever hnever' hvin hS halike)
      | authorizeRewrite =>
          exact coded_matches hO
            (authorizeRewrite_matches hO hI hP henv hsaves hnever hnever' hvin hS halike)
  | writeVehicleConfig henv configData =>
      exact coded_matches hO
        (writeVehicleConfig_simulates P ρ υ hO hsaves henv.clock configData s t hS)
  | writeProductionInfo henv info =>
      exact coded_matches hO
        (writeProductionInfo_simulates P ρ υ hO hsaves henv.clock info s t hS)
  | readVin => exact uncoded_matches hO (readVin_matches hO hS halike)
  | readBinding henv => exact uncoded_matches hO (readBinding_matches hO henv hS halike)
  | getProvisionState => exact uncoded_matches hO (getProvisionState_matches hO hS halike)
  | isInitialized => exact uncoded_matches hO (isInitialized_simulates P ρ υ hO s t hS)
  | restart => exact ⟨.none, hS, hO.refl _⟩

end Calls

theorem restarted_corresponds {s t : Machine ProvService} (hS : s.Corresponds P ρ υ t) :
    (restarted s).Corresponds P ρ υ (restarted t) :=
  ⟨by rw [restarted, restarted, hS.mem]; rfl, hS.other, hS.binding⟩

end ProvService

end TboxProv
