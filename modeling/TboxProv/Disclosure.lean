import TboxProv.Correspondence

/-!
# What the output discloses

The log fields carry hashes of the identifiers, but reading the stored binding prints
the record as it is.  Two runs with different identifiers of the same hashes print the
same as long as no call reads back a record in which they differ.
-/

namespace TboxProv.ProvService

open Crash Store

variable (P : Platform)

/-- Values that take the same places in two runs: the VINs are valid and compare alike,
and all have equal hashes. -/
structure Interchangeable (ρ υ : Bytes → Bytes → Prop) : Prop where
  vin_valid : ∀ {v v'}, ρ v v' →
    VinValidator.validate v = true ∧ VinValidator.validate v' = true
  vin_eq_iff : ∀ {v v' w w'}, ρ v v' → ρ w w' → (v = w ↔ v' = w')
  vin_hash : ∀ {v v'}, ρ v v' → hashIdentifier P "vin" v = hashIdentifier P "vin" v'
  uid_hash : ∀ {u u'}, υ u u' → hashIdentifier P "uid" u = hashIdentifier P "uid" u'

/-- The call saves twice and gets to its read-back. -/
structure GetsToReadBack (call : BindingCall) (env : Env) (vin : Bytes) (s : Machine ProvService) :
    Prop where
  admits : Admits P vin s call
  uid : env.uid.success = true
  unprotected : s.mem.storage.writeProtected = false
  first : (env.save 0).returned = some true
  second : (env.save 1).returned = some true

/-- What the two saves leave is a torn file. -/
def LeavesTorn (env : Env) (entry : Entry) : Prop :=
  env.save 1 = .replaced entry ∨ env.save 1 = .lost ∧ env.save 0 = .replaced entry

/-- The record that a binding call finds is the same in both runs, and so is the record or the
torn file that it reads back. -/
structure DiscreetBinding (call : BindingCall) (env : Env) (vin : Bytes) (env' : Env)
    (vin' : Bytes) (s t : Machine ProvService) : Prop where
  existing : s.mem.initialized = true → s.mem.shuttingDown = false →
    VinValidator.validate vin = true → (call = .writeVin → env.uid.success = true) →
      t.disk .binding = s.disk .binding
  own : GetsToReadBack P call env vin s → LeavesRecord env → vin' = vin ∧ env'.uid.uid = env.uid.uid
  torn : GetsToReadBack P call env vin s → ∀ entry, LeavesTorn env entry → LeavesTorn env' entry
  utf8 : Admits P vin s call → s.mem.storage.writeProtected = false → env.Utf8 ∧ env'.Utf8

def Discreet : Call → Call → Machine ProvService → Machine ProvService → Prop
  | .binding call env vin, .binding _ env' vin', s, t =>
      DiscreetBinding P call env vin env' vin' s t
  | .readVin, _, s, t | .readBinding _, _, s, t | .getProvisionState, _, s, t =>
      s.mem.initialized = true → t.disk .binding = s.disk .binding
  | _, _, _, _ => True

/-- Everything that a run writes to stdout, stderr and the log. -/
def written (calls : List Call) (s : Machine ProvService) : List Output :=
  outputs (Call.prog P) restarted calls s

variable {P} {ρ υ : Bytes → Bytes → Prop} {s t : Machine ProvService} {env env' : Env}
  {vin vin' : Bytes}

/-! ## Reading the binding -/

theorem readVehicleBinding_out {s t : Machine ProtectedStorageImpl}
    (h : t.disk .binding = s.disk .binding) :
    (ProtectedStorageImpl.readVehicleBinding P t).out =
      (ProtectedStorageImpl.readVehicleBinding P s).out := by
  unfold ProtectedStorageImpl.readVehicleBinding
  simp only [Prog.bind_out, Prog.emit_out, Prog.emit_val, Prog.emit_state, Option.elim_some,
    load_val, load_state, load_out P h, h]
  rcases loaded P (s.disk .binding) with e | _ | data
  · rfl
  · rfl
  · cases hread : deserializeBinding P data <;> simp [hread]

theorem readsAlike_of_entry (h : t.disk .binding = s.disk .binding) :
    ReadsAlike P (fun out out' ↦ out = out') s t :=
  (readVehicleBinding_out h).symm

/-! ## The two saves -/

theorem LeavesTorn.leaves {entry : Entry} (h : LeavesTorn env entry) (c₀ c₁ : Bytes)
    (old : Entry) : (env.save 1).leaves c₁ ((env.save 0).leaves c₀ old) = entry := by
  rcases h with h₁ | ⟨h₁, h₀⟩
  · rw [h₁]
    rfl
  · rw [h₁, h₀]
    rfl

/-- A call that leaves no record of its own leaves the file that it found, or a torn one. -/
theorem lost_or_torn (h₀ : (env.save 0).returned = some true)
    (h₁ : (env.save 1).returned = some true) (hno : ¬ LeavesRecord env) :
    (env.save 0 = .lost ∧ env.save 1 = .lost) ∨ ∃ entry, LeavesTorn env entry := by
  unfold LeavesRecord at hno
  unfold LeavesTorn
  cases hsave₁ : env.save 1 with
  | replaced entry => exact .inr ⟨entry, .inl rfl⟩
  | failed | killedBefore | killedAfter =>
      rw [hsave₁] at h₁
      cases h₁
  | stored =>
      cases hsave₀ : env.save 0 with
      | stored | lost | replaced => simp [hsave₀, hsave₁] at hno
      | failed | killedBefore | killedAfter =>
          rw [hsave₀] at h₀
          cases h₀
  | lost =>
      cases hsave₀ : env.save 0 with
      | stored => simp [hsave₀, hsave₁] at hno
      | lost => exact .inl ⟨rfl, rfl⟩
      | replaced entry => exact .inr ⟨entry, .inr ⟨rfl, rfl⟩⟩
      | failed | killedBefore | killedAfter =>
          rw [hsave₀] at h₀
          cases h₀

/-- Saves of the same data leave the same record. -/
theorem leaves_own (hsave : ∀ n, (env.save n).Alike (env'.save n))
    (h₀ : (env.save 0).returned = some true) (h₁ : (env.save 1).returned = some true)
    (hleaves : LeavesRecord env) (c₀ c₁ : Bytes) (old : Entry) :
    (env'.save 1).leaves c₁ ((env'.save 0).leaves c₀ old) =
      (env.save 1).leaves c₁ ((env.save 0).leaves c₀ old) := by
  unfold LeavesRecord at hleaves
  cases hsave₁ : env.save 1 with
  | failed | killedBefore | killedAfter =>
      rw [hsave₁] at h₁
      cases h₁
  | stored =>
      have hsame := (hsave 1).eq_of_not_replaced (by simp [hsave₁])
      rw [hsame, hsave₁]
      rfl
  | lost | replaced =>
      have hstored : env.save 0 = .stored := by
        cases hsave₀ : env.save 0 with
        | stored => rfl
        | lost | replaced => simp [hsave₀, hsave₁] at hleaves
        | failed | killedBefore | killedAfter =>
            rw [hsave₀] at h₀
            cases h₀
      rw [hstored] at hleaves
      have hsame := (hsave 0).eq_of_not_replaced (by simp [hstored])
      have hsame₁ := (hsave 1).eq_of_not_replaced hleaves
      rw [hsame, hsame₁, hsave₁]

/-- Without a record of its own a call leaves the same file in both runs, whatever it tried to
save, if torn files are the same. -/
theorem leaves_same (hsave : ∀ n, (env.save n).Alike (env'.save n))
    (h₀ : (env.save 0).returned = some true) (h₁ : (env.save 1).returned = some true)
    (hno : ¬ LeavesRecord env) (htorn : ∀ entry, LeavesTorn env entry → LeavesTorn env' entry)
    (c₀ c₁ c₀' c₁' : Bytes) (old : Entry) :
    (env'.save 1).leaves c₁' ((env'.save 0).leaves c₀' old) =
      (env.save 1).leaves c₁ ((env.save 0).leaves c₀ old) := by
  rcases lost_or_torn h₀ h₁ hno with ⟨hlost₀, hlost₁⟩ | ⟨entry, hentry⟩
  · have hsame₀ := (hsave 0).eq_of_not_replaced (by simp [hlost₀])
    have hsame₁ := (hsave 1).eq_of_not_replaced (by simp [hlost₁])
    rw [hsame₀, hsame₁, hlost₀, hlost₁]
    rfl
  · rw [hentry.leaves, (htorn entry hentry).leaves]

/-- A flow that gets to its read-back has saved twice. -/
theorem establishBinding_success (hP : P.json.Lawful) (hvin : Utf8 vin)
    (huid : s.mem.storage.writeProtected = false → Utf8 env.uid.uid)
    (h : (establishBinding P env vin env.uid.uid s).val = some .success) :
    (env.save 0).returned = some true ∧ (env.save 1).returned = some true ∧
      ∃ c₀ c₁ k, Writable P env vin s c₀ c₁ k ∧
        (establishBinding P env vin env.uid.uid s).state = afterSecond env s c₀ c₁ := by
  have hprot : s.mem.storage.writeProtected = false := by
    by_contra hprot
    rw [(establishBinding_protected P env vin (by simpa using hprot)).1] at h
    cases h
  obtain ⟨c₀, c₁, k, w⟩ := exists_writable hP hprot hvin (huid hprot)
  have h₀ : (env.save 0).returned = some true := by
    by_contra h₀
    rw [(establishBinding_first w h₀).1, Option.map_eq_some_iff] at h
    obtain ⟨-, -, hcode⟩ := h
    cases hcode
  have h₁ : (env.save 1).returned = some true := by
    by_contra h₁
    rw [(establishBinding_second w h₀ h₁).1, Option.map_eq_some_iff] at h
    obtain ⟨-, -, hcode⟩ := h
    cases hcode
  exact ⟨h₀, h₁, c₀, c₁, k, w, (establishBinding_saved w h₀ h₁).2⟩

theorem Interchangeable.identifiers (h : Interchangeable P ρ υ) :
    Identifiers P (fun out out' ↦ out = out') ρ υ where
  vin_eq_iff := h.vin_eq_iff
  vin_valid hvin := by rw [(h.vin_valid hvin).1, (h.vin_valid hvin).2]
  vin_hash hvin := by rw [hashVin, hashVin, h.vin_hash hvin]
  uid_line huid line := by rw [hashEcuUid, hashEcuUid, h.uid_hash huid]

/-- The same call on the same record prepares the same records to save. -/
theorem writtenRecord_same (hclock : env'.clock = env.clock) (huid : env'.uid.uid = env.uid.uid)
    (hentry : t.disk .binding = s.disk .binding) :
    writtenRecord P env' vin t = writtenRecord P env vin s := by
  unfold writtenRecord newBinding
  rw [hclock, huid, hentry]

theorem Writable.same {c₀ c₁ k c₀' c₁' k' : Bytes} (w : Writable P env vin s c₀ c₁ k)
    (w' : Writable P env' vin t c₀' c₁' k') (hclock : env'.clock = env.clock)
    (huid : env'.uid.uid = env.uid.uid) (hentry : t.disk .binding = s.disk .binding) :
    c₀' = c₀ ∧ c₁' = c₁ := by
  have hrecord : writtenRecord P env' vin t = writtenRecord P env vin s :=
    writtenRecord_same hclock huid hentry
  have hwritten := w'.written
  have hbound := w'.bound
  rw [boundRecord] at hbound
  rw [hrecord] at hwritten hbound
  have hwritten' := hwritten.symm.trans w.written
  have hbound' := hbound.symm.trans w.bound
  exact ⟨Except.ok.inj hwritten', Except.ok.inj hbound'⟩

/-- A discreet binding call reads the same records in both runs. -/
theorem DiscreetBinding.alike (hP : P.json.Lawful) (hI : Interchangeable P ρ υ)
    {call : BindingCall} (henv : env.Corresponds υ env') (hvin : ρ vin vin')
    (hS : s.Corresponds P ρ υ t) (h : DiscreetBinding P call env vin env' vin' s t) :
    CallAlike P (fun out out' ↦ out = out') call env vin env' vin' s t := by
  refine ⟨fun hinit hrunning hvalid huid ↦ readsAlike_of_entry (h.existing hinit hrunning hvalid
    huid), fun hadm huid hval ↦ readsAlike_of_entry ?_, h.utf8⟩
  obtain ⟨hvalid, hvalid'⟩ := hI.vin_valid hvin
  have huid' : env'.uid.success = true := by rw [henv.uid, huid]
  have hentry := h.existing hadm.initialized hadm.running hadm.valid fun _ ↦ huid
  obtain ⟨h₀, h₁, c₀, c₁, k, w, hstate⟩ := establishBinding_success hP
    (VinValidator.utf8_of_validate hvalid) (fun hprot ↦ (h.utf8 hadm hprot).1 huid) hval
  obtain ⟨c₀', c₁', k', w'⟩ : ∃ c₀ c₁ k, Writable P env' vin' t c₀ c₁ k := by
    refine exists_writable hP ?_ (VinValidator.utf8_of_validate hvalid')
      ((h.utf8 hadm w.unprotected).2 huid')
    rw [hS.mem]
    exact w.unprotected
  obtain ⟨-, hstate'⟩ := establishBinding_saved w' ((henv.save 0).returned.trans h₀)
    ((henv.save 1).returned.trans h₁)
  rw [hstate, hstate', afterSecond_binding, afterSecond_binding, hentry]
  have hback : GetsToReadBack P call env vin s := ⟨hadm, huid, w.unprotected, h₀, h₁⟩
  by_cases hleaves : LeavesRecord env
  · obtain ⟨rfl, hsame⟩ := h.own hback hleaves
    obtain ⟨rfl, rfl⟩ := w.same w' henv.clock hsame hentry
    exact leaves_own henv.save h₀ h₁ hleaves _ _ _
  · exact leaves_same henv.save h₀ h₁ hleaves (h.torn hback) c₀ c₁ c₀' c₁' _

theorem Discreet.alike (hP : P.json.Lawful) (hI : Interchangeable P ρ υ) {c c' : Call}
    (hc : c.Rel (Env.Corresponds υ) ρ c') (hS : s.Corresponds P ρ υ t)
    (h : Discreet P c c' s t) : c.Alike P (fun out out' ↦ out = out') c' s t := by
  cases hc with
  | binding call henv hvin => exact DiscreetBinding.alike hP hI henv hvin hS h
  | readVin | readBinding | getProvisionState => exact fun hinit ↦ readsAlike_of_entry (h hinit)
  | _ => trivial

/-! ## Two runs -/

/-- Two runs that differ in interchangeable identifiers write the same, if no call reads a
record in which they differ. -/
theorem written_eq_of_discreet (hP : P.json.Lawful) (hI : Interchangeable P ρ υ)
    {calls calls' : List Call} (hcalls : List.Forall₂ (Call.Corresponds P ρ υ) calls calls')
    (hS : s.Corresponds P ρ υ t) (h : AlongBoth (exec P) (Discreet P) calls calls' s t) :
    written P calls s = written P calls' t := by
  have hstep : ∀ (c c' : Call) (s t : Machine ProvService), c.Corresponds P ρ υ c' →
      s.Corresponds P ρ υ t → Discreet P c c' s t →
        Matches (fun out out' ↦ out = out') (Machine.Corresponds P ρ υ) Eq
          (c.prog P s) (c'.prog P t) :=
    fun c c' s t hc hS h ↦
      prog_matches .eq hI.identifiers hP hc hS (Discreet.alike hP hI hc.rel hS h)
  exact (runs_match .eq (fun _ _ ↦ restarted_corresponds) hstep hcalls hS h).1

/-! ## Two VINs -/

theorem Env.Corresponds.refl (hrefl : ∀ u, υ u u) (env : Env) : env.Corresponds υ env :=
  ⟨rfl, fun _ ↦ hrefl _, rfl, rfl, rfl, fun _ ↦ .same _, rfl⟩

/-- The sample VIN in one run, the other VIN in the other. -/
def twoVins (v v' : Bytes) : Prop := v = sampleVin ∧ v' = otherVin

theorem interchangeable_twoVins : Interchangeable textPlatform twoVins Eq where
  vin_valid := by
    rintro v v' ⟨rfl, rfl⟩
    exact ⟨validate_sampleVin, validate_otherVin⟩
  vin_eq_iff := by
    rintro v v' w w' ⟨rfl, rfl⟩ ⟨rfl, rfl⟩
    exact iff_of_true rfl rfl
  vin_hash _ := rfl
  uid_hash huid := by rw [huid]

def failingEnv : Env := { sampleEnv with save := fun _ ↦ .failed none }

def startAndBind (env : Env) (vin : Bytes) : List Call :=
  [.initializeService sampleEnv, .binding .writeVin env vin]

theorem startAndBind_corresponds {env : Env} (hnever : ∀ n, NeverInvents P (env.save n)) :
    List.Forall₂ (Call.Corresponds P twoVins Eq) (startAndBind env sampleVin)
      (startAndBind env otherVin) := by
  have hrefl : ∀ env : Env, env.Corresponds Eq env := Env.Corresponds.refl fun _ ↦ rfl
  exact .cons ⟨.initializeService (hrefl _), trivial, trivial, trivial⟩
    (.cons ⟨.binding .writeVin (hrefl _) ⟨rfl, rfl⟩, rfl, hnever, hnever⟩ .nil)

theorem fresh_corresponds (config : ProvServiceConfig) :
    (fresh config Disk.empty).Corresponds P ρ υ (fresh config Disk.empty) :=
  ⟨rfl, fun _ _ ↦ rfl, .none⟩

/-- Two failing writes of different VINs write the same. -/
theorem written_eq_of_discreet_sample :
    written textPlatform (startAndBind failingEnv sampleVin) (fresh {} Disk.empty) =
      written textPlatform (startAndBind failingEnv otherVin) (fresh {} Disk.empty) := by
  refine written_eq_of_discreet textPlatform_lawful interchangeable_twoVins
    (startAndBind_corresponds ?_) (fresh_corresponds {}) ⟨trivial, ?_, trivial⟩
  · simp [NeverInvents, failingEnv]
  · have hfails : ¬ GetsToReadBack textPlatform .writeVin failingEnv sampleVin
        (exec textPlatform (.initializeService sampleEnv) (fresh {} Disk.empty)) := by
      intro h
      have hfirst := h.first
      cases hfirst
    exact ⟨fun _ _ _ _ ↦ rfl, fun h ↦ absurd h hfails, fun h ↦ absurd h hfails,
      fun _ _ ↦ ⟨fun _ ↦ utf8_sampleUid, fun _ ↦ utf8_sampleUid⟩⟩

/-- Reading a stored binding prints its VIN. -/
theorem readVehicleBinding_prints {s : Machine ProtectedStorageImpl} {binding : VehicleBinding}
    (h : bindingIn P (s.disk .binding) = some binding) :
    (ProtectedStorageImpl.readVehicleBinding P s).out.getLast? = some (.stdout
      (bytes "[storage] deserialize ok, vin=\"" ++ binding.vin ++ bytes "\"")) := by
  unfold bindingIn recordIn at h
  unfold ProtectedStorageImpl.readVehicleBinding
  rcases hload : loaded P (s.disk .binding) with e | _ | data
  · simp [hload] at h
  · simp [hload] at h
  · cases hread : deserializeBinding P data with
    | error e => simp [hload, hread, Except.toOption] at h
    | ok result =>
        simp only [hload, hread, Except.toOption, Option.some.injEq] at h
        subst h
        simp [hload, hread, List.getLast?_cons, List.getLast?_append]

theorem readVin_prints (hinit : s.mem.initialized = true) {binding : VehicleBinding}
    (h : bindingIn P (s.disk .binding) = some binding) :
    (Call.readVin.prog P s).out.getLast? = some (.stdout
      (bytes "[storage] deserialize ok, vin=\"" ++ binding.vin ++ bytes "\"")) := by
  have hout : (Call.readVin.prog P s).out =
      (ProtectedStorageImpl.readVehicleBinding P ⟨s.disk, s.mem.storage⟩).out := by
    simp [Call.prog, uncoded, readVin, hinit, onStorage, h]
  rw [hout]
  exact readVehicleBinding_prints h

theorem written_append (calls calls' : List Call) (s : Machine ProvService) :
    written P (calls ++ calls') s =
      written P calls s ++ written P calls' (run (exec P) calls s) :=
  outputs_append (Call.prog P) restarted calls calls' s

theorem written_singleton (c : Call) (s : Machine ProvService) :
    written P [c] s = (c.prog P s).out := List.append_nil _

/-- A run that binds a VIN and reads it ends with the VIN on stdout. -/
theorem written_readVin {vin : Bytes} (hvin : VinValidator.validate vin = true) :
    (written textPlatform (startAndBind sampleEnv vin ++ [.readVin])
      (fresh {} Disk.empty)).getLast? = some (.stdout
        (bytes "[storage] deserialize ok, vin=\"" ++ vin ++ bytes "\"")) := by
  have hbinds : Binds textPlatform sampleEnv vin (started {}) .writeVin :=
    ⟨admits_started {} hvin .writeVin, rfl, utf8_sampleUid, rfl⟩
  obtain ⟨-, hbound⟩ := exec_binds textPlatform_lawful hbinds fun _ ↦ rfl
  have hend : run (exec textPlatform) (startAndBind sampleEnv vin) (fresh {} Disk.empty) =
      exec textPlatform (.binding .writeVin sampleEnv vin) (started {}) := by
    rw [startAndBind, run_cons, run_cons, run_nil, exec_initialize_empty {} rfl]
  rw [written_append, written_singleton, hend, List.getLast?_append,
    readVin_prints (hbound.service.1.trans rfl) hbound.binding, (boundRecord_reread _ _ _ _).1]
  rfl

/-- The VIN that is read shows on stdout. -/
theorem vin_printed :
    Interchangeable textPlatform twoVins Eq ∧
      List.Forall₂ (Call.Corresponds textPlatform twoVins Eq)
        (startAndBind sampleEnv sampleVin ++ [.readVin])
        (startAndBind sampleEnv otherVin ++ [.readVin]) ∧
      written textPlatform (startAndBind sampleEnv sampleVin ++ [.readVin])
          (fresh {} Disk.empty) ≠
        written textPlatform (startAndBind sampleEnv otherVin ++ [.readVin])
          (fresh {} Disk.empty) := by
  refine ⟨interchangeable_twoVins, ?_, fun h ↦ ?_⟩
  · refine List.rel_append (startAndBind_corresponds fun _ ↦ ?_)
      (.cons ⟨.readVin, trivial, trivial, trivial⟩ .nil)
    simp [NeverInvents, sampleEnv]
  · have hlast := congrArg List.getLast? h
    rw [written_readVin validate_sampleVin, written_readVin validate_otherVin] at hlast
    have hline := Output.stdout.inj (Option.some.inj hlast)
    have hvin : sampleVin = otherVin :=
      List.append_cancel_left (List.append_cancel_right hline)
    exact absurd hvin (by decide)

end TboxProv.ProvService
