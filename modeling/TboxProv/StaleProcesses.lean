import TboxProv.Interleaved

/-!
# Processes with an old flag

A process keeps the protection flag that it has read when it opened the store.  Once the
store is protected, a process that opens it later changes nothing in it any more; one that
had it open already is told of one success of its binding calls at most.
-/

namespace TboxProv.ProvService

open Crash Store Interleaving

/-- A service that has the store open has its flag up. -/
def Tame (m : ProvService) : Prop := m.initialized = true → m.storage.writeProtected = true

namespace Call

def Writes : Call → Prop
  | .binding .. | .writeVehicleConfig .. | .writeProductionInfo .. => True
  | _ => False

/-- No failed read of the UID carries the code of a success. -/
def Telling : Call → Prop
  | .binding _ env _ => env.uid.Telling
  | _ => True

end Call

/-- A process changes nothing, and none of its writes succeeds. -/
def observing : Contract Call (Machine ProvService) Answer Disk ProvService where
  asks := Call.Telling
  guar disk disk' := disk' = disk
  always := Tame
  idle _ := True
  post c a _ := c.Writes → a ≠ .code .success

/-! ## One process -/

section Observing

variable {α β : Type} {P : Platform} {all : List Request} {s : Machine ProvService} {env : Env}
  {vin : Bytes} {post : α → Machine ProvService → Prop}

variable (P all) in
abbrev Observes (post : α → Machine ProvService → Prop) :
    ServiceSteps α → Machine ProvService → Prop :=
  Resumption.Holds (Among P all)
    (fun s t ↦ (parts t).1 = (parts s).1 ∧ Tame (parts t).2) post

theorem observes_read {p : ServiceAction β} {f : β → ServiceSteps α} (hstate : (p s).state = s)
    (hs : Tame s.mem)
    (hf : ∀ b t, (p s).val = some b → t.mem = s.mem → Observes P all post (f b) t) :
    Observes P all post (.call p >>= f) s := by
  refine .call_bind ⟨?_, ?_⟩ fun b hb t ht ↦ ?_
  · rw [hstate]
  · rw [hstate]
    exact hs
  · rw [hstate] at ht
    exact hf b t hb ht.mem

theorem observes_guarded {body : ServiceSteps ErrorCode}
    {post : ErrorCode → Machine ProvService → Prop} (hs : Tame s.mem)
    (hno : ∀ t, post .invalidState t)
    (hbody : ∀ t, t.mem = s.mem → t.mem.storage.writeProtected = true →
      Observes P all post body t) :
    Observes P all post
      (.call Prog.get >>= fun s ↦ if (!s.mem.initialized) = true then pure .invalidState
        else .call Prog.get >>= fun s ↦
          if s.mem.shuttingDown = true then pure .invalidState else body) s := by
  refine observes_read rfl hs fun b t hb ht ↦ ?_
  obtain rfl : s = b := Option.some.inj hb
  split
  case isTrue => exact .pure (hno t)
  case isFalse hinit =>
    have hflag : s.mem.storage.writeProtected = true := hs (by simpa using hinit)
    refine observes_read rfl (by rwa [ht]) fun b u _ hu ↦ ?_
    split
    · exact .pure (hno u)
    · exact hbody u (hu.trans ht) (by rw [hu, ht]; exact hflag)

theorem observes_establish (hflag : s.mem.storage.writeProtected = true) :
    Observes P all (fun code t ↦ code ≠ .success ∧ t.mem = s.mem)
      (establishBindingSteps P env vin env.uid.uid) s := by
  have htame : Tame s.mem := fun _ ↦ hflag
  refine observes_read (by simp) htame fun existing t _ ht ↦ ?_
  obtain ⟨hval, hstate⟩ := writeRecord_protected P t (env.save 0) .binding
    (serializeBinding P (newBinding env existing vin env.uid.uid))
    "Failed to write vehicle binding: " (by rw [ht]; exact hflag)
  refine observes_read hstate (by rwa [ht]) fun code u hcode hu ↦ ?_
  obtain rfl : .securityAccessNotGranted = code := Option.some.inj (hval.symm.trans hcode)
  exact .pure ⟨by decide, hu.trans ht⟩

theorem observes_flow (htelling : env.uid.Telling) (hflag : s.mem.storage.writeProtected = true) :
    Observes P all (fun code _ ↦ code ≠ .success) (executeVinBindingFlowSteps P env vin) s := by
  have htame : ∀ {t : Machine ProvService}, t.mem = s.mem → Tame t.mem := by
    intro t ht _
    rw [ht]
    exact hflag
  unfold executeVinBindingFlowSteps
  split
  case isTrue huid =>
    exact observes_read rfl (htame rfl) fun _ _ _ _ ↦ .pure (htelling (by simpa using huid))
  case isFalse =>
    refine (observes_establish hflag).bind fun code t ht ↦ ?_
    rw [if_pos ht.1]
    exact observes_read rfl (htame ht.2) fun _ _ _ _ ↦ .pure ht.1

theorem observes_binding (htelling : env.uid.Telling) (hs : Tame s.mem) (call : BindingCall) :
    Observes P all (fun code _ ↦ code ≠ .success) (call.steps P env vin) s := by
  cases call with
  | writeVin =>
      refine observes_guarded hs (fun _ ↦ by decide) fun t _ hflag ↦ ?_
      refine observes_read (by simp) (fun _ ↦ hflag) fun result u _ hu ↦ ?_
      split
      case isTrue hno => exact .pure hno
      case isFalse => exact observes_flow htelling (by rwa [hu])
  | authorizeRewrite =>
      refine observes_guarded hs (fun _ ↦ by decide) fun t _ hflag ↦ ?_
      refine observes_read (by simp) (fun _ ↦ hflag) fun result u _ hu ↦ ?_
      have hflag' : u.mem.storage.writeProtected = true := by rwa [hu]
      split
      case isTrue hno => exact .pure hno
      refine observes_read (by simp) (fun _ ↦ hflag') fun existing v _ hv ↦ ?_
      have hflag'' : v.mem.storage.writeProtected = true := by rwa [hv]
      cases existing with
      | none => exact observes_flow htelling hflag''
      | some binding =>
          dsimp only
          split
          · exact observes_read rfl (fun _ ↦ hflag'') fun _ _ _ _ ↦ .pure (by decide)
          · exact observes_flow htelling hflag''

/-- The other two writes ask for the flag themselves. -/
theorem observes_flagged {body : ServiceSteps ErrorCode} (hs : Tame s.mem) :
    Observes P all (fun code _ ↦ code ≠ .success)
      (.call Prog.get >>= fun s ↦ if (!s.mem.initialized) = true then pure .invalidState
        else .call Prog.get >>= fun s ↦ if s.mem.shuttingDown = true then pure .invalidState
          else .call (onStorage ProtectedStorageImpl.isWriteProtected) >>= fun locked ↦
            if locked = true then pure .securityAccessNotGranted else body) s := by
  refine observes_guarded hs (fun _ ↦ by decide) fun t _ hflag ↦ ?_
  refine observes_read (by simp) (fun _ ↦ hflag) fun locked u hlocked _ ↦ ?_
  rw [onStorage_isWriteProtected_val, hflag] at hlocked
  obtain rfl := Option.some.inj hlocked
  exact .pure (by decide)

theorem tame_initialize (hlocked : protectedIn P (s.disk .protection) = true)
    (hs : Tame s.mem) : Tame (initializeService P env s).state.mem := by
  cases hinit : s.mem.initialized with
  | true => rwa [(initializeService_again P env s hinit).2]
  | false =>
      by_cases hopen : Opens env s.disk
      · rw [(initializeService_opened P env s hinit hopen).2]
        exact fun _ ↦ hlocked
      · intro hon
        rw [(initializeService_closed P env s hinit hopen).2.2.1] at hon
        cases hon

theorem observing_call {c : Call} (htelling : c.Telling)
    (hlocked : protectedIn P (s.disk .protection) = true) (hs : Tame s.mem) :
    observing.Fulfils parts (Moves P all) c (c.steps P) s := by
  have hcoded : ∀ {r : ServiceSteps ErrorCode},
      Observes P all (fun code _ ↦ code ≠ .success) r s →
        Observes P all (fun a _ ↦ c.Writes → a ≠ .code .success)
          (do return Answer.code (← r)) s :=
    fun h ↦ h.bind fun code t hcode ↦ .pure fun _ ha ↦ hcode (Answer.code.inj ha)
  cases c with
  | binding call env vin => exact hcoded (observes_binding htelling hs call)
  | writeVehicleConfig env configData => exact hcoded (observes_flagged hs)
  | writeProductionInfo env info => exact hcoded (observes_flagged hs)
  | initializeService env =>
      refine .call_bind ⟨?_, tame_initialize hlocked hs⟩ fun _ _ _ _ ↦ .pure fun hno ↦ hno.elim
      exact (initializeService_keeps P env s).choose_spec.2.1
  | beginShutdown =>
      refine .call_bind ⟨?_, ?_⟩ fun _ _ _ _ ↦ .pure fun hno ↦ hno.elim
      · change (ProvService.beginShutdown s).state.disk = s.disk
        rw [beginShutdown_state]
      · change Tame (ProvService.beginShutdown s).state.mem
        rw [beginShutdown_state]
        exact hs
  | readVin | readBinding | getProvisionState | isInitialized =>
      exact observes_read (by simp) hs fun _ _ _ _ ↦ .pure fun hno ↦ hno.elim
  | restart => exact .call ⟨rfl, hs⟩ fun a ha ↦ by cases ha

theorem observing_sound :
    observing.Sound parts (Moves P all) (Call.steps P) rebooted
      fun disk ↦ (deviceIn P disk).locked = true where
  refl _ := rfl
  within disk disk' h := by
    rw [h]
    exact .refl disk
  call _ _ htelling hlocked hs _ := observing_call htelling hlocked hs
  answer _ _ _ _ _ _ := trivial
  rebooted _ _ hon := by cases hon
  reboot _ _ _ _ := trivial

end Observing

/-! ## All processes -/

section Processes

variable {ι : Type} [DecidableEq ι] {P : Platform} {all : List Request} {w : Processes ι}
  {quiet : ι → Prop}

/-- The process that is told of a success of a binding call. -/
def binder : Seen ι Call Answer → Option ι
  | .answered i (.binding ..) (.code .success) => some i
  | _ => none

omit [DecidableEq ι] in
theorem exists_of_binder {seen : Seen ι Call Answer} {i : ι} (h : binder seen = some i) :
    ∃ call env vin, seen = .answered i (.binding call env vin) (.code .success) := by
  unfold binder at h
  split at h
  · cases h
    exact ⟨_, _, _, rfl⟩
  · cases h

variable (P all) in
/-- Every process protects what it binds. -/
abbrev protecting : Contract Call (Machine ProvService) Answer Disk ProvService :=
  editing P all (fun c ↦ (c.WholeSaves ∧ c.request ∈ all) ∧ c.Telling) (fun _ ↦ True)
    fun config ↦ config.enableWriteProtection = true

variable (P all) in
/-- The store is protected, and the `quiet` processes change nothing any more. -/
structure Watched (w : Processes ι) (quiet : ι → Prop) : Prop where
  locked : (deviceIn P w.shared).locked = true
  kept : ∀ i, (protecting P all).Kept parts (Moves P all) w i
  quiet : ∀ i, quiet i → observing.Kept parts (Moves P all) w i

theorem locked_of_moves {disk disk' : Disk} (h : Moves P all disk disk')
    (hlocked : (deviceIn P disk).locked = true) : (deviceIn P disk').locked = true :=
  h.kept.locked hlocked

omit [DecidableEq ι] in
theorem observing_kept {i : ι} (hpending : (w.session i).pending = none)
    (hown : Tame (w.session i).own) : observing.Kept parts (Moves P all) w i := by
  have hidle : ∀ {c r}, (w.session i).pending ≠ some (c, r) := by
    intro c r hbusy
    rw [hpending] at hbusy
    cases hbusy
  exact ⟨hown, fun _ _ h ↦ absurd h hidle, fun _ _ _ ↦ trivial, fun _ _ h ↦ absurd h hidle⟩

theorem protecting_sound (hP : P.json.Lawful) :
    (protecting P all).Sound parts (Moves P all) (Call.steps P) rebooted fun _ ↦ True :=
  editing_sound (fun _ _ ↦ trivial) hP fun _ hc ↦ hc.1

section Step

variable {ev : Event ι Call} (hP : P.json.Lawful)
  (hok : ∀ i c, ev = .call i c → (c.WholeSaves ∧ c.request ∈ all) ∧ c.Telling)
include hP hok

theorem Watched.step (h : Watched P all w quiet) :
    Watched P all (processStep P ev w).2 quiet ∧
      (quiet ev.process → (processStep P ev w).2.shared = w.shared) := by
  have hquiet : ∀ i, quiet i → ev.process = i →
      (processStep P ev w).2.shared = w.shared ∧
        observing.Kept parts (Moves P all) (processStep P ev w).2 i := by
    rintro i hi rfl
    obtain ⟨hsame, hkept, -⟩ := (h.quiet _ hi).after_step observing_sound locked_of_moves .refl
      h.locked fun i c hc ↦ (hok i c hc).2
    exact ⟨hsame, hkept⟩
  obtain ⟨hmoves, hkept, -⟩ :=
    (protecting_sound hP).kept_step (fun _ _ ↦ trivial) .refl .trans trivial hok h.kept
  refine ⟨⟨locked_of_moves hmoves h.locked, hkept, fun i hi ↦ ?_⟩,
    fun hi ↦ (hquiet _ hi rfl).1⟩
  by_cases hprocess : ev.process = i
  · exact (hquiet i hi hprocess).2
  · exact (h.quiet i hi).other .trans (Ne.symm hprocess) hmoves

/-- A write that succeeds is not a quiet process's, and a binding call quiets its process. -/
theorem Watched.answered (h : Watched P all w quiet) {i : ι} {c : Call}
    (hseen : (processStep P ev w).1 = some (.answered i c (.code .success))) :
    (c.Writes → ¬ quiet i) ∧
      ∀ call env vin, c = .binding call env vin →
        Watched P all (processStep P ev w).2 fun j ↦ quiet j ∨ j = i := by
  constructor
  · intro hwrites hi
    obtain ⟨rfl, -⟩ := answered_cases hseen
    obtain ⟨-, -, hpost⟩ := (h.quiet i hi).after_step observing_sound locked_of_moves .refl
      h.locked fun i c hc ↦ (hok i c hc).2
    exact (hpost i c _ hseen).2.2 hwrites rfl
  · rintro call env vin rfl
    obtain ⟨hnext, -⟩ := h.step hP hok
    obtain ⟨-, -, hpost⟩ :=
      (protecting_sound hP).kept_step (fun _ _ ↦ trivial) .refl .trans trivial hok h.kept
    obtain ⟨⟨-, htelling⟩, -, hconfirms⟩ := hpost i _ _ hseen
    obtain ⟨hflag, -⟩ := hconfirms htelling rfl (h.kept i).own
    refine ⟨hnext.locked, hnext.kept, ?_⟩
    rintro j (hj | rfl)
    · exact hnext.quiet j hj
    obtain ⟨rfl, hpending⟩ := answered_cases hseen
    refine observing_kept ?_ fun _ ↦ ?_
    · rw [processStep, step_advance_done hpending, set_session_self]
    · rw [processStep, step_advance_done hpending, set_session_self]
      exact hflag

end Step

/-- No quiet process writes, and each of the others is told of one success at most. -/
theorem Watched.trace (hP : P.json.Lawful) (h : Watched P all w quiet)
    {events : List (Event ι Call)}
    (hok : ∀ i c, .call i c ∈ events → (c.WholeSaves ∧ c.request ∈ all) ∧ c.Telling) :
    ((trace (processStep P) events w).1.reduceOption.filterMap binder).Nodup ∧
      (∀ i c, .answered i c (.code .success) ∈ (trace (processStep P) events w).1.reduceOption →
        c.Writes → ¬ quiet i) ∧
        Along (fun ev w ↦ (processStep P ev w).2)
          (fun ev w ↦ quiet ev.process → (processStep P ev w).2.shared = w.shared) events w := by
  induction events generalizing w quiet with
  | nil => exact ⟨List.nodup_nil, fun i c hmem ↦ absurd hmem List.not_mem_nil, trivial⟩
  | cons ev events ih =>
      have hfirst : ∀ i c, ev = .call i c → (c.WholeSaves ∧ c.request ∈ all) ∧ c.Telling := by
        rintro i c rfl
        exact hok i c List.mem_cons_self
      have hrest : ∀ i c, .call i c ∈ events → (c.WholeSaves ∧ c.request ∈ all) ∧ c.Telling :=
        fun i c hmem ↦ hok i c (List.mem_cons_of_mem ev hmem)
      obtain ⟨hnext, hsame⟩ := h.step hP hfirst
      obtain ⟨hnodup, hquiet, halong⟩ := ih hnext hrest
      rw [trace_cons]
      cases hseen : (processStep P ev w).1 with
      | none =>
          rw [List.reduceOption_cons_of_none]
          exact ⟨hnodup, hquiet, hsame, halong⟩
      | some seen =>
          rw [List.reduceOption_cons_of_some]
          refine ⟨?_, ?_, hsame, halong⟩
          · cases hbinder : binder seen with
            | none => rwa [List.filterMap_cons_none hbinder]
            | some i =>
                obtain ⟨call, env, vin, rfl⟩ := exists_of_binder hbinder
                -- the process has become quiet, so it is not among the later ones
                have hquieted := (h.answered hP hfirst hseen).2 call env vin rfl
                obtain ⟨-, hlater, -⟩ := ih hquieted hrest
                rw [List.filterMap_cons_some hbinder]
                refine List.nodup_cons.2 ⟨fun hmem ↦ ?_, hnodup⟩
                obtain ⟨seen, hseen, hagain⟩ := List.mem_filterMap.1 hmem
                obtain ⟨call', env', vin', rfl⟩ := exists_of_binder hagain
                exact hlater i _ hseen trivial (.inr rfl)
          · intro i c hmem hwrites
            rcases List.mem_cons.1 hmem with rfl | hmem
            · exact (h.answered hP hfirst hseen).1 hwrites
            · exact hquiet i c hmem hwrites

end Processes

end TboxProv.ProvService
