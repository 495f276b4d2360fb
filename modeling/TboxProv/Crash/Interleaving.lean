import Mathlib.Data.List.ReduceOption
import Mathlib.Logic.Function.Basic
import Mathlib.Logic.Equiv.Defs
import TboxProv.Crash.Resumption
import TboxProv.Crash.Trace

/-!
# Processes over a shared state

Every process has a memory of its own, and all of them have one state in common.  A process
takes one call at a time and runs it in steps, and the steps of the processes interleave in
any order.  A process that is killed loses its memory and its call, not what its steps have
done to the shared state.
-/

namespace Crash.Interleaving

open Resumption

/-- A process, with the call that it is in and what is left of it. -/
structure Session (κ σ ω α μ : Type) where
  own : μ
  pending : Option (κ × Resumption σ ω α) := none

structure World (ι κ σ ω α δ μ : Type) where
  shared : δ
  session : ι → Session κ σ ω α μ

inductive Event (ι κ : Type)
  | call (i : ι) (c : κ)
  | advance (i : ι)
  | restart (i : ι)

/-- What is seen of a process from outside. -/
inductive Seen (ι κ α : Type)
  | called (i : ι) (c : κ)
  | answered (i : ι) (c : κ) (a : α)
  | restarted (i : ι)

variable {ι κ σ ω α δ μ : Type}

def Event.process : Event ι κ → ι
  | .call i _ | .advance i | .restart i => i

/-- What the program of a process works on. -/
def World.view (e : σ ≃ δ × μ) (w : World ι κ σ ω α δ μ) (i : ι) : σ :=
  e.symm (w.shared, (w.session i).own)

section Step

variable [DecidableEq ι]

def World.set (w : World ι κ σ ω α δ μ) (i : ι) (d : δ) (session : Session κ σ ω α μ) :
    World ι κ σ ω α δ μ :=
  ⟨d, Function.update w.session i session⟩

variable (e : σ ≃ δ × μ) (script : κ → Resumption σ ω α) (reboot : μ → μ)

/-- A process that has just ended its call, or has been killed in it. -/
def World.advanced (w : World ι κ σ ω α δ μ) (i : ι) (c : κ)
    (x : Outcome σ ω (Resumption σ ω α)) : Option (Seen ι κ α) × World ι κ σ ω α δ μ :=
  match x.val with
  | none => (some (.restarted i), w.set i (e x.state).1 ⟨reboot (e x.state).2, none⟩)
  | some r => (none, w.set i (e x.state).1 ⟨(e x.state).2, some (c, r)⟩)

def step : Event ι κ → World ι κ σ ω α δ μ → Option (Seen ι κ α) × World ι κ σ ω α δ μ
  | .call i c, w =>
      match (w.session i).pending with
      | some _ => (none, w)
      | none => (some (.called i c), w.set i w.shared ⟨(w.session i).own, some (c, script c)⟩)
  | .advance i, w =>
      match (w.session i).pending with
      | none => (none, w)
      | some (c, .done a) => (some (.answered i c a), w.set i w.shared ⟨(w.session i).own, none⟩)
      | some (c, .step p) => w.advanced e reboot i c (p (w.view e i))
  | .restart i, w =>
      (some (.restarted i), w.set i w.shared ⟨reboot (w.session i).own, none⟩)

end Step

section Equations

variable [DecidableEq ι] {e : σ ≃ δ × μ} {script : κ → Resumption σ ω α} {reboot : μ → μ}
  {w : World ι κ σ ω α δ μ} {i j : ι} {c : κ} {d : δ} {session : Session κ σ ω α μ}

@[simp] theorem set_shared : (w.set i d session).shared = d := rfl

@[simp] theorem set_session_self : (w.set i d session).session i = session :=
  Function.update_self ..

theorem set_session_of_ne (h : j ≠ i) : (w.set i d session).session j = w.session j :=
  Function.update_of_ne h ..

@[simp] theorem view_set_self : (w.set i d session).view e i = e.symm (d, session.own) := by
  rw [World.view, set_shared, set_session_self]

theorem step_call_idle (h : (w.session i).pending = none) :
    step e script reboot (.call i c) w =
      (some (.called i c), w.set i w.shared ⟨(w.session i).own, some (c, script c)⟩) := by
  simp only [step, h]

theorem step_call_busy {x : κ × Resumption σ ω α} (h : (w.session i).pending = some x) :
    step e script reboot (.call i c) w = (none, w) := by
  simp only [step, h]

theorem step_advance_idle (h : (w.session i).pending = none) :
    step e script reboot (.advance i) w = (none, w) := by
  simp only [step, h]

theorem step_advance_done {a : α} (h : (w.session i).pending = some (c, .done a)) :
    step e script reboot (.advance i) w =
      (some (.answered i c a), w.set i w.shared ⟨(w.session i).own, none⟩) := by
  simp only [step, h]

theorem step_advance_step {p : σ → Outcome σ ω (Resumption σ ω α)}
    (h : (w.session i).pending = some (c, .step p)) :
    step e script reboot (.advance i) w = w.advanced e reboot i c (p (w.view e i)) := by
  simp only [step, h]

theorem answered_cases {ev : Event ι κ} {a : α}
    (h : (step e script reboot ev w).1 = some (.answered i c a)) :
    ev = .advance i ∧ (w.session i).pending = some (c, .done a) := by
  cases ev with
  | call j c' =>
      cases hpending : (w.session j).pending with
      | none => rw [step_call_idle hpending] at h; cases h
      | some x => rw [step_call_busy hpending] at h; cases h
  | restart j => cases h
  | advance j =>
      rcases hpending : (w.session j).pending with _ | ⟨c', a' | p⟩
      · rw [step_advance_idle hpending] at h
        cases h
      · rw [step_advance_done hpending] at h
        cases h
        exact ⟨rfl, hpending⟩
      · rw [step_advance_step hpending, World.advanced] at h
        split at h <;> cases h

/-- A process leaves the others their memories. -/
theorem step_session_of_ne {ev : Event ι κ} (h : j ≠ ev.process) :
    (step e script reboot ev w).2.session j = w.session j := by
  cases ev with
  | call i c =>
      cases hpending : (w.session i).pending with
      | none => rw [step_call_idle hpending]; exact set_session_of_ne h
      | some x => rw [step_call_busy hpending]
  | restart i => exact set_session_of_ne h
  | advance i =>
      rcases hpending : (w.session i).pending with _ | ⟨c, a | p⟩
      · rw [step_advance_idle hpending]
      · rw [step_advance_done hpending]
        exact set_session_of_ne h
      · rw [step_advance_step hpending, World.advanced]
        cases (p (w.view e i)).val <;> exact set_session_of_ne h

end Equations

/-! ## Contracts -/

/-- What a process is asked, what it does to the shared state, what holds of its memory,
what holds between two calls, and what holds when a call is answered. -/
structure Contract (κ σ α δ μ : Type) where
  asks : κ → Prop
  guar : δ → δ → Prop
  always : μ → Prop
  idle : σ → Prop
  post : κ → α → σ → Prop

section Contracts

variable (C : Contract κ σ α δ μ) (e : σ ≃ δ × μ) (R : δ → δ → Prop)

/-- What the others may do between two steps of a process. -/
def Others (s t : σ) : Prop := (e t).2 = (e s).2 ∧ R (e s).1 (e t).1

/-- What is left of a call keeps to the contract. -/
def Contract.Fulfils (c : κ) (r : Resumption σ ω α) (s : σ) : Prop :=
  Holds (Others e R) (fun s t ↦ C.guar (e s).1 (e t).1 ∧ C.always (e t).2) (C.post c) r s

/-- A process keeps to the contract from now on. -/
structure Contract.Kept (w : World ι κ σ ω α δ μ) (i : ι) : Prop where
  own : C.always (w.session i).own
  asked : ∀ c r, (w.session i).pending = some (c, r) → C.asks c
  idle : (w.session i).pending = none → ∀ t, Others e R (w.view e i) t → C.idle t
  fulfils : ∀ c r, (w.session i).pending = some (c, r) →
    ∀ t, Others e R (w.view e i) t → C.Fulfils e R c r t

/-- Whatever is called keeps to the contract, as long as `J` holds of the shared state. -/
structure Contract.Sound (script : κ → Resumption σ ω α) (reboot : μ → μ) (J : δ → Prop) :
    Prop where
  refl : ∀ d, C.guar d d
  within : ∀ d d', C.guar d d' → R d d'
  call : ∀ c s, C.asks c → J (e s).1 → C.always (e s).2 → C.idle s → C.Fulfils e R c (script c) s
  answer : ∀ c a s, J (e s).1 → C.always (e s).2 → C.post c a s → C.idle s
  rebooted : ∀ m, C.always m → C.always (reboot m)
  reboot : ∀ s m, J (e s).1 → (e s).2 = reboot m → C.idle s

variable {C e R} {script : κ → Resumption σ ω α} {reboot : μ → μ} {J : δ → Prop}
  {w : World ι κ σ ω α δ μ} {i j : ι} {ev : Event ι κ}

variable [DecidableEq ι]

/-- Of what the others do only the change of the shared state is noticed. -/
theorem Contract.Kept.other (htrans : ∀ {d d' d''}, R d d' → R d' d'' → R d d'')
    (h : C.Kept e R w j) (hne : j ≠ ev.process)
    (hR : R w.shared (step e script reboot ev w).2.shared) :
    C.Kept e R (step e script reboot ev w).2 j := by
  have hsession : (step e script reboot ev w).2.session j = w.session j := step_session_of_ne hne
  have hseen : ∀ t, Others e R ((step e script reboot ev w).2.view e j) t →
      Others e R (w.view e j) t := by
    intro t ht
    rw [World.view, hsession] at ht
    refine ⟨by simpa [World.view] using ht.1, ?_⟩
    have hrest : R (step e script reboot ev w).2.shared (e t).1 := by simpa using ht.2
    simpa [World.view] using htrans hR hrest
  constructor
  · rw [hsession]
    exact h.own
  · intro c r hpending
    rw [hsession] at hpending
    exact h.asked c r hpending
  · intro hpending t ht
    rw [hsession] at hpending
    exact h.idle hpending t (hseen t ht)
  · intro c r hpending t ht
    rw [hsession] at hpending
    exact h.fulfils c r hpending t (hseen t ht)

theorem Contract.Kept.set_idle {d : δ} {m : μ} (hown : C.always m)
    (h : ∀ t, Others e R (e.symm (d, m)) t → C.idle t) :
    C.Kept e R (w.set i d ⟨m, none⟩) i := by
  constructor
  · rw [set_session_self]
    exact hown
  · intro c r hpending
    rw [set_session_self] at hpending
    cases hpending
  · intro _ t ht
    rw [view_set_self] at ht
    exact h t ht
  · intro c r hpending
    rw [set_session_self] at hpending
    cases hpending

theorem Contract.Kept.set_pending {d : δ} {m : μ} {c : κ} {r : Resumption σ ω α}
    (hasks : C.asks c) (hown : C.always m)
    (h : ∀ t, Others e R (e.symm (d, m)) t → C.Fulfils e R c r t) :
    C.Kept e R (w.set i d ⟨m, some (c, r)⟩) i := by
  constructor
  · rw [set_session_self]
    exact hown
  · intro c' r' hpending
    rw [set_session_self] at hpending
    obtain ⟨rfl, -⟩ := Prod.mk.inj (Option.some.inj hpending)
    exact hasks
  · intro hpending
    rw [set_session_self] at hpending
    cases hpending
  · intro c' r' hpending t ht
    rw [set_session_self] at hpending
    rw [view_set_self] at ht
    obtain ⟨rfl, rfl⟩ := Prod.mk.inj (Option.some.inj hpending)
    exact h t ht

section Own

variable (hC : C.Sound e R script reboot J) (hJ : ∀ {d d'}, R d d' → J d → J d')
include hC hJ

theorem Contract.Kept.set_rebooted {d : δ} {m : μ} (hd : J d) (hm : C.always m) :
    C.Kept e R (w.set i d ⟨reboot m, none⟩) i := by
  refine .set_idle (hC.rebooted m hm) fun t ht ↦
    hC.reboot t m (hJ ht.2 (by simpa using hd)) ?_
  simpa using ht.1

theorem Contract.Kept.advanced {c : κ} {p : σ → Outcome σ ω (Resumption σ ω α)}
    (hshared : J w.shared) (hasks : C.asks c) (h : C.Fulfils e R c (.step p) (w.view e i)) :
    C.guar w.shared (w.advanced e reboot i c (p (w.view e i))).2.shared ∧
      C.Kept e R (w.advanced e reboot i c (p (w.view e i))).2 i := by
  cases h with
  | step hstep hrest =>
      obtain ⟨hguar, hown⟩ := hstep
      have hguar' : C.guar w.shared (e (p (w.view e i)).state).1 := by
        simpa [World.view] using hguar
      rw [World.advanced]
      cases hval : (p (w.view e i)).val with
      | none => exact ⟨hguar', set_rebooted hC hJ (hJ (hC.within _ _ hguar') hshared) hown⟩
      | some r =>
          refine ⟨hguar', .set_pending hasks hown fun t ht ↦ hrest r hval t ?_⟩
          have hback : Others e R (e.symm (e (p (w.view e i)).state)) t := ht
          rwa [e.symm_apply_apply] at hback

/-- A process that keeps to its contract goes on to do so, and answers accordingly. -/
theorem Contract.Kept.after_step (hrefl : ∀ d, R d d) (hshared : J w.shared)
    (hok : ∀ i c, ev = .call i c → C.asks c) (h : C.Kept e R w ev.process) :
    C.guar w.shared (step e script reboot ev w).2.shared ∧
      C.Kept e R (step e script reboot ev w).2 ev.process ∧
        ∀ j c a, (step e script reboot ev w).1 = some (.answered j c a) →
          j = ev.process ∧ C.asks c ∧ C.post c a (w.view e j) := by
  have hself : ∀ i, Others e R (w.view e i) (w.view e i) := fun i ↦ ⟨rfl, hrefl _⟩
  have hJ' : ∀ {i t}, Others e R (w.view e i) t → J (e t).1 := by
    intro i t ht
    exact hJ ht.2 (by simpa [World.view] using hshared)
  have hown : ∀ {t}, Others e R (w.view e ev.process) t → C.always (e t).2 := by
    intro t ht
    rw [ht.1, World.view, e.apply_symm_apply]
    exact h.own
  have hanswer : ∀ j c a, (step e script reboot ev w).1 = some (.answered j c a) →
      j = ev.process ∧ C.asks c ∧ C.post c a (w.view e j) := by
    intro j c a hseen
    obtain ⟨rfl, hpending⟩ := answered_cases hseen
    cases h.fulfils c _ hpending _ (hself j) with
    | done hpost => exact ⟨rfl, h.asked c _ hpending, hpost⟩
  refine and_assoc.1 ⟨?_, hanswer⟩
  cases ev with
  | call i c =>
      cases hpending : (w.session i).pending with
      | some x =>
          rw [step_call_busy hpending]
          exact ⟨hC.refl _, h⟩
      | none =>
          rw [step_call_idle hpending]
          refine ⟨hC.refl _, .set_pending (hok i c rfl) h.own fun t ht ↦ ?_⟩
          exact hC.call c t (hok i c rfl) (hJ' ht) (hown ht) (h.idle hpending t ht)
  | restart i => exact ⟨hC.refl _, set_rebooted hC hJ hshared h.own⟩
  | advance i =>
      rcases hpending : (w.session i).pending with _ | ⟨c, a | p⟩
      · rw [step_advance_idle hpending]
        exact ⟨hC.refl _, h⟩
      · rw [step_advance_done hpending]
        refine ⟨hC.refl _, .set_idle h.own fun t ht ↦ ?_⟩
        cases h.fulfils c _ hpending t ht with
        | done hpost => exact hC.answer c a t (hJ' ht) (hown ht) hpost
      · rw [step_advance_step hpending]
        exact advanced hC hJ hshared (h.asked c _ hpending) (h.fulfils c _ hpending _ (hself i))

end Own

/-! ## All together -/

/-- Where every process keeps to the contract, each step keeps the others to it. -/
theorem Contract.Sound.kept_step (hC : C.Sound e R script reboot J)
    (hJ : ∀ {d d'}, R d d' → J d → J d') (hrefl : ∀ d, R d d)
    (htrans : ∀ {d d' d''}, R d d' → R d' d'' → R d d'') (hshared : J w.shared)
    (hok : ∀ i c, ev = .call i c → C.asks c) (h : ∀ i, C.Kept e R w i) :
    R w.shared (step e script reboot ev w).2.shared ∧
      (∀ i, C.Kept e R (step e script reboot ev w).2 i) ∧
        ∀ i c a, (step e script reboot ev w).1 = some (.answered i c a) →
          C.asks c ∧ C.post c a (w.view e i) := by
  obtain ⟨hguar, hown, hpost⟩ := (h ev.process).after_step hC hJ hrefl hshared hok
  have hR := hC.within _ _ hguar
  refine ⟨hR, fun i ↦ ?_, fun i c a hseen ↦ (hpost i c a hseen).2⟩
  by_cases hi : i = ev.process
  · subst hi
    exact hown
  · exact (h i).other htrans hi hR

/-- However the steps interleave, the shared state moves within `R` and every answer is as
the contract says it is. -/
theorem Contract.Sound.kept_trace (hC : C.Sound e R script reboot J)
    (hJ : ∀ {d d'}, R d d' → J d → J d') (hrefl : ∀ d, R d d)
    (htrans : ∀ {d d' d''}, R d d' → R d' d'' → R d d'') {events : List (Event ι κ)}
    (hok : ∀ i c, .call i c ∈ events → C.asks c) (hshared : J w.shared)
    (h : ∀ i, C.Kept e R w i) :
    R w.shared (trace (step e script reboot) events w).2.shared ∧
      (∀ i, C.Kept e R (trace (step e script reboot) events w).2 i) ∧
        ∀ i c a, some (.answered i c a) ∈ (trace (step e script reboot) events w).1 →
          C.asks c ∧ ∃ s, R w.shared (e s).1 ∧ C.post c a s := by
  induction events generalizing w with
  | nil => exact ⟨hrefl _, h, fun i c a hmem ↦ absurd hmem List.not_mem_nil⟩
  | cons ev events ih =>
      have hfirst : ∀ i c, ev = .call i c → C.asks c := by
        rintro i c rfl
        exact hok i c List.mem_cons_self
      obtain ⟨hR, hkept, hpost⟩ := hC.kept_step hJ hrefl htrans hshared hfirst h
      obtain ⟨hR', hkept', hpost'⟩ := ih
        (fun i c hmem ↦ hok i c (List.mem_cons_of_mem ev hmem)) (hJ hR hshared) hkept
      rw [trace_cons]
      refine ⟨htrans hR hR', hkept', fun i c a hmem ↦ ?_⟩
      rcases List.mem_cons.1 hmem with hmem | hmem
      · obtain ⟨hasks, hnow⟩ := hpost i c a hmem.symm
        refine ⟨hasks, w.view e i, ?_, hnow⟩
        simpa [World.view] using hrefl w.shared
      · obtain ⟨hasks, s, hs, hlater⟩ := hpost' i c a hmem
        exact ⟨hasks, s, htrans hR hs, hlater⟩

end Contracts

/-! ## A process alone -/

section Alone

variable [DecidableEq ι] {e : σ ≃ δ × μ} {script : κ → Resumption σ ω α} {reboot : μ → μ}
  {w : World ι κ σ ω α δ μ} {i : ι} {c : κ}

/-- What a whole call makes of the world, and what is seen of it. -/
def World.after (e : σ ≃ δ × μ) (reboot : μ → μ) (w : World ι κ σ ω α δ μ) (i : ι) (c : κ)
    (x : Outcome σ ω α) : Seen ι κ α × World ι κ σ ω α δ μ :=
  match x.val with
  | none => (.restarted i, w.set i (e x.state).1 ⟨reboot (e x.state).2, none⟩)
  | some a => (.answered i c a, w.set i (e x.state).1 ⟨(e x.state).2, none⟩)

theorem set_set {d d' : δ} {session session' : Session κ σ ω α μ} :
    (w.set i d session).set i d' session' = w.set i d' session' := by
  rw [World.set, World.set, World.set, Function.update_idem]

theorem after_set {d : δ} {session : Session κ σ ω α μ} {x : Outcome σ ω α} :
    (w.set i d session).after e reboot i c x = w.after e reboot i c x := by
  unfold World.after
  cases x.val <;> simp only [set_set]

/-- A process that is not disturbed in its call does what the whole call does. -/
theorem exists_alone {r : Resumption σ ω α} (h : (w.session i).pending = some (c, r)) :
    ∃ n, ((trace (step e script reboot) (List.replicate n (.advance i)) w).1.reduceOption,
        (trace (step e script reboot) (List.replicate n (.advance i)) w).2) =
      ([(w.after e reboot i c (r.prog (w.view e i))).1],
        (w.after e reboot i c (r.prog (w.view e i))).2) := by
  induction r generalizing w with
  | done a =>
      refine ⟨1, ?_⟩
      rw [List.replicate_one, trace_cons, step_advance_done h, trace_nil,
        List.reduceOption_singleton]
      simp [World.after, World.view]
  | step p ih =>
      cases hval : (p (w.view e i)).val with
      | none =>
          refine ⟨1, ?_⟩
          rw [List.replicate_one, trace_cons, step_advance_step h, trace_nil,
            List.reduceOption_singleton]
          simp [World.advanced, World.after, hval]
      | some r =>
          have hnext : step e script reboot (.advance i) w = (none, w.set i
              (e (p (w.view e i)).state).1 ⟨(e (p (w.view e i)).state).2, some (c, r)⟩) := by
            rw [step_advance_step h, World.advanced, hval]
          have hview : (w.set i (e (p (w.view e i)).state).1
              ⟨(e (p (w.view e i)).state).2, some (c, r)⟩).view e i = (p (w.view e i)).state := by
            rw [view_set_self]
            exact e.symm_apply_apply _
          have hpending : ((w.set i (e (p (w.view e i)).state).1
              ⟨(e (p (w.view e i)).state).2, some (c, r)⟩).session i).pending = some (c, r) := by
            rw [set_session_self]
          obtain ⟨n, hrest⟩ := ih (w.view e i) r hval hpending
          rw [hview, after_set] at hrest
          refine ⟨n + 1, ?_⟩
          rw [List.replicate_succ, trace_cons, hnext, List.reduceOption_cons_of_none, hrest]
          simp [World.after, hval]

end Alone

end Crash.Interleaving
