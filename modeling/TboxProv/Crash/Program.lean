import Mathlib.Data.Option.Basic

/-!
# Programs that may be killed

A program runs on a state, writes output, and either returns a value or is
killed on the way.  In both cases the state it got to is kept, so that a crash
leaves exactly the effects of the steps taken before it.
-/

namespace Crash

/-- What one execution leaves behind; no value means the process was killed. -/
@[ext]
structure Outcome (σ ω α : Type) where
  val : Option α
  state : σ
  out : List ω

def Prog (σ ω α : Type) := σ → Outcome σ ω α

namespace Prog

variable {σ τ ω α β : Type}

instance : Monad (Prog σ ω) where
  pure a := fun s ↦ ⟨some a, s, []⟩
  bind p f := fun s ↦
    match p s with
    | ⟨none, s', out⟩ => ⟨none, s', out⟩
    | ⟨some a, s', out⟩ => ⟨(f a s').val, (f a s').state, out ++ (f a s').out⟩

def get : Prog σ ω σ := fun s ↦ ⟨some s, s, []⟩

def modify (f : σ → σ) : Prog σ ω Unit := fun s ↦ ⟨some (), f s, []⟩

def emit (o : ω) : Prog σ ω Unit := fun s ↦ ⟨some (), s, [o]⟩

/-- One indivisible update of the state that may also end the process. -/
def atomically (f : σ → Option α × σ) : Prog σ ω α := fun s ↦ ⟨(f s).1, (f s).2, []⟩

def zoom (part : σ → τ) (put : τ → σ → σ) (p : Prog τ ω α) : Prog σ ω α := fun s ↦
  ⟨(p (part s)).val, put (p (part s)).state s, (p (part s)).out⟩

section Equations

variable (p : Prog σ ω α) (f : α → Prog σ ω β) (s : σ)

@[simp] theorem pure_val (a : α) : ((pure a : Prog σ ω α) s).val = some a := rfl

@[simp] theorem pure_state (a : α) : ((pure a : Prog σ ω α) s).state = s := rfl

@[simp] theorem pure_out (a : α) : ((pure a : Prog σ ω α) s).out = [] := rfl

@[simp] theorem bind_val :
    ((p >>= f) s).val = (p s).val.bind fun a ↦ (f a (p s).state).val := by
  change (match p s with
    | ⟨none, s', out⟩ => (⟨none, s', out⟩ : Outcome σ ω β)
    | ⟨some a, s', out⟩ => ⟨(f a s').val, (f a s').state, out ++ (f a s').out⟩).val = _
  rcases p s with ⟨_ | a, s', out⟩ <;> rfl

@[simp] theorem bind_state :
    ((p >>= f) s).state = (p s).val.elim (p s).state fun a ↦ (f a (p s).state).state := by
  change (match p s with
    | ⟨none, s', out⟩ => (⟨none, s', out⟩ : Outcome σ ω β)
    | ⟨some a, s', out⟩ => ⟨(f a s').val, (f a s').state, out ++ (f a s').out⟩).state = _
  rcases p s with ⟨_ | a, s', out⟩ <;> rfl

/-- A killed program has no further output. -/
@[simp] theorem bind_out :
    ((p >>= f) s).out = (p s).out ++ (p s).val.elim [] fun a ↦ (f a (p s).state).out := by
  change (match p s with
    | ⟨none, s', out⟩ => (⟨none, s', out⟩ : Outcome σ ω β)
    | ⟨some a, s', out⟩ => ⟨(f a s').val, (f a s').state, out ++ (f a s').out⟩).out = _
  rcases p s with ⟨_ | a, s', out⟩
  · exact (List.append_nil out).symm
  · rfl

theorem bind_pure_val (g : α → β) : ((p >>= fun a ↦ pure (g a)) s).val = (p s).val.map g := by
  rw [bind_val]
  cases (p s).val <;> rfl

theorem bind_pure_state (g : α → β) : ((p >>= fun a ↦ pure (g a)) s).state = (p s).state := by
  rw [bind_state]
  cases (p s).val <;> rfl

theorem bind_pure_out (g : α → β) : ((p >>= fun a ↦ pure (g a)) s).out = (p s).out := by
  rw [bind_out]
  cases (p s).val <;> simp

protected theorem pure_bind (a : α) : (pure a >>= f) = f a := by
  funext s
  apply Outcome.ext <;> simp

protected theorem bind_assoc {γ : Type} (g : β → Prog σ ω γ) :
    (p >>= f >>= g) = p >>= fun a ↦ f a >>= g := by
  funext s
  apply Outcome.ext
  · simp only [bind_val, bind_state]
    cases (p s).val <;> rfl
  · simp only [bind_val, bind_state]
    cases (p s).val <;> rfl
  · simp only [bind_val, bind_state, bind_out]
    cases (p s).val <;> simp

/-- Two functions of a result in a row are one. -/
theorem bind_pure_bind_pure {γ : Type} (g : α → β) (h : β → γ) :
    ((p >>= fun a ↦ pure (g a)) >>= fun b ↦ pure (h b)) = p >>= fun a ↦ pure (h (g a)) :=
  Prog.bind_assoc p _ _

@[simp] theorem get_val : (get s : Outcome σ ω σ).val = some s := rfl

@[simp] theorem get_state : (get s : Outcome σ ω σ).state = s := rfl

@[simp] theorem get_out : (get s : Outcome σ ω σ).out = [] := rfl

@[simp] theorem modify_val (g : σ → σ) : (modify g s : Outcome σ ω Unit).val = some () := rfl

@[simp] theorem modify_state (g : σ → σ) : (modify g s : Outcome σ ω Unit).state = g s := rfl

@[simp] theorem modify_out (g : σ → σ) : (modify g s : Outcome σ ω Unit).out = [] := rfl

@[simp] theorem emit_val (o : ω) : (emit o s).val = some () := rfl

@[simp] theorem emit_state (o : ω) : (emit o s).state = s := rfl

@[simp] theorem emit_out (o : ω) : (emit o s).out = [o] := rfl

@[simp] theorem atomically_val (g : σ → Option α × σ) :
    (atomically g s : Outcome σ ω α).val = (g s).1 := rfl

@[simp] theorem atomically_state (g : σ → Option α × σ) :
    (atomically g s : Outcome σ ω α).state = (g s).2 := rfl

@[simp] theorem atomically_out (g : σ → Option α × σ) :
    (atomically g s : Outcome σ ω α).out = [] := rfl

@[simp] theorem zoom_val (part : σ → τ) (put : τ → σ → σ) (q : Prog τ ω α) :
    (zoom part put q s).val = (q (part s)).val := rfl

@[simp] theorem zoom_state (part : σ → τ) (put : τ → σ → σ) (q : Prog τ ω α) :
    (zoom part put q s).state = put (q (part s)).state s := rfl

@[simp] theorem zoom_out (part : σ → τ) (put : τ → σ → σ) (q : Prog τ ω α) :
    (zoom part put q s).out = (q (part s)).out := rfl

@[simp] theorem ite_apply (c : Prop) [Decidable c] (q : Prog σ ω α) :
    (if c then p else q) s = if c then p s else q s := by
  split <;> rfl

end Equations

/-! ## Effects -/

/-- Every execution, completed or killed, leads from its start to a related state. -/
def Keeps (R : σ → σ → Prop) (p : Prog σ ω α) : Prop := ∀ s, R s (p s).state

namespace Keeps

variable {R : σ → σ → Prop} (hrefl : ∀ s, R s s) (htrans : ∀ {s t u}, R s t → R t u → R s u)

include hrefl in
theorem pure (a : α) : Keeps R (Pure.pure a : Prog σ ω α) := hrefl

include hrefl in
theorem get : Keeps R (Prog.get : Prog σ ω σ) := hrefl

include hrefl in
theorem emit (o : ω) : Keeps R (Prog.emit o : Prog σ ω Unit) := hrefl

include htrans in
theorem bind {p : Prog σ ω α} {f : α → Prog σ ω β} (hp : Keeps R p)
    (hf : ∀ a, Keeps R (f a)) : Keeps R (p >>= f) := by
  intro s
  rw [bind_state]
  cases (p s).val with
  | none => exact hp s
  | some a => exact htrans (hp s) (hf a _)

theorem ite {c : Prop} [Decidable c] {p q : Prog σ ω α} (hp : Keeps R p) (hq : Keeps R q) :
    Keeps R (if c then p else q) := by
  split
  · exact hp
  · exact hq

end Keeps

def ReadOnly (p : Prog σ ω α) : Prop := Keeps (fun s t ↦ t = s) p

namespace ReadOnly

theorem pure (a : α) : ReadOnly (Pure.pure a : Prog σ ω α) := fun _ ↦ rfl

theorem bind {p : Prog σ ω α} {f : α → Prog σ ω β} (hp : ReadOnly p)
    (hf : ∀ a, ReadOnly (f a)) : ReadOnly (p >>= f) :=
  Keeps.bind (R := fun s t ↦ t = s) (fun hst htu ↦ htu.trans hst) hp hf

theorem ite {c : Prop} [Decidable c] {p q : Prog σ ω α} (hp : ReadOnly p) (hq : ReadOnly q) :
    ReadOnly (if c then p else q) :=
  Keeps.ite hp hq

end ReadOnly

def Silent (p : Prog σ ω α) : Prop := ∀ s, (p s).out = []

namespace Silent

theorem pure (a : α) : Silent (Pure.pure a : Prog σ ω α) := fun _ ↦ rfl

theorem atomically (g : σ → Option α × σ) : Silent (Prog.atomically g : Prog σ ω α) :=
  fun _ ↦ rfl

theorem bind {p : Prog σ ω α} {f : α → Prog σ ω β} (hp : Silent p) (hf : ∀ a, Silent (f a)) :
    Silent (p >>= f) := by
  intro s
  rw [bind_out, hp s]
  cases (p s).val with
  | none => rfl
  | some a => exact hf a _

theorem ite {c : Prop} [Decidable c] {p q : Prog σ ω α} (hp : Silent p) (hq : Silent q) :
    Silent (if c then p else q) := by
  split
  · exact hp
  · exact hq

end Silent

end Prog

end Crash
