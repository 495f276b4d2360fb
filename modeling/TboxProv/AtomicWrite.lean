import TboxProv.Json.Text
import TboxProv.Store

/-!
# Writing a file

`Store::atomic_write` writes a temporary file and renames it over the target.  The model has
every call that can fail or be the last one of the process; the state of the output stream
is kept, as the code keeps it, and like the code nothing here looks at it.
-/

namespace TboxProv.StoreFile

open Crash

/-- What is found at each path. -/
abbrev Files := Bytes → Entry

abbrev FileAction (α : Type) := Prog Files Output α

/-! ## The outside -/

inductive WriteStep where
  | named
  | opened
  | inserted
  | flushed
  | closed
  | renamed
  deriving DecidableEq

/-- Where inserted bytes go: to the buffer of the stream, or past it straight to the file, which
takes so many. -/
inductive Insertion where
  | buffered
  | direct (room : ℕ)
  deriving DecidableEq

/-- The outside of one call of `atomic_write`; the process can be killed after any step. -/
structure WriteOutcome where
  name : Throws (Fin 8 → Fin 16)
  opens : Bool
  insert : Insertion
  /-- How many bytes the file takes from the flush. -/
  flush : ℕ
  /-- How many bytes the file takes from the close. -/
  close : ℕ
  rename : Throws Unit
  killed : Option WriteStep

/-! ## The code -/

/-- `path` with eight random hexadecimal digits. -/
def tempPath (path : Bytes) (digits : Fin 8 → Fin 16) : Bytes :=
  path ++ bytes ".tmp." ++ (List.ofFn digits).map fun digit ↦ JsonText.hexDigit digit

/-- `std::ofstream`: its buffer, and the error bit. -/
structure OutStream where
  pending : Bytes := []
  bad : Bool := false

namespace OutStream

def appended (more : Bytes) : Entry → Entry
  | .file data => .file (data ++ more)
  | entry => entry

variable (temp : Bytes) (stream : OutStream)

/-- Whether the file has taken all of the bytes. -/
def put (room : ℕ) (more : Bytes) : FileAction Bool :=
  Prog.atomically fun files ↦
    (some (decide (more.length ≤ room)),
      Function.update files temp (appended (more.take room) (files temp)))

/-- `operator<<`; a bad stream takes nothing. -/
def insert (insertion : Insertion) (data : Bytes) : FileAction OutStream := do
  if stream.bad then return stream
  else
    match insertion with
    | .buffered => return { stream with pending := stream.pending ++ data }
    | .direct room =>
        if ← put temp room (stream.pending ++ data) then return { stream with pending := [] }
        else return { stream with bad := true }

/-- The buffer is emptied only when the file has taken all of it. -/
def flush (room : ℕ) : FileAction OutStream := do
  if stream.bad then return stream
  else if ← put temp room stream.pending then return { stream with pending := [] }
  else return { stream with bad := true }

/-- What is in the buffer is written out in a bad stream too, from its first byte on. -/
def close (room : ℕ) : FileAction Unit := do
  let _ ← put temp room stream.pending
  return ()

end OutStream

variable (outcome : WriteOutcome)

def survive (step : WriteStep) : FileAction Unit :=
  Prog.atomically fun files ↦ (if outcome.killed = some step then none else some (), files)

/-- The three calls on the stream. -/
def writeTemp (temp data : Bytes) : FileAction Unit := do
  let stream ← OutStream.insert temp {} outcome.insert data
  survive outcome .inserted
  let stream ← stream.flush temp outcome.flush
  survive outcome .flushed
  stream.close temp outcome.close
  survive outcome .closed

def openTemp (temp : Bytes) : FileAction Bool :=
  Prog.atomically fun files ↦
    if outcome.opens then (some true, Function.update files temp (.file []))
    else (some false, files)

/-- `std::filesystem::rename` -/
def rename (temp path : Bytes) : FileAction (Throws Unit) :=
  Prog.atomically fun files ↦
    match outcome.rename with
    | .ok _ =>
        (some (.ok ()),
          Function.update (Function.update files path (files temp)) temp .absent)
    | .error e => (some (.error e), files)

/-- The handler of `atomic_write`. -/
def writeFailed (e : Exception) : FileAction Bool := do
  Prog.emit (.stderr (bytes "Atomic write failed: " ++ e.what))
  return false

/-- `Store::atomic_write` -/
def atomicWrite (path data : Bytes) : FileAction Bool := do
  match outcome.name with
  | .error e => writeFailed e
  | .ok digits =>
      let temp := tempPath path digits
      survive outcome .named
      if !(← openTemp outcome temp) then return false
      else
        survive outcome .opened
        writeTemp outcome temp data
        match ← rename outcome temp path with
        | .error e => writeFailed e
        | .ok _ =>
            survive outcome .renamed
            return true

/-! ## The temporary file -/

section Stream

variable (temp : Bytes) (files : Files)

@[simp] theorem put_val (room : ℕ) (more : Bytes) :
    (OutStream.put temp room more files).val = some (decide (more.length ≤ room)) := rfl

@[simp] theorem put_state (room : ℕ) (more : Bytes) :
    (OutStream.put temp room more files).state =
      Function.update files temp (OutStream.appended (more.take room) (files temp)) := rfl

@[simp] theorem survive_val (step : WriteStep) :
    (survive outcome step files).val = if outcome.killed = some step then none else some () := rfl

@[simp] theorem survive_state (step : WriteStep) : (survive outcome step files).state = files :=
  rfl

end Stream

/-- Only what is at this path may change. -/
def Elsewhere (path : Bytes) (s t : Files) : Prop := ∀ q, q ≠ path → t q = s q

theorem Elsewhere.refl (path : Bytes) (s : Files) : Elsewhere path s s := fun _ _ ↦ rfl

theorem Elsewhere.trans {path : Bytes} {s t u : Files} (h : Elsewhere path s t)
    (h' : Elsewhere path t u) : Elsewhere path s u := fun q hq ↦ (h' q hq).trans (h q hq)

namespace WriteOutcome

/-- The bytes of the temporary file and the stream after the insertion. -/
def inserted (data : Bytes) : Bytes × OutStream :=
  match outcome.insert with
  | .buffered => ([], ⟨data, false⟩)
  | .direct room => (data.take room, ⟨[], !decide (data.length ≤ room)⟩)

/-- The same after the flush. -/
def flushed (data : Bytes) : Bytes × OutStream :=
  match outcome.insert with
  | .buffered =>
      if data.length ≤ outcome.flush then (data, {}) else (data.take outcome.flush, ⟨data, true⟩)
  | .direct _ => outcome.inserted data

/-- The bytes of the temporary file once the stream is closed: after a flush that has failed
the close starts over. -/
def written (data : Bytes) : Bytes :=
  match outcome.insert with
  | .buffered =>
      if data.length ≤ outcome.flush then data
      else data.take outcome.flush ++ data.take outcome.close
  | .direct room => data.take room

/-- The process is not killed while the stream is open. -/
def Closes : Prop :=
  outcome.killed ≠ some .inserted ∧ outcome.killed ≠ some .flushed ∧
    outcome.killed ≠ some .closed
  deriving Decidable

end WriteOutcome

section Calls

variable {temp data : Bytes} {files : Files}

variable (data) in
theorem insert_stored (hempty : files temp = .file []) :
    (OutStream.insert temp {} outcome.insert data files).val = some (outcome.inserted data).2 ∧
      (OutStream.insert temp {} outcome.insert data files).state temp =
        .file (outcome.inserted data).1 := by
  unfold OutStream.insert WriteOutcome.inserted
  cases outcome.insert with
  | buffered => exact ⟨rfl, hempty⟩
  | direct room =>
      by_cases hroom : data.length ≤ room <;> simp [hroom, hempty, OutStream.appended]

theorem flush_stored (h : files temp = .file (outcome.inserted data).1) :
    ((outcome.inserted data).2.flush temp outcome.flush files).val =
        some (outcome.flushed data).2 ∧
      ((outcome.inserted data).2.flush temp outcome.flush files).state temp =
        .file (outcome.flushed data).1 := by
  unfold WriteOutcome.inserted at h ⊢
  unfold OutStream.flush WriteOutcome.flushed WriteOutcome.inserted
  cases hinsert : outcome.insert with
  | buffered =>
      simp only [hinsert] at h ⊢
      by_cases hroom : data.length ≤ outcome.flush
      · simp [hroom, h, OutStream.appended, List.take_of_length_le hroom]
      · simp [hroom, h, OutStream.appended]
  | direct room =>
      simp only [hinsert] at h ⊢
      by_cases hroom : data.length ≤ room <;> simp [hroom, h, OutStream.appended]

/-- The close adds the buffer that the flush has left. -/
theorem flushed_append (data : Bytes) :
    (outcome.flushed data).1 ++ (outcome.flushed data).2.pending.take outcome.close =
      outcome.written data := by
  unfold WriteOutcome.flushed WriteOutcome.written WriteOutcome.inserted
  cases outcome.insert with
  | direct room => simp
  | buffered => by_cases hroom : data.length ≤ outcome.flush <;> simp [hroom]

theorem close_stored (h : files temp = .file (outcome.flushed data).1) :
    ((outcome.flushed data).2.close temp outcome.close files).val = some () ∧
      ((outcome.flushed data).2.close temp outcome.close files).state temp =
        .file (outcome.written data) := by
  refine ⟨rfl, ?_⟩
  simp only [OutStream.close, Prog.bind_pure_state, put_state, Function.update_self, h,
    OutStream.appended, flushed_append]

variable (temp data) in
/-- What is in the temporary file when the stream has been closed. -/
theorem writeTemp_written (hempty : files temp = .file []) (hcloses : outcome.Closes) :
    (writeTemp outcome temp data files).val = some () ∧
      (writeTemp outcome temp data files).state temp = .file (outcome.written data) := by
  obtain ⟨hinserted, hflushed, hclosed⟩ := hcloses
  obtain ⟨hval₁, hstored₁⟩ := insert_stored outcome data hempty
  obtain ⟨hval₂, hstored₂⟩ := flush_stored outcome hstored₁
  obtain ⟨hval₃, hstored₃⟩ := close_stored outcome hstored₂
  simp only [writeTemp, Prog.bind_val, Prog.bind_state, survive_val, survive_state, hval₁, hval₂,
    hval₃, hinserted, hflushed, hclosed, if_false, Option.bind_some, Option.elim_some]
  exact ⟨trivial, hstored₃⟩

end Calls

theorem insert_returns (temp : Bytes) (insertion : Insertion) (data : Bytes) (files : Files) :
    ∃ after, (OutStream.insert temp {} insertion data files).val = some after := by
  unfold OutStream.insert
  cases insertion with
  | buffered => exact ⟨_, rfl⟩
  | direct room => by_cases hroom : data.length ≤ room <;> simp [hroom]

theorem flush_returns (temp : Bytes) (stream : OutStream) (room : ℕ) (files : Files) :
    ∃ after, (stream.flush temp room files).val = some after := by
  unfold OutStream.flush
  by_cases hbad : stream.bad = true
  · simp [hbad]
  · by_cases hroom : stream.pending.length ≤ room <;> simp [hbad, hroom]

theorem writeTemp_killed {temp data : Bytes} {files : Files} (hkilled : ¬ outcome.Closes) :
    (writeTemp outcome temp data files).val = none := by
  obtain ⟨inserted, hval₁⟩ := insert_returns temp outcome.insert data files
  obtain ⟨flushed, hval₂⟩ := flush_returns temp inserted outcome.flush
    (OutStream.insert temp {} outcome.insert data files).state
  simp only [writeTemp, Prog.bind_val, survive_val, survive_state, hval₁, hval₂, Option.bind_some]
  by_cases hinserted : outcome.killed = some .inserted
  · simp [hinserted]
  by_cases hflushed : outcome.killed = some .flushed
  · simp [hflushed]
  have hclosed : outcome.killed = some .closed := by
    by_contra hno
    exact hkilled ⟨hinserted, hflushed, hno⟩
  simp [hclosed, OutStream.close]

/-! ## What may change -/

/-- The program changes nothing but this file, and prints nothing. -/
structure Confined {α : Type} (temp : Bytes) (p : FileAction α) : Prop where
  elsewhere : Prog.Keeps (Elsewhere temp) p
  silent : Prog.Silent p

namespace Confined

variable {α β : Type} {temp : Bytes}

theorem pure (a : α) : Confined temp (Pure.pure a : FileAction α) :=
  ⟨.pure (Elsewhere.refl temp) a, .pure a⟩

theorem bind {p : FileAction α} {f : α → FileAction β} (hp : Confined temp p)
    (hf : ∀ a, Confined temp (f a)) : Confined temp (p >>= f) :=
  ⟨.bind (R := Elsewhere temp) Elsewhere.trans hp.elsewhere fun a ↦ (hf a).elsewhere,
    .bind hp.silent fun a ↦ (hf a).silent⟩

theorem ite {c : Prop} [Decidable c] {p q : FileAction α} (hp : Confined temp p)
    (hq : Confined temp q) : Confined temp (if c then p else q) :=
  ⟨.ite hp.elsewhere hq.elsewhere, .ite hp.silent hq.silent⟩

theorem survive (step : WriteStep) : Confined temp (StoreFile.survive outcome step) :=
  ⟨fun files ↦ Elsewhere.refl temp files, .atomically _⟩

theorem put (room : ℕ) (more : Bytes) : Confined temp (OutStream.put temp room more) := by
  refine ⟨?_, .atomically _⟩
  intro files q hq
  rw [put_state, Function.update_of_ne hq]

theorem insert (stream : OutStream) (insertion : Insertion) (data : Bytes) :
    Confined temp (stream.insert temp insertion data) := by
  apply ite (pure _)
  cases insertion with
  | buffered => exact pure _
  | direct room => exact bind (put room _) fun _ ↦ ite (pure _) (pure _)

theorem flush (stream : OutStream) (room : ℕ) : Confined temp (stream.flush temp room) :=
  ite (pure _) (bind (put room _) fun _ ↦ ite (pure _) (pure _))

theorem close (stream : OutStream) (room : ℕ) : Confined temp (stream.close temp room) :=
  bind (put room _) fun _ ↦ pure _

theorem writeTemp (temp data : Bytes) : Confined temp (writeTemp outcome temp data) := by
  apply bind (insert {} outcome.insert data)
  intro inserted
  apply bind (survive outcome .inserted)
  intro _
  apply bind (flush inserted outcome.flush)
  intro flushed
  apply bind (survive outcome .flushed)
  intro _
  apply bind (close flushed outcome.close)
  intro _
  exact survive outcome .closed

end Confined

/-! ## The whole call -/

def IsTemp (path q : Bytes) : Prop := ∃ digits, q = tempPath path digits

theorem not_isTemp_self (path : Bytes) : ¬ IsTemp path path := by
  rintro ⟨digits, h⟩
  have hlength := congrArg List.length h
  simp [tempPath] at hlength

/-- The call gets to its rename, and this succeeds. -/
def WriteOutcome.Renames : Prop :=
  (∃ digits, outcome.name = .ok digits) ∧ outcome.opens = true ∧ outcome.rename = .ok () ∧
    (outcome.killed = none ∨ outcome.killed = some .renamed)

def printed : SaveOutcome → List Output
  | .failed (some what) => [.stderr (bytes "Atomic write failed: " ++ what)]
  | _ => []

/-- Every way through `atomic_write`: short of a rename that succeeds the target is what it
was; after one it is what the stream has stored. -/
inductive WriteExit (path data : Bytes) (files : Files) :
    Option Bool → Files → List Output → Prop where
  | kept {saved : SaveOutcome} {after : Files} (hno : ¬ outcome.Renames)
      (hsaved : saved = .killedBefore ∨ ∃ what, saved = .failed what)
      (hsame : ∀ q, ¬ IsTemp path q → after q = files q) :
      WriteExit path data files saved.returned after (printed saved)
  | renamed {after : Files} (hrenames : outcome.Renames)
      (htarget : after path = .file (outcome.written data))
      (hsame : ∀ q, q ≠ path → ¬ IsTemp path q → after q = files q) :
      WriteExit path data files (if outcome.killed = some .renamed then none else some true) after
        []

theorem WriteOutcome.Renames.closes (h : outcome.Renames) : outcome.Closes := by
  obtain ⟨-, -, -, hkilled | hkilled⟩ := h <;> simp [WriteOutcome.Closes, hkilled]

/-- A process that is not killed before the rename may still be killed by it. -/
theorem WriteOutcome.Closes.killed_cases (h : outcome.Closes)
    (hnamed : outcome.killed ≠ some .named) (hopened : outcome.killed ≠ some .opened) :
    outcome.killed = none ∨ outcome.killed = some .renamed := by
  obtain ⟨hinserted, hflushed, hclosed⟩ := h
  cases hkilled : outcome.killed with
  | none => exact .inl rfl
  | some step =>
      cases step with
      | renamed => exact .inr rfl
      | named => exact absurd hkilled hnamed
      | opened => exact absurd hkilled hopened
      | inserted => exact absurd hkilled hinserted
      | flushed => exact absurd hkilled hflushed
      | closed => exact absurd hkilled hclosed

section Exits

variable {path data : Bytes} {files : Files} {digits : Fin 8 → Fin 16}

theorem update_temp_same (entry : Entry) {q : Bytes} (hq : ¬ IsTemp path q) :
    Function.update files (tempPath path digits) entry q = files q :=
  Function.update_of_ne (fun h ↦ hq ⟨digits, h⟩) _ _

theorem atomicWrite_unnamed {e : Exception} (hname : outcome.name = .error e) :
    atomicWrite outcome path data = writeFailed e := by
  rw [atomicWrite, hname]

theorem atomicWrite_named (hname : outcome.name = .ok digits) :
    atomicWrite outcome path data = (do
      let temp := tempPath path digits
      survive outcome .named
      if !(← openTemp outcome temp) then return false
      else
        survive outcome .opened
        writeTemp outcome temp data
        match ← rename outcome temp path with
        | .error e => writeFailed e
        | .ok _ =>
            survive outcome .renamed
            return true) := by
  rw [atomicWrite, hname]

/-- The exits once the temporary file is there. -/
theorem opened_exit (hname : outcome.name = .ok digits) (hopens : outcome.opens = true)
    (hnamed : outcome.killed ≠ some .named) :
    WriteExit outcome path data files (atomicWrite outcome path data files).val
      (atomicWrite outcome path data files).state (atomicWrite outcome path data files).out := by
  have hconfined := Confined.writeTemp outcome (tempPath path digits) data
  have hsilent := hconfined.silent (Function.update files (tempPath path digits) (.file []))
  have hsame : ∀ q, ¬ IsTemp path q → (writeTemp outcome (tempPath path digits) data
      (Function.update files (tempPath path digits) (.file []))).state q = files q := by
    intro q hq
    rw [hconfined.elsewhere _ q fun h ↦ hq ⟨digits, h⟩]
    exact update_temp_same _ hq
  by_cases hopened : outcome.killed = some .opened
  · have hno : ¬ outcome.Renames := by simp [WriteOutcome.Renames, hopened]
    have hkept : WriteExit outcome path data files none
        (Function.update files (tempPath path digits) (.file [])) [] :=
      .kept hno (.inl rfl) fun _ hq ↦ update_temp_same (.file []) hq
    simpa [atomicWrite_named outcome hname, hnamed, survive, openTemp, hopens, hopened]
      using hkept
  by_cases hcloses : outcome.Closes
  case neg =>
    have hno : ¬ outcome.Renames := fun h ↦ hcloses (h.closes outcome)
    have hkept : WriteExit outcome path data files none _ [] := .kept hno (.inl rfl) hsame
    simpa [atomicWrite_named outcome hname, hnamed, survive, openTemp, hopens, hopened,
      writeTemp_killed outcome hcloses, hsilent] using hkept
  obtain ⟨hwritten, hfile⟩ := writeTemp_written outcome (tempPath path digits) data
    (Function.update_self _ (.file []) files) hcloses
  cases hrename : outcome.rename with
  | error e =>
      have hno : ¬ outcome.Renames := by simp [WriteOutcome.Renames, hrename]
      have hkept : WriteExit outcome path data files (some false) _
          [.stderr (bytes "Atomic write failed: " ++ e.what)] :=
        .kept hno (.inr ⟨some e.what, rfl⟩) hsame
      simpa [atomicWrite_named outcome hname, hnamed, survive, openTemp, hopens, hopened,
        hwritten, hsilent, rename, hrename, writeFailed] using hkept
  | ok done =>
      have hkilled := hcloses.killed_cases outcome hnamed hopened
      have hne : path ≠ tempPath path digits := fun h ↦ not_isTemp_self path ⟨digits, h⟩
      have hexit : WriteExit outcome path data files
          (if outcome.killed = some .renamed then none else some true)
          (Function.update (Function.update (writeTemp outcome (tempPath path digits) data
            (Function.update files (tempPath path digits) (.file []))).state path
              (.file (outcome.written data))) (tempPath path digits) .absent) [] := by
        refine .renamed ⟨⟨digits, hname⟩, hopens, hrename, hkilled⟩ ?_ ?_
        · rw [Function.update_of_ne hne, Function.update_self]
        · intro q hq htemp
          rw [update_temp_same _ htemp, Function.update_of_ne hq, hsame q htemp]
      rcases hkilled with hkilled | hkilled
      · simpa [atomicWrite_named outcome hname, survive, openTemp, hopens, hwritten, hsilent,
          rename, hrename, hfile, hkilled] using hexit
      · simpa [atomicWrite_named outcome hname, survive, openTemp, hopens, hwritten, hsilent,
          rename, hrename, hfile, hkilled] using hexit

end Exits

theorem atomicWrite_exit (path data : Bytes) (files : Files) :
    WriteExit outcome path data files (atomicWrite outcome path data files).val
      (atomicWrite outcome path data files).state (atomicWrite outcome path data files).out := by
  cases hname : outcome.name with
  | error e =>
      have hno : ¬ outcome.Renames := by simp [WriteOutcome.Renames, hname]
      rw [atomicWrite_unnamed outcome hname]
      exact .kept hno (.inr ⟨some e.what, rfl⟩) fun _ _ ↦ rfl
  | ok digits =>
  by_cases hnamed : outcome.killed = some .named
  · have hno : ¬ outcome.Renames := by simp [WriteOutcome.Renames, hnamed]
    have hkept : WriteExit outcome path data files none files [] :=
      .kept hno (.inl rfl) fun _ _ ↦ rfl
    simpa [atomicWrite_named outcome hname, hnamed, survive] using hkept
  cases hopens : outcome.opens with
  | false =>
      have hno : ¬ outcome.Renames := by simp [WriteOutcome.Renames, hopens]
      have hkept : WriteExit outcome path data files (some false) files [] :=
        .kept hno (.inr ⟨none, rfl⟩) fun _ _ ↦ rfl
      simpa [atomicWrite_named outcome hname, hnamed, survive, openTemp, hopens] using hkept
  | true => exact opened_exit outcome hname hopens hnamed

/-! ## All or nothing -/

/-- The target is what it was or exactly the data, and reported as written only then. -/
def AllOrNothing (old : Entry) (data : Bytes) (target : Entry) (returned : Option Bool) : Prop :=
  (target = old ∨ target = .file data) ∧ (returned = some true → target = .file data)
  deriving Decidable

/-- A file is renamed that does not hold exactly the data.  A kill right after the rename hides
it when the target held the same bytes before. -/
structure WriteOutcome.RenamesOther (old : Entry) (data : Bytes) : Prop where
  renames : outcome.Renames
  other : outcome.written data ≠ data
  changed : outcome.killed = some .renamed → old ≠ .file (outcome.written data)

section Other

variable {outcome} {old : Entry} {data : Bytes} (hrenames : outcome.Renames)
  (hother : outcome.written data ≠ data)
include hrenames hother

theorem renamesOther_of_returns (hkilled : outcome.killed = none) :
    outcome.RenamesOther old data := by
  refine ⟨hrenames, hother, ?_⟩
  intro h
  rw [hkilled] at h
  cases h

theorem old_of_not_renamesOther (hno : ¬ outcome.RenamesOther old data) :
    old = .file (outcome.written data) := by
  by_contra hchanged
  exact hno ⟨hrenames, hother, fun _ ↦ hchanged⟩

end Other

/-- A write is all or nothing exactly when it does not rename a file that holds something
else than the data. -/
theorem atomic_write_all_or_nothing_iff (path data : Bytes) (files : Files) :
    AllOrNothing (files path) data ((atomicWrite outcome path data files).state path)
        (atomicWrite outcome path data files).val ↔
      ¬ outcome.RenamesOther (files path) data := by
  have exit := atomicWrite_exit outcome path data files
  generalize (atomicWrite outcome path data files).val = returned at exit
  generalize (atomicWrite outcome path data files).state = after at exit
  generalize (atomicWrite outcome path data files).out = out at exit
  cases exit with
  | @kept saved after hno hsaved hsame =>
      have hreturned : saved.returned ≠ some true := by
        obtain rfl | ⟨what, rfl⟩ := hsaved <;> simp [SaveOutcome.returned]
      rw [hsame path (not_isTemp_self path)]
      constructor
      · rintro - hother
        exact hno hother.renames
      · intro _
        exact ⟨.inl rfl, fun h ↦ absurd h hreturned⟩
  | renamed hrenames htarget hsame =>
      rw [htarget]
      by_cases hwhole : outcome.written data = data
      · rw [hwhole]
        constructor
        · rintro - h
          exact h.other hwhole
        · intro _
          exact ⟨.inr rfl, fun _ ↦ rfl⟩
      · have hne : Entry.file (outcome.written data) ≠ .file data :=
          fun heq ↦ hwhole (Entry.file.inj heq)
        have hkilled := hrenames.2.2.2
        constructor
        · rintro ⟨hheld, hreported⟩ h
          rcases hkilled with hkilled | hkilled
          · exact hne (hreported (by simp [hkilled]))
          · exact hheld.elim (fun hold ↦ h.changed hkilled hold.symm) hne
        · intro hno
          rcases hkilled with hkilled | hkilled
          · exact absurd (renamesOther_of_returns hrenames hwhole hkilled) hno
          · refine ⟨.inl (old_of_not_renamesOther hrenames hwhole hno).symm, ?_⟩
            rw [if_pos hkilled]
            intro h
            cases h

/-- A disk that fills up: the flush stores the first three bytes of the new record. -/
def fullDisk : WriteOutcome where
  name := .ok fun _ ↦ 0
  opens := true
  insert := .buffered
  flush := 3
  close := 0
  rename := .ok ()
  killed := none

/-- Some other file is removed between the flush and the close. -/
def roomAgain : WriteOutcome := { fullDisk with close := 10 }

def oldRecord : Files :=
  Function.update (fun _ ↦ .absent) (bytes "binding.json") (.file (bytes "old record"))

/-- The old record is gone and the call returns true.  Three bytes of the new record are there,
or, when there is room again for the close, these and after them all of it. -/
theorem full_disk_truncates :
    ¬ AllOrNothing (oldRecord (bytes "binding.json")) (bytes "new record")
        ((atomicWrite fullDisk (bytes "binding.json") (bytes "new record") oldRecord).state
          (bytes "binding.json"))
        (atomicWrite fullDisk (bytes "binding.json") (bytes "new record") oldRecord).val ∧
      ¬ AllOrNothing (oldRecord (bytes "binding.json")) (bytes "new record")
        ((atomicWrite roomAgain (bytes "binding.json") (bytes "new record") oldRecord).state
          (bytes "binding.json"))
        (atomicWrite roomAgain (bytes "binding.json") (bytes "new record") oldRecord).val := by
  constructor
  · rintro ⟨-, hreported⟩
    have hvalue : Entry.file (bytes "new") = .file (bytes "new record") := hreported rfl
    exact absurd hvalue (by decide)
  · rintro ⟨-, hreported⟩
    have hvalue : Entry.file (bytes "newnew record") = .file (bytes "new record") := hreported rfl
    exact absurd hvalue (by decide)

/-! ## The outcomes of a save -/

section Outcomes

variable {μ : Type} (servicePath : Bytes)

/-- The path of a key. -/
def keyPath (key : Key) : Bytes :=
  servicePath ++ bytes "/" ++ bytes key.name ++ bytes ".json"

def diskOf (files : Files) : Disk := fun key ↦ files (keyPath servicePath key)

theorem keyPath_injective : Function.Injective (keyPath servicePath) := by
  intro key key' h
  have hname : bytes key.name = bytes key'.name := by simpa [keyPath] using h
  cases key <;> cases key' <;> first | rfl | exact absurd hname (by decide)

theorem hexDigit_ne : ∀ n < 16, JsonText.hexDigit n ≠ 110 := by decide

/-- A temporary file's name ends in a hexadecimal digit. -/
theorem not_isTemp_of_getLast? {path q : Bytes} (h : q.getLast? = some 110) : ¬ IsTemp path q := by
  rintro ⟨digits, rfl⟩
  have hdigit : (tempPath path digits).getLast? = some (JsonText.hexDigit (digits 7)) := by
    rw [tempPath, List.getLast?_append]
    simp [List.ofFn_succ]
  rw [hdigit, Option.some.injEq] at h
  exact hexDigit_ne _ (digits 7).isLt h

/-- A key's file ends in `.json`. -/
theorem not_isTemp_keyPath (path : Bytes) (key : Key) :
    ¬ IsTemp path (keyPath servicePath key) := by
  apply not_isTemp_of_getLast?
  rw [keyPath, List.getLast?_append]
  rfl

theorem printed_eq (saved : SaveOutcome) (key : Key) (data : Bytes) (s : Machine μ) :
    (Store.atomicWrite saved key data s).out = printed saved := by
  cases saved with
  | failed what => cases what <;> rfl
  | stored | lost | replaced | killedBefore | killedAfter => rfl

variable (key : Key) (data : Bytes) (files : Files) (mem : μ)

/-- A run over the files leaves and prints what the store's `atomic_write` does under this
outcome. -/
structure Leaves (saved : SaveOutcome) : Prop where
  disk : diskOf servicePath (atomicWrite outcome (keyPath servicePath key) data files).state =
    (Store.atomicWrite saved key data ⟨diskOf servicePath files, mem⟩).state.disk
  out : (atomicWrite outcome (keyPath servicePath key) data files).out =
    (Store.atomicWrite saved key data ⟨diskOf servicePath files, mem⟩).out

/-- It returns the same as well. -/
structure Refines (saved : SaveOutcome) : Prop
    extends Leaves outcome servicePath key data files mem saved where
  val : (atomicWrite outcome (keyPath servicePath key) data files).val =
    (Store.atomicWrite saved key data ⟨diskOf servicePath files, mem⟩).val

variable {outcome servicePath key data files}

theorem Leaves.of_effect {saved : SaveOutcome}
    (hout : (atomicWrite outcome (keyPath servicePath key) data files).out = printed saved)
    (htarget : (atomicWrite outcome (keyPath servicePath key) data files).state
      (keyPath servicePath key) = saved.leaves data (files (keyPath servicePath key)))
    (hsame : ∀ q, q ≠ keyPath servicePath key → ¬ IsTemp (keyPath servicePath key) q →
      (atomicWrite outcome (keyPath servicePath key) data files).state q = files q) :
    Leaves outcome servicePath key data files mem saved := by
  constructor
  · rw [Store.atomicWrite_state]
    funext k
    by_cases hk : k = key
    · subst hk
      simpa [diskOf] using htarget
    · have hpath : keyPath servicePath k ≠ keyPath servicePath key :=
        fun h ↦ hk (keyPath_injective servicePath h)
      simpa [diskOf, hk] using hsame _ hpath (not_isTemp_keyPath servicePath _ k)
  · rw [hout, printed_eq]

theorem Leaves.refines {saved : SaveOutcome}
    (h : Leaves outcome servicePath key data files mem saved)
    (hval : (atomicWrite outcome (keyPath servicePath key) data files).val = saved.returned) :
    Refines outcome servicePath key data files mem saved :=
  ⟨h, by rw [hval, Store.atomicWrite_val]⟩

/-- Every run over the files is one of the outcomes that the store's model allows for, but
for a kill right after a file was renamed that does not hold exactly the data; where no such
file is renamed the outcome is all or nothing. -/
theorem exists_saveOutcome
    (h : outcome.killed = some .renamed →
      ¬ outcome.RenamesOther (files (keyPath servicePath key)) data) :
    ∃ saved, Refines outcome servicePath key data files mem saved ∧
      (¬ outcome.RenamesOther (files (keyPath servicePath key)) data → saved.AllOrNothing) := by
  have exit := atomicWrite_exit outcome (keyPath servicePath key) data files
  generalize hval : (atomicWrite outcome (keyPath servicePath key) data files).val = returned
    at exit
  generalize hstate : (atomicWrite outcome (keyPath servicePath key) data files).state = after
    at exit
  generalize hout : (atomicWrite outcome (keyPath servicePath key) data files).out = out at exit
  cases exit with
  | @kept saved after hno hsaved hsame =>
      refine ⟨saved, (Leaves.of_effect mem hout ?_ ?_).refines mem hval, ?_⟩
      · rw [hstate, hsame _ (not_isTemp_self _)]
        obtain rfl | ⟨what, rfl⟩ := hsaved <;> rfl
      · intro q _ htemp
        rw [hstate, hsame q htemp]
      · intro _
        obtain rfl | ⟨what, rfl⟩ := hsaved <;> trivial
  | renamed hrenames htarget hsame =>
      have hsame' : ∀ q, q ≠ keyPath servicePath key → ¬ IsTemp (keyPath servicePath key) q →
          (atomicWrite outcome (keyPath servicePath key) data files).state q = files q := by
        rw [hstate]
        exact hsame
      rw [← hstate] at htarget
      by_cases hwhole : outcome.written data = data
      · rw [hwhole] at htarget
        rcases hrenames.2.2.2 with hkilled | hkilled
        · have hleaves : Leaves outcome servicePath key data files mem .stored :=
            .of_effect mem hout htarget hsame'
          refine ⟨.stored, hleaves.refines mem ?_, fun _ ↦ trivial⟩
          simp [hval, hkilled, SaveOutcome.returned]
        · have hleaves : Leaves outcome servicePath key data files mem .killedAfter :=
            .of_effect mem hout htarget hsame'
          refine ⟨.killedAfter, hleaves.refines mem ?_, fun _ ↦ trivial⟩
          simp [hval, hkilled, SaveOutcome.returned]
      · rcases hrenames.2.2.2 with hkilled | hkilled
        · refine ⟨.replaced _, (Leaves.of_effect mem hout htarget hsame').refines mem ?_, ?_⟩
          · simp [hval, hkilled, SaveOutcome.returned]
          · intro hno
            exact absurd (renamesOther_of_returns hrenames hwhole hkilled) hno
        · have hold := old_of_not_renamesOther hrenames hwhole (h hkilled)
          have hleaves : Leaves outcome servicePath key data files mem .killedBefore :=
            .of_effect mem hout (htarget.trans hold.symm) hsame'
          refine ⟨.killedBefore, hleaves.refines mem ?_, ?_⟩
          · simp [hval, hkilled, SaveOutcome.returned]
          · exact fun _ ↦ trivial

/-- A kill right after such a file was renamed leaves what a replaced file would. -/
theorem leaves_of_killed (hkilled : outcome.killed = some .renamed) (hrenames : outcome.Renames) :
    (atomicWrite outcome (keyPath servicePath key) data files).val = none ∧
      Leaves outcome servicePath key data files mem
        (.replaced (.file (outcome.written data))) := by
  have exit := atomicWrite_exit outcome (keyPath servicePath key) data files
  generalize hval : (atomicWrite outcome (keyPath servicePath key) data files).val = returned
    at exit
  generalize hstate : (atomicWrite outcome (keyPath servicePath key) data files).state = after
    at exit
  generalize hout : (atomicWrite outcome (keyPath servicePath key) data files).out = out at exit
  cases exit with
  | kept hno _ _ => exact absurd hrenames hno
  | renamed _ htarget hsame =>
      rw [← hstate] at htarget hsame
      exact ⟨by rw [if_pos hkilled], .of_effect mem hout htarget hsame⟩

end Outcomes

end TboxProv.StoreFile
