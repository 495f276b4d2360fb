import TboxProv.Crash.Simulation
import TboxProv.FileStore

/-!
# The store shared by processes

Several processes use one directory, and the steps of their calls interleave.  A call of
`atomic_write` is as many steps as it has calls to the system, `load` looks for the file
first and reads it later.  Seen from outside each call takes place at one moment.
-/

namespace TboxProv.FileStore

open Crash StoreFile ProvService

/-! ## A call, step by step -/

/-- How far a call of `atomic_write` has got. -/
inductive Point where
  | start
  | named (temp : Bytes)
  | opened (temp : Bytes)
  | inserted (temp : Bytes) (stream : OutStream)
  | flushed (temp : Bytes) (stream : OutStream)
  | closed (temp : Bytes)
  | finished (saved : Bool)

/-- A save whose value has been wrapped. -/
structure Job where
  outcome : WriteOutcome
  key : Name
  value : Bytes
  data : Bytes

/-- What a process is doing. -/
inductive Proc where
  | idle
  | asked (request : Request)
  | writing (job : Job) (point : Point)
  /-- `file_exists` has found the file. -/
  | reading (key : Name)
  | done (reply : Reply)

/-- The next step of `atomic_write`. -/
def advanceWrite (outcome : WriteOutcome) (path data : Bytes) : Point → FileAction Point
  | .start => do
      match outcome.name with
      | .error e => return .finished (← writeFailed e)
      | .ok digits =>
          survive outcome .named
          return .named (tempPath path digits)
  | .named temp => do
      if !(← openTemp outcome temp) then return .finished false
      else
        survive outcome .opened
        return .opened temp
  | .opened temp => do
      let stream ← OutStream.insert temp {} outcome.insert data
      survive outcome .inserted
      return .inserted temp stream
  | .inserted temp stream => do
      let stream ← stream.flush temp outcome.flush
      survive outcome .flushed
      return .flushed temp stream
  | .flushed temp stream => do
      stream.close temp outcome.close
      survive outcome .closed
      return .closed temp
  | .closed temp => do
      match ← rename outcome temp path with
      | .error e => return .finished (← writeFailed e)
      | .ok _ =>
          survive outcome .renamed
          return .finished true
  | .finished saved => return .finished saved

def Proc.ofPoint (job : Job) : Point → Proc
  | .finished saved => .done (.flag saved)
  | point => .writing job point

section Code

variable (P : Platform) (dir : Bytes)

/-- The next step of a process. -/
def advance : Proc → FileAction Proc
  | .idle => return .idle
  | .asked (.save outcome key value) => do
      match Store.envelope P value with
      | .error e => return .done (.threw e)
      | .ok data => return .writing ⟨outcome, key, value, data⟩ .start
  | .asked (.load key) => do
      match ← fileExists (key.path dir) with
      | .error e => return .done (.threw e)
      | .ok false => return .done (.value none)
      | .ok true => return .reading key
  | .asked (.keyExists key) => do
      match ← fileExists (key.path dir) with
      | .error e => return .done (.threw e)
      | .ok found => return .done (.flag found)
  | .asked (.remove outcome key) => return .done (.flag (← remove dir outcome key))
  | .writing job point =>
      return .ofPoint job (← advanceWrite job.outcome (job.key.path dir) job.data point)
  | .reading key => return .done (.value (← readKey P dir key))
  | .done reply => return .done reply

def advanceN : ℕ → Proc → FileAction Proc
  | 0, proc => return proc
  | n + 1, proc => do advanceN n (← advance P dir proc)

end Code

/-! ## A process on its own -/

section Alone

variable {P : Platform} {dir : Bytes}

theorem advanceN_done (n : ℕ) (reply : Reply) :
    advanceN P dir n (.done reply) = pure (.done reply) := by
  induction n with
  | zero => rfl
  | succ n ih =>
      rw [advanceN, advance, Prog.pure_bind]
      exact ih

variable {job : Job} {temp : Bytes}

theorem advanceN_closed (n : ℕ) :
    advanceN P dir (n + 1) (.writing job (.closed temp)) = (do
      match ← rename job.outcome temp (job.key.path dir) with
      | .error e => return .done (.flag (← writeFailed e))
      | .ok _ =>
          survive job.outcome .renamed
          return .done (.flag true)) := by
  simp only [advanceN, advance, advanceWrite, Prog.bind_assoc]
  congr 1
  funext renamed
  cases renamed with
  | error e =>
      simp only [Prog.bind_assoc, Prog.pure_bind, Proc.ofPoint, advanceN_done]
  | ok done =>
      simp only [Prog.bind_assoc, Prog.pure_bind, Proc.ofPoint, advanceN_done]

/-- The three calls on the stream are `writeTemp`. -/
theorem advanceN_opened (n : ℕ) :
    advanceN P dir (n + 4) (.writing job (.opened temp)) = (do
      writeTemp job.outcome temp job.data
      advanceN P dir (n + 1) (.writing job (.closed temp))) := by
  rw [advanceN]
  simp only [advance, advanceWrite, writeTemp, Prog.bind_assoc, Prog.pure_bind, Proc.ofPoint]
  congr 1
  funext inserted
  congr 1
  funext _
  rw [advanceN]
  simp only [advance, advanceWrite, Prog.bind_assoc, Prog.pure_bind, Proc.ofPoint]
  congr 1
  funext flushed
  congr 1
  funext _
  rw [advanceN]
  simp only [advance, advanceWrite, Prog.bind_assoc, Prog.pure_bind, Proc.ofPoint]

/-- Step by step, `atomic_write` is what it is as a whole. -/
theorem advanceN_writing :
    advanceN P dir 6 (.writing job .start) = (do
      return .done (.flag (← atomicWrite job.outcome (job.key.path dir) job.data))) := by
  rw [advanceN]
  simp only [advance, advanceWrite, atomicWrite]
  cases job.outcome.name with
  | error e => simp only [Prog.bind_assoc, Prog.pure_bind, Proc.ofPoint, advanceN_done]
  | ok digits =>
  simp only [Prog.bind_assoc, Prog.pure_bind, Proc.ofPoint]
  congr 1
  funext _
  rw [advanceN]
  simp only [advance, advanceWrite, Prog.bind_assoc]
  congr 1
  funext opened
  cases opened with
  | false => simp only [Bool.not_false, if_true, Prog.pure_bind, Proc.ofPoint, advanceN_done]
  | true =>
  simp only [Bool.not_true, Bool.false_eq_true, if_false, Prog.bind_assoc, Prog.pure_bind,
    Proc.ofPoint, advanceN_opened]
  congr 1
  funext _
  congr 1
  funext _
  rw [advanceN_closed]
  congr 1
  funext renamed
  cases renamed with
  | error e => rfl
  | ok done => simp only [Prog.bind_assoc, Prog.pure_bind]

/-- Nothing else going on, a process serves a request as the code does. -/
theorem advanceN_asked (request : Request) :
    advanceN P dir 7 (.asked request) = (do return .done (← serve P dir request)) := by
  rw [advanceN]
  cases request with
  | save outcome key value =>
      simp only [advance, serve, save]
      cases Store.envelope P value with
      | error e => simp only [Prog.pure_bind, advanceN_done, Reply.ofFlag]
      | ok data =>
          simp only [Prog.bind_assoc, Prog.pure_bind, advanceN_writing, Reply.ofFlag]
  | load key =>
      simp only [advance, serve, load, Prog.bind_assoc]
      congr 1
      funext found
      cases found with
      | error e => simp only [Prog.pure_bind, advanceN_done, Reply.ofValue]
      | ok found =>
          cases found with
          | false => simp only [Prog.pure_bind, advanceN_done, Reply.ofValue]
          | true =>
              simp only [Prog.bind_assoc, Prog.pure_bind, Reply.ofValue]
              rw [advanceN]
              simp only [advance, Prog.bind_assoc, Prog.pure_bind, advanceN_done]
  | keyExists key =>
      simp only [advance, serve, Prog.bind_assoc]
      congr 1
      funext found
      cases found <;> simp only [Prog.pure_bind, advanceN_done, Reply.ofFlag]
  | remove outcome key =>
      simp only [advance, serve, Prog.bind_assoc, Prog.pure_bind, advanceN_done]

end Alone

/-! ## One step of `atomic_write` -/

namespace Point

/-- The temporary file that is in use. -/
def temp : Point → Option Bytes
  | .start | .finished _ => none
  | .named temp | .opened temp | .inserted temp _ | .flushed temp _ | .closed temp => some temp

def passed : Point → List WriteStep
  | .start | .finished _ => []
  | .named _ => [.named]
  | .opened _ => [.opened, .named]
  | .inserted _ _ => [.inserted, .opened, .named]
  | .flushed _ _ => [.flushed, .inserted, .opened, .named]
  | .closed _ => [.closed, .flushed, .inserted, .opened, .named]

end Point

section Write

variable (outcome : WriteOutcome) (path data : Bytes)

/-- The temporary file of a call that has passed these steps. -/
structure Underway (temp : Bytes) (passed : List WriteStep) : Prop where
  name : ∃ digits, outcome.name = .ok digits ∧ temp = tempPath path digits
  opens : .opened ∈ passed → outcome.opens = true
  alive : ∀ step ∈ passed, outcome.killed ≠ some step

variable (files : Files)

/-- What the stream has stored so far. -/
def Holds : Point → Prop
  | .start | .named _ | .finished _ => True
  | .opened temp => files temp = .file []
  | .inserted temp stream =>
      stream = (outcome.inserted data).2 ∧ files temp = .file (outcome.inserted data).1
  | .flushed temp stream =>
      stream = (outcome.flushed data).2 ∧ files temp = .file (outcome.flushed data).1
  | .closed temp => files temp = .file (outcome.written data)

structure PointOk (point : Point) : Prop where
  underway : ∀ temp, point.temp = some temp → Underway outcome path temp point.passed
  holds : Holds outcome data files point

/-- What one step can do: only the rename is seen outside the temporary file. -/
inductive WriteMove (point : Point) : Option Point → Files → Prop
  | onward {next : Point} {after : Files} (hnext : PointOk outcome path data after next)
      (hunfinished : ∀ saved, next ≠ .finished saved)
      (htemp : next.temp = point.temp ∨ point = .start ∧
        ∃ digits, outcome.name = .ok digits ∧ next.temp = some (tempPath path digits))
      (hsame : ∀ q, point.temp ≠ some q → after q = files q) : WriteMove point (some next) after
  | stopped {val : Option Point} {after : Files}
      (hval : val = none ∨ val = some (.finished false))
      (hsame : ∀ q, point.temp ≠ some q → after q = files q) : WriteMove point val after
  | renamed {val : Option Point} {after : Files} (hrenames : outcome.Renames)
      (hval : val = none ∨ val = some (.finished true))
      (htarget : after path = .file (outcome.written data))
      (hsame : ∀ q, q ≠ path → point.temp ≠ some q → after q = files q) :
      WriteMove point val after

variable {outcome path data files}

theorem PointOk.isTemp {point : Point} {temp : Bytes} (h : PointOk outcome path data files point)
    (htemp : point.temp = some temp) : IsTemp path temp := by
  obtain ⟨digits, -, rfl⟩ := (h.underway temp htemp).name
  exact ⟨digits, rfl⟩

theorem PointOk.congr {files' : Files} {point : Point} (h : PointOk outcome path data files point)
    (hsame : ∀ temp, point.temp = some temp → files' temp = files temp) :
    PointOk outcome path data files' point := by
  refine ⟨h.underway, ?_⟩
  have hholds := h.holds
  cases point with
  | start | named | finished => trivial
  | opened temp => exact (hsame temp rfl).trans hholds
  | inserted temp stream => exact ⟨hholds.1, (hsame temp rfl).trans hholds.2⟩
  | flushed temp stream => exact ⟨hholds.1, (hsame temp rfl).trans hholds.2⟩
  | closed temp => exact (hsame temp rfl).trans hholds

theorem Underway.pass {temp : Bytes} {passed : List WriteStep} {step : WriteStep}
    (h : Underway outcome path temp passed) (halive : outcome.killed ≠ some step)
    (hopens : step = .opened → outcome.opens = true) :
    Underway outcome path temp (step :: passed) := by
  refine ⟨h.name, ?_, ?_⟩
  · intro hmem
    rcases List.mem_cons.1 hmem with hstep | hmem
    · exact hopens hstep.symm
    · exact h.opens hmem
  · intro other hmem
    rcases List.mem_cons.1 hmem with rfl | hmem
    · exact halive
    · exact h.alive other hmem

/-- A call on the system inside the temporary file, after which the process may be killed. -/
theorem WriteMove.of_confined {α : Type} {act : FileAction α} {g : α → Point} {made : α}
    {point : Point} {temp : Bytes} {step : WriteStep} (htemp : point.temp = some temp)
    (hconfined : Confined temp act) (hval : (act files).val = some made)
    (hnext : outcome.killed ≠ some step → PointOk outcome path data (act files).state (g made))
    (hunfinished : ∀ saved, g made ≠ .finished saved) (hsame : (g made).temp = some temp) :
    WriteMove outcome path data files point
      ((do let a ← act; survive outcome step; return g a) files).val
      ((do let a ← act; survive outcome step; return g a) files).state := by
  have helsewhere : ∀ q, point.temp ≠ some q → (act files).state q = files q := by
    intro q hq
    apply hconfined.elsewhere files q
    rintro rfl
    exact hq htemp
  simp only [Prog.bind_val, Prog.bind_state, hval, survive_val, survive_state, Option.bind_some,
    Option.elim_some]
  by_cases hkilled : outcome.killed = some step
  · simp only [hkilled, if_true, Option.bind_none, Option.elim_none]
    exact .stopped (.inl rfl) helsewhere
  · simp only [hkilled, if_false, Option.bind_some, Option.elim_some, Prog.pure_val,
      Prog.pure_state]
    exact .onward (hnext hkilled) hunfinished (.inl (hsame.trans htemp.symm)) helsewhere

/-- A process that is alive when it renames gets there, or is killed right after it. -/
theorem Underway.renames {temp : Bytes}
    (h : Underway outcome path temp (Point.passed (.closed temp)))
    (hrename : outcome.rename = .ok ()) :
    outcome.Renames := by
  obtain ⟨digits, hname, -⟩ := h.name
  refine ⟨⟨digits, hname⟩, h.opens (by simp [Point.passed]), hrename, ?_⟩
  cases hkilled : outcome.killed with
  | none => exact .inl rfl
  | some step =>
      cases step with
      | renamed => exact .inr rfl
      | named | opened | inserted | flushed | closed =>
          exact absurd hkilled (h.alive _ (by simp [Point.passed]))

theorem start_move :
    WriteMove outcome path data files .start (advanceWrite outcome path data .start files).val
      (advanceWrite outcome path data .start files).state := by
  simp only [advanceWrite]
  cases hname : outcome.name with
  | error e => exact .stopped (.inr rfl) fun _ _ ↦ rfl
  | ok digits =>
      by_cases hkilled : outcome.killed = some .named
      · simp only [Prog.bind_val, Prog.bind_state, survive_val, survive_state, hkilled, if_true,
          Option.bind_none, Option.elim_none]
        exact .stopped (.inl rfl) fun _ _ ↦ rfl
      · simp only [Prog.bind_val, Prog.bind_state, survive_val, survive_state, hkilled, if_false,
          Option.bind_some, Option.elim_some, Prog.pure_val, Prog.pure_state]
        have hnamed : Underway outcome path (tempPath path digits) [.named] := by
          refine ⟨⟨digits, hname, rfl⟩, by simp, ?_⟩
          intro step hstep
          rwa [List.mem_singleton.1 hstep]
        refine .onward ⟨?_, trivial⟩ nofun (.inr ⟨rfl, digits, hname, rfl⟩) fun _ _ ↦ rfl
        rintro temp ⟨⟩
        exact hnamed

theorem named_move {temp : Bytes} (h : PointOk outcome path data files (.named temp)) :
    WriteMove outcome path data files (.named temp)
      (advanceWrite outcome path data (.named temp) files).val
      (advanceWrite outcome path data (.named temp) files).state := by
  simp only [advanceWrite]
  cases hopens : outcome.opens with
  | false =>
      simp only [openTemp, hopens, Prog.bind_val, Prog.bind_state, Prog.atomically_val,
        Prog.atomically_state, Bool.false_eq_true, if_false, Option.bind_some,
        Option.elim_some, Bool.not_false, if_true, Prog.pure_val, Prog.pure_state]
      exact .stopped (.inr rfl) fun _ _ ↦ rfl
  | true =>
      have hsame : ∀ q, Point.temp (.named temp) ≠ some q →
          Function.update files temp (.file []) q = files q := by
        intro q hq
        apply Function.update_of_ne
        rintro rfl
        exact hq rfl
      simp only [openTemp, hopens, Prog.bind_val, Prog.bind_state, Prog.atomically_val,
        Prog.atomically_state, if_true, Option.bind_some, Option.elim_some, Bool.not_true,
        Bool.false_eq_true, if_false, survive_val, survive_state]
      by_cases hkilled : outcome.killed = some .opened
      · simp only [hkilled, if_true, Option.bind_none, Option.elim_none]
        exact .stopped (.inl rfl) hsame
      · simp only [hkilled, if_false, Option.bind_some, Option.elim_some, Prog.pure_val,
          Prog.pure_state]
        refine .onward ⟨?_, ?_⟩ ?_ (.inl rfl) hsame
        · rintro _ ⟨⟩
          exact (h.underway temp rfl).pass hkilled fun _ ↦ hopens
        · exact Function.update_self _ _ _
        · intro saved hsaved
          cases hsaved

theorem closed_move {temp : Bytes} (h : PointOk outcome path data files (.closed temp)) :
    WriteMove outcome path data files (.closed temp)
      (advanceWrite outcome path data (.closed temp) files).val
      (advanceWrite outcome path data (.closed temp) files).state := by
  simp only [advanceWrite]
  cases hrename : outcome.rename with
  | error e =>
      simp only [rename, hrename, Prog.bind_val, Prog.bind_state, Prog.atomically_val,
        Prog.atomically_state, Option.bind_some, Option.elim_some]
      exact .stopped (.inr rfl) fun _ _ ↦ rfl
  | ok done =>
      simp only [rename, hrename, Prog.bind_val, Prog.bind_state, Prog.atomically_val,
        Prog.atomically_state, Option.bind_some, Option.elim_some, survive_val, survive_state]
      have hne : path ≠ temp := by
        rintro rfl
        exact not_isTemp_self _ (h.isTemp rfl)
      have hfile : files temp = .file (outcome.written data) := h.holds
      refine .renamed ((h.underway temp rfl).renames hrename) ?_ ?_ ?_
      · by_cases hkilled : outcome.killed = some .renamed
        · exact .inl (by simp [hkilled])
        · exact .inr (by simp [hkilled])
      · by_cases hkilled : outcome.killed = some .renamed <;> simp [hkilled, hne, hfile]
      · intro q hq htemp
        have hqtemp : q ≠ temp := by
          rintro rfl
          exact htemp rfl
        by_cases hkilled : outcome.killed = some .renamed <;> simp [hkilled, hq, hqtemp]

theorem advanceWrite_move {point : Point} (h : PointOk outcome path data files point)
    (hunfinished : ∀ saved, point ≠ .finished saved) :
    WriteMove outcome path data files point (advanceWrite outcome path data point files).val
      (advanceWrite outcome path data point files).state := by
  cases point with
  | finished saved => exact absurd rfl (hunfinished saved)
  | start => exact start_move
  | named temp => exact named_move h
  | closed temp => exact closed_move h
  | opened temp =>
      obtain ⟨hval, hstored⟩ := insert_stored outcome data h.holds
      apply WriteMove.of_confined rfl (Confined.insert {} outcome.insert data) hval
      · intro halive
        refine ⟨?_, rfl, hstored⟩
        rintro _ ⟨⟩
        exact (h.underway temp rfl).pass halive nofun
      · exact nofun
      · rfl
  | inserted temp stream =>
      obtain ⟨rfl, hstored⟩ := h.holds
      obtain ⟨hval, hflushed⟩ := flush_stored outcome hstored
      apply WriteMove.of_confined rfl (Confined.flush _ outcome.flush) hval
      · intro halive
        refine ⟨?_, rfl, hflushed⟩
        rintro _ ⟨⟩
        exact (h.underway temp rfl).pass halive nofun
      · exact nofun
      · rfl
  | flushed temp stream =>
      obtain ⟨rfl, hstored⟩ := h.holds
      obtain ⟨hval, hwritten⟩ := close_stored outcome hstored
      apply WriteMove.of_confined rfl (Confined.close _ outcome.close) hval
      · intro halive
        refine ⟨?_, hwritten⟩
        rintro _ ⟨⟩
        exact (h.underway temp rfl).pass halive nofun
      · exact nofun
      · rfl

end Write

/-! ## All processes -/

/-- The directory, and what each process is doing. -/
structure Shared where
  files : Files
  procs : ℕ → Proc

inductive Event where
  | invoke (p : ℕ) (request : Request)
  | advance (p : ℕ)
  | respond (p : ℕ)

/-- What is seen from outside. -/
inductive Seen where
  | invoked (p : ℕ) (query : Query)
  | responded (p : ℕ) (reply : Reply)
  deriving DecidableEq

def Shared.start (files : Files) : Shared := ⟨files, fun _ ↦ .idle⟩

def Shared.set (s : Shared) (files : Files) (p : ℕ) (proc : Proc) : Shared :=
  ⟨files, Function.update s.procs p proc⟩

def Proc.temp : Proc → Option Bytes
  | .writing _ point => point.temp
  | _ => none

section Processes

variable (P : Platform) (dir : Bytes)

def Shared.advanced (s : Shared) (p : ℕ) : Shared :=
  let after := advance P dir (s.procs p) s.files
  s.set after.state p (after.val.getD (.done .died))

/-- Events of a process that is not there for them do nothing. -/
def step : Event → Shared → Option Seen × Shared
  | .invoke p request, s =>
      match s.procs p with
      | .idle => (some (.invoked p request.query), s.set s.files p (.asked request))
      | _ => (none, s)
  | .advance p, s => (none, s.advanced P dir p)
  | .respond p, s =>
      match s.procs p with
      | .done reply => (some (.responded p reply), s.set s.files p .idle)
      | _ => (none, s)

/-- A save renames no file that holds something else than its data. -/
def Request.Whole : Request → Prop
  | .save outcome _ value => WholeSave P outcome value
  | _ => True

/-- Saves are whole, and the random name of a temporary file is not one that another
process is using. -/
def Event.Ok : Event → Shared → Prop
  | .invoke _ request, _ => request.Whole P
  | .advance p, s => ∀ job digits, s.procs p = .writing job .start →
      job.outcome.name = .ok digits →
        ∀ q, (s.procs q).temp ≠ some (tempPath (job.key.path dir) digits)
  | .respond _, _ => True

/-! ## The table that takes one call at a time -/

/-- A call waits, and takes place all at once, between its invocation and its response. -/
inductive Status where
  | idle
  | invoked (query : Query)
  | answered (reply : Reply)

structure Atomic where
  table : Table
  status : ℕ → Status

def Atomic.set (a : Atomic) (table : Table) (p : ℕ) (status : Status) : Atomic :=
  ⟨table, Function.update a.status p status⟩

inductive Atomic.Move (a : Atomic) : Option Seen → Atomic → Prop
  | invoke {p : ℕ} {query : Query} (h : a.status p = .idle) :
      Move a (some (.invoked p query)) (a.set a.table p (.invoked query))
  | perform {p : ℕ} {query : Query} {reply : Reply} {table : Table}
      (h : a.status p = .invoked query) (hperforms : Performs a.table query reply table) :
      Move a none (a.set table p (.answered reply))
  | respond {p : ℕ} {reply : Reply} (h : a.status p = .answered reply) :
      Move a (some (.responded p reply)) (a.set a.table p .idle)

/-! ## The simulation -/

/-- What a process is doing, seen as a call on the table. -/
inductive Matches (files : Files) : Proc → Status → Prop
  | idle : Matches files .idle .idle
  | asked {request : Request} (hwhole : request.Whole P) :
      Matches files (.asked request) (.invoked request.query)
  | writing {job : Job} {point : Point} (hdata : Store.envelope P job.value = .ok job.data)
      (hwhole : job.outcome.Renames → job.outcome.written job.data = job.data)
      (hpoint : PointOk job.outcome (job.key.path dir) job.data files point)
      (hunfinished : ∀ saved, point ≠ .finished saved) :
      Matches files (.writing job point) (.invoked (.save job.key job.value))
  | reading {key : Name} (haccess : ∀ what, files (key.path dir) ≠ .inaccessible what) :
      Matches files (.reading key) (.invoked (.load key))
  | done {reply : Reply} : Matches files (.done reply) (.answered reply)

structure Related (s : Shared) (a : Atomic) : Prop where
  table : a.table = tableOf P dir s.files
  procs : ∀ p, Matches P dir s.files (s.procs p) (a.status p)
  apart : ∀ p q temp, (s.procs p).temp = some temp → (s.procs q).temp = some temp → p = q

/-- What a step of one process means for the others: it leaves their temporary files alone
and makes no file inaccessible. -/
structure Harmless (s : Shared) (p : ℕ) (files : Files) : Prop where
  temps : ∀ q temp, q ≠ p → (s.procs q).temp = some temp → files temp = s.files temp
  access : ∀ key what, files (Name.path dir key) = .inaccessible what →
    s.files (Name.path dir key) = .inaccessible what

variable {P dir} {s : Shared} {a : Atomic} {p : ℕ} {files : Files}

theorem Harmless.refl (s : Shared) (p : ℕ) : Harmless dir s p s.files :=
  ⟨fun _ _ _ _ ↦ rfl, fun _ _ h ↦ h⟩

theorem Matches.congr {files files' : Files} {proc : Proc} {status : Status}
    (h : Matches P dir files proc status)
    (htemp : ∀ temp, proc.temp = some temp → files' temp = files temp)
    (haccess : ∀ key what, files' (Name.path dir key) = .inaccessible what →
      files (Name.path dir key) = .inaccessible what) : Matches P dir files' proc status := by
  cases h with
  | idle => exact .idle
  | asked hwhole => exact .asked hwhole
  | writing hdata hwhole hpoint hunfinished =>
      exact .writing hdata hwhole (hpoint.congr htemp) hunfinished
  | reading hread => exact .reading fun what h ↦ hread what (haccess _ what h)
  | done => exact .done

theorem Matches.isTemp {proc : Proc} {status : Status} {temp : Bytes}
    (h : Matches P dir files proc status) (htemp : proc.temp = some temp) :
    ∃ path, IsTemp path temp := by
  cases h with
  | writing hdata hwhole hpoint hunfinished => exact ⟨_, hpoint.isTemp htemp⟩
  | idle | asked | reading | done => cases htemp

/-- A step of one process keeps the relation if it does so for this process. -/
theorem Related.step (h : Related P dir s a) (hharmless : Harmless dir s p files) {proc : Proc}
    {status : Status} (hproc : Matches P dir files proc status)
    (hfresh : ∀ q temp, q ≠ p → proc.temp = some temp → (s.procs q).temp ≠ some temp) :
    Related P dir (s.set files p proc) (a.set (tableOf P dir files) p status) := by
  refine ⟨rfl, ?_, ?_⟩
  · intro q
    by_cases hq : q = p
    · subst hq
      simpa [Shared.set, Atomic.set] using hproc
    · have hother := (h.procs q).congr (fun temp ↦ hharmless.temps q temp hq) hharmless.access
      simpa [Shared.set, Atomic.set, hq] using hother
  · intro q r temp hq hr
    simp only [Shared.set] at hq hr
    by_cases hqp : q = p
    · by_cases hrp : r = p
      · rw [hqp, hrp]
      · rw [hqp, Function.update_self] at hq
        rw [Function.update_of_ne hrp] at hr
        exact absurd hr (hfresh r temp hrp hq)
    · rw [Function.update_of_ne hqp] at hq
      by_cases hrp : r = p
      · rw [hrp, Function.update_self] at hr
        exact absurd hq (hfresh q temp hqp hr)
      · rw [Function.update_of_ne hrp] at hr
        exact h.apart q r temp hq hr

/-- A step that is no more than a step of its process. -/
theorem Related.stays (h : Related P dir s a) (hharmless : Harmless dir s p files)
    (htable : tableOf P dir files = tableOf P dir s.files) {proc : Proc}
    (hproc : Matches P dir files proc (a.status p))
    (hfresh : ∀ q temp, q ≠ p → proc.temp = some temp → (s.procs q).temp ≠ some temp) :
    ∃ a', History Atomic.Move a [] a' ∧ Related P dir (s.set files p proc) a' := by
  refine ⟨a, .nil a, ?_⟩
  have hstep := h.step hharmless hproc hfresh
  rwa [htable, ← h.table, Atomic.set, Function.update_eq_self] at hstep

/-- A step at which the call of its process takes place. -/
theorem Related.performs (h : Related P dir s a) (hharmless : Harmless dir s p files)
    {query : Query} {reply : Reply} (hquery : a.status p = .invoked query)
    (hperforms : Performs (tableOf P dir s.files) query reply (tableOf P dir files)) :
    ∃ a', History Atomic.Move a [] a' ∧ Related P dir (s.set files p (.done reply)) a' := by
  rw [← h.table] at hperforms
  refine ⟨_, History.single (Atomic.Move.perform hquery hperforms), h.step hharmless .done ?_⟩
  rintro q temp - ⟨⟩

theorem Related.temp_ne_path (h : Related P dir s a) (p : ℕ) (key : Name) :
    (s.procs p).temp ≠ some (key.path dir) := by
  intro htemp
  obtain ⟨path, hpath⟩ := (h.procs p).isTemp htemp
  exact key.not_isTemp dir path hpath

/-- Nobody else minds a change of one key and of one's own temporary file. -/
theorem Related.harmless (h : Related P dir s a) (key : Name)
    (hsame : ∀ q, q ≠ key.path dir → (s.procs p).temp ≠ some q → files q = s.files q)
    (hkey : ∀ what, files (key.path dir) = .inaccessible what →
      s.files (key.path dir) = .inaccessible what) : Harmless dir s p files := by
  constructor
  · intro q temp hq htemp
    refine hsame temp ?_ ?_
    · rintro rfl
      exact h.temp_ne_path q key htemp
    · intro hown
      exact hq (h.apart q p temp htemp hown)
  · intro key' what hwhat
    by_cases hk : key' = key
    · subst hk
      exact hkey what hwhat
    · rwa [← hsame _ (fun heq ↦ hk (Name.path_injective dir heq)) (h.temp_ne_path p key')]

/-- A step inside the temporary file is not seen. -/
theorem Related.unseen (h : Related P dir s a) (key : Name)
    (hsame : ∀ q, (s.procs p).temp ≠ some q → files q = s.files q) :
    Harmless dir s p files ∧ tableOf P dir files = tableOf P dir s.files := by
  have hpath : ∀ key, files (Name.path dir key) = s.files (Name.path dir key) :=
    fun key ↦ hsame _ (h.temp_ne_path p key)
  constructor
  · refine h.harmless key (fun q _ ↦ hsame q) fun what hwhat ↦ ?_
    rwa [← hpath key]
  · funext key
    rw [tableOf, tableOf, hpath key]

/-! ## The steps of a process -/

theorem advanced_save (hP : P.json.Lawful) (h : Related P dir s a) {outcome : WriteOutcome}
    {key : Name} {value : Bytes} (hproc : s.procs p = .asked (.save outcome key value))
    (hstatus : a.status p = .invoked (.save key value))
    (hwhole : (Request.save outcome key value).Whole P) :
    ∃ a', History Atomic.Move a [] a' ∧ Related P dir (s.advanced P dir p) a' := by
  rw [Shared.advanced, hproc]
  simp only [advance]
  cases hdata : Store.envelope P value with
  | error e =>
      have hvalue : ¬ Utf8 value := by
        intro hutf8
        obtain ⟨data, hok⟩ := Store.exists_envelope hP hutf8
        rw [hdata] at hok
        cases hok
      exact h.performs (.refl s p) hstatus (.notText hvalue)
  | ok data =>
      refine h.stays (.refl s p) rfl ?_ nofun
      rw [hstatus]
      exact .writing hdata (hwhole data hdata) ⟨nofun, trivial⟩ nofun

/-- `file_exists` as a caller of `exists` or `load` sees it. -/
theorem fileExists_eq (path : Bytes) (files : Files) :
    fileExists path files =
      ⟨some (match files path with
        | .absent => .ok false
        | .inaccessible what => .error ⟨what⟩
        | _ => .ok true), files, []⟩ := by
  apply Outcome.ext <;> simp only [fileExists, Prog.bind_val, Prog.bind_state, Prog.bind_out,
    Prog.get_val, Prog.get_state, Prog.get_out, Option.bind_some, Option.elim_some] <;>
    cases files path <;> rfl

theorem advanced_load (h : Related P dir s a) {key : Name}
    (hproc : s.procs p = .asked (.load key)) (hstatus : a.status p = .invoked (.load key)) :
    ∃ a', History Atomic.Move a [] a' ∧ Related P dir (s.advanced P dir p) a' := by
  have hload : Performs (tableOf P dir s.files) (.load key) (tableOf P dir s.files key).loaded
      (tableOf P dir s.files) := .load
  have hreading : (∀ what, s.files (key.path dir) ≠ .inaccessible what) →
      ∃ a', History Atomic.Move a [] a' ∧ Related P dir (s.set s.files p (.reading key)) a' := by
    intro haccess
    refine h.stays (.refl s p) rfl ?_ nofun
    rw [hstatus]
    exact .reading haccess
  rw [Shared.advanced, hproc]
  simp only [advance, Prog.bind_val, Prog.bind_state, fileExists_eq, Option.bind_some,
    Option.elim_some]
  rw [tableOf] at hload
  cases hentry : s.files (key.path dir) with
  | absent =>
      rw [hentry] at hload
      exact h.performs (.refl s p) hstatus hload
  | inaccessible what =>
      rw [hentry] at hload
      exact h.performs (.refl s p) hstatus hload
  | file data | unreadable =>
      apply hreading
      intro what hwhat
      rw [hentry] at hwhat
      cases hwhat

theorem advanced_exists (h : Related P dir s a) {key : Name}
    (hproc : s.procs p = .asked (.keyExists key))
    (hstatus : a.status p = .invoked (.keyExists key)) :
    ∃ a', History Atomic.Move a [] a' ∧ Related P dir (s.advanced P dir p) a' := by
  have hexists : Performs (tableOf P dir s.files) (.keyExists key)
      (tableOf P dir s.files key).found (tableOf P dir s.files) := .keyExists
  rw [Shared.advanced, hproc]
  simp only [advance, Prog.bind_val, Prog.bind_state, fileExists_eq, Option.bind_some,
    Option.elim_some]
  rw [tableOf, found_cellOf] at hexists
  cases hentry : s.files (key.path dir) with
  | absent | inaccessible what | file data | unreadable =>
      rw [hentry] at hexists
      exact h.performs (.refl s p) hstatus hexists

theorem advanced_remove (h : Related P dir s a) {outcome : Store.RemoveOutcome} {key : Name}
    (hproc : s.procs p = .asked (.remove outcome key))
    (hstatus : a.status p = .invoked (.remove key)) :
    ∃ a', History Atomic.Move a [] a' ∧ Related P dir (s.advanced P dir p) a' := by
  rw [Shared.advanced, hproc]
  cases outcome with
  | threw what => exact h.performs (.refl s p) hstatus .notRemoved
  | done =>
      have hsame : ∀ q, q ≠ key.path dir →
          Function.update s.files (key.path dir) .absent q = s.files q :=
        fun q hq ↦ Function.update_of_ne hq _ _
      have hharmless : Harmless dir s p (Function.update s.files (key.path dir) .absent) := by
        refine h.harmless key (fun q hq _ ↦ hsame q hq) ?_
        intro what hwhat
        rw [Function.update_self] at hwhat
        cases hwhat
      have htable : tableOf P dir (Function.update s.files (key.path dir) .absent) =
          Function.update (tableOf P dir s.files) key .absent := by
        rw [tableOf_congr fun key' hkey ↦ hsame _ fun heq ↦ hkey (Name.path_injective dir heq),
          Function.update_self]
        rfl
      have hreply : decide (s.files (key.path dir) ≠ .absent) =
          decide (tableOf P dir s.files key ≠ .absent) := by
        rw [tableOf, decide_eq_decide, ne_eq, ne_eq, cellOf_eq_absent_iff]
      have hremoved : Performs (tableOf P dir s.files) (.remove key)
          (.flag (decide (s.files (key.path dir) ≠ .absent)))
          (tableOf P dir (Function.update s.files (key.path dir) .absent)) := by
        rw [htable, hreply]
        exact .removed
      exact h.performs hharmless hstatus hremoved

theorem advanced_reading (hempty : ∃ e, P.json.parse [] = .error e) (h : Related P dir s a)
    {key : Name} (hproc : s.procs p = .reading key) (hstatus : a.status p = .invoked (.load key))
    (haccess : ∀ what, s.files (key.path dir) ≠ .inaccessible what) :
    ∃ a', History Atomic.Move a [] a' ∧ Related P dir (s.advanced P dir p) a' := by
  have hread := readKey_val hempty haccess
  obtain ⟨v, hval, hreply⟩ := Option.map_eq_some_iff.1 hread
  have hload : Performs (tableOf P dir s.files) (.load key) (.value v) (tableOf P dir s.files) := by
    rw [hreply]
    exact .load
  rw [Shared.advanced, hproc]
  simp only [advance, Prog.bind_val, Prog.bind_state, hval, readKey_state, Option.bind_some,
    Option.elim_some]
  exact h.performs (.refl s p) hstatus hload

/-- Where the file is renamed the save takes place, wherever the call ends. -/
theorem advanced_writing (hP : P.json.Lawful) (h : Related P dir s a) {job : Job} {point : Point}
    (hok : Event.Ok P dir (.advance p) s) (hproc : s.procs p = .writing job point)
    (hstatus : a.status p = .invoked (.save job.key job.value))
    (hdata : Store.envelope P job.value = .ok job.data)
    (hwhole : job.outcome.Renames → job.outcome.written job.data = job.data)
    (hpoint : PointOk job.outcome (job.key.path dir) job.data s.files point)
    (hunfinished : ∀ saved, point ≠ .finished saved) :
    ∃ a', History Atomic.Move a [] a' ∧ Related P dir (s.advanced P dir p) a' := by
  have hmove := advanceWrite_move hpoint hunfinished
  have hown : (s.procs p).temp = point.temp := by rw [hproc]; rfl
  have hvalue := utf8_of_envelope hP hdata
  rw [Shared.advanced, hproc]
  simp only [advance, Prog.bind_pure_val, Prog.bind_pure_state]
  generalize (advanceWrite job.outcome (job.key.path dir) job.data point s.files).val = val
    at hmove
  generalize (advanceWrite job.outcome (job.key.path dir) job.data point s.files).state = files
    at hmove
  cases hmove with
  | @onward next _ hnext hgoes htemp hsame =>
      rw [← hown] at hsame
      obtain ⟨hharmless, htable⟩ := h.unseen job.key hsame
      have hproc' : Proc.ofPoint job next = .writing job next := by
        cases next with
        | finished saved => exact absurd rfl (hgoes saved)
        | start | named | opened | inserted | flushed | closed => rfl
      rw [Option.map_some, Option.getD_some, hproc']
      refine h.stays hharmless htable ?_ ?_
      · rw [hstatus]
        exact .writing hdata hwhole hnext hgoes
      · intro q temp hq hmine hother
        rcases htemp with htemp | ⟨rfl, digits, hname, htemp⟩
        · exact hq (h.apart q p temp hother (hown.trans (htemp.symm.trans hmine)))
        · rw [show next.temp = some temp from hmine, Option.some.injEq] at htemp
          exact hok job digits hproc hname q (htemp ▸ hother)
  | stopped hval hsame =>
      rw [← hown] at hsame
      obtain ⟨hharmless, htable⟩ := h.unseen job.key hsame
      rcases hval with rfl | rfl
      · refine h.performs hharmless hstatus ?_
        rw [htable]
        exact .diedBefore
      · refine h.performs hharmless hstatus ?_
        rw [htable]
        exact .notSaved
  | renamed hrenames hval htarget hsame =>
      rw [← hown] at hsame
      rw [hwhole hrenames] at htarget
      have hharmless : Harmless dir s p files := by
        refine h.harmless job.key hsame ?_
        intro what hwhat
        rw [htarget] at hwhat
        cases hwhat
      have htable : tableOf P dir files =
          Function.update (tableOf P dir s.files) job.key (.value job.value) := by
        rw [tableOf_congr fun key' hkey ↦ hsame _
          (fun heq ↦ hkey (Name.path_injective dir heq)) (h.temp_ne_path p key'), htarget,
          cellOf_envelope hP hdata]
      rcases hval with rfl | rfl
      · refine h.performs hharmless hstatus ?_
        rw [htable]
        exact .diedAfter hvalue
      · refine h.performs hharmless hstatus ?_
        rw [htable]
        exact .saved hvalue

theorem advanced_related (hP : P.json.Lawful) (hempty : ∃ e, P.json.parse [] = .error e)
    (hok : Event.Ok P dir (.advance p) s) (h : Related P dir s a) :
    ∃ a', History Atomic.Move a [] a' ∧ Related P dir (s.advanced P dir p) a' := by
  have hmatch := h.procs p
  generalize hproc : s.procs p = proc at hmatch
  generalize hstatus : a.status p = status at hmatch
  cases hmatch with
  | idle =>
      rw [Shared.advanced, hproc]
      refine h.stays (.refl s p) rfl ?_ nofun
      rw [hstatus]
      exact .idle
  | @asked request hwhole =>
      cases request with
      | save outcome key value => exact advanced_save hP h hproc hstatus hwhole
      | load key => exact advanced_load h hproc hstatus
      | keyExists key => exact advanced_exists h hproc hstatus
      | remove outcome key => exact advanced_remove h hproc hstatus
  | writing hdata hwhole hpoint hunfinished =>
      exact advanced_writing hP h hok hproc hstatus hdata hwhole hpoint hunfinished
  | reading haccess => exact advanced_reading hempty h hproc hstatus haccess
  | done =>
      rw [Shared.advanced, hproc]
      refine h.stays (.refl s p) rfl ?_ nofun
      rw [hstatus]
      exact .done

theorem step_related (hP : P.json.Lawful) (hempty : ∃ e, P.json.parse [] = .error e) {e : Event}
    (hok : e.Ok P dir s) (h : Related P dir s a) :
    ∃ a', History Atomic.Move a (step P dir e s).1.toList a' ∧
      Related P dir (step P dir e s).2 a' := by
  have hnothing : ∃ a', History Atomic.Move a [] a' ∧ Related P dir s a' := ⟨a, .nil a, h⟩
  cases e with
  | advance p => exact advanced_related hP hempty hok h
  | invoke p request =>
      have hmatch := h.procs p
      generalize hproc : s.procs p = proc at hmatch
      generalize hstatus : a.status p = status at hmatch
      cases hmatch with
      | idle =>
          simp only [FileStore.step, hproc]
          have hstep := h.step (.refl s p) (.asked hok) nofun
          rw [← h.table] at hstep
          exact ⟨_, .single (Atomic.Move.invoke hstatus), hstep⟩
      | asked | writing | reading | done =>
          simp only [FileStore.step, hproc]
          exact hnothing
  | respond p =>
      have hmatch := h.procs p
      generalize hproc : s.procs p = proc at hmatch
      generalize hstatus : a.status p = status at hmatch
      cases hmatch with
      | done =>
          simp only [FileStore.step, hproc]
          have hstep := h.step (.refl s p) .idle nofun
          rw [← h.table] at hstep
          exact ⟨_, .single (Atomic.Move.respond hstatus), hstep⟩
      | idle | asked | writing | reading =>
          simp only [FileStore.step, hproc]
          exact hnothing

variable (P dir) in
theorem related_start (files : Files) :
    Related P dir (.start files) ⟨tableOf P dir files, fun _ ↦ .idle⟩ :=
  ⟨rfl, fun _ ↦ .idle, nofun⟩

/-- However the steps of the processes interleave, wherever they are killed and whatever
temporary files they leave, what is seen of the directory is a history of the table that
takes one call at a time. -/
theorem concurrent_calls_atomic (hP : P.json.Lawful) (hempty : ∃ e, P.json.parse [] = .error e)
    (files : Files) {events : List Event}
    (hok : Along (fun e s ↦ (step P dir e s).2) (Event.Ok P dir) events (.start files)) :
    ∃ a, History Atomic.Move ⟨tableOf P dir files, fun _ ↦ .idle⟩
        (trace (step P dir) events (.start files)).1.reduceOption a ∧
      a.table = tableOf P dir (trace (step P dir) events (.start files)).2.files := by
  obtain ⟨a, hhistory, hrelated⟩ := exists_history
    (fun hok h ↦ step_related hP hempty hok h) hok (related_start P dir files)
  exact ⟨a, hhistory, hrelated.table⟩

end Processes

def wholeWrite (digit : Fin 16) : WriteOutcome where
  name := .ok fun _ ↦ digit
  opens := true
  insert := .buffered
  flush := 64
  close := 0
  rename := .ok ()
  killed := none

def sampleKey : Name := ⟨bytes "binding", by decide⟩

/-- A text in its envelope. -/
def wrapped (text : String) : Bytes :=
  bytes "\x7b\n    \"type\": \"string\",\n    \"value\": \"" ++ bytes text ++
    bytes "\"\n\x7d"

/-- Both writers have their temporary files when a reader comes. -/
def twoWriters : List Event :=
  [.invoke 0 (.save (wholeWrite ⟨0, by decide⟩) sampleKey (bytes "a")),
    .invoke 1 (.save (wholeWrite ⟨1, by decide⟩) sampleKey (bytes "b")), .advance 0, .advance 1,
    .advance 0, .advance 1, .invoke 2 (.load sampleKey), .advance 0]

theorem whole_wholeWrite (digit : Fin 16) (key : Name) {value data : Bytes}
    (h : Store.envelope textPlatform value = .ok data) (hroom : data.length ≤ 64) :
    (Request.save (wholeWrite digit) key value).Whole textPlatform := by
  intro data' h' _
  rw [h, Except.ok.injEq] at h'
  subst h'
  exact if_pos hroom

theorem tempPath_ne (path : Bytes) :
    tempPath path (fun _ ↦ ⟨0, by decide⟩) ≠ tempPath path (fun _ ↦ ⟨1, by decide⟩) := by
  intro h
  exact absurd (List.append_cancel_left h) (by decide)

theorem twoWriters_ok (dir : Bytes) (files : Files) :
    Along (fun e s ↦ (step textPlatform dir e s).2) (Event.Ok textPlatform dir) twoWriters
      (.start files) := by
  have ha : Store.envelope textPlatform (bytes "a") = .ok (wrapped "a") := by
    rw [Store.envelope, Json.ofFields_of_sorted (by decide)]
    rfl
  have hb : Store.envelope textPlatform (bytes "b") = .ok (wrapped "b") := by
    rw [Store.envelope, Json.ofFields_of_sorted (by decide)]
    rfl
  have hwholeA := fun digit ↦ whole_wholeWrite digit sampleKey ha (by decide)
  have hwholeB := fun digit ↦ whole_wholeWrite digit sampleKey hb (by decide)
  have hname : ∀ digit, (wholeWrite digit).name = .ok fun _ ↦ digit := fun _ ↦ rfl
  have hkilled : ∀ digit, (wholeWrite digit).killed = none := fun _ ↦ rfl
  have hpaths := tempPath_ne (sampleKey.path dir)
  simp [twoWriters, Along, step, Shared.start, Shared.set, Shared.advanced, advance, ha, hb,
    Event.Ok, hwholeA, hwholeB, advanceWrite, hname, hkilled, openTemp, Proc.ofPoint]
  refine ⟨?_, ?_, trivial⟩
  · rintro _ digits rfl hdigits q
    obtain rfl : (fun _ ↦ ⟨0, by decide⟩) = digits := by simpa [hname] using hdigits
    rcases q with _ | _ | q <;> simp [Function.update, Proc.temp, Point.temp]
  · rintro _ digits rfl hdigits q
    obtain rfl : (fun _ ↦ ⟨1, by decide⟩) = digits := by simpa [hname] using hdigits
    rcases q with _ | _ | q
    · simpa [Function.update, Proc.temp, Point.temp] using hpaths
    · simp [Function.update, Proc.temp, Point.temp]
    · simp [Function.update, Proc.temp]

theorem concurrent_calls_atomic_sample :
    ∃ a, History Atomic.Move
        ⟨tableOf textPlatform (bytes "/var/tbox/prov") fun _ ↦ .absent, fun _ ↦ .idle⟩
        (trace (step textPlatform (bytes "/var/tbox/prov")) twoWriters
          (.start fun _ ↦ .absent)).1.reduceOption a ∧
      a.table = tableOf textPlatform (bytes "/var/tbox/prov")
        (trace (step textPlatform (bytes "/var/tbox/prov")) twoWriters
          (.start fun _ ↦ .absent)).2.files :=
  concurrent_calls_atomic textPlatform_lawful ⟨_, rfl⟩ _ (twoWriters_ok _ _)

end TboxProv.FileStore
