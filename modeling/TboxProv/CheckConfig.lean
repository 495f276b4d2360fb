import TboxProv.ProvSchema
import TboxProv.Store
import TboxProv.Yaml.Library

/-!
# Checking a configuration file

`prov_cli check-config` loads a file and runs a few tests on the tree.  The tests
subscript nodes without looking at their type first, and nothing catches what a
subscript throws.
-/

namespace TboxProv.CheckConfig

open Crash ProvSchema

abbrev Check (σ α : Type) := Prog σ Output α

section Code

variable {σ : Type}

def fail (reason : Bytes) : Check σ (Throws Int32) := do
  Prog.emit (.stderr (bytes "FAIL: " ++ reason))
  pure (.ok 1)

def pass (path : Bytes) : Check σ (Throws Int32) := do
  Prog.emit (.stdout (bytes "PASS: " ++ path))
  pure (.ok 0)

/-- An `if` whose condition may throw. -/
def branch (condition : Throws Bool) (yes no : Check σ (Throws Int32)) : Check σ (Throws Int32) :=
  match condition with
  | .error e => pure (.error e)
  | .ok b => if b then yes else no

variable (Y : YamlLib) (path : Bytes)

/-- The type tests of the optional `storage` section, and the end of the function. -/
def checkStorage (config : Yaml) : Check σ (Throws Int32) :=
  branch (Y.isDefined ["storage"] config)
    (branch
      (Y.isDefined ["storage", "enable_write_protection"] config <&&>
        notM (Y.isScalar ["storage", "enable_write_protection"] config))
      (fail (bytes "'storage.enable_write_protection' must be a boolean")) <|
    branch
      (Y.isDefined ["storage", "max_retry_count"] config <&&>
        notM (Y.isScalar ["storage", "max_retry_count"] config))
      (fail (bytes "'storage.max_retry_count' must be an integer")) <|
    pass path)
    (pass path)

/-- The tests of the `prov` section, and what comes after them. -/
def checkProv (config : Yaml) : Check σ (Throws Int32) :=
  branch
    (notM (Y.isDefined ["prov"] config) <||>
      notM (Y.isDefined ["prov", "ipc"] config) <||>
      notM (Y.isDefined ["prov", "ipc", "socket_path"] config))
    (fail (bytes "missing required field 'prov.ipc.socket_path'")) <|
  branch (notM (Y.isScalar ["prov", "ipc", "socket_path"] config))
    (fail (bytes "'prov.ipc.socket_path' must be a string")) <|
  branch (Y.isDefined ["prov", "uid"] config <||> Y.isDefined ["prov", "sn"] config)
    (fail (bytes "test-only field 'prov.uid'/'prov.sn' present; " ++
      bytes "must not appear in production conf.d/prov.yaml")) <|
  checkStorage Y path config

/-- `loaded` is what `YAML::LoadFile` returned or threw. -/
def checkConfig (loaded : Throws Yaml) : Check σ (Throws Int32) :=
  match loaded with
  | .error e => fail (bytes "cannot parse " ++ path ++ bytes ": " ++ e.what)
  | .ok config =>
      if !config.isMap then fail (bytes "root node is not a mapping")
      else
        branch (Y.isDefined ["common"] config)
          (fail (bytes "forbidden top-level key 'common' present " ++
            bytes "(owned by BUILD /etc/tbox/common.yaml)")) <|
        checkProv Y path config

end Code

/-! ## How a check ends -/

/-- The tests before the `storage` section are passed. -/
structure HeadChecked (doc : Yaml) : Prop where
  noCommon : doc.field ["common"] = none
  socketPath : ∃ s, doc.field ["prov", "ipc", "socket_path"] = some (.scalar s)
  noUid : doc.field ["prov", "uid"] = none
  noSn : doc.field ["prov", "sn"] = none

/-- A scalar is subscripted: where `prov`, `prov.ipc` or `storage` should be a mapping. -/
inductive Escapes (doc : Yaml) : Prop
  | prov {s : Scalar} (noCommon : doc.field ["common"] = none)
      (h : doc.field ["prov"] = some (.scalar s))
  | ipc {s : Scalar} (noCommon : doc.field ["common"] = none)
      (h : doc.field ["prov", "ipc"] = some (.scalar s))
  | storage {s : Scalar} (checked : HeadChecked doc)
      (h : doc.field ["storage"] = some (.scalar s))

structure Accepts (doc : Yaml) : Prop where
  checked : HeadChecked doc
  storage : ∀ s, doc.field ["storage"] ≠ some (.scalar s)
  writeProtection : ∀ y, doc.field ["storage", "enable_write_protection"] = some y →
    y.isScalar = true
  retryCount : ∀ y, doc.field ["storage", "max_retry_count"] = some y → y.isScalar = true

/-- A field is there and no scalar. -/
def mistyped (n : Option Yaml) : Bool := n.isSome && !n.any Yaml.isScalar

theorem mistyped_eq_false_iff {n : Option Yaml} :
    mistyped n = false ↔ ∀ y, n = some y → y.isScalar = true := by
  cases n <;> simp [mistyped]

section Exits

variable {σ : Type} {Y : YamlLib} {path : Bytes} {doc : Yaml} {s : σ}

section Branch

variable {yes no : Check σ (Throws Int32)} {condition : Throws Bool}

@[simp] theorem fail_val (reason : Bytes) :
    (fail reason s : Outcome σ Output (Throws Int32)).val = some (.ok 1) := rfl

theorem branch_error {e : Exception} (h : condition = .error e) :
    branch condition yes no = pure (.error e) := by
  rw [h]
  rfl

theorem branch_true (h : condition = .ok true) : branch condition yes no = yes := by
  rw [h]
  rfl

theorem branch_false (h : condition = .ok false) : branch condition yes no = no := by
  rw [h]
  rfl

end Branch

variable (hY : Y.Lawful)
include hY

/-! ### The head -/

/-- Subscripting the root of a mapping does not throw. -/
theorem top_eq (key : String) (hkey : ∀ k ∈ [key], ¬ YamlLib.Index k)
    (hroot : doc.isMap = true) : Y.isDefined [key] doc = .ok (doc.field [key]).isSome :=
  hY.isDefined_under [] hkey Yaml.field_nil hroot

theorem checkConfig_of_root (hroot : doc.isMap = true) (hc : doc.field ["common"] = none) :
    (checkConfig Y path (.ok doc) : Check σ (Throws Int32)) = checkProv Y path doc := by
  have hcommon := top_eq hY "common" (by decide) hroot
  rw [hc] at hcommon
  rw [checkConfig, if_neg (by simp [hroot]), branch_false hcommon]

omit hY in
/-- The three questions for `prov.ipc.socket_path` come down to the last one. -/
theorem missing_eq :
    (notM (Y.isDefined ["prov"] doc) <||> notM (Y.isDefined ["prov", "ipc"] doc) <||>
        notM (Y.isDefined ["prov", "ipc", "socket_path"] doc)) =
      notM (Y.isDefined ["prov", "ipc", "socket_path"] doc) := by
  have hipc := Y.isDefined_or_append (y := doc) ["prov", "ipc"] ["socket_path"]
  have hprov := Y.isDefined_or_append (y := doc) ["prov"] ["ipc", "socket_path"]
  exact (congrArg _ hipc).trans hprov

theorem missing_ok (h : ¬ Yaml.Blocked ["prov", "ipc", "socket_path"] doc) :
    (notM (Y.isDefined ["prov"] doc) <||> notM (Y.isDefined ["prov", "ipc"] doc) <||>
        notM (Y.isDefined ["prov", "ipc", "socket_path"] doc)) =
      .ok !(doc.field ["prov", "ipc", "socket_path"]).isSome := by
  rw [missing_eq, hY.isDefined_eq (by decide) h, Throws.notM_ok]

theorem notScalar_eq (h : ¬ Yaml.Blocked ["prov", "ipc", "socket_path"] doc) :
    notM (Y.isScalar ["prov", "ipc", "socket_path"] doc) =
      .ok !(doc.field ["prov", "ipc", "socket_path"]).any Yaml.isScalar := by
  rw [hY.isScalar_eq (by decide) h, Throws.notM_ok]

theorem testOnly_eq {entries : List (Yaml × Yaml)}
    (hprov : doc.field ["prov"] = some (.mapping entries)) :
    (Y.isDefined ["prov", "uid"] doc <||> Y.isDefined ["prov", "sn"] doc) =
      .ok ((doc.field ["prov", "uid"]).isSome || (doc.field ["prov", "sn"]).isSome) := by
  have huid : Y.isDefined ["prov", "uid"] doc = .ok (doc.field ["prov", "uid"]).isSome :=
    hY.isDefined_under ["prov"] (by decide) hprov rfl
  have hsn : Y.isDefined ["prov", "sn"] doc = .ok (doc.field ["prov", "sn"]).isSome :=
    hY.isDefined_under ["prov"] (by decide) hprov rfl
  rw [huid, hsn, Throws.orM_ok]

omit hY in
theorem HeadChecked.root (h : HeadChecked doc) : doc.isMap = true := by
  obtain ⟨s, hs⟩ := h.socketPath
  exact Yaml.isMap_of_field_cons hs

omit hY in
theorem not_blocked_of_field {y : Yaml}
    (h : doc.field ["prov", "ipc", "socket_path"] = some y) :
    ¬ Yaml.Blocked ["prov", "ipc", "socket_path"] doc := by
  obtain ⟨entries, hipc⟩ := Yaml.isMap_of_field ["prov", "ipc"] h
  exact Yaml.not_blocked_of_isMap ["prov", "ipc"] hipc rfl

/-- Past the head only the `storage` section is left. -/
theorem checkConfig_of_checked (h : HeadChecked doc) :
    (checkConfig Y path (.ok doc) : Check σ (Throws Int32)) = checkStorage Y path doc := by
  obtain ⟨s, hs⟩ := h.socketPath
  obtain ⟨entries, hprov⟩ := Yaml.isMap_of_field ["prov"] hs
  have hpath := not_blocked_of_field hs
  have hmissing := missing_ok hY hpath
  have hscalar := notScalar_eq hY hpath
  have htest := testOnly_eq hY hprov
  rw [hs] at hmissing hscalar
  rw [h.noUid, h.noSn] at htest
  rw [checkConfig_of_root hY h.root h.noCommon, checkProv, branch_false hmissing,
    branch_false hscalar, branch_false htest]

/-! ### The `storage` section -/

omit hY in
theorem not_blocked_storage (key : String) (hroot : doc.isMap = true)
    (h : ∀ s, doc.field ["storage"] ≠ some (.scalar s)) :
    ¬ Yaml.Blocked ["storage", key] doc := by
  obtain ⟨entries, rfl⟩ := Yaml.isMap_iff.1 hroot
  rw [Yaml.blocked_cons_iff]
  rintro (⟨s, hs⟩ | ⟨y, hy, hblocked⟩)
  · cases hs
  · obtain ⟨s, rfl⟩ := Yaml.blocked_singleton_iff.1 hblocked
    apply h s
    rw [Yaml.field_cons, hy]
    rfl

theorem mistyped_eq {key : String} (hkey : ∀ k ∈ ["storage", key], ¬ YamlLib.Index k)
    (h : ¬ Yaml.Blocked ["storage", key] doc) :
    (Y.isDefined ["storage", key] doc <&&> notM (Y.isScalar ["storage", key] doc)) =
      .ok (mistyped (doc.field ["storage", key])) := by
  rw [hY.isDefined_eq hkey h, hY.isScalar_eq hkey h, Throws.notM_ok, Throws.andM_ok]
  rfl

theorem checkStorage_scalar {t : Scalar} (hroot : doc.isMap = true)
    (h : doc.field ["storage"] = some (.scalar t)) :
    ∃ e, (checkStorage Y path doc s).val = some (.error e) := by
  have hstorage := top_eq hY "storage" (by decide) hroot
  rw [h] at hstorage
  have hblocked : Yaml.Blocked ["storage", "enable_write_protection"] doc :=
    Yaml.blocked_of_scalar ["storage"] h
  obtain ⟨e, he⟩ := hY.isDefined_error (by decide) hblocked
  refine ⟨e, ?_⟩
  rw [checkStorage, branch_true hstorage, he, Throws.andM_error, branch_error rfl]
  rfl

/-- Where `storage` is not a scalar, the two tests of its fields decide. -/
theorem checkStorage_fields (hroot : doc.isMap = true)
    (h : ∀ t, doc.field ["storage"] ≠ some (.scalar t)) :
    (checkStorage Y path doc s).val =
      some (.ok (if mistyped (doc.field ["storage", "enable_write_protection"]) ||
        mistyped (doc.field ["storage", "max_retry_count"]) then 1 else 0)) := by
  have hstorage := top_eq hY "storage" (by decide) hroot
  cases hfield : doc.field ["storage"] with
  | none =>
      rw [hfield] at hstorage
      have hnone (key : String) : doc.field ["storage", key] = none := by
        change doc.field (["storage"] ++ [key]) = none
        rw [Yaml.field_append, hfield]
        rfl
      rw [checkStorage, branch_false hstorage, hnone, hnone]
      rfl
  | some y =>
      rw [hfield] at hstorage
      have hprotection := mistyped_eq hY (by decide)
        (not_blocked_storage "enable_write_protection" hroot h)
      have hcount := mistyped_eq hY (by decide)
        (not_blocked_storage "max_retry_count" hroot h)
      rw [checkStorage, branch_true hstorage, hprotection, hcount]
      cases mistyped (doc.field ["storage", "enable_write_protection"]) with
      | true => rfl
      | false => cases mistyped (doc.field ["storage", "max_retry_count"]) <;> rfl

/-! ### All of it -/

theorem Accepts.exit (h : Accepts doc) :
    (checkConfig Y path (.ok doc) s).val = some (.ok 0) := by
  rw [checkConfig_of_checked hY h.checked, checkStorage_fields hY h.checked.root h.storage,
    mistyped_eq_false_iff.2 h.writeProtection, mistyped_eq_false_iff.2 h.retryCount]
  rfl

theorem blocked_exit (hroot : doc.isMap = true) (hcommon : doc.field ["common"] = none)
    (h : Yaml.Blocked ["prov", "ipc", "socket_path"] doc) :
    ∃ e, (checkConfig Y path (.ok doc) s).val = some (.error e) := by
  obtain ⟨e, he⟩ := hY.isDefined_error (by decide) h
  have hmissing :
      (notM (Y.isDefined ["prov"] doc) <||> notM (Y.isDefined ["prov", "ipc"] doc) <||>
          notM (Y.isDefined ["prov", "ipc", "socket_path"] doc)) = .error e := by
    rw [missing_eq, he, Throws.notM_error]
  refine ⟨e, ?_⟩
  rw [checkConfig_of_root hY hroot hcommon, checkProv, branch_error hmissing]
  rfl

theorem Escapes.exit (h : Escapes doc) :
    ∃ e, (checkConfig Y path (.ok doc) s).val = some (.error e) := by
  cases h with
  | prov hcommon h =>
      exact blocked_exit hY (Yaml.isMap_of_field_cons h) hcommon
        (Yaml.blocked_of_scalar ["prov"] h)
  | ipc hcommon h =>
      exact blocked_exit hY (Yaml.isMap_of_field_cons h) hcommon
        (Yaml.blocked_of_scalar ["prov", "ipc"] h)
  | storage hchecked h =>
      rw [checkConfig_of_checked hY hchecked]
      exact checkStorage_scalar hY hchecked.root h

omit hY in
theorem not_blocked_of_not_escapes (h : ¬ Escapes doc) (hroot : doc.isMap = true)
    (hcommon : doc.field ["common"] = none) :
    ¬ Yaml.Blocked ["prov", "ipc", "socket_path"] doc := by
  obtain ⟨entries, rfl⟩ := Yaml.isMap_iff.1 hroot
  rw [Yaml.blocked_cons_iff]
  rintro (⟨t, ht⟩ | ⟨y, hy, hblocked⟩)
  · cases ht
  · rw [Yaml.blocked_cons_iff] at hblocked
    rcases hblocked with ⟨t, rfl⟩ | ⟨z, hz, hblocked⟩
    · apply h
      apply Escapes.prov hcommon (s := t)
      rw [Yaml.field_cons, hy]
      rfl
    · obtain ⟨t, rfl⟩ := Yaml.blocked_singleton_iff.1 hblocked
      apply h
      apply Escapes.ipc hcommon (s := t)
      rw [Yaml.field_cons, hy, Option.bind_some, Yaml.field_cons, hz]
      rfl

/-! ### Rejections -/

theorem rejected_common (hroot : doc.isMap = true) (h : doc.field ["common"] ≠ none) :
    (checkConfig Y path (.ok doc) s).val = some (.ok 1) := by
  have hcommon := top_eq hY "common" (by decide) hroot
  rw [Option.isSome_iff_ne_none.2 h] at hcommon
  rw [checkConfig, if_neg (by simp [hroot]), branch_true hcommon, fail_val]

theorem rejected_socketPath (hroot : doc.isMap = true) (hc : doc.field ["common"] = none)
    (hpath : ¬ Yaml.Blocked ["prov", "ipc", "socket_path"] doc)
    (h : ∀ t, doc.field ["prov", "ipc", "socket_path"] ≠ some (.scalar t)) :
    (checkConfig Y path (.ok doc) s).val = some (.ok 1) := by
  have hmissing := missing_ok hY hpath
  have hscalar := notScalar_eq hY hpath
  cases hs : doc.field ["prov", "ipc", "socket_path"] with
  | none =>
      rw [hs] at hmissing
      rw [checkConfig_of_root hY hroot hc, checkProv, branch_true hmissing, fail_val]
  | some y =>
      have hy : y.isScalar = false := by
        rw [Bool.eq_false_iff, ne_eq, Yaml.isScalar_iff]
        rintro ⟨t, rfl⟩
        exact h t hs
      rw [hs] at hmissing hscalar
      rw [Option.any_some, hy] at hscalar
      rw [checkConfig_of_root hY hroot hc, checkProv, branch_false hmissing,
        branch_true hscalar, fail_val]

theorem rejected_testOnly {t : Scalar} (hroot : doc.isMap = true)
    (hc : doc.field ["common"] = none)
    (hs : doc.field ["prov", "ipc", "socket_path"] = some (.scalar t))
    (h : ¬ (doc.field ["prov", "uid"] = none ∧ doc.field ["prov", "sn"] = none)) :
    (checkConfig Y path (.ok doc) s).val = some (.ok 1) := by
  obtain ⟨entries, hprov⟩ := Yaml.isMap_of_field ["prov"] hs
  have hpath := not_blocked_of_field hs
  have hmissing := missing_ok hY hpath
  have hscalar := notScalar_eq hY hpath
  have htest := testOnly_eq hY hprov
  rw [hs] at hmissing hscalar
  have hpresent : ((doc.field ["prov", "uid"]).isSome || (doc.field ["prov", "sn"]).isSome) =
      true := by
    rw [Bool.or_eq_true, Option.isSome_iff_ne_none, Option.isSome_iff_ne_none]
    exact not_and_or.1 h
  rw [hpresent] at htest
  rw [checkConfig_of_root hY hroot hc, checkProv, branch_false hmissing, branch_false hscalar,
    branch_true htest, fail_val]

theorem unchecked_exit (hescapes : ¬ Escapes doc) (h : ¬ HeadChecked doc) :
    (checkConfig Y path (.ok doc) s).val = some (.ok 1) := by
  cases hroot : doc.isMap with
  | false => rw [checkConfig, if_pos (by simp [hroot]), fail_val]
  | true =>
      by_cases hc : doc.field ["common"] = none
      · have hpath := not_blocked_of_not_escapes hescapes hroot hc
        by_cases hs : ∃ t, doc.field ["prov", "ipc", "socket_path"] = some (.scalar t)
        · obtain ⟨t, ht⟩ := hs
          apply rejected_testOnly hY hroot hc ht
          rintro ⟨huid, hsn⟩
          exact h ⟨hc, ⟨t, ht⟩, huid, hsn⟩
        · exact rejected_socketPath hY hroot hc hpath (not_exists.1 hs)
      · exact rejected_common hY hroot hc

/-- A document that neither makes a subscript throw nor passes every test is rejected. -/
theorem rejected_exit (hescapes : ¬ Escapes doc) (haccepts : ¬ Accepts doc) :
    (checkConfig Y path (.ok doc) s).val = some (.ok 1) := by
  by_cases hchecked : HeadChecked doc
  · have hstorage : ∀ t, doc.field ["storage"] ≠ some (.scalar t) := by
      intro t ht
      exact hescapes (.storage hchecked ht)
    rw [checkConfig_of_checked hY hchecked, checkStorage_fields hY hchecked.root hstorage, if_pos]
    by_contra hfields
    rw [Bool.or_eq_true, not_or, Bool.not_eq_true, Bool.not_eq_true, mistyped_eq_false_iff,
      mistyped_eq_false_iff] at hfields
    exact haccepts ⟨hchecked, hstorage, hfields.1, hfields.2⟩
  · exact unchecked_exit hY hescapes hchecked

end Exits

/-! ## What a check prints -/

/-- The verdicts on a file that loads: a field and a reason, nothing that the file says. -/
def reports (path : Bytes) : List Output :=
  .stdout (bytes "PASS: " ++ path) ::
    [bytes "root node is not a mapping",
      bytes "forbidden top-level key 'common' present " ++
        bytes "(owned by BUILD /etc/tbox/common.yaml)",
      bytes "missing required field 'prov.ipc.socket_path'",
      bytes "'prov.ipc.socket_path' must be a string",
      bytes "test-only field 'prov.uid'/'prov.sn' present; " ++
        bytes "must not appear in production conf.d/prov.yaml",
      bytes "'storage.enable_write_protection' must be a boolean",
      bytes "'storage.max_retry_count' must be an integer"].map
      fun reason ↦ .stderr (bytes "FAIL: " ++ reason)

/-- The state stays, and only the given lines are printed. -/
def Prints {σ : Type} (lines : List Output) (p : Check σ (Throws Int32)) : Prop :=
  ∀ s, (p s).state = s ∧ (p s).out ⊆ lines

namespace Prints

variable {σ : Type} {lines : List Output} {path : Bytes}

theorem fail {reason : Bytes} (h : .stderr (bytes "FAIL: " ++ reason) ∈ lines) :
    Prints lines (CheckConfig.fail reason : Check σ (Throws Int32)) :=
  fun _ ↦ ⟨rfl, List.cons_subset.2 ⟨h, List.nil_subset lines⟩⟩

theorem pass (h : .stdout (bytes "PASS: " ++ path) ∈ lines) :
    Prints lines (CheckConfig.pass path : Check σ (Throws Int32)) :=
  fun _ ↦ ⟨rfl, List.cons_subset.2 ⟨h, List.nil_subset lines⟩⟩

theorem branch {condition : Throws Bool} {yes no : Check σ (Throws Int32)}
    (hyes : Prints lines yes) (hno : Prints lines no) :
    Prints lines (CheckConfig.branch condition yes no) := by
  rcases condition with e | _ | _
  · exact fun _ ↦ ⟨rfl, List.nil_subset lines⟩
  · exact hno
  · exact hyes

end Prints

/-- A check has no side effects, and its output says nothing of the values in the file. -/
theorem checkConfig_prints {σ : Type} (Y : YamlLib) (path : Bytes) (config : Yaml) :
    Prints (reports path) (checkConfig Y path (.ok config) : Check σ (Throws Int32)) := by
  have hstorage : Prints (reports path) (checkStorage Y path config : Check σ (Throws Int32)) := by
    apply Prints.branch
    · apply Prints.branch (Prints.fail (by simp [reports]))
      apply Prints.branch (Prints.fail (by simp [reports]))
      exact Prints.pass (by simp [reports])
    · exact Prints.pass (by simp [reports])
  have hprov : Prints (reports path) (checkProv Y path config : Check σ (Throws Int32)) := by
    apply Prints.branch (Prints.fail (by simp [reports]))
    apply Prints.branch (Prints.fail (by simp [reports]))
    apply Prints.branch (Prints.fail (by simp [reports]))
    exact hstorage
  rw [checkConfig]
  split
  · exact Prints.fail (by simp [reports])
  · apply Prints.branch (Prints.fail (by simp [reports]))
    exact hprov

end TboxProv.CheckConfig
