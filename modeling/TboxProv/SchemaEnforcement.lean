import TboxProv.CheckConfig

/-!
# How far the check enforces the schema

A file that meets the fail-closed rules passes the check, and a file that the check
turns away breaks one of them.  The other way round the check has gaps: a scalar in
the place of a section makes it throw, and some rules are never looked at.
-/

namespace TboxProv.CheckConfig

open Crash ProvSchema

variable (resolve : Scalar → ScalarType)

/-- The check ends by returning 0 or 1, and by 0 only for a file that meets the rules. -/
def EnforcesSchema (loaded : Throws Yaml) (exit : Option (Throws Int32)) : Prop :=
  (exit = some (.ok 0) ∨ exit = some (.ok 1)) ∧
    (exit = some (.ok 0) → ∃ doc, loaded = .ok doc ∧ FailClosed resolve doc)

/-- Rules that no test looks at. -/
inductive Unchecked (doc : Yaml) : Prop
  | unknownKey {key : Yaml} (hkey : key ∈ doc.keys)
      (h : ∀ name ∈ topLevel, key.hasText name = false)
  | socketPath {s : Scalar} (h : doc.field ["prov", "ipc", "socket_path"] = some (.scalar s))
      (hs : resolve s ≠ .string)
  | storage {y : Yaml} (h : doc.field ["storage"] = some y) (hy : y.isMap = false)
  | writeProtection {s : Scalar}
      (h : doc.field ["storage", "enable_write_protection"] = some (.scalar s))
      (hs : resolve s ≠ .boolean)
  | retryCount {s : Scalar} (h : doc.field ["storage", "max_retry_count"] = some (.scalar s))
      (hs : ∀ z, resolve s = .integer z → z < 0 ∨ 100 < z)

/-- The documents that get past the check without meeting the rules, or make it throw. -/
inductive Slips (doc : Yaml) : Prop
  | escapes (h : Escapes doc)
  | unchecked (haccepts : Accepts doc) (h : Unchecked resolve doc)

variable {resolve} {doc : Yaml}

/-! ## The tests against the rules -/

section FailClosed

variable (h : FailClosed resolve doc)
include h

theorem accepts_of_failClosed : Accepts doc where
  checked := by
    obtain ⟨s, hs, -⟩ := h.socketPath
    exact ⟨h.noCommon, ⟨s, hs⟩, h.noUid, h.noSn⟩
  storage := by
    intro s hs
    have hmap := h.storage _ hs
    cases hmap
  writeProtection := by
    intro y hy
    obtain ⟨s, rfl, -⟩ := h.writeProtection y hy
    rfl
  retryCount := by
    intro y hy
    obtain ⟨s, z, rfl, -⟩ := h.retryCount y hy
    rfl

theorem not_unchecked_of_failClosed : ¬ Unchecked resolve doc := by
  intro hunchecked
  cases hunchecked with
  | unknownKey hkey hunknown =>
      obtain ⟨name, hname, htext⟩ := h.known _ hkey
      rw [hunknown name hname] at htext
      cases htext
  | socketPath hpath hs =>
      obtain ⟨t, ht, hstring⟩ := h.socketPath
      rw [hpath] at ht
      cases ht
      exact hs hstring
  | storage hstorage hy =>
      rw [h.storage _ hstorage] at hy
      cases hy
  | writeProtection hfield hs =>
      obtain ⟨t, ht, hboolean⟩ := h.writeProtection _ hfield
      cases ht
      exact hs hboolean
  | retryCount hfield hs =>
      obtain ⟨t, z, ht, hz, hlo, hhi⟩ := h.retryCount _ hfield
      cases ht
      have hbounds := hs z hz
      omega

end FailClosed

theorem Accepts.failClosed (h : Accepts doc) (hchecked : ¬ Unchecked resolve doc) :
    FailClosed resolve doc := by
  obtain ⟨s, hs⟩ := h.checked.socketPath
  exact {
    root := h.checked.root
    noCommon := h.checked.noCommon
    known := by
      intro key hkey
      by_contra hunknown
      apply hchecked
      apply Unchecked.unknownKey hkey
      intro name hname
      rw [Bool.eq_false_iff]
      intro htext
      exact hunknown ⟨name, hname, htext⟩
    prov := Yaml.isMap_of_field ["prov"] hs
    ipc := Yaml.isMap_of_field ["prov", "ipc"] hs
    socketPath := by
      refine ⟨s, hs, ?_⟩
      by_contra hstring
      exact hchecked (.socketPath hs hstring)
    noUid := h.checked.noUid
    noSn := h.checked.noSn
    storage := by
      intro y hy
      rw [← Bool.not_eq_false]
      intro hmap
      exact hchecked (.storage hy hmap)
    writeProtection := by
      intro y hy
      obtain ⟨t, rfl⟩ := Yaml.isScalar_iff.1 (h.writeProtection y hy)
      refine ⟨t, rfl, ?_⟩
      by_contra hboolean
      exact hchecked (.writeProtection hy hboolean)
    retryCount := by
      intro y hy
      obtain ⟨t, rfl⟩ := Yaml.isScalar_iff.1 (h.retryCount y hy)
      by_contra hrange
      apply hchecked
      apply Unchecked.retryCount hy
      intro z hz
      by_contra hbounds
      exact hrange ⟨t, z, rfl, hz, by omega, by omega⟩ }

theorem not_slips_of_failClosed (h : FailClosed resolve doc) : ¬ Slips resolve doc := by
  intro hslips
  cases hslips with
  | escapes hescapes =>
      -- no run can both throw and return
      have hthrows : ∃ e, (checkConfig YamlLib.yamlCpp [] (.ok doc) ()).val = some (.error e) :=
        hescapes.exit YamlLib.yamlCpp_lawful
      obtain ⟨e, he⟩ := hthrows
      rw [(accepts_of_failClosed h).exit YamlLib.yamlCpp_lawful] at he
      cases he
  | unchecked _ hunchecked => exact not_unchecked_of_failClosed h hunchecked

/-! ## The check against the rules -/

section Enforcement

variable {σ : Type} {Y : YamlLib} (hY : Y.Lawful) (path : Bytes) (s : σ)
include hY

/-- The check enforces the rules on a file exactly if its tree is none of those that slip. -/
theorem checkConfig_enforces_iff (loaded : Throws Yaml) :
    EnforcesSchema resolve loaded (checkConfig Y path loaded s).val ↔
      ∀ doc, loaded = .ok doc → ¬ Slips resolve doc := by
  constructor
  · rintro ⟨hends, hrules⟩ doc rfl hslips
    cases hslips with
    | escapes h =>
        obtain ⟨e, he⟩ := h.exit hY
        rw [he] at hends
        rcases hends with h₀ | h₁
        · cases h₀
        · cases h₁
    | unchecked haccepts h =>
        obtain ⟨doc', hdoc, hmet⟩ := hrules (haccepts.exit hY)
        cases hdoc
        exact not_unchecked_of_failClosed hmet h
  · intro hslips
    rcases loaded with e | doc
    · refine ⟨.inr rfl, ?_⟩
      intro h
      cases h
    · have hescapes : ¬ Escapes doc := fun h ↦ hslips doc rfl (.escapes h)
      by_cases haccepts : Accepts doc
      · refine ⟨.inl (haccepts.exit hY), ?_⟩
        intro _
        refine ⟨doc, rfl, ?_⟩
        apply haccepts.failClosed
        intro hunchecked
        exact hslips doc rfl (.unchecked haccepts hunchecked)
      · have hexit : (checkConfig Y path (.ok doc) s).val = some (.ok 1) :=
          rejected_exit hY hescapes haccepts
        refine ⟨.inr hexit, ?_⟩
        intro h
        rw [hexit] at h
        cases h

end Enforcement

theorem defaultTemplate_enforced :
    EnforcesSchema CoreSchema.resolve (.ok defaultTemplate)
      (checkConfig YamlLib.yamlCpp (bytes "/etc/tbox/conf.d/prov.yaml") (.ok defaultTemplate)
        ()).val := by
  apply (checkConfig_enforces_iff YamlLib.yamlCpp_lawful _ _ _).2
  intro doc hdoc
  cases hdoc
  exact not_slips_of_failClosed production_defaultTemplate.failClosed

/-! ## Files that slip -/

def scalarSection : Yaml := template (.plain "enabled") defaultStorage

def wordyCount : Yaml :=
  template defaultProv
    (.ofFields [("enable_write_protection", .plain "true"), ("max_retry_count", .plain "many")])

theorem slips_not_enforced :
    ¬ EnforcesSchema CoreSchema.resolve (.ok scalarSection)
        (checkConfig YamlLib.yamlCpp (bytes "prov.yaml") (.ok scalarSection) ()).val ∧
      ¬ EnforcesSchema CoreSchema.resolve (.ok wordyCount)
        (checkConfig YamlLib.yamlCpp (bytes "prov.yaml") (.ok wordyCount) ()).val := by
  constructor
  · have hescapes : Escapes scalarSection := .prov rfl rfl
    obtain ⟨e, he⟩ := hescapes.exit YamlLib.yamlCpp_lawful
    rintro ⟨hends, -⟩
    rw [he] at hends
    rcases hends with h₀ | h₁
    · cases h₀
    · cases h₁
  · have haccepts : Accepts wordyCount := {
      checked := ⟨rfl, ⟨⟨bytes "!", bytes "/tmp/tbox-prov.sock"⟩, rfl⟩, rfl, rfl⟩
      storage := by
        intro s hs
        cases hs
      writeProtection := by
        intro y hy
        cases hy
        rfl
      retryCount := by
        intro y hy
        cases hy
        rfl }
    rintro ⟨-, hrules⟩
    obtain ⟨doc, hdoc, hmet⟩ := hrules (haccepts.exit YamlLib.yamlCpp_lawful)
    cases hdoc
    obtain ⟨s, z, hs, hz, -⟩ := hmet.retryCount (.plain "many") rfl
    cases hs
    have hword : CoreSchema.resolve ⟨bytes "?", bytes "many"⟩ = .string := by decide
    rw [hword] at hz
    cases hz

end TboxProv.CheckConfig
