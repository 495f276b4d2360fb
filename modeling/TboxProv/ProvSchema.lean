import TboxProv.Yaml.Schema

/-!
# The configuration schema

What `config/schema/prov.schema.yaml` asks of a production `conf.d/prov.yaml`: the
schema as data, and the fail-closed rules that a file has to meet.
-/

namespace TboxProv.ProvSchema

/-- Test-only fields must not be there in production. -/
abbrev testOnly : Presence := .forbidden

def provSchema : Schema :=
  .mapping true
    [("common", .forbidden, .any),
      ("prov", .optional, .mapping false
        [("ipc", .optional, .mapping false [("socket_path", .required, .string [])]),
          ("log", .optional, .mapping false
            [("level", .optional, .string ["trace", "debug", "info", "warn", "error"])]),
          ("uid", testOnly, .string []),
          ("sn", testOnly, .string [])]),
      ("storage", .optional, .mapping false
        [("enable_write_protection", .optional, .boolean),
          ("max_retry_count", .optional, .integer (some 0) (some 100))]),
      ("uds", .optional, .mapping false
        [("security_access", .optional, .mapping false
          [("supported_levels", .optional, .sequence (.integer none none)),
            ("seed_length", .optional, .integer none none),
            ("key_length", .optional, .integer none none)])]),
      ("did", .optional, .mapping false
        [("vin", .optional, .integer none none),
          ("vehicle_binding", .optional, .integer none none),
          ("provision_state", .optional, .integer none none),
          ("vehicle_config", .optional, .integer none none),
          ("production_info", .optional, .integer none none)]),
      ("rid", .optional, .mapping false [("rewrite_routine", .optional, .integer none none)])]

def topLevel : List String := ["prov", "storage", "uds", "did", "rid"]

variable (resolve : Scalar → ScalarType)

/-- The schema together with the field that production files must have. -/
structure Production (doc : Yaml) : Prop where
  conforms : Schema.Conforms resolve provSchema doc
  socketPath : (doc.field ["prov", "ipc", "socket_path"]).isSome = true

/-- The fail-closed rules.  A path leads through mappings only. -/
structure FailClosed (doc : Yaml) : Prop where
  root : doc.isMap = true
  noCommon : doc.field ["common"] = none
  known : ∀ key ∈ doc.keys, ∃ name ∈ topLevel, key.hasText name = true
  prov : ∃ entries, doc.field ["prov"] = some (.mapping entries)
  ipc : ∃ entries, doc.field ["prov", "ipc"] = some (.mapping entries)
  socketPath : ∃ s, doc.field ["prov", "ipc", "socket_path"] = some (.scalar s) ∧
    resolve s = .string
  noUid : doc.field ["prov", "uid"] = none
  noSn : doc.field ["prov", "sn"] = none
  storage : ∀ y, doc.field ["storage"] = some y → y.isMap = true
  writeProtection : ∀ y, doc.field ["storage", "enable_write_protection"] = some y →
    ∃ s, y = .scalar s ∧ resolve s = .boolean
  retryCount : ∀ y, doc.field ["storage", "max_retry_count"] = some y →
    ∃ s z, y = .scalar s ∧ resolve s = .integer z ∧ 0 ≤ z ∧ z ≤ 100

variable {resolve} {doc : Yaml}

namespace Production

variable (h : Production resolve doc)
include h

theorem root : doc.isMap = true := h.conforms.1

theorem conforms_at {path : List String} {presence : Presence} {schema : Schema} {y : Yaml}
    (hg : Schema.field path (.required, provSchema) = some (presence, schema))
    (hy : doc.field path = some y) : Schema.Conforms resolve schema y :=
  (Schema.Conforms.of_field (f := (.required, provSchema)) h.conforms (by decide) hg hy).2

theorem absent {path : List String} {schema : Schema}
    (hg : Schema.field path (.required, provSchema) = some (.forbidden, schema)) :
    doc.field path = none :=
  Schema.Conforms.field_eq_none (f := (.required, provSchema)) h.conforms (by decide) hg rfl

theorem known : ∀ key ∈ doc.keys, ∃ name ∈ topLevel, key.hasText name = true := by
  intro key hkey
  obtain ⟨f, hf, htext⟩ := h.conforms.2.1 rfl key hkey
  have hnames : f.1 = "common" ∨ f.1 ∈ topLevel := by
    have hmem := List.mem_map_of_mem (f := Prod.fst) hf
    simpa [topLevel] using hmem
  rcases hnames with hcommon | hname
  · -- the schema knows the name, but forbids it
    have hnone : doc.field ["common"] = none := h.absent rfl
    rw [Yaml.field_cons, Option.bind_eq_none_iff] at hnone
    have hmember : doc.member "common" = none := by
      cases hy : doc.member "common" with
      | none => rfl
      | some y => exact absurd (hnone y hy) (by simp)
    have hfalse := Yaml.member_eq_none_iff.1 hmember key hkey
    rw [← hcommon, htext] at hfalse
    cases hfalse
  · exact ⟨f.1, hname, htext⟩

theorem failClosed : FailClosed resolve doc := by
  obtain ⟨y, hy⟩ := Option.isSome_iff_exists.1 h.socketPath
  have hpath : Schema.Conforms resolve (.string []) y := h.conforms_at rfl hy
  obtain ⟨s, rfl, hs, -⟩ := Yaml.scalarWith_iff.1 hpath
  exact {
    root := h.root
    noCommon := h.absent rfl
    known := h.known
    prov := Yaml.isMap_of_field ["prov"] hy
    ipc := Yaml.isMap_of_field ["prov", "ipc"] hy
    socketPath := ⟨s, hy, hs⟩
    noUid := h.absent rfl
    noSn := h.absent rfl
    storage := by
      intro z hz
      have hstorage : Schema.Conforms resolve (.mapping false _) z := h.conforms_at rfl hz
      exact hstorage.1
    writeProtection := by
      intro z hz
      have hprotection : Schema.Conforms resolve .boolean z := h.conforms_at rfl hz
      exact Yaml.scalarWith_iff.1 hprotection
    retryCount := by
      intro z hz
      have hcount : Schema.Conforms resolve (.integer (some 0) (some 100)) z :=
        h.conforms_at rfl hz
      obtain ⟨t, ht, hwithin⟩ := Yaml.scalarWith_iff.1 hcount
      obtain ⟨n, hn, hbounds⟩ := ScalarType.within_some_iff.1 hwithin
      exact ⟨t, n, ht, hn, hbounds⟩ }

end Production

/-! ## The default template -/

def defaultStorage : Yaml :=
  .ofFields [("enable_write_protection", .plain "true"), ("max_retry_count", .plain "3")]

/-- A configuration like `config/prov.default.yaml`, with its own `prov` and `storage`. -/
def template (prov storage : Yaml) : Yaml :=
  .ofFields
    [("prov", prov),
      ("storage", storage),
      ("uds", .ofFields [("security_access", .ofFields
        [("supported_levels", .sequence [.plain "0x27", .plain "0x29"]),
          ("seed_length", .plain "4"), ("key_length", .plain "4")])]),
      ("did", .ofFields
        [("vin", .plain "0xF190"), ("vehicle_binding", .plain "0xF191"),
          ("provision_state", .plain "0xF192"), ("vehicle_config", .plain "0xF193"),
          ("production_info", .plain "0xF194")]),
      ("rid", .ofFields [("rewrite_routine", .plain "0xFF00")])]

def defaultProv : Yaml :=
  .ofFields
    [("ipc", .ofFields [("socket_path", .quoted "/tmp/tbox-prov.sock")]),
      ("log", .ofFields [("level", .quoted "info")])]

def defaultTemplate : Yaml := template defaultProv defaultStorage

theorem production_defaultTemplate : Production CoreSchema.resolve defaultTemplate where
  conforms := by decide
  socketPath := by decide

end TboxProv.ProvSchema
