import ChainDashboard.Proofs.Document.Says
import ChainDashboard.Topology.Settings

/-!
# Settings that documents state

What each setting takes from a document is said by section and field, apart from how it is read. The
readers agree with that: store settings are read if and only if all parts of them are stated by the
one document (`toOption_storeSettings_eq_some`), and credentials are merged part by part from what
the document says and what was held (`Credentials.mergedFrom`).
-/

namespace ChainDashboard

/-! ## The metric store -/

/-- All parts of the store settings are those of one document. -/
structure StoreSettings.StatedBy (s : StoreSettings) (d : Document) : Prop where
  host : d.Says "redis" "host" s.host
  port : ∃ text, d.Says "redis" "port" text ∧ Text.readUInt16? text = some s.port
  enabled : d.Blank "redis" "enabled" ∧ s.enabled = true ∨
    ∃ text, d.Says "redis" "enabled" text ∧ s.enabled = Flag.read text
  password : ∀ value, s.password = some value ↔ d.Says "redis" "password" value

/-- The document gives the index of the store's database. -/
def Document.StatesIndex (d : Document) (index : Int64) : Prop :=
  ∃ text, d.Says "redis" "redis_database" text ∧ Text.readInt64? text = some index

namespace Document

/-- How reading the store settings ends, and why. -/
theorem storeSettings_cases (d : Document) :
    d.storeSettings = .error .storeSection ∧ d.record? "redis" = none ∨
    d.storeSettings = .error .storeHost ∧ (∃ r, d.record? "redis" = some r) ∧
      d.Blank "redis" "host" ∨
    d.storeSettings = .error .storePort ∧ (∃ host, d.Says "redis" "host" host) ∧
      (∀ text, d.Says "redis" "port" text → Text.readUInt16? text = none) ∨
    ∃ settings, d.storeSettings = .ok settings ∧ settings.StatedBy d := by
  cases present : d.record? "redis" with
  | none => exact .inl ⟨by simp only [storeSettings, present], rfl⟩
  | some r =>
    have own (field : String) : r.field? field = d.field? "redis" field := by
      rw [field?, present, Option.bind_some]
    cases host : r.field? "host" with
    | none =>
      refine .inr (.inl ⟨by simp only [storeSettings, present, host], ⟨r, rfl⟩, ?_⟩)
      exact field?_eq_none.mp ((own _).symm.trans host)
    | some name =>
      have named : d.Says "redis" "host" name := field?_eq_some.mp ((own _).symm.trans host)
      cases port : (r.field? "port").bind Text.readUInt16? with
      | none =>
        have read : d.storeSettings = .error .storePort := by
          simp only [storeSettings, present, host, port]
        refine .inr (.inr (.inl ⟨read, ⟨name, named⟩, fun text written => ?_⟩))
        rwa [own, field?_eq_some.mpr written] at port
      | some number =>
        have read : d.storeSettings = .ok ⟨((r.field? "enabled").map Flag.read).getD true, name,
            number, r.field? "password"⟩ := by
          simp only [storeSettings, present, host, port]
        refine .inr (.inr (.inr ⟨_, read, named, ?_, ?_, ?_⟩))
        · obtain ⟨text, written, read⟩ := Option.bind_eq_some_iff.mp port
          exact ⟨text, field?_eq_some.mp ((own _).symm.trans written), read⟩
        · cases enabled : r.field? "enabled" with
          | none => exact .inl ⟨field?_eq_none.mp ((own _).symm.trans enabled), rfl⟩
          | some flag =>
            refine .inr ⟨flag, field?_eq_some.mp ((own _).symm.trans enabled), ?_⟩
            rw [Option.map_some, Option.getD_some]
        · intro password
          rw [← field?_eq_some, ← own]

end Document

/-- A document states one set of store settings. -/
theorem StoreSettings.StatedBy.unique {s s' : StoreSettings} {d : Document} (h : s.StatedBy d)
    (h' : s'.StatedBy d) : s = s' := by
  have host : s.host = s'.host := h.host.unique h'.host
  have port : s.port = s'.port := by
    obtain ⟨text, said, read⟩ := h.port
    obtain ⟨text', said', read'⟩ := h'.port
    rw [said.unique said', read'] at read
    exact (Option.some.inj read).symm
  have enabled : s.enabled = s'.enabled := by
    rcases h.enabled with ⟨blank, on⟩ | ⟨text, said, read⟩ <;>
      rcases h'.enabled with ⟨blank', on'⟩ | ⟨text', said', read'⟩
    · rw [on, on']
    · exact absurd said' (Document.blank_iff.mp blank _)
    · exact absurd said (Document.blank_iff.mp blank' _)
    · rw [read, read', said.unique said']
  have password : s.password = s'.password :=
    Option.ext fun value => (h.password value).trans (h'.password value).symm
  cases s
  cases s'
  cases host
  cases port
  cases enabled
  cases password
  rfl

namespace Document

variable {d : Document}

theorem toOption_storeSettings_eq_some {settings : StoreSettings} :
    d.storeSettings.toOption = some settings ↔ settings.StatedBy d := by
  constructor
  · intro read
    rcases d.storeSettings_cases with ⟨failed, -⟩ | ⟨failed, -⟩ | ⟨failed, -⟩ | ⟨_, done, stated⟩
    · simp [failed, Except.toOption] at read
    · simp [failed, Except.toOption] at read
    · simp [failed, Except.toOption] at read
    · rw [done] at read
      cases read
      exact stated
  · intro stated
    rcases d.storeSettings_cases with ⟨-, absent⟩ | ⟨-, -, blank⟩ | ⟨-, -, invalid⟩ |
      ⟨settings', done, stated'⟩
    · obtain ⟨r, present, -⟩ := stated.host
      rw [absent] at present
      cases present
    · exact absurd stated.host (blank_iff.mp blank _)
    · obtain ⟨text, said, read⟩ := stated.port
      rw [invalid text said] at read
      cases read
    · rw [done, stated'.unique stated]
      rfl

theorem alerter?_eq_some {identifier : String} : d.alerter? = some identifier ↔
    d.Says "general" "unique_alerter_identifier" identifier :=
  field?_eq_some

theorem storeIndex?_eq_some {index : Int64} :
    d.storeIndex? = some index ↔ d.StatesIndex index := by
  simp only [storeIndex?, Option.bind_eq_some_iff, field?_eq_some, StatesIndex]

end Document

/-! ## Credentials -/

/-- The fields of an interface document with the parts of the credentials that they give. -/
def Credentials.parts : List (String × (Credentials → String)) :=
  [("username", username), ("hashed_password", hashedPassword), ("cookie_secret", cookieSecret)]

/-- The document has every part of the credentials. -/
def Document.HasCredentials (d : Document) : Prop :=
  ∀ part ∈ Credentials.parts, ∃ value, d.Says "authentication" part.1 value

/-- The credentials have every part that the document gives, and the others as they were held. -/
def Credentials.MergedFrom (c : Credentials) (d : Document) (held : Option Credentials) : Prop :=
  ∀ part ∈ parts,
    d.Says "authentication" part.1 (part.2 c) ∨
      d.Blank "authentication" part.1 ∧ held.map part.2 = some (part.2 c)

theorem Document.not_hasCredentials {d : Document} :
    ¬d.HasCredentials ↔ ∃ part ∈ Credentials.parts, d.Blank "authentication" part.1 := by
  simp only [HasCredentials, blank_iff, not_forall, not_exists, exists_prop]

namespace Credentials

variable {d : Document} {held : Option Credentials} {c : Credentials}

theorem forall_parts {P : String × (Credentials → String) → Prop} :
    (∀ part ∈ parts, P part) ↔
      P ("username", username) ∧ P ("hashed_password", hashedPassword) ∧
        P ("cookie_secret", cookieSecret) := by
  simp [parts]

/-- A merged part is the document's own, or was held. -/
theorem said_or_held {field : String} {value : String} {before : Option String}
    (h : (d.field? "authentication" field).or before = some value) :
    d.Says "authentication" field value ∨
      d.Blank "authentication" field ∧ before = some value := by
  rw [← Document.field?_eq_some, ← Document.field?_eq_none]
  rcases Option.or_eq_some_iff.mp h with own | ⟨blank, kept⟩
  · exact .inl own
  · exact .inr ⟨blank, kept⟩

theorem mergedFrom (h : merge d held = some c) : c.MergedFrom d held := by
  simp only [merge, Option.bind_eq_bind, Option.bind_eq_some_iff, Option.orElse_eq_orElse,
    Option.orElse_eq_or] at h
  obtain ⟨username, foundUsername, password, foundPassword, secret, foundSecret, made⟩ := h
  cases made
  exact forall_parts.mpr
    ⟨said_or_held foundUsername, said_or_held foundPassword, said_or_held foundSecret⟩

/-- Without anything held, only a document with every part gives credentials; with credentials held
every document does. -/
theorem isSome_merge (d : Document) (held : Option Credentials) :
    (merge d held).isSome ↔ held.isSome ∨ d.HasCredentials := by
  simp only [Document.HasCredentials, forall_parts, ← Document.field?_eq_some,
    ← Option.isSome_iff_exists]
  cases held <;> cases username : d.field? "authentication" "username" <;>
    cases password : d.field? "authentication" "hashed_password" <;>
    cases secret : d.field? "authentication" "cookie_secret" <;>
    simp [merge, Document.credential?, username, password, secret]

/-- Documents and held values give no credentials if a part is in neither. -/
theorem merge_eq_none : merge d held = none ↔
    ∃ part ∈ parts, d.Blank "authentication" part.1 ∧ held.map part.2 = none := by
  rw [← Option.not_isSome_iff_eq_none, isSome_merge, not_or, Option.not_isSome_iff_eq_none,
    Document.not_hasCredentials]
  simp only [Option.map_eq_none_iff]
  constructor
  · rintro ⟨lost, part, listed, blank⟩
    exact ⟨part, listed, blank, lost⟩
  · rintro ⟨part, listed, blank, lost⟩
    exact ⟨lost, part, listed, blank⟩

/-- The required fields that a document lacks are its blank parts. -/
theorem missing_eq_nil :
    (fields.filter fun f => (d.credential? f).isNone) = [] ↔ d.HasCredentials := by
  simp only [List.filter_eq_nil_iff, fields, List.forall_mem_cons, Document.credential?,
    Document.HasCredentials, forall_parts, ← Document.field?_eq_some, ← Option.isSome_iff_exists]
  simp [Option.isSome_iff_ne_none]

end Credentials

end ChainDashboard
