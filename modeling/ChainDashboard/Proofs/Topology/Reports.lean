import ChainDashboard.Proofs.Topology.History

/-!
# What a reload reports and what it changes

A reload names the required parts that its document lacks, and for these alone what was held before
stays. The report and the change are found out separately, for the credentials even in two passes
over the document; for every kind they fit together (`reload_reported_exactly`). What is named and
what is kept is stated here from the texts of the document, part by part.
-/

namespace ChainDashboard

/-! ## Reports of each kind -/

/-- The identifier of the alerter is named if it is blank, and then kept. -/
inductive IdentifierReport (d : Document) (held : Option String) :
    List String → Option String → Prop where
  | blank (blank : d.Blank "general" "unique_alerter_identifier") :
    IdentifierReport d held ["general.unique_alerter_identifier"] held
  | given {identifier : String}
    (given : d.Says "general" "unique_alerter_identifier" identifier) :
    IdentifierReport d held [] (some identifier)

/-- The first required part of the store settings that fails is named, and all that was held of them
is kept; if none fails they are replaced as a whole. -/
inductive StoreReport (d : Document) (held : Option StoreSettings) :
    List String → Option StoreSettings → Prop where
  | noSection (absent : d.record? "redis" = none) : StoreReport d held ["redis"] held
  | noHost {r : Record} (present : d.record? "redis" = some r) (blank : d.Blank "redis" "host") :
    StoreReport d held ["redis.host"] held
  | noPort {host : String} (given : d.Says "redis" "host" host)
    (invalid : ∀ text, d.Says "redis" "port" text → Text.readUInt16? text = none) :
    StoreReport d held ["redis.port"] held
  | stated {settings : StoreSettings} (stated : settings.StatedBy d) :
    StoreReport d held [] (some settings)

/-- The index is named if it is no number of 64 bits, and then kept. -/
inductive IndexReport (d : Document) (held : Option Int64) :
    List String → Option Int64 → Prop where
  | invalid (invalid : ∀ text, d.Says "redis" "redis_database" text → Text.readInt64? text = none) :
    IndexReport d held ["redis.redis_database"] held
  | given {text : String} {index : Int64} (given : d.Says "redis" "redis_database" text)
    (number : Text.readInt64? text = some index) : IndexReport d held [] (some index)

/-- The blank parts of the credentials are named, in order. They are replaced if all parts that are
named are held, and else nothing changes, not even the version. -/
structure CredentialsReport (d : Document) (held : Topology) (named : List String)
    (after : Topology) : Prop where
  named : named = (Credentials.parts.filter fun part => d.Blank "authentication" part.1).map
    fun part => "authentication." ++ part.1
  replaced : (∀ part ∈ Credentials.parts, d.Blank "authentication" part.1 →
      ∃ value, held.credentials.map part.2 = some value) →
    ∃ c : Credentials, c.MergedFrom d held.credentials ∧ after = held.next (.credentials c)
  kept : (∃ part ∈ Credentials.parts, d.Blank "authentication" part.1 ∧
      held.credentials.map part.2 = none) → after = held

/-- What a document of a kind makes the reload name, and leave in the slice of the kind. -/
def DocumentKind.Report (kind : DocumentKind) (d : Document) (held : Topology)
    (named : List String) (after : Topology) : Prop :=
  match kind with
  | .userMain => ∃ identifier store, named = identifier ++ store ∧
      IdentifierReport d held.main.alerter identifier after.main.alerter ∧
      StoreReport d held.main.store store after.main.store
  | .userNodes => named = [] ∧ after.chains = .ofDocument d
  | .userRepos => named = [] ∧ after.repositories = .ofDocument d
  | .internalMain => IndexReport d held.storeIndex named after.storeIndex
  | .userUi => CredentialsReport d held named after

/-! ## The reports of decisions -/

theorem identifierReport (d : Document) (held : Option String) :
    IdentifierReport d held
      ((if d.alerter?.isNone then [.alerterIdentifier] else []).map RequiredField.label)
      (d.alerter? <|> held) := by
  cases identifier : d.alerter? with
  | none => exact .blank (Document.field?_eq_none.mp identifier)
  | some value => exact .given (Document.field?_eq_some.mp identifier)

theorem storeReport (d : Document) (held : Option StoreSettings) :
    StoreReport d held
      ((match d.storeSettings with | .ok _ => [] | .error field => [field]).map RequiredField.label)
      (match d.storeSettings with | .ok settings => some settings | .error _ => held) := by
  rcases d.storeSettings_cases with ⟨read, absent⟩ | ⟨read, ⟨r, present⟩, blank⟩ |
    ⟨read, ⟨host, given⟩, invalid⟩ | ⟨settings, read, stated⟩ <;> rw [read]
  · exact .noSection absent
  · exact .noHost present blank
  · exact .noPort given invalid
  · exact .stated stated

theorem indexReport (d : Document) (held : Topology) :
    ∃ named, (Decision.ofInternal d).outcome = .ofMissing named ∧
      IndexReport d held.storeIndex (named.map RequiredField.label)
        (held.afterEvent (.read .internalMain d)).storeIndex := by
  rw [Topology.afterEvent_internalMain, Decision.ofInternal]
  cases read : d.storeIndex? with
  | none =>
    refine ⟨[.storeIndex], rfl, .invalid fun text written => ?_⟩
    rwa [Document.storeIndex?, Document.field?_eq_some.mpr written, Option.bind_some] at read
  | some index =>
    obtain ⟨text, written, number⟩ := Option.bind_eq_some_iff.mp read
    exact ⟨[], rfl, .given (Document.field?_eq_some.mp written) number⟩

namespace Credentials

variable {d : Document} {held : Option Credentials}

theorem named_eq (d : Document) :
    (fields.filter fun f => (d.credential? f).isNone).map RequiredField.label =
      (parts.filter fun part => d.Blank "authentication" part.1).map
        fun part => "authentication." ++ part.1 := by
  have blank (field : String) :
      decide (d.Blank "authentication" field) = (d.field? "authentication" field).isNone := by
    rw [Bool.eq_iff_iff, decide_eq_true_iff, Option.isNone_iff_eq_none, Document.field?_eq_none]
  simp only [fields, parts, List.filter_cons, List.filter_nil, Document.credential?, blank]
  cases (d.field? "authentication" "username").isNone <;>
    cases (d.field? "authentication" "hashed_password").isNone <;>
    cases (d.field? "authentication" "cookie_secret").isNone <;> rfl

/-- A document with every part leaves nothing of what was held. -/
theorem merge_of_complete (complete : d.HasCredentials) (held held' : Option Credentials) :
    merge d held = merge d held' := by
  simp only [Document.HasCredentials, forall_parts, ← Document.field?_eq_some] at complete
  obtain ⟨⟨username, foundUsername⟩, ⟨password, foundPassword⟩, secret, foundSecret⟩ := complete
  simp [merge, Document.credential?, foundUsername, foundPassword, foundSecret]

theorem report (d : Document) (t : Topology) :
    CredentialsReport d t
      ((fields.filter fun f => (d.credential? f).isNone).map RequiredField.label)
      (t.afterEvent (.read .userUi d)) where
  named := named_eq d
  replaced complete := by
    rw [Topology.afterEvent_userUi]
    cases merged : merge d t.credentials with
    | some c => exact ⟨c, mergedFrom merged, rfl⟩
    | none =>
      obtain ⟨part, listed, blank, missing⟩ := merge_eq_none.mp merged
      obtain ⟨value, kept⟩ := complete part listed blank
      rw [missing] at kept
      cases kept
  kept missing := by
    rw [Topology.afterEvent_userUi, merge_eq_none.mpr missing, Option.elim_none]

end Credentials

/-! ## All kinds -/

theorem ReloadOutcome.ofMissing_eq (fields : List RequiredField) :
    ofMissing fields = if fields = [] then .applied else .fieldMissing fields := by
  cases fields <;> rfl

theorem ReloadOutcome.ofMissing_eq_applied {fields : List RequiredField} :
    ofMissing fields = .applied ↔ fields = [] := by
  cases fields <;> simp [ofMissing]

/-- What a decision names fits with what it changes. -/
theorem Decision.report (kind : DocumentKind) (d : Document) (t : Topology) :
    ∃ named, (ofDocument kind t d).outcome = .ofMissing named ∧
      kind.Report d t (named.map RequiredField.label) (t.afterEvent (.read kind d)) := by
  cases kind with
  | userMain =>
    exact ⟨_, rfl, _, _, List.map_append, identifierReport d t.main.alerter,
      storeReport d t.main.store⟩
  | userNodes => exact ⟨[], rfl, rfl, rfl⟩
  | userRepos => exact ⟨[], rfl, rfl, rfl⟩
  | internalMain => exact indexReport d t
  | userUi => exact ⟨_, rfl, Credentials.report d t⟩

/-- What is named depends on the document alone. -/
theorem Decision.outcome_ofDocument (kind : DocumentKind) (d : Document) (t u : Topology) :
    (ofDocument kind t d).outcome = (ofDocument kind u d).outcome := by
  cases kind <;> rfl

/-- Where nothing is named, nothing is kept. -/
theorem Topology.agree_afterEvent_of_applied {kind : DocumentKind} {d : Document} {t : Topology}
    (h : (Decision.ofDocument kind t d).outcome = .applied) (u : Topology) :
    (u.afterEvent (.read kind d)).Agree kind (t.afterEvent (.read kind d)) := by
  cases kind with
  | userMain =>
    obtain ⟨identifier, store⟩ :=
      List.append_eq_nil_iff.mp (ReloadOutcome.ofMissing_eq_applied.mp h)
    rw [afterEvent_userMain, afterEvent_userMain]
    cases alerter : d.alerter? with
    | none => simp [alerter] at identifier
    | some value =>
      cases settings : d.storeSettings with
      | error field => simp [settings] at store
      | ok settings => rfl
  | userNodes => rfl
  | userRepos => rfl
  | internalMain =>
    rw [afterEvent_internalMain, afterEvent_internalMain]
    cases index : d.storeIndex? with
    | none => simp [Decision.ofDocument, Decision.ofInternal, index] at h
    | some index => rfl
  | userUi =>
    have complete : d.HasCredentials :=
      Credentials.missing_eq_nil.mp (ReloadOutcome.ofMissing_eq_applied.mp h)
    obtain ⟨c, merged⟩ := Option.isSome_iff_exists.mp
      ((Credentials.isSome_merge d none).mpr (.inr complete))
    rw [afterEvent_userUi, afterEvent_userUi,
      Credentials.merge_of_complete complete u.credentials none,
      Credentials.merge_of_complete complete t.credentials none, merged]
    rfl

/-- A reload that read a document reports what the document makes it name, with the change in the
slice of its kind that goes with it and none in the others; if nothing is named the slice is the
same whatever was held. -/
structure ReportedExactly (kind : DocumentKind) (d : Document) (s : LiveState)
    (outcome : Except DocumentFailure ReloadOutcome) (after : LiveState) : Prop where
  report : ∃ named : List RequiredField,
    outcome = .ok (if named = [] then .applied else .fieldMissing named) ∧
      kind.Report d s.topology (named.map RequiredField.label) after.topology
  others : ∀ other, other ≠ kind → after.topology.Agree other s.topology
  same : outcome = .ok .applied → ∀ s' : LiveState,
    (s'.reload kind (.document d)).1 = .ok .applied ∧
      (s'.reload kind (.document d)).2.topology.Agree kind after.topology

theorem LiveState.topology_reload_document (kind : DocumentKind) (d : Document) (s : LiveState) :
    (s.reload kind (.document d)).2.topology = s.topology.afterEvent (.read kind d) :=
  topology_reload kind (.document d) s

/-- **The report matches the change**, for every kind, every document and every state. -/
theorem reload_reported_exactly (kind : DocumentKind) (d : Document) (s : LiveState) :
    ReportedExactly kind d s (s.reload kind (.document d)).1 (s.reload kind (.document d)).2 where
  report := by
    obtain ⟨named, outcome, report⟩ := Decision.report kind d s.topology
    rw [LiveState.topology_reload_document]
    refine ⟨named, ?_, report⟩
    rw [← ReloadOutcome.ofMissing_eq, ← outcome]
    rfl
  others other different := by
    rw [LiveState.topology_reload_document]
    exact Topology.Agree.afterEvent_other (e := .read kind d) (Ne.symm different) s.topology
  same := by
    intro applied s'
    have applied : (Decision.ofDocument kind s.topology d).outcome = .applied :=
      Except.ok.inj applied
    rw [LiveState.topology_reload_document, LiveState.topology_reload_document]
    refine ⟨?_, Topology.agree_afterEvent_of_applied applied s'.topology⟩
    exact congrArg Except.ok ((Decision.outcome_ofDocument kind d _ _).trans applied)

end ChainDashboard
