import ChainDashboard.Proofs.Topology.History

/-!
# How credentials come to be held

Credentials come from interface documents alone, and nothing takes them away again. The run splits
at the first document that has every part: before it nothing is held, and what the documents said
is forgotten; from it on each part is the latest that a document has (`Credentials.HeldAfter`). The
first load reports whether credentials are held once it is done, and keeps what it loaded in either
case (`LiveState.LoadsInitially`).
-/

namespace ChainDashboard

/-! ## The credentials as a fold of the interface documents -/

/-- The interface documents that were read, in order. Clearing forgets none of them. -/
def interfaceDocuments (events : List DocumentEvent) : List Document :=
  events.filterMap (·.document? .userUi)

/-- The credentials after some interface documents, from none. -/
def Credentials.ofDocuments (docs : List Document) : Option Credentials :=
  docs.foldl (fun held d => merge d held) none

theorem Topology.credentials_afterEvent (t : Topology) (e : DocumentEvent) :
    (t.afterEvent e).credentials =
      (e.document? .userUi).elim t.credentials (Credentials.merge · t.credentials) := by
  cases e with
  | cleared kind => cases kind <;> rfl
  | read kind d =>
    by_cases other : kind = .userUi
    · subst other
      rw [afterEvent_userUi]
      cases merged : Credentials.merge d t.credentials with
      | some c => simp [DocumentEvent.document?, merged, next, withSlice]
      | none =>
        -- whatever is held, a document adds to it
        have nothing : t.credentials = none := by
          by_contra held
          have given := (Credentials.isSome_merge d t.credentials).mpr
            (.inl (Option.isSome_iff_ne_none.mpr held))
          rw [merged] at given
          cases given
        rw [nothing] at merged
        simp [DocumentEvent.document?, nothing, merged]
    · have same : (t.afterEvent (.read kind d)).Agree .userUi t :=
        Agree.afterEvent_other (e := .read kind d) other t
      rw [show (t.afterEvent (.read kind d)).credentials = t.credentials from same,
        DocumentEvent.document?, if_neg other, Option.elim_none]

theorem Topology.credentials_afterEvents (events : List DocumentEvent) :
    (initial.afterEvents events).credentials =
      Credentials.ofDocuments (interfaceDocuments events) := by
  induction events using List.reverseRecOn with
  | nil => rfl
  | append_singleton events e ih =>
    rw [afterEvents_append, interfaceDocuments, List.filterMap_append, Credentials.ofDocuments,
      List.foldl_append]
    show ((initial.afterEvents events).afterEvent e).credentials = _
    rw [credentials_afterEvent, ih]
    cases found : e.document? .userUi <;> simp [found] <;> rfl

/-- Some documents, cut at the first of them that has every part of the credentials. -/
structure FirstComplete (docs before : List Document) (first : Document) (after : List Document) :
    Prop where
  cut : docs = before ++ first :: after
  complete : first.HasCredentials
  incomplete : ∀ d ∈ before, ¬d.HasCredentials

/-- What is held after some interface documents. -/
structure Credentials.HeldAfter (docs : List Document) (held : Option Credentials) : Prop where
  complete : held.isSome ↔ ∃ d ∈ docs, d.HasCredentials
  /-- Documents before the first complete one contribute nothing. -/
  latest : ∀ c ∈ held, ∃ before first after, FirstComplete docs before first after ∧
    ∀ part ∈ parts, LatestSays (fun d => d.Says "authentication" part.1) (first :: after).reverse
      (part.2 c)
  trimmed : ∀ c ∈ held, ∀ part ∈ parts, Text.trim (part.2 c) = part.2 c ∧ part.2 c ≠ ""

namespace Credentials

theorem ofDocuments_append (docs : List Document) (d : Document) :
    ofDocuments (docs ++ [d]) = merge d (ofDocuments docs) := by
  rw [ofDocuments, List.foldl_append, List.foldl_cons, List.foldl_nil, ofDocuments]

/-- Credentials are held if and only if one document had every part. -/
theorem isSome_ofDocuments (docs : List Document) :
    (ofDocuments docs).isSome ↔ ∃ d ∈ docs, d.HasCredentials := by
  induction docs using List.reverseRecOn with
  | nil => simp [ofDocuments]
  | append_singleton docs d ih =>
    rw [ofDocuments_append, isSome_merge, ih]
    simp [or_and_right, exists_or]

theorem latest_ofDocuments {docs : List Document} {c : Credentials}
    (h : ofDocuments docs = some c) : ∃ before first after, FirstComplete docs before first after ∧
      ∀ part ∈ parts, LatestSays (fun d => d.Says "authentication" part.1)
        (first :: after).reverse (part.2 c) := by
  induction docs using List.reverseRecOn generalizing c with
  | nil => cases h
  | append_singleton docs d ih =>
    rw [ofDocuments_append] at h
    cases held : ofDocuments docs with
    | some old =>
      -- the document overrides part by part what was the latest
      obtain ⟨before, first, after, cut, latest⟩ := ih held
      refine ⟨before, first, after ++ [d], ⟨?_, cut.complete, cut.incomplete⟩, ?_⟩
      · rw [cut.cut, List.append_assoc, List.cons_append]
      · intro part listed
        rw [← List.cons_append, List.reverse_append, List.reverse_singleton,
          List.singleton_append, latestSays_cons]
        rcases mergedFrom h part listed with own | ⟨blank, kept⟩
        · exact .inl own
        · rw [held] at kept
          exact .inr ⟨Document.blank_iff.mp blank, Option.some.inj kept ▸ latest part listed⟩
    | none =>
      -- nothing was held before, so the document is the first that has every part
      have complete : d.HasCredentials := by
        have given := (isSome_merge d (ofDocuments docs)).mp (by rw [h, Option.isSome_some])
        simpa [held] using given
      have incomplete : ∀ d ∈ docs, ¬d.HasCredentials := by
        have none := mt (isSome_ofDocuments docs).mpr (by simp [held])
        exact fun d mem given => none ⟨d, mem, given⟩
      refine ⟨docs, d, [], ⟨rfl, complete, incomplete⟩, fun part listed => latestSays_cons.mpr ?_⟩
      rcases mergedFrom h part listed with own | ⟨-, kept⟩
      · exact .inl own
      · rw [held] at kept
        cases kept

theorem heldAfter (docs : List Document) : HeldAfter docs (ofDocuments docs) where
  complete := isSome_ofDocuments docs
  latest _ held := latest_ofDocuments held
  trimmed c held part listed := by
    obtain ⟨before, first, after, -, latest⟩ := latest_ofDocuments held
    obtain ⟨-, d, -, -, said, -⟩ := latest part listed
    exact said.trimmed

end Credentials

/-! ## The first load -/

/-- What the first load gives: the result says whether credentials are held afterwards, and every
document has the effect that it has on its own. -/
structure LiveState.LoadsInitially (s : LiveState) (readings : DocumentKind → DocumentReading) :
    Prop where
  result : (s.loadInitial readings).1 =
    if (s.loadInitial readings).2.topology.credentials.isSome then .ok () else .error ⟨⟩
  reloads : (s.loadInitial readings).2.topology =
    (s.afterSteps (DocumentKind.all.map fun kind => .reload kind (readings kind))).topology
  slices : ∀ kind,
    (s.loadInitial readings).2.topology.Agree kind (s.reload kind (readings kind)).2.topology

theorem DocumentReading.filter_events (kind other : DocumentKind) (reading : DocumentReading) :
    (reading.events other).filter (·.kind = kind) =
      if other = kind then reading.events kind else [] := by
  cases reading <;> by_cases same : other = kind <;> simp [events, DocumentEvent.kind, same]

theorem LoaderStep.filter_events_loadInitial (kind : DocumentKind)
    (readings : DocumentKind → DocumentReading) :
    (loadInitial readings).events.filter (·.kind = kind) = (readings kind).events kind := by
  rw [events, List.filter_flatMap]
  simp only [DocumentReading.filter_events]
  cases kind <;> simp [DocumentKind.all]

theorem LiveState.loadsInitially (s : LiveState) (readings : DocumentKind → DocumentReading) :
    s.LoadsInitially readings where
  result := rfl
  reloads := by
    rw [topology_loadInitial, topology_afterSteps, List.flatMap_map]
    rfl
  slices kind := by
    rw [topology_loadInitial, topology_reload, ← LoaderStep.filter_events_loadInitial]
    exact Topology.Agree.afterEvents_filter kind _ (.refl kind s.topology)

/-- **Credentials are neither pieced together nor lost**, after every run of the loader from the
start: they are held once one interface document had every part, whatever is cleared; they stay
held; and the first load fails exactly if they are not held once it is done. -/
theorem credentials_of_history (steps : List LoaderStep) :
    Credentials.HeldAfter (interfaceDocuments (steps.flatMap LoaderStep.events))
        (LiveState.initial.afterSteps steps).topology.credentials ∧
      (∀ more, (LiveState.initial.afterSteps steps).topology.credentials.isSome →
        (LiveState.initial.afterSteps (steps ++ more)).topology.credentials.isSome) ∧
      ∀ readings, (LiveState.initial.afterSteps steps).LoadsInitially readings := by
  have held (steps : List LoaderStep) :
      Credentials.HeldAfter (interfaceDocuments (steps.flatMap LoaderStep.events))
        (LiveState.initial.afterSteps steps).topology.credentials := by
    rw [LiveState.topology_afterSteps]
    exact Topology.credentials_afterEvents _ ▸ Credentials.heldAfter _
  refine ⟨held steps, ?_, fun readings => LiveState.loadsInitially _ readings⟩
  intro more before
  obtain ⟨d, read, complete⟩ := (held steps).complete.mp before
  refine (held (steps ++ more)).complete.mpr ⟨d, ?_, complete⟩
  rw [List.flatMap_append, interfaceDocuments, List.filterMap_append]
  exact List.mem_append_left _ read

end ChainDashboard
