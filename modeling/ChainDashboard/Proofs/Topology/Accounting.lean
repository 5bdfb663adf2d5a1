import ChainDashboard.Proofs.Topology.Credentials

/-!
# Counters, version and outcomes account for each other

Whatever is asked of the loader comes down to calls about one document each. A call publishes at
most one update and counts at most one result (`LoaderCall.run_eq`), and whether it publishes
follows from its kind, its result and whether credentials are held (`LoaderCall.isSome_update?`).
So every counter is the number of calls with its result, and the version of the topology is a sum of
counters, up to the interface documents that leave out a part of credentials that are held
(`loader_accounts`).
-/

namespace ChainDashboard

/-! ## Calls -/

/-- One call of the loader about one document. A reload passes a failure to read the document on to
its caller, unless it is handled, as a change of the file is. -/
inductive LoaderCall where
  | reload (kind : DocumentKind) (reading : DocumentReading) (handled : Bool)
  | reset (kind : DocumentKind)

/-- The calls that a step comes down to. The first load handles a change of every document. -/
def LoaderStep.calls : LoaderStep → List LoaderCall
  | .reload kind reading => [.reload kind reading false]
  | .change kind reading => [.reload kind reading true]
  | .reset kind => [.reset kind]
  | .loadInitial readings => DocumentKind.all.map fun kind => .reload kind (readings kind) true

/-- The document exists but cannot be read or parsed. -/
def DocumentReading.hasFailed : DocumentReading → Bool
  | .failed _ => true
  | .document _ | .notFound => false

/-- Some required parts were missing from the document that was reloaded. -/
def ReloadOutcome.isPartial : ReloadOutcome → Bool
  | .fieldMissing _ => true
  | .applied | .notFound => false

namespace LoaderCall

/-- Carries out a call. -/
def run (s : LiveState) : LoaderCall → LiveState
  | .reload kind reading false => (s.reload kind reading).2
  | .reload kind reading true => s.handleChange kind reading
  | .reset kind => s.reset kind

/-- The call reloads a document of the kind, and reading it does not fail. -/
def reads (kind : DocumentKind) : LoaderCall → Bool
  | .reload other reading _ => other = kind && !reading.hasFailed
  | .reset _ => false

/-- The call handles a change of a document of the kind, and reading it fails. -/
def failsChange (kind : DocumentKind) : LoaderCall → Bool
  | .reload other reading handled => other = kind && (handled && reading.hasFailed)
  | .reset _ => false

/-- The call resets the kind. -/
def resets (kind : DocumentKind) : LoaderCall → Bool
  | .reset other => other = kind
  | .reload .. => false

/-- The call reloads an interface document that leaves out a part of the credentials, and there are
credentials held. -/
def isPartialWhileHeld (s : LiveState) : LoaderCall → Bool
  | .reload kind reading _ =>
    kind = .userUi && ((s.reload kind reading).1.toOption.any ReloadOutcome.isPartial &&
      s.topology.credentials.isSome)
  | .reset _ => false

/-- The update that a call publishes. -/
def update? (s : LiveState) : LoaderCall → Option SliceUpdate
  | .reload kind (.document d) _ => (Decision.ofDocument kind s.topology d).update?
  | .reload _ .notFound _ | .reload _ (.failed _) _ => none
  | .reset kind => kind.clearing?

/-- What a call is counted as. -/
def counted? (s : LiveState) : LoaderCall → Option (DocumentKind × ReloadResult)
  | .reload kind reading handled =>
    match (s.reload kind reading).1 with
    | .ok outcome => some (kind, outcome.result)
    | .error _ => if handled then some (kind, .error) else none
  | .reset kind => kind.clearing?.map fun _ => (kind, .reset)

end LoaderCall

namespace LiveState

/-- The state after some calls. -/
def afterCalls (s : LiveState) (calls : List LoaderCall) : LiveState := calls.foldl LoaderCall.run s

theorem afterCalls_cons (s : LiveState) (call : LoaderCall) (calls : List LoaderCall) :
    s.afterCalls (call :: calls) = (call.run s).afterCalls calls := rfl

/-- The calls of a run, each with the state that it finds. -/
def occasions (s : LiveState) : List LoaderCall → List (LiveState × LoaderCall)
  | [] => []
  | call :: calls => (s, call) :: (call.run s).occasions calls

/-- How often reloads and resets of a kind ended so. -/
def count (s : LiveState) (kind : DocumentKind) (result : ReloadResult) : Nat :=
  s.metrics.count (.reload kind result)

theorem afterSteps_eq (s : LiveState) (steps : List LoaderStep) :
    s.afterSteps steps = s.afterCalls (steps.flatMap LoaderStep.calls) := by
  induction steps generalizing s with
  | nil => rfl
  | cons step steps ih =>
    rw [List.flatMap_cons, afterCalls, List.foldl_append]
    cases step with
    | reload kind reading => exact ih _
    | change kind reading => exact ih _
    | reset kind => exact ih _
    | loadInitial readings => exact ih _

theorem count_counting (s : LiveState) (kind other : DocumentKind) (result made : ReloadResult) :
    (s.counting (.reload other made)).count kind result =
      s.count kind result + (decide (other = kind) && decide (made = result)).toNat := by
  rw [count, counting, Metrics.count_increment, count]
  simp only [Counter.reload.injEq, eq_comm]
  split <;> simp_all

/-- The gauge shows the version of the topology, once there was an update. -/
def ShowsVersion (s : LiveState) : Prop :=
  s.metrics.topologyVersion = if s.topology.version = 0 then none else some s.topology.version

end LiveState

/-! ## What one call does -/

/-- Whether a reload or a reset of a kind that ended so has published an update. Main documents that
lack something are published in part, interface documents only over credentials that are held. -/
def ReloadResult.publishes (kind : DocumentKind) (held : Bool) : ReloadResult → Bool
  | .applied | .reset => true
  | .notFound | .error => false
  | .fieldMissing =>
    match kind with
    | .userMain => true
    | .userUi => held
    | .userNodes | .userRepos | .internalMain => false

theorem ReloadOutcome.result_ofMissing (fields : List RequiredField) :
    (ofMissing fields).result = if fields = [] then .applied else .fieldMissing := by
  cases fields <;> rfl

/-- A decision has an update exactly if its result is one that publishes. -/
theorem Decision.isSome_update? (kind : DocumentKind) (d : Document) (t : Topology) :
    (ofDocument kind t d).update?.isSome =
      (ofDocument kind t d).outcome.result.publishes kind t.credentials.isSome := by
  cases kind with
  | userMain =>
    have published (missing : List RequiredField) :
        (ReloadOutcome.ofMissing missing).result.publishes .userMain t.credentials.isSome := by
      cases missing <;> rfl
    exact (published _).symm
  | userNodes => rfl
  | userRepos => rfl
  | internalMain =>
    simp only [ofDocument, ofInternal]
    cases d.storeIndex? <;> rfl
  | userUi =>
    simp only [ofDocument, ofUi, Option.isSome_map, ReloadOutcome.result_ofMissing]
    rw [Bool.eq_iff_iff, Credentials.isSome_merge, ← Credentials.missing_eq_nil]
    split <;> rename_i complete <;> simp only [complete, ReloadResult.publishes, or_true, or_false]

namespace LoaderCall

/-- A call publishes its update, if it has one, and then counts its result, if it has one. -/
theorem run_eq (s : LiveState) (call : LoaderCall) :
    call.run s = (call.counted? s).elim ((call.update? s).elim s s.publish)
      fun r => ((call.update? s).elim s s.publish).counting (.reload r.1 r.2) := by
  cases call with
  | reload kind reading handled => cases reading <;> cases handled <;> rfl
  | reset kind => cases kind <;> rfl

/-- A call publishes exactly if it is counted as a result that publishes. -/
theorem isSome_update? (s : LiveState) (call : LoaderCall) :
    (call.update? s).isSome =
      (call.counted? s).any fun r => r.2.publishes r.1 s.topology.credentials.isSome := by
  cases call with
  | reload kind reading handled =>
    cases reading with
    | document d => exact Decision.isSome_update? kind d s.topology
    | notFound => rfl
    | failed cause => cases handled <;> rfl
  | reset kind => cases kind <;> rfl

theorem showsVersion_run {s : LiveState} (h : s.ShowsVersion) (call : LoaderCall) :
    (call.run s).ShowsVersion := by
  rw [run_eq]
  cases call.update? s with
  | none => cases call.counted? s <;> exact h
  | some u => cases call.counted? s <;> rfl

theorem version_run (s : LiveState) (call : LoaderCall) :
    (call.run s).topology.version = s.topology.version + (call.update? s).isSome.toNat := by
  rw [run_eq]
  cases call.counted? s <;> cases call.update? s <;> rfl

/-- The call is counted as a reload or a reset of the kind that ended so. -/
def isCounted (kind : DocumentKind) (result : ReloadResult) (s : LiveState) (call : LoaderCall) :
    Bool :=
  (call.counted? s).any fun r => r.1 = kind && r.2 = result

theorem count_run (s : LiveState) (call : LoaderCall) (kind : DocumentKind)
    (result : ReloadResult) : (call.run s).count kind result =
      s.count kind result + (call.isCounted kind result s).toNat := by
  rw [run_eq, isCounted]
  cases call.counted? s with
  | none => cases call.update? s <;> rfl
  | some r =>
    rw [Option.elim_some, LiveState.count_counting, Option.any_some]
    cases call.update? s <;> rfl

/-! ### One call in the tallies -/

theorem hasFailed_eq (s : LiveState) (kind : DocumentKind) (reading : DocumentReading) :
    reading.hasFailed = (s.reload kind reading).1.toOption.isNone := by
  cases reading <;> rfl

theorem toNat_reads (kind : DocumentKind) (s : LiveState) (call : LoaderCall) :
    (call.reads kind).toNat = (call.isCounted kind .applied s).toNat +
      (call.isCounted kind .notFound s).toNat + (call.isCounted kind .fieldMissing s).toNat := by
  cases call with
  | reload other reading handled =>
    simp only [reads, isCounted, counted?, hasFailed_eq s other reading]
    cases (s.reload other reading).1 with
    | ok outcome => cases outcome <;> simp [Except.toOption, ReloadOutcome.result]
    | error cause => cases handled <;> simp [Except.toOption]
  | reset other => cases other <;> simp [isCounted, counted?, reads, DocumentKind.clearing?]

theorem failsChange_eq (kind : DocumentKind) (s : LiveState) (call : LoaderCall) :
    call.failsChange kind = call.isCounted kind .error s := by
  cases call with
  | reload other reading handled =>
    simp only [failsChange, isCounted, counted?, hasFailed_eq s other reading]
    cases (s.reload other reading).1 with
    | ok outcome => cases outcome <;> simp [Except.toOption, ReloadOutcome.result]
    | error cause => cases handled <;> simp [Except.toOption]
  | reset other => cases other <;> simp [isCounted, counted?, failsChange, DocumentKind.clearing?]

theorem resets_eq (kind : DocumentKind) (s : LiveState) (call : LoaderCall) :
    (decide (kind ≠ .userUi) && call.resets kind) = call.isCounted kind .reset s := by
  cases call with
  | reload other reading handled =>
    simp only [resets, isCounted, counted?]
    cases (s.reload other reading).1 with
    | ok outcome => cases outcome <;> simp [ReloadOutcome.result]
    | error cause => cases handled <;> simp
  | reset other => cases other <;> cases kind <;> rfl

theorem isPartialWhileHeld_eq (s : LiveState) (call : LoaderCall) :
    call.isPartialWhileHeld s =
      (call.isCounted .userUi .fieldMissing s && s.topology.credentials.isSome) := by
  cases call with
  | reload kind reading handled =>
    simp only [isPartialWhileHeld, isCounted, counted?]
    cases (s.reload kind reading).1 with
    | ok outcome =>
      cases outcome <;> simp [Except.toOption, ReloadOutcome.result, ReloadOutcome.isPartial]
    | error cause => cases handled <;> simp [Except.toOption]
  | reset kind => cases kind <;> rfl

/-- The results that publish are those that `LiveState.published` adds up, and partial interface
documents over credentials that are held. -/
theorem toNat_isSome_update? (s : LiveState) (call : LoaderCall) :
    (call.update? s).isSome.toNat = (call.isCounted .userMain .applied s).toNat +
      (call.isCounted .userMain .fieldMissing s).toNat +
      (call.isCounted .userNodes .applied s).toNat +
      (call.isCounted .userRepos .applied s).toNat +
      (call.isCounted .internalMain .applied s).toNat +
      (call.isCounted .userUi .applied s).toNat +
      ((call.isCounted .userMain .reset s).toNat + (call.isCounted .userNodes .reset s).toNat +
        (call.isCounted .userRepos .reset s).toNat +
        (call.isCounted .internalMain .reset s).toNat +
        (call.isCounted .userUi .reset s).toNat) +
      (call.isPartialWhileHeld s).toNat := by
  rw [isSome_update?, isPartialWhileHeld_eq]
  simp only [isCounted]
  cases call.counted? s with
  | none => rfl
  | some r =>
    obtain ⟨kind, result⟩ := r
    cases kind <;> cases result <;> simp [ReloadResult.publishes]

end LoaderCall

/-! ## Runs -/

namespace LiveState

theorem showsVersion_afterCalls {s : LiveState} (h : s.ShowsVersion) (calls : List LoaderCall) :
    (s.afterCalls calls).ShowsVersion := by
  induction calls generalizing s with
  | nil => exact h
  | cons call calls ih => exact ih (LoaderCall.showsVersion_run h call)

theorem countP_cons_toNat {α : Type} (p : α → Bool) (a : α) (l : List α) :
    (a :: l).countP p = l.countP p + (p a).toNat := by
  rw [List.countP_cons]
  cases p a <;> rfl

/-- What the calls of some sort each add one to grows, over a run, by the number of these calls. -/
theorem tally_afterCalls (tally : LiveState → Nat) (adds : LoaderCall → Bool)
    (step : ∀ s call, tally (LoaderCall.run s call) = tally s + (adds call).toNat) (s : LiveState)
    (calls : List LoaderCall) : tally (s.afterCalls calls) = tally s + calls.countP adds := by
  induction calls generalizing s with
  | nil => rfl
  | cons call calls ih =>
    rw [afterCalls_cons, ih, step, countP_cons_toNat]
    omega

/-- The reloads of a kind that were counted and did not fail. -/
def readings (s : LiveState) (kind : DocumentKind) : Nat :=
  s.count kind .applied + s.count kind .notFound + s.count kind .fieldMissing

theorem readings_run (kind : DocumentKind) (s : LiveState) (call : LoaderCall) :
    (call.run s).readings kind = s.readings kind + (call.reads kind).toNat := by
  simp only [readings, LoaderCall.count_run, LoaderCall.toNat_reads kind s]
  omega

/-- The reloads and resets that were counted as results that always publish. -/
def published (s : LiveState) : Nat :=
  s.count .userMain .applied + s.count .userMain .fieldMissing + s.count .userNodes .applied +
    s.count .userRepos .applied + s.count .internalMain .applied + s.count .userUi .applied +
    (s.count .userMain .reset + s.count .userNodes .reset + s.count .userRepos .reset +
      s.count .internalMain .reset + s.count .userUi .reset)

-- The sums stand on both sides, so that nothing is subtracted.
theorem version_run_add_published (s : LiveState) (call : LoaderCall) :
    (call.run s).topology.version + s.published =
      s.topology.version + (call.run s).published + (call.isPartialWhileHeld s).toNat := by
  rw [LoaderCall.version_run, LoaderCall.toNat_isSome_update?]
  simp only [published, LoaderCall.count_run]
  omega

theorem version_afterCalls_add_published (s : LiveState) (calls : List LoaderCall) :
    (s.afterCalls calls).topology.version + s.published =
      s.topology.version + (s.afterCalls calls).published +
        (s.occasions calls).countP fun o => o.2.isPartialWhileHeld o.1 := by
  -- over the calls; whether credentials are held is asked of the state that each one finds
  induction calls generalizing s with
  | nil => rfl
  | cons call calls ih =>
    have rest := ih (call.run s)
    have first := s.version_run_add_published call
    rw [afterCalls_cons, occasions, countP_cons_toNat]
    dsimp only
    omega

/-- Counters, version and outcomes account for each other after the calls: a counter is the number
of calls that end so, and the version is the number of those that publish. -/
structure Accounts (s : LiveState) (calls : List LoaderCall) : Prop where
  reads : ∀ kind, s.readings kind = calls.countP (·.reads kind)
  failed : ∀ kind, s.count kind .error = calls.countP (·.failsChange kind)
  resets : ∀ kind, s.count kind .reset =
    if kind = .userUi then 0 else calls.countP (·.resets kind)
  version : s.topology.version = s.published +
    (initial.occasions calls).countP fun o => o.2.isPartialWhileHeld o.1
  gauge : s.ShowsVersion

theorem count_initial (kind : DocumentKind) (result : ReloadResult) :
    initial.count kind result = 0 := rfl

theorem accounts_afterCalls (calls : List LoaderCall) :
    (initial.afterCalls calls).Accounts calls where
  reads kind := by
    have run := tally_afterCalls (·.readings kind) (·.reads kind) (readings_run kind) initial calls
    exact run.trans (Nat.zero_add _)
  failed kind := by
    have step (s : LiveState) (call : LoaderCall) :
        (call.run s).count kind .error = s.count kind .error + (call.failsChange kind).toNat := by
      rw [LoaderCall.count_run, LoaderCall.failsChange_eq kind s]
    have run := tally_afterCalls (·.count kind .error) (·.failsChange kind) step initial calls
    exact run.trans (Nat.zero_add _)
  resets kind := by
    have step (s : LiveState) (call : LoaderCall) : (call.run s).count kind .reset =
        s.count kind .reset + (decide (kind ≠ .userUi) && call.resets kind).toNat := by
      rw [LoaderCall.count_run, LoaderCall.resets_eq kind s]
    have run := tally_afterCalls (·.count kind .reset) _ step initial calls
    rw [run, count_initial, Nat.zero_add]
    by_cases ui : kind = .userUi <;> simp [ui]
  version := by
    have run := initial.version_afterCalls_add_published calls
    have fresh : initial.published = 0 := rfl
    have unversioned : initial.topology.version = 0 := rfl
    omega
  gauge := by
    have fresh : initial.ShowsVersion := rfl
    exact showsVersion_afterCalls fresh calls

end LiveState

/-- After any steps of the loader, counters, version and outcomes account for each other. -/
theorem loader_accounts (steps : List LoaderStep) :
    (LiveState.initial.afterSteps steps).Accounts (steps.flatMap LoaderStep.calls) := by
  rw [LiveState.afterSteps_eq]
  exact LiveState.accounts_afterCalls _

end ChainDashboard
