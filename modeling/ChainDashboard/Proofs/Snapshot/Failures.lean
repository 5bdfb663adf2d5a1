import ChainDashboard.Proofs.Snapshot.Contents
import Mathlib.Logic.Basic

/-!
# How building a snapshot ends

What is missing is found out in a fixed order: first whatever is needed to ask the store, then the
chain. In both cases the store is left alone. Otherwise there is one read, and its reply decides: a
failure of the store is passed on by its kind, a reply of the wrong size is refused as a whole, and
any other reply gives a whole snapshot (`build_ends_exactly`). Each call is counted once, by its
own result.
-/

namespace ChainDashboard

/-! ## What is needed to ask the store -/

/-- The store cannot be asked: it is not set up or disabled, or its index or the alerter is
missing. -/
def Topology.LacksStore (t : Topology) : Prop :=
  (∀ settings, t.main.store = some settings → settings.enabled = false) ∨
    t.storeIndex = none ∨ t.main.alerter = none

/-- The store can be asked, with these held values. -/
structure Topology.HoldsStore (t : Topology) (settings : StoreSettings) (index : Int64)
    (alerter : String) : Prop where
  configured : t.main.store = some settings
  enabled : settings.enabled = true
  indexed : t.storeIndex = some index
  known : t.main.alerter = some alerter

namespace Topology

variable {t : Topology}

theorem HoldsStore.of_not_lacks (h : ¬ t.LacksStore) :
    ∃ settings index alerter, t.HoldsStore settings index alerter := by
  simp only [LacksStore, not_or, not_forall, exists_prop, Bool.not_eq_false] at h
  obtain ⟨⟨settings, configured, enabled⟩, indexed, known⟩ := h
  obtain ⟨index, indexed⟩ := Option.ne_none_iff_exists'.mp indexed
  obtain ⟨alerter, known⟩ := Option.ne_none_iff_exists'.mp known
  exact ⟨settings, index, alerter, configured, enabled, indexed, known⟩

theorem LacksStore.connection_or_alerter (h : t.LacksStore) :
    t.connection? = none ∨ t.main.alerter = none := by
  rcases h with disabled | unindexed | unknown
  · left
    unfold connection?
    split
    · rename_i settings _ configured _
      simp [disabled settings configured]
    · rfl
  · left
    simp [connection?, unindexed]
  · exact .inr unknown

end Topology

/-! ## Replies that have the size of the request -/

/-- A list of the length of distinct keys is what some function gives for the keys. -/
theorem exists_map_eq [DecidableEq α] [Inhabited β] {keys : List α} (distinct : keys.Nodup)
    {values : List β} (size : values.length = keys.length) : ∃ f : α → β, keys.map f = values := by
  induction keys generalizing values with
  | nil => exact ⟨fun _ => default, (List.eq_nil_of_length_eq_zero size).symm⟩
  | cons key rest ih =>
    obtain ⟨fresh, distinct⟩ := List.nodup_cons.mp distinct
    cases values with
    | nil => simp at size
    | cons value values =>
      obtain ⟨f, hf⟩ := ih distinct (Nat.succ.inj size)
      refine ⟨fun k => if k = key then value else f k, ?_⟩
      rw [List.map_cons, if_pos rfl, ← hf]
      congr 1
      refine List.map_congr_left fun k hk => if_neg ?_
      rintro rfl
      exact fresh hk

theorem StoreRequest.exists_answeredBy {r : StoreRequest} {reply : StoreReply}
    (flatKeys : r.flatKeys.Nodup) (hashFields : r.hashFields.Nodup)
    (flat : reply.flat.length = r.flatKeys.length)
    (hash : reply.hash.length = r.hashFields.length) :
    ∃ value, r.answeredBy value = reply := by
  obtain ⟨f, hf⟩ := exists_map_eq flatKeys flat
  obtain ⟨g, hg⟩ := exists_map_eq hashFields hash
  refine ⟨fun p => if p.lookup = .flat then f p.key else g p.key, ?_⟩
  simp [answeredBy, hf, hg]

/-- The validator flags are not fields, so setting them fills nothing and empties nothing. -/
theorem SnapshotTemplate.FilledAs.withValidators {t : SnapshotTemplate}
    {value : Placeholder → Option String} {s : ChainSnapshot} (h : t.FilledAs value s)
    (nodes : NameMap Node) : t.FilledAs value (s.withValidators nodes) where
  blockchain := h.blockchain
  nodes := by
    have same : (s.withValidators nodes).nodes.mapValues (·.fields) =
        s.nodes.mapValues (·.fields) := by
      apply NameMap.ext_find?
      intro name
      simp only [ChainSnapshot.withValidators, NameMap.find?_mapValues, NameMap.find?_mapEntries,
        Option.map_map]
      rfl
    rw [same]
    exact h.nodes
  blockchainMonitors := h.blockchainMonitors
  nodeMonitors := h.nodeMonitors

/-! ## From the reply to the result -/

/-- The result that a reply to the plan's request has to have. -/
inductive SnapshotPlan.Concludes (plan : SnapshotPlan) :
    Except StoreError StoreReply → Except SnapshotError ChainSnapshot → Prop where
  | auth (detail : String) : Concludes plan (.error (.auth detail)) (.error (.storeAuth detail))
  | connection (detail : String) :
    Concludes plan (.error (.connection detail)) (.error (.storeConnection detail))
  | other (detail : String) : Concludes plan (.error (.other detail)) (.error (.store detail))
  | mismatch {reply : StoreReply}
    (size : reply.flat.length ≠ plan.request.flatKeys.length ∨
      reply.hash.length ≠ plan.request.hashFields.length) :
    Concludes plan (.ok reply) (.error (.store ("reply shape mismatch: expected " ++
      toString plan.request.flatKeys.length ++ "+" ++ toString plan.request.hashFields.length ++
      " values, got " ++ toString reply.flat.length ++ "+" ++ toString reply.hash.length)))
  /-- The snapshot has every field of the template, filled from the places of the reply. -/
  | whole {reply : StoreReply} {value : Placeholder → Option String} {s : ChainSnapshot}
    (flat : reply.flat.length = plan.request.flatKeys.length)
    (hash : reply.hash.length = plan.request.hashFields.length)
    (placed : plan.request.answeredBy value = reply) (filled : plan.template.FilledAs value s) :
    Concludes plan (.ok reply) (.ok s)

namespace SnapshotPlan

theorem Concludes.ok_iff {plan : SnapshotPlan} {reply : Except StoreError StoreReply}
    {result : Except SnapshotError ChainSnapshot} (h : plan.Concludes reply result) :
    (∃ s, result = .ok s) ↔ ∃ r, reply = .ok r ∧
      r.flat.length = plan.request.flatKeys.length ∧
      r.hash.length = plan.request.hashFields.length := by
  cases h with
  | auth detail => simp
  | connection detail => simp
  | other detail => simp
  | @mismatch r size =>
    simp only [reduceCtorEq, exists_false, Except.ok.injEq, exists_eq_left', false_iff, not_and_or]
    exact size
  | @whole r value s flat hash placed filled => simp [flat, hash]

theorem exists_ofChain {t : Topology} {chain : String} {nodes : NameMap Node}
    (listed : t.chains.monitoredNodes.find? chain = some nodes) (alerter : String) :
    ∃ plan, ofChain chain t alerter = .ok plan ∧
      plan.request = plan.template.request (Bucket.ofChain alerter chain) :=
  ⟨_, ofChain_of_monitored listed alerter, rfl⟩

theorem concludes_finish {plan : SnapshotPlan} {hashKey : String}
    (made : plan.request = plan.template.request hashKey) (reply : Except StoreError StoreReply) :
    plan.Concludes reply (SnapshotRun.finish plan reply) := by
  have flatKeys : plan.request.flatKeys.Nodup := made ▸ nodup_eraseDups _
  have hashFields : plan.request.hashFields.Nodup := made ▸ nodup_eraseDups _
  cases reply with
  | error e => cases e <;> constructor
  | ok reply =>
    by_cases size : reply.flat.length = plan.request.flatKeys.length ∧
        reply.hash.length = plan.request.hashFields.length
    · obtain ⟨value, rfl⟩ := StoreRequest.exists_answeredBy flatKeys hashFields size.1 size.2
      obtain ⟨template, request, nodes⟩ := plan
      change request = template.request hashKey at made
      subst made
      rw [SnapshotRun.finish_answeredBy]
      exact .whole size.1 size.2 rfl ((template.filledAs_fill value).withValidators nodes)
    · have misfit : FetchedValues.fits plan.request reply = false := by
        simpa [FetchedValues.fits] using size
      simp only [SnapshotRun.finish, FetchedValues.zip, misfit]
      exact .mismatch (not_and_or.mp size)

end SnapshotPlan

/-! ## The three ways of a run -/

namespace SnapshotRun

variable (store : MetricStore) (chain : String) {t : Topology}

theorem ofChain_of_lacks (h : t.LacksStore) :
    ofChain store chain t = ⟨.error .storeNotConfigured, []⟩ := by
  unfold ofChain
  rcases h.connection_or_alerter with missing | missing
  · rw [missing]
  · rw [missing]
    cases t.connection? <;> rfl

theorem ofChain_of_unlisted {chain} {connection : StoreConnection} {alerter : String}
    (connected : t.connection? = some connection) (known : t.main.alerter = some alerter)
    (unlisted : t.chains.monitoredNodes.find? chain = none) :
    ofChain store chain t = ⟨.error (.chainNotFound chain), []⟩ := by
  simp only [ofChain, connected, known, SnapshotPlan.ofChain, unlisted]

theorem ofChain_of_planned {chain} {connection : StoreConnection} {alerter : String}
    {plan : SnapshotPlan} (connected : t.connection? = some connection)
    (known : t.main.alerter = some alerter)
    (planned : SnapshotPlan.ofChain chain t alerter = .ok plan) :
    ofChain store chain t =
      ⟨finish plan (store connection plan.request), [(connection, plan.request)]⟩ := by
  simp only [ofChain, connected, known, planned]

/-- The store has a part in a run only through its answers to the run's reads. -/
theorem ofChain_eq_of_reads {chain} {other : MetricStore}
    (same : ∀ read ∈ (ofChain store chain t).reads, other read.1 read.2 = store read.1 read.2) :
    ofChain other chain t = ofChain store chain t := by
  by_cases lacks : t.LacksStore
  · rw [ofChain_of_lacks store chain lacks, ofChain_of_lacks other chain lacks]
  · obtain ⟨settings, index, alerter, holds⟩ := Topology.HoldsStore.of_not_lacks lacks
    have connected := Topology.connection?_of_enabled holds.configured holds.enabled holds.indexed
    cases listed : t.chains.monitoredNodes.find? chain with
    | none =>
      rw [ofChain_of_unlisted store connected holds.known listed,
        ofChain_of_unlisted other connected holds.known listed]
    | some nodes =>
      obtain ⟨plan, planned, -⟩ := SnapshotPlan.exists_ofChain listed alerter
      rw [ofChain_of_planned store connected holds.known planned] at same ⊢
      rw [ofChain_of_planned other connected holds.known planned,
        same _ (List.mem_singleton.mpr rfl)]

/-! ## The count -/

theorem count_foldl_observeKeys (reads : List (StoreConnection × StoreRequest)) (m : Metrics)
    (c : Counter) :
    (reads.foldl (fun m read => m.observeKeys read.2.keyCount) m).count c = m.count c := by
  induction reads generalizing m with
  | nil => rfl
  | cons read rest ih => rw [List.foldl_cons, ih, Metrics.count_observeKeys]

theorem count_record (run : SnapshotRun) (m : Metrics) (c : Counter) :
    (run.record m).count c = m.count c + if c = .snapshot run.counted then 1 else 0 := by
  rw [record, Metrics.count_increment, count_foldl_observeKeys]

/-- The label under which a result is counted. -/
def countLabel : Except SnapshotError ChainSnapshot → String
  | .ok _ => "ok"
  | .error (.chainNotFound _) => "chain_not_found"
  | .error .storeNotConfigured => "store_not_configured"
  | .error (.storeAuth _) => "store_auth"
  | .error (.storeConnection _) => "store_connection"
  | .error (.store _) => "store_error"

theorem label_counted (run : SnapshotRun) : run.counted.label = countLabel run.result := by
  obtain ⟨result, reads⟩ := run
  cases result with
  | ok snapshot => rfl
  | error e => cases e <;> rfl

/-! ## All together -/

/-- How the run for a chain ends, what it reads and how it is counted. -/
structure EndsExactly (store : MetricStore) (chain : String) (t : Topology) (run : SnapshotRun) :
    Prop where
  unconfigured : t.LacksStore → run.result = .error .storeNotConfigured ∧ run.reads = []
  unlisted : ¬ t.LacksStore → chain ∉ t.chains.monitoredNodes.keys →
    run.result = .error (.chainNotFound chain) ∧ run.reads = []
  read : ¬ t.LacksStore → chain ∈ t.chains.monitoredNodes.keys →
    ∃ settings index alerter plan, t.HoldsStore settings index alerter ∧
      SnapshotPlan.ofChain chain t alerter = .ok plan ∧
      let connection := ⟨settings.host, settings.port, settings.password, index⟩
      run.reads = [(connection, plan.request)] ∧
      plan.Concludes (store connection plan.request) run.result ∧
      ((∃ s, run.result = .ok s) ↔ ∃ reply, store connection plan.request = .ok reply ∧
        reply.flat.length = plan.request.flatKeys.length ∧
        reply.hash.length = plan.request.hashFields.length)
  /-- A store that answers the reads alike gives the same run, so nothing else was read. -/
  nothing_else : ∀ other : MetricStore,
    (∀ read ∈ run.reads, other read.1 read.2 = store read.1 read.2) → ofChain other chain t = run
  counted : ∃ c : Counter, c.family = "dashboard_snapshot_requests_total" ∧
    c.labels = [("result", countLabel run.result)] ∧
    ∀ m other, (run.record m).count other = m.count other + if other = c then 1 else 0

/-- **Failures are exact and never partial**, for every topology, chain and store. -/
theorem build_ends_exactly (store : MetricStore) (chain : String) (t : Topology) :
    EndsExactly store chain t (ofChain store chain t) where
  unconfigured lacks := by
    rw [ofChain_of_lacks store chain lacks]
    exact ⟨rfl, rfl⟩
  unlisted holds absent := by
    obtain ⟨settings, index, alerter, holds⟩ := Topology.HoldsStore.of_not_lacks holds
    have missing : t.chains.monitoredNodes.find? chain = none := by
      simpa [NameMap.mem_keys_iff, Option.eq_none_iff_forall_ne_some] using absent
    have connected := Topology.connection?_of_enabled holds.configured holds.enabled holds.indexed
    rw [ofChain_of_unlisted store connected holds.known missing]
    exact ⟨rfl, rfl⟩
  read holds listed := by
    obtain ⟨settings, index, alerter, holds⟩ := Topology.HoldsStore.of_not_lacks holds
    obtain ⟨nodes, listed⟩ := NameMap.mem_keys_iff.mp listed
    have connected := Topology.connection?_of_enabled holds.configured holds.enabled holds.indexed
    obtain ⟨plan, planned, made⟩ := SnapshotPlan.exists_ofChain listed alerter
    refine ⟨settings, index, alerter, plan, holds, planned, ?_⟩
    rw [ofChain_of_planned store connected holds.known planned]
    have concludes := SnapshotPlan.concludes_finish made
      (store ⟨settings.host, settings.port, settings.password, index⟩ plan.request)
    exact ⟨rfl, concludes, concludes.ok_iff⟩
  nothing_else other same := ofChain_eq_of_reads store same
  counted := by
    refine ⟨.snapshot (ofChain store chain t).counted, rfl, ?_, ?_⟩
    · rw [← label_counted]
      rfl
    · intro m other
      exact count_record _ m other

end SnapshotRun

end ChainDashboard
