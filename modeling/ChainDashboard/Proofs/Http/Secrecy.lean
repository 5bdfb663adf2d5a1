import ChainDashboard.Proofs.Http.Listings
import ChainDashboard.Proofs.Http.Responses

/-!
# Responses reveal no secret

What is answered in the server's scope depends on the chains, the repositories, the identifier of
the alerter and on whether the store is set up, and on what the store replies. Where the store is
reached and with which password, who may log in, how often the topology was updated, and what a
failed read reports in words, all stay behind: two states that differ in nothing else answer every
request alike (`responses_alike`).
-/

namespace ChainDashboard

/-- Two topologies agree on all that clients are told about. -/
structure Topology.SamePublicly (t u : Topology) : Prop where
  chains : t.chains = u.chains
  repositories : t.repositories = u.repositories
  alerter : t.main.alerter = u.main.alerter
  storeIndex : t.storeIndex = u.storeIndex
  /-- There are store settings in both or in neither, and they are enabled in both or in neither. -/
  store : t.main.store.map (·.enabled) = u.main.store.map (·.enabled)

/-- Two reads have the same outcome: the same reply, or failures with the same cause. -/
inductive SameOutcome : Except StoreError StoreReply → Except StoreError StoreReply → Prop where
  | reply (reply : StoreReply) : SameOutcome (.ok reply) (.ok reply)
  | auth (detail detail' : String) : SameOutcome (.error (.auth detail)) (.error (.auth detail'))
  | connection (detail detail' : String) :
    SameOutcome (.error (.connection detail)) (.error (.connection detail'))
  | other (detail detail' : String) :
    SameOutcome (.error (.other detail)) (.error (.other detail'))

/-- Two stores, each reached in the way of its own topology, have the same outcome for every
request. -/
def SameOutcomes (store : MetricStore) (t : Topology) (store' : MetricStore) (u : Topology) :
    Prop :=
  ∀ connection ∈ t.connection?, ∀ connection' ∈ u.connection?, ∀ request,
    SameOutcome (store connection request) (store' connection' request)

namespace Topology.SamePublicly

variable {t u : Topology}

theorem isSome_connection? (t : Topology) : t.connection?.isSome =
    (t.storeIndex.isSome && (t.main.store.map (·.enabled)).getD false) := by
  rw [connection?]
  cases t.main.store with
  | none => simp
  | some settings => cases t.storeIndex <;> cases enabled : settings.enabled <;> simp [enabled]

/-- The store can be reached in both topologies or in neither. -/
theorem connections (same : t.SamePublicly u) :
    t.connection? = none ∧ u.connection? = none ∨
      ∃ c d, t.connection? = some c ∧ u.connection? = some d := by
  have both : t.connection?.isSome = u.connection?.isSome := by
    rw [isSome_connection?, isSome_connection?, same.storeIndex, same.store]
  cases left : t.connection? <;> cases right : u.connection? <;> simp_all

theorem plan (same : t.SamePublicly u) (chain alerter : String) :
    SnapshotPlan.ofChain chain t alerter = SnapshotPlan.ofChain chain u alerter := by
  rw [SnapshotPlan.ofChain, SnapshotPlan.ofChain, same.chains]

end Topology.SamePublicly

namespace Http

/-- The response shows a failed read by its cause alone. -/
theorem snapshotResponse_finish {reply reply' : Except StoreError StoreReply}
    (same : SameOutcome reply reply') (plan : SnapshotPlan)
    (reads reads' : List (StoreConnection × StoreRequest)) :
    snapshotResponse ⟨SnapshotRun.finish plan reply, reads⟩ =
      snapshotResponse ⟨SnapshotRun.finish plan reply', reads'⟩ := by
  cases same <;> rfl

section TwoStates

variable {store store' : MetricStore} {s s' : LiveState}
  (same : s.topology.SamePublicly s'.topology)
  (outcomes : SameOutcomes store s.topology store' s'.topology)

include same outcomes

theorem snapshotResponse_ofChain (chain : String) :
    snapshotResponse (.ofChain store chain s.topology) =
      snapshotResponse (.ofChain store' chain s'.topology) := by
  rw [SnapshotRun.ofChain, SnapshotRun.ofChain, same.alerter]
  rcases same.connections with ⟨none, none'⟩ | ⟨c, d, connected, connected'⟩
  · rw [none, none']
  · have outcome := outcomes c connected d connected'
    rw [connected, connected']
    cases s'.topology.main.alerter with
    | none => rfl
    | some alerter =>
      simp only [same.plan]
      cases SnapshotPlan.ofChain chain s'.topology alerter with
      | error e => rfl
      | ok plan => exact snapshotResponse_finish (outcome plan.request) plan _ _

/-- Every route answers alike. -/
theorem serveRoute_alike (t : Target) (route : Route) :
    (serveRoute store s t route).response = (serveRoute store' s' t route).response := by
  cases route with
  | chains =>
    rw [serveRoute, serveRoute, same.chains]
    cases onlyMonitored t <;> rfl
  | chainNodesMap =>
    rw [serveRoute, serveRoute, same.chains]
    cases onlyMonitored t <;> rfl
  | chainInfo =>
    rw [serveRoute, serveRoute, serveChainInfo, serveChainInfo]
    cases t.parameter "chainName" with
    | error e => rfl
    | ok name? =>
      cases named : name?.filter (· ≠ "") with
      | none => simp only [named]
      | some chain =>
        simp only [named]
        exact snapshotResponse_ofChain same outcomes chain
  | repositories => rw [serveRoute, serveRoute, same.repositories]
  | ping => rfl

/-- **Responses reveal no secret**: two states that agree on everything public answer every request
in the server's scope alike. -/
theorem responses_alike (offer : Offer) {r : Request}
    (inside : inScope r.target.decodedPath = true) :
    (serve offer store s r).response = (serve offer store' s' r).response := by
  rw [serve_inScope store s offer inside, serve_inScope store' s' offer inside]
  cases offer.scope with
  | false => rfl
  | true =>
    rw [if_pos rfl, if_pos rfl, serveScope, serveScope]
    cases Route.find? r.method r.target.decodedPath with
    | none => rfl
    | some route => exact serveRoute_alike same outcomes r.target route

end TwoStates

/-- Two stores on different hosts that both refuse their password. -/
theorem responses_alike_refused :
    let chains := ChainMap.ofNodes [(Node.new "n" "c").withMonitored true]
    let s : LiveState := ⟨⟨3, chains, NameMap.empty, ⟨some "panic", some ⟨true, "10.0.0.1", 6379,
      some "first"⟩⟩, some ⟨"admin", "hash", "cookie"⟩, some 10⟩, .empty⟩
    let s' : LiveState := ⟨⟨8, chains, NameMap.empty, ⟨some "panic", some ⟨true, "10.0.0.2", 6380,
      some "second"⟩⟩, none, some 10⟩, .empty⟩
    let store : MetricStore := fun c _ => .error (.auth ("refused by " ++ c.host))
    let r : Request := ⟨"GET", ⟨"/server/all_chain_info", query "chainName" "c"⟩⟩
    s.topology.SamePublicly s'.topology ∧ SameOutcomes store s.topology store s'.topology ∧
      inScope r.target.decodedPath = true ∧
      (serve ⟨true, true⟩ store s r).response = (serve ⟨true, true⟩ store s' r).response ∧
      (serve ⟨true, true⟩ store s r).response = .failure .storeAuthIncorrect := by
  intro chains s s' store r
  have same : s.topology.SamePublicly s'.topology := ⟨rfl, rfl, rfl, rfl, rfl⟩
  have outcomes : SameOutcomes store s.topology store s'.topology :=
    fun _ _ _ _ _ => .auth _ _
  have inside : inScope r.target.decodedPath = true := by
    rw [decodedPath_of_plain (by decide)]
    decide
  refine ⟨same, outcomes, inside, responses_alike same outcomes ⟨true, true⟩ inside, ?_⟩
  refine (@answer_chainInfo ⟨true, true⟩ rfl store s "c" (by decide)).trans ?_
  rfl

end Http

end ChainDashboard
