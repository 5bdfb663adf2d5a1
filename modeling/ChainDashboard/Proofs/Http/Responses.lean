import ChainDashboard.Http.Server
import ChainDashboard.Proofs.Http.Encoding

/-!
# The form of responses

Whatever is requested in the server's scope, and whatever the store does, the response is a result
or one of seven messages with the status of that message. There is one exception: a query that
repeats a parameter which is read from it is refused before its route is reached, with a report in
plain text that is none of the messages (`responses_form`). Where there is no such parameter, an
invalid endpoint is reported for exactly the requests that have no route, and missing arguments for
exactly the requests of a snapshot that name no chain.
-/

namespace ChainDashboard.Http

/-! ## Forms -/

/-- The requests that are served in the scope, by method and path. -/
def endpoints : List (String × String) := [
  ("GET", "/server/chains"), ("GET", "/server/chain_nodes_map"), ("GET", "/server/all_chain_info"),
  ("GET", "/server/repos"), ("POST", "/server/ping_server")]

/-- The parameters that are read from queries, by endpoint. -/
def readParameters : List ((String × String) × String) := [
  (("GET", "/server/chains"), "onlyIfMonitored"),
  (("GET", "/server/chain_nodes_map"), "onlyIfMonitored"),
  (("GET", "/server/all_chain_info"), "chainName")]

/-- What clients are told when there is no result, with the status that belongs to it. -/
def messages : List (String × Nat) := [
  ("Missing arguments", 400), ("Invalid endpoint", 404), ("Chain not found", 404),
  ("Redis not set up", 503), ("Redis password missing or incorrect", 502), ("No connection", 502),
  ("Redis error", 500)]

/-- The body with a message. -/
def errorBody (text : String) : Body := .json (.object [("error", .string text)])

/-- A result, or a message with its status. -/
inductive Structured : Response → Prop where
  | result (value : Json) :
    Structured ⟨200, some "application/json", .json (.object [("result", value)])⟩
  | error {text : String} {status : Nat} (known : (text, status) ∈ messages) :
    Structured ⟨status, some "application/json", errorBody text⟩

theorem structured_result (value : Json) : Structured (.result value) := .result value

theorem structured_failure (m : UserMessage) : Structured (.failure m) :=
  .error (by cases m <;> decide)

theorem Structured.contentType {response : Response} (structured : Structured response) :
    response.contentType = some "application/json" := by
  cases structured <;> rfl

theorem not_structured_badQuery (e : RepeatedParameter) : ¬Structured (.badQuery e) := by
  intro structured
  have contentType := structured.contentType
  simp [Response.badQuery] at contentType

theorem UserMessage.text_injective : Function.Injective UserMessage.text := by
  intro m m' same
  cases m <;> cases m' <;> first | rfl | exact absurd same (by decide)

theorem failure_body_iff {m : UserMessage} {text : String} :
    (Response.failure m).body = errorBody text ↔ m.text = text := by
  simp [Response.failure, errorBody]

theorem result_body_ne (value : Json) (text : String) :
    (Response.result value).body ≠ errorBody text := by
  simp [Response.result, errorBody]

/-! ## Parameters -/

/-- The values that a query has under a name, with the name. -/
def Target.named (t : Target) (name : String) : List (String × String) :=
  t.parameters.filter (·.1 = name)

/-- A parameter has its only value, or none, or is repeated. -/
theorem Target.parameter_eq (t : Target) (name : String) :
    t.parameter name =
      if 2 ≤ (t.named name).length then .error ⟨name⟩
      else .ok ((t.named name).head?.map (·.2)) := by
  rw [parameter, named]
  generalize t.parameters.filter (·.1 = name) = values
  rcases values with _ | ⟨p, _ | ⟨q, rest⟩⟩
  · rfl
  · rfl
  · exact (if_pos (Nat.le_add_left 2 rest.length)).symm

/-- The method and the path that a request is routed by. -/
def Request.endpoint (r : Request) : String × String := (r.method, r.target.decodedPath)

/-- A parameter that is read from the query of a request stands there more than once. -/
def Request.Repeats (r : Request) (name : String) : Prop :=
  (r.endpoint, name) ∈ readParameters ∧ 2 ≤ (r.target.named name).length

/-! ## Routes -/

namespace Route

/-- The method and the path of a route. -/
def endpoint (route : Route) : String × String := (route.method, route.path)

theorem endpoint_injective : Function.Injective endpoint := by
  intro route route' same
  cases route <;> cases route' <;> first | rfl | exact absurd same (by decide)

theorem mem_endpoints_iff {e : String × String} : e ∈ endpoints ↔ ∃ route, endpoint route = e := by
  constructor
  · intro mem
    have listed : endpoints = all.map endpoint := by decide
    obtain ⟨route, -, same⟩ := List.mem_map.mp (listed ▸ mem)
    exact ⟨route, same⟩
  · rintro ⟨route, rfl⟩
    cases route <;> decide

theorem find?_endpoint (route : Route) : find? route.method route.path = some route := by
  cases route <;> decide

theorem find?_eq_none {method path : String} (unknown : (method, path) ∉ endpoints) :
    find? method path = none := by
  rw [find?, List.find?_eq_none]
  intro route _ same
  rw [Bool.and_eq_true, decide_eq_true_eq, decide_eq_true_eq] at same
  exact unknown (mem_endpoints_iff.mpr ⟨route, Prod.ext same.1 same.2⟩)

/-- The parameter that a route reads. -/
def parameter? : Route → Option String
  | .chains | .chainNodesMap => some "onlyIfMonitored"
  | .chainInfo => some "chainName"
  | .repositories | .ping => none

theorem mem_readParameters_iff {route : Route} {name : String} :
    (route.endpoint, name) ∈ readParameters ↔ route.parameter? = some name := by
  cases route <;> simp [readParameters, endpoint, method, path, parameter?, eq_comm]

end Route

section Routes

variable (store : MetricStore) (s : LiveState) {t : Target}

theorem serve_inScope (offer : Offer) {r : Request} (inside : inScope r.target.decodedPath = true) :
    serve offer store s r =
      if offer.scope then serveScope store s r.method r.target
      else ⟨.notFound, [], s.metrics⟩ := by
  have noMetrics : r.target.decodedPath ≠ "/metrics" := by
    intro metrics
    rw [metrics] at inside
    exact absurd inside (by decide)
  simp [serve, noMetrics, inside]

theorem serveRoute_repeated {route : Route} {name : String} (reads : route.parameter? = some name)
    (repeated : 2 ≤ (t.named name).length) :
    (serveRoute store s t route).response = .badQuery ⟨name⟩ := by
  cases route <;> cases reads <;>
    simp [serveRoute, serveChainInfo, onlyMonitored, Target.parameter_eq, repeated, Except.map]

/-- Apart from snapshots a route that understands its query has a result. -/
theorem serveRoute_result {route : Route} (listing : route ≠ .chainInfo)
    (once : ∀ name, route.parameter? = some name → ¬2 ≤ (t.named name).length) :
    ∃ value, (serveRoute store s t route).response = .result value := by
  cases route with
  | chainInfo => exact absurd rfl listing
  | chains =>
    simp only [serveRoute, onlyMonitored, Target.parameter_eq, if_neg (once _ rfl), Except.map]
    exact ⟨_, rfl⟩
  | chainNodesMap =>
    simp only [serveRoute, onlyMonitored, Target.parameter_eq, if_neg (once _ rfl), Except.map]
    exact ⟨_, rfl⟩
  | repositories => exact ⟨_, rfl⟩
  | ping => exact ⟨_, rfl⟩

/-- A snapshot is shown, or a message tells why there is none. -/
theorem snapshotResponse_cases (run : SnapshotRun) :
    (∃ value, snapshotResponse run = .result value) ∨
      ∃ m, m ≠ .missingArguments ∧ m ≠ .invalidEndpoint ∧ snapshotResponse run = .failure m := by
  rw [snapshotResponse]
  split
  · exact .inl ⟨_, rfl⟩
  · rename_i e _
    refine .inr ⟨.ofSnapshotError e, ?_, ?_, rfl⟩ <;> cases e <;> nofun

/-- No chain is named by the query. -/
def Target.NamesNoChain (t : Target) : Prop :=
  t.named "chainName" = [] ∨ t.named "chainName" = [("chainName", "")]

/-- The name of the chain that is asked for, if the query has one. -/
theorem Target.chain?_eq_none_iff {t : Target} (once : ¬2 ≤ (t.named "chainName").length) :
    ((t.named "chainName").head?.map (·.2)).filter (· ≠ "") = none ↔ t.NamesNoChain := by
  rw [NamesNoChain]
  rcases found : t.named "chainName" with _ | ⟨⟨name, value⟩, _ | ⟨q, rest⟩⟩
  · simp
  · have mem : (name, value) ∈ t.named "chainName" := by simp [found]
    have same : name = "chainName" := by simpa using (List.mem_filter.mp mem).2
    simp [same, Option.filter_eq_none_iff]
  · simp [found] at once

theorem serveRoute_chainInfo (once : ¬2 ≤ (t.named "chainName").length) :
    t.NamesNoChain ∧ (serveRoute store s t .chainInfo).response = .failure .missingArguments ∨
      ¬t.NamesNoChain ∧
        ∃ chain, (serveRoute store s t .chainInfo).response =
          snapshotResponse (.ofChain store chain s.topology) := by
  rw [← Target.chain?_eq_none_iff once]
  simp only [serveRoute, serveChainInfo, Target.parameter_eq, if_neg once]
  cases ((t.named "chainName").head?.map (·.2)).filter (· ≠ "") with
  | none => exact .inl ⟨rfl, rfl⟩
  | some chain => exact .inr ⟨nofun, chain, rfl⟩

/-- A request for the snapshot of a chain is answered with the snapshot's run. -/
theorem serve_chainInfo {offer : Offer} (offered : offer.scope = true) {r : Request}
    (routed : r.endpoint = Route.chainInfo.endpoint) {chain : String}
    (named : r.target.parameter "chainName" = .ok (some chain)) (nonempty : chain ≠ "") :
    let run := SnapshotRun.ofChain store chain s.topology
    serve offer store s r = ⟨snapshotResponse run, run.reads, run.record s.metrics⟩ := by
  obtain ⟨method, path⟩ := Prod.mk.inj routed
  have inside : inScope r.target.decodedPath = true := by
    rw [path]
    decide
  have chosen : (some chain).filter (· ≠ "") = some chain := by simp [nonempty]
  rw [serve_inScope store s offer inside, if_pos offered, serveScope, method, path,
    Route.find?_endpoint]
  simp only [serveRoute, serveChainInfo, named, chosen]

end Routes

/-! ## The form of every response -/

/-- The form of the response to a request. -/
structure HasForm (r : Request) (response : Response) : Prop where
  structured : Structured response ↔ ¬∃ name, r.Repeats name
  repeated : ∀ name, r.Repeats name →
    response = ⟨400, some "text/plain; charset=utf-8",
      .text ("Query deserialize error: duplicate field `" ++ name ++ "`")⟩
  invalid_endpoint : response.body = errorBody "Invalid endpoint" ↔ r.endpoint ∉ endpoints
  missing_arguments : response.body = errorBody "Missing arguments" ↔
    r.endpoint = ("GET", "/server/all_chain_info") ∧ r.target.NamesNoChain

section Forms

variable {r : Request} {response : Response}

theorem hasForm_unknown (unknown : r.endpoint ∉ endpoints) :
    HasForm r (.failure .invalidEndpoint) := by
  have none : ¬∃ name, r.Repeats name := by
    rintro ⟨name, read, -⟩
    have known : ∀ p ∈ readParameters, p.1 ∈ endpoints := by decide
    exact unknown (known _ read)
  refine ⟨iff_of_true (structured_failure _) none,
    fun name repeats => absurd ⟨name, repeats⟩ none, iff_of_true rfl unknown,
    iff_of_false (by simp [failure_body_iff, UserMessage.text]) ?_⟩
  rintro ⟨same, -⟩
  exact unknown (by rw [same]; decide)

theorem hasForm_repeated {route : Route} (routed : r.endpoint = route.endpoint) {name : String}
    (repeats : r.Repeats name) : HasForm r (.badQuery ⟨name⟩) where
  structured := iff_of_false (not_structured_badQuery _) fun none => none ⟨name, repeats⟩
  repeated other repeated := by
    -- a route reads one parameter at most
    have reads := Route.mem_readParameters_iff.mp (routed ▸ repeats.1)
    have reads' := Route.mem_readParameters_iff.mp (routed ▸ repeated.1)
    obtain rfl : name = other := Option.some_inj.mp (reads.symm.trans reads')
    rfl
  invalid_endpoint := by
    refine iff_of_false nofun (not_not_intro ?_)
    exact Route.mem_endpoints_iff.mpr ⟨route, routed.symm⟩
  missing_arguments := by
    refine iff_of_false nofun ?_
    rintro ⟨same, nothing⟩
    obtain rfl : name = "chainName" := by simpa [readParameters, same] using repeats.1
    have several := repeats.2
    rcases nothing with none | one
    · simp [none] at several
    · simp [one] at several

/-- The form of a response on a route that understands the query. -/
theorem hasForm_understood (known : r.endpoint ∈ endpoints) (none : ¬∃ name, r.Repeats name)
    (structured : Structured response) (valid : response.body ≠ errorBody "Invalid endpoint")
    (missing : response.body = errorBody "Missing arguments" ↔
      r.endpoint = Route.chainInfo.endpoint ∧ r.target.NamesNoChain) : HasForm r response :=
  ⟨iff_of_true structured none, fun name repeats => absurd ⟨name, repeats⟩ none,
    iff_of_false valid (not_not_intro known), missing⟩

theorem hasForm_result {value : Json} (known : r.endpoint ∈ endpoints)
    (none : ¬∃ name, r.Repeats name)
    (named : ¬(r.endpoint = Route.chainInfo.endpoint ∧ r.target.NamesNoChain)) :
    HasForm r (.result value) :=
  hasForm_understood known none (structured_result _) (result_body_ne _ _)
    (iff_of_false (result_body_ne _ _) named)

theorem hasForm_snapshotResponse (routed : r.endpoint = Route.chainInfo.endpoint)
    (none : ¬∃ name, r.Repeats name) (named : ¬r.target.NamesNoChain) (run : SnapshotRun) :
    HasForm r (snapshotResponse run) := by
  have known : r.endpoint ∈ endpoints := Route.mem_endpoints_iff.mpr ⟨_, routed.symm⟩
  rcases snapshotResponse_cases run with ⟨value, result⟩ | ⟨m, notMissing, valid, failure⟩
  · rw [result]
    exact hasForm_result known none fun nothing => named nothing.2
  · have other (m' : UserMessage) (differ : m ≠ m') :
        (Response.failure m).body ≠ errorBody m'.text := fun same =>
      differ (UserMessage.text_injective (failure_body_iff.mp same))
    rw [failure]
    exact hasForm_understood known none (structured_failure m) (other .invalidEndpoint valid)
      (iff_of_false (other .missingArguments notMissing) fun nothing => named nothing.2)

/-- The form of what a route answers, unless its parameter is repeated. -/
theorem hasForm_serveRoute (store : MetricStore) (s : LiveState) {route : Route}
    (routed : r.endpoint = route.endpoint) (none : ¬∃ name, r.Repeats name) :
    HasForm r (serveRoute store s r.target route).response := by
  have known : r.endpoint ∈ endpoints := Route.mem_endpoints_iff.mpr ⟨route, routed.symm⟩
  have once (name : String) (reads : route.parameter? = some name) :
      ¬2 ≤ (r.target.named name).length := fun several =>
    none ⟨name, routed ▸ Route.mem_readParameters_iff.mpr reads, several⟩
  by_cases info : route = .chainInfo
  case neg =>
    obtain ⟨value, listing⟩ := serveRoute_result store s info once
    rw [listing]
    refine hasForm_result known none fun ⟨same, _⟩ => info ?_
    exact Route.endpoint_injective (routed.symm.trans same)
  subst info
  rcases serveRoute_chainInfo store s (once _ rfl) with ⟨nothing, missing⟩ | ⟨named, chain, shown⟩
  · rw [missing]
    exact hasForm_understood known none (structured_failure _)
      (by simp [failure_body_iff, UserMessage.text]) (iff_of_true rfl ⟨routed, nothing⟩)
  · rw [shown]
    exact hasForm_snapshotResponse routed none named _

end Forms

/-- **The form of every response** in the server's scope: a result or a message with its status,
unless the query repeats a parameter that is read from it. -/
theorem responses_form {offer : Offer} (offered : offer.scope = true) (store : MetricStore)
    (s : LiveState) {r : Request} (inside : inScope r.target.decodedPath = true) :
    HasForm r (serve offer store s r).response := by
  rw [serve_inScope store s offer inside, if_pos offered, serveScope]
  by_cases known : r.endpoint ∈ endpoints
  case neg =>
    rw [Route.find?_eq_none known]
    exact hasForm_unknown known
  obtain ⟨route, routed⟩ := Route.mem_endpoints_iff.mp known
  obtain ⟨method, path⟩ := Prod.mk.inj routed
  rw [← method, ← path, Route.find?_endpoint]
  by_cases repeated : ∃ name, r.Repeats name
  · obtain ⟨name, repeats⟩ := repeated
    have reads := Route.mem_readParameters_iff.mp (routed ▸ repeats.1)
    simp only [serveRoute_repeated store s reads repeats.2]
    exact hasForm_repeated routed.symm repeats
  · exact hasForm_serveRoute store s routed.symm repeated

/-- What the route does not read may be repeated, and be encoded in any way. -/
theorem responses_form_repositories :
    let r : Request := ⟨"GET", ⟨"/server/repos", "chainName=%zz&chainName"⟩⟩
    let store := MetricStore.ofTables ⟨NameMap.empty, NameMap.empty⟩
    inScope r.target.decodedPath = true ∧
      HasForm r (serve ⟨true, false⟩ store .initial r).response := by
  intro r store
  have inside : inScope r.target.decodedPath = true := by
    rw [decodedPath_of_plain (by decide)]
    decide
  exact ⟨inside, @responses_form ⟨true, false⟩ rfl store .initial r inside⟩

/-- A snapshot that is asked for with two names is refused without any of the messages. -/
theorem repeated_chain_not_structured :
    let r : Request := ⟨"GET", ⟨"/server/all_chain_info", "chainName=a&chainName=b"⟩⟩
    let store := MetricStore.ofTables ⟨NameMap.empty, NameMap.empty⟩
    Request.ofTexts? "GET" "/server/all_chain_info?chainName=a&chainName=b" = some r ∧
      inScope r.target.decodedPath = true ∧
      ¬Structured (serve ⟨true, false⟩ store .initial r).response := by
  intro r store
  have decoded : r.target.decodedPath = "/server/all_chain_info" :=
    decodedPath_of_plain (by decide) _
  have inside : inScope r.target.decodedPath = true := by
    rw [decoded]
    decide
  have query : r.target.query = queryOf [("chainName", "a"), ("chainName", "b")] := by
    decide +kernel
  have parameters : r.target.parameters = [("chainName", "a"), ("chainName", "b")] :=
    (congrArg (fun q => (Target.mk r.target.path q).parameters) query).trans
      (parameters_queryOf _ _)
  have several : 2 ≤ (r.target.named "chainName").length := by
    rw [Target.named, parameters]
    decide
  refine ⟨by decide +kernel, inside, ?_⟩
  have found : Route.find? r.method r.target.decodedPath = some .chainInfo := by
    rw [decoded]
    decide
  have refused : (serveRoute store .initial r.target .chainInfo).response = .badQuery ⟨_⟩ :=
    serveRoute_repeated store .initial rfl several
  rw [serve_inScope store .initial _ inside, if_pos rfl, serveScope, found]
  simp only [refused]
  exact not_structured_badQuery _

end ChainDashboard.Http
