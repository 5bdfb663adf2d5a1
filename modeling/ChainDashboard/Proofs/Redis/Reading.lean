import ChainDashboard.Proofs.Text.Number
import ChainDashboard.Redis.Server
import ChainDashboard.Snapshot.Template
import Mathlib.Data.List.Basic

/-!
# Reading over a connection is reading from tables

A server admits the connection and has the database that is asked for, and others write to its
tables at any time. What comes back for a request are the values that its keys and fields have at
one instant, the one at which the transaction is run, each at the place of its key
(`reads_at_one_instant`). At that instant no string may stand where the request looks for a hash
(`Legible`). On the way the server queues the reads (`collect_queued`), and what it then replies is
taken apart again in the order of the reads (`decode_replies`).
-/

namespace ChainDashboard.Redis

/-! ## Values of replies -/

theorem mapM_map_ok {α β γ ε : Type} {f : β → Except ε γ} {g : α → β} {h : α → γ}
    (gives : ∀ a, f (g a) = .ok (h a)) (as : List α) : (as.map g).mapM f = .ok (as.map h) := by
  induction as with
  | nil => rfl
  | cons a rest ih =>
    rw [List.map_cons, List.mapM_cons, gives, ih]
    rfl

namespace Reply

theorem firstErrorOf?_eq_findSome? (replies : List Reply) :
    firstErrorOf? replies = replies.findSome? firstError? := by
  induction replies with
  | nil => rfl
  | cons r rest ih =>
    rw [firstErrorOf?, List.findSome?_cons]
    cases firstError? r with
    | some f => rfl
    | none => exact ih

theorem firstErrorOf?_eq_none {replies : List Reply}
    (fine : ∀ r ∈ replies, r.firstError? = none) : firstErrorOf? replies = none := by
  rw [firstErrorOf?_eq_findSome?]
  exact List.findSome?_eq_none_iff.mpr fine

theorem firstError?_valueReply (v : Option String) : (Server.valueReply v).firstError? = none := by
  cases v <;> rfl

theorem value_valueReply (v : Option String) : value (Server.valueReply v) = .ok v := by
  cases v <;> rfl

/-- The values of a list of values. -/
def ofValues (vs : List (Option String)) : Reply := .array (vs.map Server.valueReply)

theorem firstError?_ofValues (vs : List (Option String)) : (ofValues vs).firstError? = none := by
  rw [ofValues, firstError?]
  refine firstErrorOf?_eq_none fun r mem => ?_
  obtain ⟨v, -, rfl⟩ := List.mem_map.mp mem
  exact firstError?_valueReply v

theorem values_ofValues (vs : List (Option String)) : (ofValues vs).values = .ok vs := by
  rw [ofValues, values, mapM_map_ok value_valueReply, List.map_id']

end Reply

/-! ## The replies to the reads of a request -/

/-- The lists of values that the reads of a request have for replies. -/
def valueLists (tables : StoreTables) (r : StoreRequest) : List (List (Option String)) :=
  (if r.flatKeys = [] then [] else [(tables.answer r).flat]) ++
    (if r.hashFields = [] then [] else [(tables.answer r).hash])

/-- The tables hold no string under the bucket that a request reads fields of. -/
def Legible (tables : StoreTables) (r : StoreRequest) : Prop :=
  r.hashFields ≠ [] → tables.flat.find? r.hashKey = none

theorem read_readCommands {tables : StoreTables} {r : StoreRequest} (legible : Legible tables r) :
    (readCommands r).map (Server.read tables) = (valueLists tables r).map Reply.ofValues := by
  obtain ⟨flatKeys, hashKey, hashFields⟩ := r
  cases hashFields with
  | nil =>
    cases flatKeys <;>
      simp [readCommands, valueLists, Server.read, StoreTables.answer, Reply.ofValues]
  | cons name names =>
    have free : tables.flat.find? hashKey = none := legible (List.cons_ne_nil _ _)
    cases flatKeys <;>
      simp [readCommands, valueLists, Server.read, free, StoreTables.answer, Reply.ofValues]

theorem ne_exec_of_mem_readCommands {r : StoreRequest} {c : Command} (h : c ∈ readCommands r) :
    c ≠ ["EXEC"] := by
  rintro rfl
  rw [readCommands, List.mem_append] at h
  rcases h with flat | hash
  · split at flat <;> simp at flat
  · split at hash <;> simp at hash

/-- The replies to a batch give the values of the tables back, in the order of the request. -/
theorem decode_replies {tables : StoreTables} {r : StoreRequest} (legible : Legible tables r) :
    decode r (.okay :: ((readCommands r).map (fun _ => .simple "QUEUED") ++
      [.array ((readCommands r).map (Server.read tables))])) = .ok (tables.answer r) := by
  have fine : Reply.firstErrorOf? (.okay :: ((readCommands r).map (fun _ => .simple "QUEUED") ++
      [.array ((readCommands r).map (Server.read tables))])) = none := by
    refine Reply.firstErrorOf?_eq_none fun reply mem => ?_
    simp only [List.mem_cons, List.mem_append, List.mem_map, List.not_mem_nil, or_false] at mem
    rcases mem with rfl | ⟨_, -, rfl⟩ | rfl
    · rfl
    · rfl
    · rw [read_readCommands legible, Reply.firstError?]
      refine Reply.firstErrorOf?_eq_none fun reply mem => ?_
      obtain ⟨vs, -, rfl⟩ := List.mem_map.mp mem
      exact Reply.firstError?_ofValues vs
  have size : ((readCommands r).map (Server.read tables)).length = (readCommands r).length :=
    List.length_map _
  have values : ((readCommands r).map (Server.read tables)).mapM Reply.values =
      .ok (valueLists tables r) := by
    rw [read_readCommands legible, mapM_map_ok Reply.values_ofValues, List.map_id']
  rw [decode, fine]
  have last : (Reply.okay :: ((readCommands r).map (fun _ => .simple "QUEUED") ++
      [.array ((readCommands r).map (Server.read tables))])).getLastD .nil =
      .array ((readCommands r).map (Server.read tables)) := by
    rw [← List.cons_append, List.getLastD_concat]
  simp only [last, Reply.transaction, if_pos size, bind, Except.bind, values, valueLists]
  obtain ⟨flatKeys, hashKey, hashFields⟩ := r
  cases flatKeys <;> cases hashFields <;> simp [StoreTables.answer, pure, Except.pure]

/-! ## The session of a conversation -/

theorem Server.take_select {server : Server} {before database : Int64} {index : String}
    (numbered : Text.readInt64? index = some database) (inRange : server.has database = true) :
    server.take ⟨true, before, none⟩ ["SELECT", index] = (.okay, ⟨true, database, none⟩) := by
  simp [take, numbered, inRange]

theorem Server.take_queued {server : Server} {admitted : Bool} {database : Int64}
    {queued : List Command} {command : Command} (stays_open : command ≠ ["EXEC"]) :
    server.take ⟨admitted, database, some queued⟩ command =
      (.simple "QUEUED", ⟨admitted, database, some (queued ++ [command])⟩) := by
  rw [take.eq_def]
  split
  · exact absurd rfl stays_open
  · rename_i same
    cases same
    rfl
  · contradiction
  · contradiction

namespace ServerHistory

variable {history : ServerHistory} {t : Timeout} {c : StoreConnection} {sent : List Command}

theorem afterAll_concat (history : ServerHistory) (sent : List Command) (command : Command) :
    history.afterAll (sent ++ [command]) =
      (history.server sent.length).take (history.afterAll sent).2 command := by
  rw [afterAll, List.zipIdx_append, List.foldl_append]
  simp [afterAll]

/-- A server that admits the connection lets it in, and the session is on the first database. -/
theorem authenticate_admitted (admitted : (history.server 0).admits c.password = true) :
    authenticate history.answer t c = (none, c.password.toList.map authCommand) ∧
      (history.afterAll (c.password.toList.map authCommand)).2 = ⟨true, 0, none⟩ := by
  cases given : c.password with
  | none =>
    rw [given] at admitted
    refine ⟨by simp only [authenticate, given]; rfl, ?_⟩
    simp [afterAll, Server.opened, admitted]
  | some password =>
    rw [given] at admitted
    have first : history.afterAll [authCommand password] = (.okay, ⟨true, 0, none⟩) := by
      rw [← List.nil_append [authCommand password], afterAll_concat]
      simp [afterAll, Server.opened, authCommand, Server.take, admitted]
    refine ⟨?_, congrArg Prod.snd first⟩
    simp only [authenticate, given, ask, List.nil_append, answer, first, accepts, if_true]
    rfl

/-- Selecting a database that there is puts the session on it. -/
theorem select_admitted {database : Int64}
    (session : (history.afterAll sent).2 = ⟨true, database, none⟩)
    (inRange : (history.server sent.length).has c.database = true) :
    select history.answer t c sent = (none, sent ++ [selectCommand c.database]) ∧
      (history.afterAll (sent ++ [selectCommand c.database])).2 = ⟨true, c.database, none⟩ := by
  have selected : history.afterAll (sent ++ [selectCommand c.database]) =
      (.okay, ⟨true, c.database, none⟩) := by
    rw [afterAll_concat, session]
    exact Server.take_select (Text.readInt64?_toString c.database) inRange
  refine ⟨?_, congrArg Prod.snd selected⟩
  simp only [select, ask, answer, selected, Reply.firstError?, Option.map_none]

theorem collect_cons {reply : Reply} {session : Session} {command : Command}
    (after : history.afterAll (sent ++ [command]) = (reply, session)) {rest sent' : List Command}
    {replies : List Reply}
    (collected : collect history.answer t c (sent ++ [command]) rest = (.ok replies, sent')) :
    collect history.answer t c sent (command :: rest) = (.ok (reply :: replies), sent') := by
  simp only [collect, ask, answer, after, collected]

/-- The commands of a transaction wait in the queue of the session, and the last command, the one
that closes the transaction, runs them all on the tables of its instant. -/
theorem collect_queued {commands queued : List Command} {database : Int64}
    (stay_open : ∀ command ∈ commands, command ≠ ["EXEC"])
    (session : (history.afterAll sent).2 = ⟨true, database, some queued⟩) :
    collect history.answer t c sent (commands ++ [["EXEC"]]) =
      (.ok (commands.map (fun _ => .simple "QUEUED") ++ [.array ((queued ++ commands).map
        (Server.read ((history.server (sent ++ commands).length).tables database)))]),
        sent ++ commands ++ [["EXEC"]]) := by
  induction commands generalizing sent queued with
  | nil =>
    have after : history.afterAll (sent ++ [["EXEC"]]) =
        (.array (queued.map (Server.read ((history.server sent.length).tables database))),
          ⟨true, database, none⟩) := by
      rw [afterAll_concat, session]
      rfl
    rw [List.nil_append, collect_cons after (by rw [collect])]
    simp
  | cons command rest ih =>
    obtain ⟨first, rest_stay⟩ := List.forall_mem_cons.mp stay_open
    have after : history.afterAll (sent ++ [command]) =
        (.simple "QUEUED", ⟨true, database, some (queued ++ [command])⟩) := by
      rw [afterAll_concat, session, Server.take_queued first]
    rw [List.cons_append, collect_cons after (ih rest_stay (congrArg Prod.snd after))]
    simp [List.append_assoc]

/-- The reads of a request, sent as one transaction in a session that is on the database, give what
the tables of the database hold when the transaction is run. -/
theorem runBatch_admitted {r : StoreRequest}
    (session : (history.afterAll sent).2 = ⟨true, c.database, none⟩)
    (legible : Legible ((history.server (sent ++ [["MULTI"]] ++ readCommands r).length).tables
      c.database) r) :
    runBatch history.answer t c r sent =
      ⟨.ok (((history.server (sent ++ [["MULTI"]] ++ readCommands r).length).tables
        c.database).answer r), sent ++ batch r⟩ := by
  have opened : history.afterAll (sent ++ [["MULTI"]]) =
      (.okay, ⟨true, c.database, some []⟩) := by
    rw [afterAll_concat, session]
    rfl
  have collected : collect history.answer t c sent (batch r) =
      (.ok (.okay :: ((readCommands r).map (fun _ => .simple "QUEUED") ++
        [.array ((readCommands r).map (Server.read ((history.server
          (sent ++ [["MULTI"]] ++ readCommands r).length).tables c.database)))])),
        sent ++ batch r) := by
    have queued := @collect_queued _ t c _ (readCommands r) [] _
      (fun _ => ne_exec_of_mem_readCommands) (congrArg Prod.snd opened)
    rw [batch, List.append_assoc, List.cons_append, List.nil_append, collect_cons opened queued]
    simp
  simp only [runBatch, collected, decode_replies legible]
  rfl

end ServerHistory

/-! ## What a request gives and sends -/

/-- What is sent before the transaction: the password if there is one, and the database. -/
def preamble (c : StoreConnection) : List Command :=
  c.password.toList.map authCommand ++ [selectCommand c.database]

namespace ServerHistory

/-- The server at the instant at which a connection selects its database. -/
def atSelect (history : ServerHistory) (c : StoreConnection) : Server :=
  history.server c.password.toList.length

/-- The tables at the instant at which the transaction of a request is run. -/
def tablesAtRun (history : ServerHistory) (c : StoreConnection) (r : StoreRequest) : StoreTables :=
  (history.server (preamble c ++ [["MULTI"]] ++ readCommands r).length).tables c.database

end ServerHistory

theorem fetch_admitted {history : ServerHistory} {t : Timeout} {c : StoreConnection}
    {r : StoreRequest} (reads : ¬(r.flatKeys = [] ∧ r.hashFields = []))
    (admitted : (history.server 0).admits c.password = true)
    (inRange : (history.atSelect c).has c.database = true)
    (legible : Legible (history.tablesAtRun c r) r) :
    fetch history.link t c r =
      ⟨.ok ((history.tablesAtRun c r).answer r), preamble c ++ batch r⟩ := by
  obtain ⟨let_in, session⟩ := ServerHistory.authenticate_admitted (t := t) admitted
  obtain ⟨selected, session⟩ := ServerHistory.select_admitted (t := t) (c := c) session
    (by rwa [List.length_map])
  simp only [fetch, if_neg reads, ServerHistory.link, let_in, selected,
    ServerHistory.runBatch_admitted session legible]
  rfl

theorem fetch_nothing {r : StoreRequest} (nothing : r.flatKeys = [] ∧ r.hashFields = [])
    (link : Link) (t : Timeout) (c : StoreConnection) : fetch link t c r = ⟨.ok ⟨[], []⟩, []⟩ := by
  rw [fetch.eq_def, if_pos nothing]

theorem head_of_mem_preamble {c : StoreConnection} {command : Command} (h : command ∈ preamble c) :
    command.head? = some "AUTH" ∨ command.head? = some "SELECT" := by
  rw [preamble, List.mem_append, List.mem_map, List.mem_singleton] at h
  rcases h with ⟨_, -, rfl⟩ | rfl
  · exact .inl rfl
  · exact .inr rfl

/-- What is read on the way is sent by the batch. -/
theorem mem_preamble_batch {c : StoreConnection} {r : StoreRequest} {command : Command}
    (read : command.head? = some "MGET" ∨ command.head? = some "HMGET") :
    command ∈ preamble c ++ batch r ↔ command ∈ readCommands r := by
  have before : command ∉ preamble c := by
    intro mem
    rcases read with read | read <;> rcases head_of_mem_preamble mem with h | h <;>
      simp [read] at h
  have opening : command ≠ ["MULTI"] := by rintro rfl; simp at read
  have closing : command ≠ ["EXEC"] := by rintro rfl; simp at read
  simp [batch, before, opening, closing]

/-- A reply with the value that each key and each field of a request has in tables, at the place
of the key or the field. -/
structure Answers (tables : StoreTables) (r : StoreRequest) (reply : StoreReply) : Prop where
  flat_length : reply.flat.length = r.flatKeys.length
  hash_length : reply.hash.length = r.hashFields.length
  flat : ∀ (i : Nat) key, r.flatKeys[i]? = some key →
    reply.flat[i]? = some (tables.flat.find? key)
  hash : ∀ (j : Nat) name, r.hashFields[j]? = some name →
    reply.hash[j]? = some (tables.field? r.hashKey name)

theorem Answers.answer (tables : StoreTables) (r : StoreRequest) :
    Answers tables r (tables.answer r) where
  flat_length := List.length_map _
  hash_length := List.length_map _
  flat i key at_i := by simp [StoreTables.answer, at_i]
  hash j name at_j := by simp [StoreTables.answer, at_j]

theorem Answers.zip {tables : StoreTables} {r : StoreRequest} {reply : StoreReply}
    (answers : Answers tables r reply) : ∃ values, FetchedValues.zip r reply = .ok values := by
  have fits : FetchedValues.fits r reply = true := by
    simp [FetchedValues.fits, answers.flat_length, answers.hash_length]
  exact ⟨_, by rw [FetchedValues.zip, if_pos fits]⟩

/-- What it is to read a request from a server in one go: a run gives the values of one instant,
and what it sends is one transaction on the selected database. -/
structure ReadsAtOnce (history : ServerHistory) (c : StoreConnection) (r : StoreRequest)
    (run : Run) : Prop where
  /-- The values are those of the instant at which the server runs the transaction, the last
  command that it is sent, and they fit the request. -/
  values : ∃ sent reply, run.commands = sent ++ [["EXEC"]] ∧ run.result = .ok reply ∧
    Answers ((history.server sent.length).tables c.database) r reply ∧
    ∃ values, FetchedValues.zip r reply = .ok values
  /-- All reads stand in the transaction, and the transaction is on the selected database. -/
  transaction : run.commands = c.password.toList.map authCommand ++
    [selectCommand c.database, ["MULTI"]] ++ readCommands r ++ [["EXEC"]]
  /-- Keys are asked for if there are any, all of them together. -/
  keys : ∀ keys, "MGET" :: keys ∈ run.commands ↔ keys = r.flatKeys ∧ r.flatKeys ≠ []
  /-- Fields are asked for if there are any, all of them together. -/
  fields : ∀ arguments, "HMGET" :: arguments ∈ run.commands ↔
    arguments = r.hashKey :: r.hashFields ∧ r.hashFields ≠ []

/-- **Reading over a connection**: a request for nothing is answered with nothing and needs no
connection, and any other request is read at once from every server that admits the connection and
has its database, whatever becomes of the tables meanwhile. When the transaction is run, no string
may stand under the bucket of the request. -/
theorem reads_at_one_instant (t : Timeout) (c : StoreConnection) (r : StoreRequest) :
    (r.flatKeys = [] ∧ r.hashFields = [] →
      ∀ link, fetch link t c r = ⟨.ok ⟨[], []⟩, []⟩) ∧
    (¬(r.flatKeys = [] ∧ r.hashFields = []) →
      ∀ (history : ServerHistory) (_admitted : (history.server 0).admits c.password = true)
        (_inRange : (history.atSelect c).has c.database = true)
        (_noString : Legible (history.tablesAtRun c r) r),
        ReadsAtOnce history c r (fetch history.link t c r)) := by
  refine ⟨fun nothing link => fetch_nothing nothing link t c,
    fun reads history admitted inRange noString => ?_⟩
  rw [fetch_admitted reads admitted inRange noString]
  refine ⟨?values, ?transaction, ?keys, ?fields⟩
  case values =>
    have answers := Answers.answer (history.tablesAtRun c r) r
    exact ⟨preamble c ++ [["MULTI"]] ++ readCommands r, _, by simp [batch], rfl, answers,
      answers.zip⟩
  case transaction => simp [preamble, batch]
  case keys =>
    intro keys
    rw [mem_preamble_batch (.inl rfl), readCommands]
    by_cases none : r.flatKeys = [] <;> by_cases none' : r.hashFields = [] <;> simp [none, none']
  case fields =>
    intro arguments
    rw [mem_preamble_batch (.inr rfl), readCommands]
    by_cases none : r.flatKeys = [] <;> by_cases none' : r.hashFields = [] <;> simp [none, none']

/-- A server with a password, where a height counts the commands that came in before. -/
def ServerHistory.counting : ServerHistory where
  server n := {
    admits := fun password => password == some "secret"
    databases := 16
    tables := fun database =>
      if database = 3 then
        ⟨.ofList [("height", toString n)],
          .ofList [("node", .ofList [("peers", toString (n + 1))])]⟩
      else ⟨.ofList [], .ofList []⟩ }

/-- The transaction is the sixth command, and its values are all of that instant. -/
theorem reads_at_one_instant_counting :
    ReadsAtOnce .counting ⟨"store", 6379, some "secret", 3⟩
        ⟨["height", "missing", "height"], "node", ["peers", "peers"]⟩
        (fetch ServerHistory.counting.link .standard ⟨"store", 6379, some "secret", 3⟩
          ⟨["height", "missing", "height"], "node", ["peers", "peers"]⟩) ∧
      (fetch ServerHistory.counting.link .standard ⟨"store", 6379, some "secret", 3⟩
          ⟨["height", "missing", "height"], "node", ["peers", "peers"]⟩).result =
        .ok ⟨[some "5", none, some "5"], [some "6", some "6"]⟩ := by
  constructor
  · exact (reads_at_one_instant .standard _ _).2 (by decide) .counting (by decide) (by decide)
      fun _ => by decide
  · rw [fetch_admitted (by decide) (by decide) (by decide) fun _ => by decide]
    decide

/-- Over tables that nobody writes to, the store behind the connection is the store of the
tables. -/
theorem metricStore_unchanging {network : StoreConnection → Link} {history : ServerHistory}
    {c : StoreConnection} {tables : StoreTables} (connected : network c = history.link)
    (admitted : (history.server 0).admits c.password = true)
    (inRange : (history.atSelect c).has c.database = true)
    (unchanging : ∀ n, (history.server n).tables c.database = tables) {r : StoreRequest}
    (noString : Legible tables r) (t : Timeout) :
    metricStore network t c r = MetricStore.ofTables tables c r := by
  rw [metricStore, connected, MetricStore.ofTables]
  by_cases reads : r.flatKeys = [] ∧ r.hashFields = []
  · rw [fetch_nothing reads]
    simp [StoreTables.answer, reads]
  · have atRun : history.tablesAtRun c r = tables := unchanging _
    rw [fetch_admitted reads admitted inRange (by rwa [atRun]), atRun]

end ChainDashboard.Redis
