import ChainDashboard.Proofs.Http.Responses
import ChainDashboard.Proofs.Redis.Reading
import ChainDashboard.Proofs.Snapshot.Failures
import ChainDashboard.Proofs.Snapshot.Size

/-!
# Refusals never turn into data

A server may refuse any step of a conversation, with any code and any text, may fall silent or may
drop the connection. What is heard decides how the conversation ends (`ends_fetch`): values are read
only if everything was asked for and answered without an error, and otherwise the read fails by the
cause that was heard. A client that asks for the snapshot is told the cause, and nothing else
(`refusals_sorted`).
-/

namespace ChainDashboard.Redis

/-! ## Failures by cause -/

namespace Failure

/-- The code of the line of an error reply. -/
def code (line : String) : String := String.ofList (line.toList.takeWhile (· ≠ ' '))

theorem ne_of_ofCode? {code : String} {kind : Kind} (known : Kind.ofCode? code = some kind) :
    kind ≠ .authenticationFailed ∧ kind ≠ .ioError ∧ code ≠ "NOAUTH" ∧ code ≠ "WRONGPASS" := by
  unfold Kind.ofCode? at known
  split at known <;> cases known <;> decide

/-- The code of an error reply alone decides its cause. -/
theorem classify_ofLine (line : String) : (ofLine line).classify =
    if code line ∈ ["NOAUTH", "WRONGPASS"] then .auth (ofLine line).message
    else .other (ofLine line).message := by
  cases known : Kind.ofCode? (code line) with
  | some kind =>
    obtain ⟨notAuth, notIo, code₁, code₂⟩ := ne_of_ofCode? known
    obtain ⟨detail, described⟩ : ∃ detail, ofLine line =
        .described kind "An error was signalled by the server" detail := by
      unfold code at known
      simp only [ofLine, known]
      exact ⟨_, rfl⟩
    simp [described, classify, isAuth, isConnection, notAuth, notIo, code₁, code₂]
  | none =>
    obtain ⟨detail, signalled⟩ : ∃ detail, ofLine line = .signalled (code line) detail := by
      unfold code at known
      simp only [ofLine, known]
      exact ⟨_, rfl⟩
    simp [signalled, classify, isAuth, isConnection, authCodes]

/-- The failure is neither about credentials nor about the connection. -/
def IsOther (f : Failure) : Prop := ∃ detail, f.classify = .other detail

end Failure

theorem exists_error_of_mapM {α β ε : Type} {f : α → Except ε β} {as : List α} {e : ε}
    (failed : as.mapM f = .error e) : ∃ a ∈ as, f a = .error e := by
  induction as with
  | nil => cases failed
  | cons a rest ih =>
    rw [List.mapM_cons] at failed
    cases first : f a with
    | error _ =>
      rw [first] at failed
      cases failed
      exact ⟨a, List.mem_cons_self, first⟩
    | ok b =>
      cases others : rest.mapM f with
      | error _ =>
        rw [first, others] at failed
        cases failed
        obtain ⟨a, mem, same⟩ := ih others
        exact ⟨a, List.mem_cons_of_mem _ mem, same⟩
      | ok _ =>
        rw [first, others] at failed
        cases failed

namespace Reply

theorem isOther_mismatch (expectation : String) (r : Reply) : (mismatch expectation r).IsOther :=
  ⟨_, rfl⟩

theorem isOther_of_value {r : Reply} {f : Failure} (failed : r.value = .error f) : f.IsOther := by
  cases r <;> cases failed <;> exact isOther_mismatch _ _

theorem isOther_of_values {r : Reply} {f : Failure} (failed : r.values = .error f) :
    f.IsOther := by
  cases r with
  | array items =>
    obtain ⟨item, -, unreadable⟩ := exists_error_of_mapM failed
    exact isOther_of_value unreadable
  | nil | bulk text => cases failed
  | okay | integer n | simple text | error f => cases failed; exact isOther_mismatch _ _

theorem isOther_of_transaction {count : Nat} {r : Reply} {f : Failure}
    (failed : r.transaction count = .error f) : f.IsOther := by
  cases r with
  | array items =>
    rw [transaction] at failed
    split at failed <;> cases failed
    exact isOther_mismatch _ _
  | nil => cases failed; exact isOther_mismatch _ _
  | okay | integer n | bulk text | simple text | error f => cases failed; exact ⟨_, rfl⟩

end Reply

/-- A batch without an error that cannot be read fails for no other cause. -/
theorem decode_cases {r : StoreRequest} {replies : List Reply}
    (fine : replies.findSome? Reply.firstError? = none) :
    (∃ f, decode r replies = .error f ∧ f.IsOther) ∨ ∃ reply, decode r replies = .ok reply := by
  rw [decode, Reply.firstErrorOf?_eq_findSome?, fine]
  simp only
  cases taken : (replies.getLastD .nil).transaction (readCommands r).length with
  | error f => exact .inl ⟨f, rfl, Reply.isOther_of_transaction taken⟩
  | ok lists =>
    cases read : lists.mapM Reply.values with
    | error f =>
      obtain ⟨reply, -, unreadable⟩ := exists_error_of_mapM read
      refine .inl ⟨f, ?_, Reply.isOther_of_values unreadable⟩
      simp only [bind, Except.bind, read]
    | ok values =>
      simp only [bind, Except.bind, read]
      split <;> exact .inr ⟨_, rfl⟩

/-! ## What is heard -/

/-- The answers to commands, each with its command, when others were sent before. -/
def heardAfter (answer : List Command → Answer) (sent : List Command) :
    List Command → List (Command × Answer)
  | [] => []
  | command :: rest =>
    (command, answer (sent ++ [command])) :: heardAfter answer (sent ++ [command]) rest

/-- Every command has a reply. -/
def Answered (heard : List (Command × Answer)) : Prop :=
  ∀ entry ∈ heard, ∃ reply, entry.2 = .reply reply

instance (a : Answer) : Decidable (∃ reply, a = .reply reply) :=
  match a with
  | .reply r => isTrue ⟨r, rfl⟩
  | .closed _ | .silence => isFalse nofun

instance (heard : List (Command × Answer)) : Decidable (Answered heard) :=
  inferInstanceAs (Decidable (∀ entry ∈ heard, ∃ reply, entry.2 = .reply reply))

/-- The first error that was heard. -/
def firstError? (heard : List (Command × Answer)) : Option Failure :=
  heard.findSome? fun entry => entry.2.error?

/-- Whether a command gives the password. -/
def isLogin (entry : Command × Answer) : Bool := entry.1.head? = some "AUTH"

section Heard

variable {answer : List Command → Answer} {t : Timeout} {c : StoreConnection}

theorem heardAfter_append (sent commands commands' : List Command) :
    heardAfter answer sent (commands ++ commands') =
      heardAfter answer sent commands ++ heardAfter answer (sent ++ commands) commands' := by
  induction commands generalizing sent with
  | nil => simp [heardAfter]
  | cons command rest ih => simp [heardAfter, ih]

theorem map_fst_heardAfter (answer : List Command → Answer) (sent commands : List Command) :
    (heardAfter answer sent commands).map (·.1) = commands := by
  induction commands generalizing sent with
  | nil => rfl
  | cons command rest ih => rw [heardAfter, List.map_cons, ih]

theorem answered_nil : Answered [] := List.forall_mem_nil _

theorem answered_append {before after : List (Command × Answer)} :
    Answered (before ++ after) ↔ Answered before ∧ Answered after := by
  simp [Answered, or_imp, forall_and]

/-! ## The steps of a conversation -/

theorem accepts_iff {a : Answer} : accepts a = true ↔ a = .reply .okay := by
  unfold accepts
  split
  · simp
  · rename_i other
    simpa using other

/-- How a login ends, by what was heard: with the failure, if there is one. -/
inductive Login (t : Timeout) (c : StoreConnection) :
    List (Command × Answer) → Option StoreError → Prop where
  | unneeded (without : c.password = none) : Login t c [] none
  | accepted {before : List (Command × Answer)} {password : String}
    (logins : ∀ entry ∈ before, isLogin entry = true) (answered : Answered before) :
    Login t c (before ++ [(authCommand password, .reply .okay)]) none
  | refused {before : List (Command × Answer)} {password : String} {a : Answer}
    (logins : ∀ entry ∈ before, isLogin entry = true) (answered : Answered before)
    (spoken : a ≠ .silence) (refused : a ≠ .reply .okay) :
    Login t c (before ++ [(authCommand password, a)]) (some authenticationFailed.classify)
  | silent {before : List (Command × Answer)} {password : String}
    (logins : ∀ entry ∈ before, isLogin entry = true) (answered : Answered before) :
    Login t c (before ++ [(authCommand password, .silence)]) (some (noReply t c))

theorem Login.isLogin {logins : List (Command × Answer)} {e? : Option StoreError}
    (login : Login t c logins e?) : ∀ entry ∈ logins, isLogin entry = true := by
  cases login with
  | unneeded without => exact List.forall_mem_nil _
  | accepted logins answered | silent logins answered | refused logins answered spoken refused =>
    intro entry mem
    rcases List.mem_append.mp mem with before | last
    · exact logins entry before
    · rw [List.mem_singleton.mp last]
      rfl

theorem Login.answered {logins : List (Command × Answer)} (login : Login t c logins none) :
    Answered logins := by
  cases login with
  | unneeded without => exact answered_nil
  | accepted logins answered =>
    refine answered_append.mpr ⟨answered, ?_⟩
    simp [Answered]

/-- How a login ends with the last answer it hears. -/
def loginEnd (t : Timeout) (c : StoreConnection) : Answer → Option StoreError
  | .silence => some (noReply t c)
  | a => if accepts a then none else some authenticationFailed.classify

theorem Login.of_loginEnd (before : List (Command × Answer))
    (logins : ∀ entry ∈ before, Redis.isLogin entry = true) (answered : Answered before)
    (password : String) (a : Answer) :
    Login t c (before ++ [(authCommand password, a)]) (loginEnd t c a) := by
  by_cases silent : a = .silence
  · rw [silent]
    exact .silent logins answered
  by_cases taken : a = .reply .okay
  · rw [taken]
    exact .accepted logins answered
  have refused : loginEnd t c a = some authenticationFailed.classify := by
    rw [loginEnd, if_neg (mt accepts_iff.mp taken)]
    exact silent
  rw [refused]
  exact .refused logins answered silent taken

/-- A password is given once, or twice if the first answer asks for that. -/
theorem authenticate_eq {password : String} (given : c.password = some password) :
    authenticate answer t c =
      let auth := authCommand password
      if wantsRetry (answer [auth]) then (loginEnd t c (answer [auth, auth]), [auth, auth])
      else (loginEnd t c (answer [auth]), [auth]) := by
  simp only [authenticate, given, ask, List.nil_append]
  cases first : answer [authCommand password] with
  | silence => rfl
  | closed message => rfl
  | reply r =>
    by_cases taken : r = .okay
    · rw [taken]
      rfl
    have refused : accepts (.reply r) = false := by
      rw [Bool.eq_false_iff]
      exact fun accepted => taken (Answer.reply.inj (accepts_iff.mp accepted))
    simp only [refused, loginEnd, List.cons_append, List.nil_append, Bool.false_eq_true, if_false]
    cases answer [authCommand password, authCommand password] <;> rfl

theorem exists_reply_of_wantsRetry {a : Answer} (wants : wantsRetry a = true) :
    ∃ reply, a = .reply reply := by
  cases a with
  | reply r => exact ⟨r, rfl⟩
  | closed message | silence => cases wants

theorem login_authenticate (answer : List Command → Answer) (t : Timeout) (c : StoreConnection) :
    Login t c (heardAfter answer [] (authenticate answer t c).2) (authenticate answer t c).1 := by
  cases given : c.password with
  | none =>
    simp only [authenticate, given]
    exact .unneeded given
  | some password =>
    rw [authenticate_eq given]
    by_cases retry : wantsRetry (answer [authCommand password]) = true
    · rw [if_pos retry]
      have answered : Answered [(authCommand password, answer [authCommand password])] :=
        List.forall_mem_singleton.mpr (exists_reply_of_wantsRetry retry)
      exact .of_loginEnd _ (List.forall_mem_singleton.mpr rfl) answered password _
    · rw [if_neg retry]
      exact .of_loginEnd [] (List.forall_mem_nil _) answered_nil password _

/-- How the commands of a batch are answered, by what was heard. -/
inductive Collected (t : Timeout) (c : StoreConnection) (commands : List Command) :
    List (Command × Answer) → Except StoreError (List Reply) → Prop where
  | all {heard : List (Command × Answer)} {replies : List Reply}
    (asked : heard.map (·.1) = commands) (replied : heard.map (·.2) = replies.map .reply) :
    Collected t c commands heard (.ok replies)
  | silent (before : List (Command × Answer)) {command : Command} (answered : Answered before) :
    Collected t c commands (before ++ [(command, .silence)]) (.error (noReply t c))
  | closed (before : List (Command × Answer)) {command : Command} {message : String}
    (answered : Answered before) :
    Collected t c commands (before ++ [(command, .closed message)]) (.error (.connection message))

theorem answered_cons {command : Command} {r : Reply} {heard : List (Command × Answer)}
    (answered : Answered heard) : Answered ((command, .reply r) :: heard) :=
  List.forall_mem_cons.mpr ⟨⟨r, rfl⟩, answered⟩

theorem Collected.cons {commands : List Command} {heard : List (Command × Answer)}
    {result : Except StoreError (List Reply)} (collected : Collected t c commands heard result)
    (command : Command) (r : Reply) : Collected t c (command :: commands)
      ((command, .reply r) :: heard) (result.map (r :: ·)) := by
  cases collected with
  | all asked replied => exact .all (by rw [List.map_cons, asked]) (by simp [replied])
  | silent before answered => exact .silent (_ :: before) (answered_cons answered)
  | closed before answered => exact .closed (_ :: before) (answered_cons answered)

theorem collected_collect (answer : List Command → Answer) (t : Timeout) (c : StoreConnection)
    (sent commands : List Command) :
    ∃ asked, (collect answer t c sent commands).2 = sent ++ asked ∧ asked <+: commands ∧
      Collected t c commands (heardAfter answer sent asked)
        (collect answer t c sent commands).1 := by
  induction commands generalizing sent with
  | nil => exact ⟨[], (List.append_nil sent).symm, List.prefix_rfl, .all rfl rfl⟩
  | cons command rest ih =>
    cases first : answer (sent ++ [command]) with
    | closed message =>
      refine ⟨[command], ?_, ⟨rest, rfl⟩, ?_⟩ <;> simp only [collect, ask, first]
      simp only [heardAfter, first]
      exact .closed [] answered_nil
    | silence =>
      refine ⟨[command], ?_, ⟨rest, rfl⟩, ?_⟩ <;> simp only [collect, ask, first]
      simp only [heardAfter, first]
      exact .silent [] answered_nil
    | reply r =>
      obtain ⟨asked, sent', front, collected⟩ := ih (sent ++ [command])
      have step : collect answer t c sent (command :: rest) =
          ((collect answer t c (sent ++ [command]) rest).1.map (r :: ·),
            (collect answer t c (sent ++ [command]) rest).2) := by
        simp only [collect, ask, first]
        rcases collect answer t c (sent ++ [command]) rest with ⟨_ | _, _⟩ <;> rfl
      refine ⟨command :: asked, ?_, List.cons_prefix_cons.mpr ⟨rfl, front⟩, ?_⟩
      · simp [step, sent']
      · rw [step, heardAfter, first]
        exact collected.cons command r

/-! ## How a conversation ends -/

/-- How a conversation ends, by what was heard at the login and after it. -/
inductive Ends (t : Timeout) (c : StoreConnection) (r : StoreRequest)
    (logins : List (Command × Answer)) :
    List (Command × Answer) → Except StoreError StoreReply → Prop where
  | login {e : StoreError} (login : Login t c logins (some e)) : Ends t c r logins [] (.error e)
  | silent (before : List (Command × Answer)) {command : Command} (login : Login t c logins none)
    (answered : Answered before) :
    Ends t c r logins (before ++ [(command, .silence)]) (.error (noReply t c))
  | closed (before : List (Command × Answer)) {command : Command} {message : String}
    (login : Login t c logins none) (answered : Answered before) :
    Ends t c r logins (before ++ [(command, .closed message)]) (.error (.connection message))
  | refused {answers : List (Command × Answer)} {f : Failure} (login : Login t c logins none)
    (answered : Answered answers) (first : firstError? answers = some f) :
    Ends t c r logins answers (.error f.classify)
  | unreadable {answers : List (Command × Answer)} {detail : String}
    (login : Login t c logins none) (answered : Answered answers)
    (fine : firstError? answers = none) : Ends t c r logins answers (.error (.other detail))
  | values {answers : List (Command × Answer)} {reply : StoreReply}
    (login : Login t c logins none)
    (asked : answers.map (·.1) = selectCommand c.database :: batch r)
    (answered : Answered answers) (fine : firstError? answers = none) :
    Ends t c r logins answers (.ok reply)

theorem isLogin_of_mem_after {r : StoreRequest} {command : Command}
    (mem : command ∈ selectCommand c.database :: batch r) (a : Answer) :
    isLogin (command, a) = false := by
  have heads : ∀ command ∈ selectCommand c.database :: batch r,
      command.head? ∈ [some "SELECT", some "MULTI", some "MGET", some "HMGET", some "EXEC"] := by
    obtain ⟨flatKeys, hashKey, hashFields⟩ := r
    cases flatKeys <;> cases hashFields <;> simp [batch, readCommands, selectCommand]
  have head := heads command mem
  by_cases login : command.head? = some "AUTH"
  · rw [login] at head
    exact absurd head (by decide)
  · simp [isLogin, login]

theorem firstError?_of_replied {heard : List (Command × Answer)} {replies : List Reply}
    (replied : heard.map (·.2) = replies.map .reply) :
    firstError? heard = replies.findSome? Reply.firstError? := by
  have all : (heard.map (·.2)).findSome? Answer.error? = replies.findSome? Reply.firstError? := by
    rw [replied, List.findSome?_map]
    rfl
  rwa [List.findSome?_map] at all

theorem answered_of_replied {heard : List (Command × Answer)} {replies : List Reply}
    (replied : heard.map (·.2) = replies.map .reply) : Answered heard := by
  intro entry mem
  have listed : entry.2 ∈ replies.map .reply := replied ▸ List.mem_map_of_mem mem
  obtain ⟨reply, -, same⟩ := List.mem_map.mp listed
  exact ⟨reply, same.symm⟩

/-- A conversation in which everything was answered ends with what the replies hold. -/
theorem ends_decode {r : StoreRequest} {logins heard : List (Command × Answer)}
    {replies : List Reply} (login : Login t c logins none)
    (asked : heard.map (·.1) = selectCommand c.database :: batch r) (answered : Answered heard)
    (first : firstError? heard = replies.findSome? Reply.firstError?) :
    Ends t c r logins heard ((decode r replies).mapError Failure.classify) := by
  cases errors : replies.findSome? Reply.firstError? with
  | some f =>
    rw [decode, Reply.firstErrorOf?_eq_findSome?, errors]
    exact .refused login answered (first.trans errors)
  | none =>
    obtain ⟨f, unreadable, detail, other⟩ | ⟨reply, read⟩ := decode_cases (r := r) errors
    · rw [unreadable, Except.mapError, other]
      exact .unreadable login answered (first.trans errors)
    · rw [read, Except.mapError]
      exact .values login asked answered (first.trans errors)

/-- The batch, when the login and the choice of the database are behind it. -/
theorem ends_runBatch (answer : List Command → Answer) (r : StoreRequest)
    {logins before : List (Command × Answer)} (login : Login t c logins none)
    (asked : before.map (·.1) = [selectCommand c.database]) (answered : Answered before)
    (fine : firstError? before = none) (sent : List Command) :
    ∃ sent', (runBatch answer t c r sent).commands = sent ++ sent' ∧ sent' <+: batch r ∧
      Ends t c r logins (before ++ heardAfter answer sent sent')
        (runBatch answer t c r sent).result := by
  obtain ⟨sent', commands, front, collected⟩ := collected_collect answer t c sent (batch r)
  refine ⟨sent', ?_, front, ?_⟩
  · rw [runBatch]
    split <;> rename_i result <;> rw [result] at commands <;> exact commands
  · rw [runBatch]
    split <;> rename_i result <;> rw [result] at collected
    · generalize heardAfter answer sent sent' = heard at collected
      cases collected with
      | silent _ replied =>
        rw [← List.append_assoc]
        exact .silent _ login (answered_append.mpr ⟨answered, replied⟩)
      | closed _ replied =>
        rw [← List.append_assoc]
        exact .closed _ login (answered_append.mpr ⟨answered, replied⟩)
    · rename_i replies _
      generalize heardAfter answer sent sent' = heard at collected
      obtain ⟨batched, replied⟩ | _ | _ := collected
      have whole : Answered (before ++ heard) :=
        answered_append.mpr ⟨answered, answered_of_replied replied⟩
      have first : firstError? (before ++ heard) = replies.findSome? Reply.firstError? := by
        rw [firstError?, List.findSome?_append, ← firstError?, fine, Option.none_or]
        exact firstError?_of_replied replied
      exact ends_decode login (by rw [List.map_append, asked, batched]; rfl) whole first

/-- What follows the login: the choice of the database, and the batch. -/
theorem ends_select (answer : List Command → Answer) (r : StoreRequest)
    {logins : List (Command × Answer)} (login : Login t c logins none) (sent : List Command) :
    let run : Run :=
      match select answer t c sent with
      | (some e, sent) => ⟨.error e, sent⟩
      | (none, sent) => runBatch answer t c r sent
    ∃ sent', run.commands = sent ++ sent' ∧ sent' <+: selectCommand c.database :: batch r ∧
      Ends t c r logins (heardAfter answer sent sent') run.result := by
  intro run
  have alone : [selectCommand c.database] <+: selectCommand c.database :: batch r := ⟨batch r, rfl⟩
  cases chosen : answer (sent ++ [selectCommand c.database]) with
  | silence =>
    have ended : run = ⟨.error (noReply t c), sent ++ [selectCommand c.database]⟩ := by
      simp only [run, select, ask, chosen]
    refine ⟨_, congrArg Run.commands ended, alone, ?_⟩
    rw [ended, heardAfter, chosen]
    exact .silent [] login answered_nil
  | closed message =>
    have ended : run = ⟨.error (.connection message), sent ++ [selectCommand c.database]⟩ := by
      simp only [run, select, ask, chosen]
      rfl
    refine ⟨_, congrArg Run.commands ended, alone, ?_⟩
    rw [ended, heardAfter, chosen]
    exact .closed [] login answered_nil
  | reply reply =>
    have answered : Answered [(selectCommand c.database, Answer.reply reply)] := by
      simp [Answered]
    cases error : reply.firstError? with
    | some f =>
      have ended : run = ⟨.error f.classify, sent ++ [selectCommand c.database]⟩ := by
        simp only [run, select, ask, chosen, error, Option.map_some]
      refine ⟨_, congrArg Run.commands ended, alone, ?_⟩
      rw [ended, heardAfter, chosen]
      exact .refused login answered (by simp [firstError?, Answer.error?, error])
    | none =>
      have goes_on : run = runBatch answer t c r (sent ++ [selectCommand c.database]) := by
        simp only [run, select, ask, chosen, error, Option.map_none]
      obtain ⟨sent', commands, front, ends⟩ := ends_runBatch answer r login rfl
        answered (by simp [firstError?, Answer.error?, error]) (sent ++ [selectCommand c.database])
      refine ⟨selectCommand c.database :: sent', ?_, List.cons_prefix_cons.mpr ⟨rfl, front⟩, ?_⟩
      · simp [goes_on, commands]
      · rw [goes_on, heardAfter, chosen]
        exact ends

/-- How a read over a connection ends. -/
theorem ends_fetch (answer : List Command → Answer) (t : Timeout) (c : StoreConnection)
    {r : StoreRequest} (reads : ¬(r.flatKeys = [] ∧ r.hashFields = [])) :
    ∃ logins answers, heardAfter answer [] (fetch (.server answer) t c r).commands =
        logins ++ answers ∧ (∀ entry ∈ logins, isLogin entry = true) ∧
      (∀ entry ∈ answers, isLogin entry = false) ∧
      Ends t c r logins answers (fetch (.server answer) t c r).result := by
  have login := login_authenticate answer t c
  simp only [fetch, if_neg reads]
  generalize authenticate answer t c = ended at login ⊢
  obtain ⟨_ | e, sent⟩ := ended
  case some => exact ⟨_, [], (List.append_nil _).symm, login.isLogin, List.forall_mem_nil _, .login login⟩
  obtain ⟨sent', commands, front, ends⟩ := ends_select answer r login sent
  refine ⟨_, heardAfter answer sent sent', ?_, login.isLogin, ?_, ends⟩
  · exact (congrArg (heardAfter answer []) commands).trans (heardAfter_append [] sent sent')
  · intro entry mem
    have asked : entry.1 ∈ sent' := by
      rw [← map_fst_heardAfter answer sent sent']
      exact List.mem_map_of_mem mem
    exact isLogin_of_mem_after (front.subset asked) entry.2

/-! ## The cause that was heard -/

/-- What was heard at the login. -/
def logins (heard : List (Command × Answer)) : List (Command × Answer) := heard.filter isLogin

/-- What was heard after it. -/
def afterLogin (heard : List (Command × Answer)) : List (Command × Answer) :=
  heard.filter (!isLogin ·)

/-- A read that fails by the cause that was heard, and has values only if nothing failed. -/
structure FailsByCause (c : StoreConnection) (r : StoreRequest) (heard : List (Command × Answer))
    (result : Except StoreError StoreReply) : Prop where
  /-- Values are read only if everything was asked for and answered, without an error. -/
  values : ∀ reply, result = .ok reply →
    (afterLogin heard).map (·.1) = selectCommand c.database :: batch r ∧ Answered heard ∧
      firstError? (afterLogin heard) = none
  /-- An error after the login, at any command, leaves no values. -/
  never_data : (∃ entry ∈ afterLogin heard, entry.2.error?.isSome) → ∃ e, result = .error e
  /-- A password is refused by every reply but one. -/
  refused_password : ∀ command reply, (logins heard).getLast? = some (command, .reply reply) →
    reply ≠ .okay → ∃ detail, result = .error (.auth detail)
  /-- The code of the first error decides, whatever its text. -/
  first_error : Answered heard → ∀ line, firstError? (afterLogin heard) = some (.ofLine line) →
    if Failure.code line ∈ ["NOAUTH", "WRONGPASS"] then ∃ detail, result = .error (.auth detail)
    else ∃ detail, result = .error (.other detail)
  silent : (∃ entry ∈ heard, entry.2 = .silence) → ∃ detail, result = .error (.connection detail)
  dropped : (∃ entry ∈ afterLogin heard, ∃ message, entry.2 = .closed message) →
    ∃ detail, result = .error (.connection detail)

theorem Answered.ne_silence {heard : List (Command × Answer)} (answered : Answered heard)
    {entry : Command × Answer} (mem : entry ∈ heard) : entry.2 ≠ .silence := by
  obtain ⟨reply, replied⟩ := answered entry mem
  simp [replied]

theorem Answered.ne_closed {heard : List (Command × Answer)} (answered : Answered heard)
    {entry : Command × Answer} (mem : entry ∈ heard) (message : String) :
    entry.2 ≠ .closed message := by
  obtain ⟨reply, replied⟩ := answered entry mem
  simp [replied]

theorem Login.eq_okay {logins : List (Command × Answer)} (login : Login t c logins none)
    {command : Command} {reply : Reply}
    (last : logins.getLast? = some (command, .reply reply)) : reply = .okay := by
  cases login with
  | unneeded without => cases last
  | accepted logins answered =>
    rw [List.getLast?_concat] at last
    cases last
    rfl

/-- A login that was given up was refused, or was not answered any more. -/
theorem Login.cause {logins : List (Command × Answer)} {e : StoreError}
    (login : Login t c logins (some e)) :
    (∃ detail, e = .auth detail) ∧ (∀ entry ∈ logins, entry.2 ≠ .silence) ∨
      (∃ detail, e = .connection detail) ∧ ∃ command, logins.getLast? = some (command, .silence) := by
  cases login with
  | @refused before password a logins answered spoken refused =>
    refine .inl ⟨⟨_, rfl⟩, fun entry mem => ?_⟩
    rcases List.mem_append.mp mem with earlier | last
    · exact answered.ne_silence earlier
    · rw [List.mem_singleton.mp last]
      exact spoken
  | silent logins answered => exact .inr ⟨⟨_, rfl⟩, _, List.getLast?_concat⟩

theorem Ends.failsByCause {r : StoreRequest} {before answers : List (Command × Answer)}
    {result : Except StoreError StoreReply} (ends : Ends t c r before answers result)
    (atLogin : ∀ entry ∈ before, isLogin entry = true)
    (later : ∀ entry ∈ answers, isLogin entry = false) :
    FailsByCause c r (before ++ answers) result := by
  have logins_eq : logins (before ++ answers) = before := by
    rw [logins, List.filter_append, List.filter_eq_self.mpr atLogin,
      List.filter_eq_nil_iff.mpr fun entry mem => by simp [later entry mem], List.append_nil]
  have after_eq : afterLogin (before ++ answers) = answers := by
    rw [afterLogin, List.filter_append,
      List.filter_eq_nil_iff.mpr fun entry mem => by simp [atLogin entry mem],
      List.filter_eq_self.mpr fun entry mem => by simp [later entry mem], List.nil_append]
  constructor
  case values =>
    rintro reply rfl
    rw [after_eq]
    cases ends with
    | values login asked answered fine =>
      exact ⟨asked, answered_append.mpr ⟨login.answered, answered⟩, fine⟩
  case never_data =>
    rintro ⟨entry, mem, error⟩
    rw [after_eq] at mem
    cases ends with
    | values login asked answered fine =>
      have none := List.findSome?_eq_none_iff.mp fine entry mem
      simp [none] at error
    | _ => exact ⟨_, rfl⟩
  case refused_password =>
    intro command reply last refused
    rw [logins_eq] at last
    cases ends with
    | login login =>
      rcases login.cause with ⟨⟨detail, rfl⟩, -⟩ | ⟨-, command, silent⟩
      · exact ⟨detail, rfl⟩
      · cases last.symm.trans silent
    | silent _ login | closed _ login | refused login | unreadable login | values login =>
      exact absurd (login.eq_okay last) refused
  case first_error =>
    intro answered line first
    rw [after_eq] at first
    have replied := (answered_append.mp answered).2
    cases ends with
    | login login => cases first
    | silent _ login => exact absurd rfl (replied.ne_silence (List.mem_append_right _ (.head _)))
    | closed _ login => exact absurd rfl (replied.ne_closed (List.mem_append_right _ (.head _)) _)
    | refused login answered found =>
      obtain rfl := Option.some.inj (found.symm.trans first)
      rw [Failure.classify_ofLine]
      split <;> exact ⟨_, rfl⟩
    | unreadable login answered fine => cases fine.symm.trans first
    | values login asked answered fine => cases fine.symm.trans first
  case silent =>
    rintro ⟨entry, mem, silence⟩
    cases ends with
    | login login =>
      rcases login.cause with ⟨-, spoken⟩ | ⟨⟨detail, rfl⟩, -⟩
      · rw [List.append_nil] at mem
        exact absurd silence (spoken entry mem)
      · exact ⟨detail, rfl⟩
    | silent _ login => exact ⟨_, rfl⟩
    | closed _ login => exact ⟨_, rfl⟩
    | refused login answered | unreadable login answered | values login asked answered =>
      exact absurd silence ((answered_append.mpr ⟨login.answered, answered⟩).ne_silence mem)
  case dropped =>
    rintro ⟨entry, mem, message, closed⟩
    rw [after_eq] at mem
    cases ends with
    | login login => cases mem
    | silent _ login => exact ⟨_, rfl⟩
    | closed _ login => exact ⟨_, rfl⟩
    | refused login answered | unreadable login answered | values login asked answered =>
      exact absurd closed (answered.ne_closed mem message)

end Heard

/-! ## What clients are told -/

/-- What a client is told about a failed read. There is no result beside it. -/
inductive Told : StoreError → Http.Response → Prop where
  | auth (detail : String) : Told (.auth detail) ⟨502, some "application/json",
      .json (.object [("error", .string "Redis password missing or incorrect")])⟩
  | connection (detail : String) : Told (.connection detail) ⟨502, some "application/json",
      .json (.object [("error", .string "No connection")])⟩
  | other (detail : String) : Told (.other detail) ⟨500, some "application/json",
      .json (.object [("error", .string "Redis error")])⟩

theorem told_failure (e : StoreError) : Told e (.failure (.ofSnapshotError (.ofStore e))) := by
  cases e <;> constructor

/-- A chain's snapshot is one read over a connection, and if that fails then the client is told by
which cause. -/
def PassesOn (network : StoreConnection → Link) (t : Timeout) (c : StoreConnection)
    (run : SnapshotRun) (response : Http.Response) : Prop :=
  ∃ request : StoreRequest, ¬(request.flatKeys = [] ∧ request.hashFields = []) ∧
    run.reads = [(c, request)] ∧
    ∀ e, (fetch (network c) t c request).result = .error e →
      run.result = .error (.ofStore e) ∧ Told e response

theorem passesOn_ofChain (network : StoreConnection → Link) (t : Timeout) {topology : Topology}
    {settings : StoreSettings} {index : Int64} {alerter chain : String}
    (holds : topology.HoldsStore settings index alerter)
    (listed : chain ∈ topology.chains.monitoredNodes.keys) :
    let run := SnapshotRun.ofChain (metricStore network t) chain topology
    PassesOn network t ⟨settings.host, settings.port, settings.password, index⟩ run
      (Http.snapshotResponse run) := by
  obtain ⟨nodes, found⟩ := NameMap.mem_keys_iff.mp listed
  obtain ⟨plan, planned, -⟩ := SnapshotPlan.exists_ofChain found alerter
  have connected := Topology.connection?_of_enabled holds.configured holds.enabled holds.indexed
  rw [SnapshotRun.ofChain_of_planned (metricStore network t) connected holds.known planned]
  refine ⟨plan.request, fun nothing => SnapshotPlan.hashFields_ne_nil planned nothing.2, rfl, ?_⟩
  intro e failed
  simp only [metricStore, failed]
  exact ⟨rfl, told_failure e⟩

/-- **Refusals never turn into data** and are sorted by cause. A read of anything over a connection
fails by the cause that was heard, without a connection too, and the client that asked for the
snapshot is told that cause. -/
theorem refusals_sorted (t : Timeout) :
    (∀ c r, ¬(r.flatKeys = [] ∧ r.hashFields = []) →
      (∀ error, ∃ detail, (fetch (.failed error) t c r).result = .error (.connection detail)) ∧
      ∀ answer, FailsByCause c r (heardAfter answer [] (fetch (.server answer) t c r).commands)
        (fetch (.server answer) t c r).result) ∧
    ∀ network offer (s : LiveState) settings index alerter chain (request : Http.Request),
      offer.scope = true → s.topology.HoldsStore settings index alerter →
      chain ∈ s.topology.chains.monitoredNodes.keys → chain ≠ "" →
      request.endpoint = ("GET", "/server/all_chain_info") →
      request.target.parameter "chainName" = .ok (some chain) →
      PassesOn network t ⟨settings.host, settings.port, settings.password, index⟩
        (.ofChain (metricStore network t) chain s.topology)
        (Http.serve offer (metricStore network t) s request).response := by
  refine ⟨fun c r reads => ⟨fun error => ?_, fun answer => ?_⟩, ?_⟩
  · rw [fetch, if_neg reads]
    exact ⟨_, rfl⟩
  · obtain ⟨logins, answers, heard, atLogin, later, ends⟩ := ends_fetch answer t c reads
    rw [heard]
    exact ends.failsByCause atLogin later
  · intro network offer s settings index alerter chain request offered holds listed nonempty routed
      named
    rw [Http.serve_chainInfo (metricStore network t) s offered routed named nonempty]
    exact passesOn_ofChain network t holds listed

/-- A server that lets a user read plain keys but no fields. -/
def denyingFields (sent : List Command) : Answer :=
  match sent.getLast? with
  | some ("MGET" :: _) => .reply (.simple "QUEUED")
  | some ("HMGET" :: _) => .reply (.error (.ofLine "NOPERM no permissions to run the command"))
  | some ["EXEC"] => .reply (.error (.ofLine "EXECABORT Transaction discarded"))
  | _ => .reply .okay

/-- One field that is denied costs the plain keys too, and a server that wants a password is
reported as that. -/
theorem refusals_sorted_denied :
    (∃ detail, (fetch (.server denyingFields) .standard ⟨"store", 6379, some "secret", 3⟩
      ⟨["height"], "node", ["peers"]⟩).result = .error (.other detail)) ∧
    (Http.serve ⟨true, false⟩ (metricStore (fun _ => ServerHistory.counting.link) .standard)
      ⟨twinNames, .empty⟩ ⟨"GET", ⟨"/server/all_chain_info", Http.query "chainName" "c"⟩⟩).response =
        ⟨502, some "application/json",
          .json (.object [("error", .string "Redis password missing or incorrect")])⟩ := by
  have sorted := refusals_sorted .standard
  constructor
  · exact ((sorted.1 ⟨"store", 6379, some "secret", 3⟩ ⟨["height"], "node", ["peers"]⟩
      (by decide)).2 denyingFields).first_error (by decide)
        "NOPERM no permissions to run the command" (by decide)
  · have plain : Http.isPlain "/server/all_chain_info" = true := by decide
    have decoded := Http.decodedPath_of_plain plain (Http.query "chainName" "c")
    obtain ⟨request, reads, -, told⟩ := sorted.2 (fun _ => ServerHistory.counting.link)
      ⟨true, false⟩ ⟨twinNames, .empty⟩ ⟨true, "h", 6379, none⟩ 10 "a" "c"
      ⟨"GET", ⟨"/server/all_chain_info", Http.query "chainName" "c"⟩⟩ rfl ⟨rfl, rfl, rfl, rfl⟩
      (by decide) (by decide) (Prod.ext rfl decoded) (Http.parameter_query _ _ _)
    have refused : ∃ detail, (fetch ServerHistory.counting.link .standard ⟨"h", 6379, none, 10⟩
        request).result = .error (.auth detail) := by
      unfold fetch
      rw [if_neg reads]
      exact ⟨_, rfl⟩
    obtain ⟨detail, failed⟩ := refused
    have told := (told _ failed).2
    generalize (Http.serve _ _ _ _).response = response at told ⊢
    cases told
    rfl

end ChainDashboard.Redis
