import ChainDashboard.KeySchema

/-!
# Keys are read back

A key is a token, an underscore and a text that names what the key is about. No token holds an
underscore, so the first one ends the token; a token belongs to one group, and the group says how
the rest is to be read. Hence keys of one alerter that are looked up alike are equal only if they
are about the same field of the same chain or node (`key_inj`), whatever the names are.

Between alerters it is the identifier in front that decides, and identifiers may have colons in
them. Two alerters have a plain key or a bucket in common exactly if one identifier goes on with a
colon where the other ends, and then like a key or a bucket (`AlerterText.exists_shared_iff`).
-/

namespace ChainDashboard

/-- Of two fronts of one text that a separator follows, the longer goes on with the separator where
the other ends. -/
theorem append_cons_cases {α : Type u} {a : α} {front front' back back' : List α}
    (h : front ++ a :: back = front' ++ a :: back') :
    front = front' ∨ (∃ more, front' = front ++ a :: more ∧ back = more ++ a :: back') ∨
      ∃ more, front = front' ++ a :: more ∧ back' = more ++ a :: back := by
  rcases List.append_eq_append_iff.mp h with ⟨between, longer, cut⟩ | ⟨between, longer, cut⟩
  · cases between with
    | nil => exact .inl (by rw [longer, List.append_nil])
    | cons b more =>
      obtain ⟨rfl, rfl⟩ := List.cons.inj cut
      exact .inr (.inl ⟨more, longer, rfl⟩)
  · cases between with
    | nil => exact .inl (by rw [longer, List.append_nil])
    | cons b more =>
      obtain ⟨rfl, rfl⟩ := List.cons.inj cut
      exact .inr (.inr ⟨more, longer, rfl⟩)

/-- Texts that are equal are split alike at the first separator. -/
theorem append_cons_inj_of_notMem {α : Type u} {a : α} {front front' back back' : List α}
    (hf : a ∉ front) (hf' : a ∉ front') (h : front ++ a :: back = front' ++ a :: back') :
    front = front' ∧ back = back' := by
  rcases append_cons_cases h with rfl | ⟨more, rfl, -⟩ | ⟨more, rfl, -⟩
  · exact ⟨rfl, (List.cons.inj (List.append_cancel_left h)).2⟩
  · exact absurd (List.mem_append_right front List.mem_cons_self) hf'
  · exact absurd (List.mem_append_right front' List.mem_cons_self) hf

theorem token_inj {token token' rest rest' : String} (ht : '_' ∉ token.toList)
    (ht' : '_' ∉ token'.toList) (h : token ++ ("_" ++ rest) = token' ++ ("_" ++ rest')) :
    token = token' ∧ rest = rest' := by
  have chars := congrArg String.toList h
  simp only [String.toList_append] at chars
  obtain ⟨front, back⟩ := append_cons_inj_of_notMem ht ht' chars
  exact ⟨String.toList_inj.mp front, String.toList_inj.mp back⟩

namespace KeyGroup

/-- What a key says after its token and an underscore. -/
def caption (scope : String) : KeyGroup → String
  | .node | .blockchain => scope
  | .nodeMonitor => "Node monitor (" ++ scope ++ ")"
  | .blockchainMonitor => "Blockchain monitor (" ++ scope ++ ")"

theorem suffix_eq (g : KeyGroup) (scope : String) : g.suffix scope = "_" ++ g.caption scope := by
  cases g with
  | node => rfl
  | blockchain => rfl
  | nodeMonitor =>
    show "_Node monitor (" ++ scope ++ ")" = "_" ++ ("Node monitor (" ++ scope ++ ")")
    have joined : "_Node monitor (" = "_" ++ "Node monitor (" := rfl
    rw [joined, String.append_assoc, String.append_assoc, String.append_assoc]
  | blockchainMonitor =>
    show "_Blockchain monitor (" ++ scope ++ ")" = "_" ++ ("Blockchain monitor (" ++ scope ++ ")")
    have joined : "_Blockchain monitor (" = "_" ++ "Blockchain monitor (" := rfl
    rw [joined, String.append_assoc, String.append_assoc, String.append_assoc]

theorem caption_inj {g : KeyGroup} {x y : String} (h : g.caption x = g.caption y) : x = y := by
  cases g with
  | node => exact h
  | blockchain => exact h
  | nodeMonitor | blockchainMonitor =>
    exact (String.append_right_inj _).mp ((String.append_left_inj _).mp h)

theorem notMem_token {g : KeyGroup} {f : KeyField} (hf : f ∈ g.fields) : '_' ∉ f.token.toList := by
  have all : ∀ f ∈ g.fields, '_' ∉ f.token.toList := by cases g <;> decide
  exact all f hf

/-- A token belongs to one group. -/
theorem eq_of_token {g h : KeyGroup} {f k : KeyField} (hf : f ∈ g.fields) (hk : k ∈ h.fields)
    (same : f.token = k.token) : g = h := by
  have all : ∀ f ∈ g.fields, ∀ k ∈ h.fields, f.token = k.token → g = h := by
    cases g <;> cases h <;> decide
  exact all f hf k hk same

/-- A key without the alerter in front of it. -/
theorem unscoped_inj {g h : KeyGroup} {f k : KeyField} (hf : f ∈ g.fields) (hk : k ∈ h.fields)
    {x y : String} (same : f.token ++ g.suffix x = k.token ++ h.suffix y) :
    g = h ∧ f.token = k.token ∧ x = y := by
  rw [suffix_eq, suffix_eq] at same
  obtain ⟨token, caption⟩ := token_inj (notMem_token hf) (notMem_token hk) same
  obtain rfl := eq_of_token hf hk token
  exact ⟨rfl, token, caption_inj caption⟩

/-- **Keys are read back**: equal keys of one alerter that are looked up alike are of the same group
and token and about the same chain or node. -/
theorem key_inj {g h : KeyGroup} {f k : KeyField} (hf : f ∈ g.fields) (hk : k ∈ h.fields)
    {alerter x y : String} (alike : g.lookup = h.lookup)
    (same : g.key alerter f.token x = h.key alerter k.token y) :
    g = h ∧ f.token = k.token ∧ x = y := by
  have prefixed : g.isAlerterScoped = h.isAlerterScoped := by
    cases g <;> cases h <;> first | rfl | cases alike
  simp only [key, ← prefixed] at same
  split at same
  · exact unscoped_inj hf hk ((String.append_right_inj _).mp same)
  · exact unscoped_inj hf hk same

theorem key_ne_sentinel {g : KeyGroup} {f : KeyField} (hf : f ∈ g.fields)
    (shared : g.lookup = .hash) (alerter x : String) : g.key alerter f.token x ≠ Bucket.sentinel := by
  intro same
  have bare : g.isAlerterScoped = false := by cases g <;> first | rfl | cases shared
  have sentinel : Bucket.sentinel = "" ++ ("_" ++ "dummy_key_") := rfl
  rw [key, bare, if_neg Bool.false_ne_true, suffix_eq, sentinel] at same
  -- the sentinel starts with the underscore, and no token is empty
  obtain ⟨empty, -⟩ := token_inj (notMem_token hf) (by decide) same
  have all : ∀ f ∈ g.fields, f.token ≠ "" := by cases g <;> decide
  exact all f hf empty

end KeyGroup

theorem Bucket.ofChain_inj {alerter chain other : String}
    (same : Bucket.ofChain alerter chain = Bucket.ofChain alerter other) : chain = other := by
  simpa only [Bucket.ofChain, String.append_right_inj] using same

/-! ## Several alerters -/

/-- Texts of two alerters are equal only if one identifier goes on with a colon where the other
ends. -/
theorem identifier_cases {alerter other rest rest' : String}
    (h : alerter ++ ":" ++ rest = other ++ ":" ++ rest') :
    alerter = other ∨ (∃ more, other = alerter ++ ":" ++ more ∧ rest = more ++ ":" ++ rest') ∨
      ∃ more, alerter = other ++ ":" ++ more ∧ rest' = more ++ ":" ++ rest := by
  have joined (front back : String) :
      (front ++ ":" ++ back).toList = front.toList ++ ':' :: back.toList := by simp
  have text (cs : List Char) : ∃ s : String, s.toList = cs := ⟨String.ofList cs, by simp⟩
  have chars := congrArg String.toList h
  rw [joined, joined] at chars
  rcases append_cons_cases chars with same | ⟨more, longer, cut⟩ | ⟨more, longer, cut⟩
  · exact .inl (String.toList_inj.mp same)
  all_goals
    obtain ⟨more, rfl⟩ := text more
    rw [← joined] at longer cut
  · exact .inr (.inl ⟨more, String.toList_inj.mp longer, String.toList_inj.mp cut⟩)
  · exact .inr (.inr ⟨more, String.toList_inj.mp longer, String.toList_inj.mp cut⟩)

/-- A beginning without a colon ends before the first colon. -/
theorem exists_append_of_colon_notMem {opening rest front back : String}
    (plain : ':' ∉ opening.toList) (h : opening ++ rest = front ++ ":" ++ back) :
    ∃ more, front = opening ++ more := by
  have chars := congrArg String.toList h
  have colon : ":".toList = [':'] := rfl
  simp only [String.toList_append, List.append_assoc, colon, List.singleton_append] at chars
  rcases List.append_eq_append_iff.mp chars with ⟨more, longer, -⟩ | ⟨more, shorter, cut⟩
  · refine ⟨String.ofList more, String.toList_inj.mp ?_⟩
    rw [String.toList_append, String.toList_ofList, longer]
  · cases more with
    | nil =>
      rw [List.append_nil] at shorter
      exact ⟨"", by rw [String.append_empty, String.toList_inj.mp shorter]⟩
    | cons c more =>
      obtain ⟨rfl, -⟩ := List.cons.inj cut
      exact absurd (shorter ▸ List.mem_append_right _ List.mem_cons_self) plain

/-- The token stands for a field of the group. -/
def KeyGroup.HasToken (g : KeyGroup) (token : String) : Prop := ∃ f ∈ g.fields, f.token = token

/-- The texts under which an alerter finds values as they are: its plain keys, where `known` says
which tokens a group has, and its buckets. -/
inductive AlerterText (known : KeyGroup → String → Prop) (alerter : String) : String → Prop
  | key {g : KeyGroup} (plain : g.lookup = .flat) {token : String} (listed : known g token)
      (scope : String) : AlerterText known alerter (g.key alerter token scope)
  | bucket (chain : String) : AlerterText known alerter (Bucket.ofChain alerter chain)

namespace AlerterText

variable {known : KeyGroup → String → Prop} {alerter other text : String}

theorem exists_rest (h : AlerterText known alerter text) :
    ∃ rest, text = alerter ++ ":" ++ rest := by
  cases h with
  | @key g plain token _ scope =>
    cases g with
    | node | blockchain => cases plain
    | nodeMonitor | blockchainMonitor => exact ⟨_, rfl⟩
  | bucket chain =>
    exact ⟨Bucket.blockchain ++ "_" ++ chain, by simp only [Bucket.ofChain, String.append_assoc]⟩

/-- Two alerters have a text in common only if one identifier is the other with a colon and more
behind it. -/
theorem cases_of_shared (own : AlerterText known alerter text)
    (others : AlerterText known other text) : alerter = other ∨
      (∃ more rest, other = alerter ++ ":" ++ more ∧
        text = alerter ++ ":" ++ (more ++ ":" ++ rest)) ∨
      ∃ more rest, alerter = other ++ ":" ++ more ∧
        text = other ++ ":" ++ (more ++ ":" ++ rest) := by
  obtain ⟨rest, rfl⟩ := own.exists_rest
  obtain ⟨rest', same⟩ := others.exists_rest
  rcases identifier_cases same with equal | ⟨more, longer, rfl⟩ | ⟨more, longer, rfl⟩
  · exact .inl equal
  · exact .inr (.inl ⟨more, rest', longer, rfl⟩)
  · exact .inr (.inr ⟨more, rest, longer, same⟩)

/-- What stands in front of the name and behind it in the texts of an alerter, after its identifier
and a colon. -/
def frames : List (String × String) :=
  (KeyGroup.nodeMonitor.fields.map fun f => (f.token ++ "_Node monitor (", ")")) ++
    (KeyGroup.blockchainMonitor.fields.map fun f => (f.token ++ "_Blockchain monitor (", ")")) ++
    [(Bucket.blockchain ++ "_", "")]

/-- With the tokens of the tables, the texts of an alerter are names in one of the frames. -/
theorem iff_framed : AlerterText KeyGroup.HasToken alerter text ↔
    ∃ frame ∈ frames, ∃ name, text = alerter ++ ":" ++ (frame.1 ++ name ++ frame.2) := by
  have monitor (token opening name : String) :
      alerter ++ ":" ++ (token ++ (opening ++ name ++ ")")) =
        alerter ++ ":" ++ (token ++ opening ++ name ++ ")") := by
    simp only [String.append_assoc]
  have bucket (chain : String) : Bucket.ofChain alerter chain =
      alerter ++ ":" ++ (Bucket.blockchain ++ "_" ++ chain ++ "") := by
    simp only [Bucket.ofChain, String.append_assoc, String.append_empty]
  simp only [frames, List.mem_append, List.mem_map, List.mem_singleton]
  constructor
  · intro h
    cases h with
    | @key g plain token listed scope =>
      obtain ⟨f, hf, rfl⟩ := listed
      cases g with
      | node | blockchain => cases plain
      | nodeMonitor => exact ⟨_, .inl (.inl ⟨f, hf, rfl⟩), scope, monitor ..⟩
      | blockchainMonitor => exact ⟨_, .inl (.inr ⟨f, hf, rfl⟩), scope, monitor ..⟩
    | bucket chain => exact ⟨_, .inr rfl, chain, bucket chain⟩
  · rintro ⟨frame, (⟨f, hf, rfl⟩ | ⟨f, hf, rfl⟩) | rfl, name, rfl⟩
    · exact monitor .. ▸ .key (g := .nodeMonitor) rfl ⟨f, hf, rfl⟩ name
    · exact monitor .. ▸ .key (g := .blockchainMonitor) rfl ⟨f, hf, rfl⟩ name
    · exact bucket name ▸ .bucket name

/-- The other identifier goes on like a text of the alerter: with a colon and the beginning of a
frame behind the identifier. -/
def GoesOn (alerter other : String) : Prop :=
  ∃ frame ∈ frames, ∃ more, other = alerter ++ ":" ++ (frame.1 ++ more)

/-- An alerter whose identifier goes on like a text of another has texts that are also the other's. -/
theorem exists_of_goesOn (h : GoesOn alerter other) :
    ∃ text, AlerterText KeyGroup.HasToken alerter text ∧
      AlerterText KeyGroup.HasToken other text := by
  obtain ⟨frame, listed, more, rfl⟩ := h
  -- the same frame twice: around the longer name for the one alerter, around no name for the other
  refine ⟨_, iff_framed.mpr ⟨frame, listed, more ++ ":" ++ frame.1, ?_⟩,
    iff_framed.mpr ⟨frame, listed, "", rfl⟩⟩
  simp only [String.append_assoc, String.append_empty]

/-- The beginning of a frame has no colon, so all of it is in front of the first one. -/
theorem goesOn_of_text {more rest : String}
    (h : AlerterText KeyGroup.HasToken alerter (alerter ++ ":" ++ (more ++ ":" ++ rest))) :
    GoesOn alerter (alerter ++ ":" ++ more) := by
  obtain ⟨frame, listed, name, same⟩ := iff_framed.mp h
  have colonless : ∀ frame ∈ frames, ':' ∉ frame.1.toList := by decide
  have joined : frame.1 ++ name ++ frame.2 = frame.1 ++ (name ++ frame.2) := String.append_assoc ..
  rw [String.append_right_inj, joined] at same
  obtain ⟨tail, rfl⟩ := exists_append_of_colon_notMem (colonless frame listed) same.symm
  exact ⟨frame, listed, tail, rfl⟩

/-- **Two alerters share a text exactly if the identifier of one goes on like a text of the
other**. -/
theorem exists_shared_iff (different : alerter ≠ other) :
    (∃ text, AlerterText KeyGroup.HasToken alerter text ∧
      AlerterText KeyGroup.HasToken other text) ↔ GoesOn alerter other ∨ GoesOn other alerter := by
  constructor
  · rintro ⟨text, own, others⟩
    rcases cases_of_shared own others with equal | ⟨more, rest, rfl, rfl⟩ | ⟨more, rest, rfl, rfl⟩
    · exact absurd equal different
    · exact .inl (goesOn_of_text own)
    · exact .inr (goesOn_of_text others)
  · rintro (goesOn | goesOn)
    · exact exists_of_goesOn goesOn
    · obtain ⟨text, others, own⟩ := exists_of_goesOn goesOn
      exact ⟨text, own, others⟩

/-- A bucket of two alerters. -/
example : Bucket.ofChain "a:hash_bc1_x" "c" = Bucket.ofChain "a" "x:hash_bc1_c" := by decide

end AlerterText

/-- **Keys of a store decode uniquely**: a key of one alerter gives away its group, its token and
the name that it is about, no field of a bucket is the sentinel, and a bucket gives away its chain.
A plain key or bucket of one alerter is one of another only if one identifier is the other with a
colon and more behind it, and with the tokens of the tables exactly if that goes on like a key or a
bucket. -/
theorem store_keys_decode (alerter : String) :
    (∀ (g h : KeyGroup) (token token' x y : String), g.HasToken token → h.HasToken token' →
      g.lookup = h.lookup → g.key alerter token x = h.key alerter token' y →
        g = h ∧ token = token' ∧ x = y) ∧
    (∀ (g : KeyGroup) (token x : String), g.HasToken token → g.lookup = .hash →
      g.key alerter token x ≠ Bucket.sentinel) ∧
    (∀ chain chain', Bucket.ofChain alerter chain = Bucket.ofChain alerter chain' →
      chain = chain') ∧
    ∀ other, alerter ≠ other →
      (∀ text, AlerterText (fun _ _ => True) alerter text →
        AlerterText (fun _ _ => True) other text →
          (∃ more, other = alerter ++ ":" ++ more) ∨ ∃ more, alerter = other ++ ":" ++ more) ∧
      ((∃ text, AlerterText KeyGroup.HasToken alerter text ∧
        AlerterText KeyGroup.HasToken other text) ↔
          AlerterText.GoesOn alerter other ∨ AlerterText.GoesOn other alerter) := by
  refine ⟨?_, ?_, fun _ _ => Bucket.ofChain_inj, fun other different => ⟨?_, ?_⟩⟩
  · rintro g h _ _ x y ⟨f, hf, rfl⟩ ⟨k, hk, rfl⟩ alike same
    exact KeyGroup.key_inj hf hk alike same
  · rintro g _ x ⟨f, hf, rfl⟩ shared
    exact KeyGroup.key_ne_sentinel hf shared alerter x
  · intro text own others
    rcases own.cases_of_shared others with equal | ⟨more, -, longer, -⟩ | ⟨more, -, longer, -⟩
    · exact absurd equal different
    · exact .inl ⟨more, longer⟩
    · exact .inr ⟨more, longer⟩
  · exact AlerterText.exists_shared_iff different

end ChainDashboard
