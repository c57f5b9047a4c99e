import Mathlib.Data.List.Nodup
import LlamaStack.VllmRun

/-!
The tool-call accumulator of the vLLM stream against the spec's description of it. The partial
call of an index is determined by the fragments that named it: the last `id` and `name` given,
and the argument pieces joined in arrival order (`partialCall`). `foldl_addFragment` proves that
the code's `index_to_tool_call`, filled from empty, holds exactly one such call per index, in the
order the indices were first seen; `flush_foldl_addFragment` that a flush yields, in that order,
the `ToolCall` of each index's last `id`, last `name` and decoded arguments (`assembledCall`).
A call that does not decode, or whose fields do not make a `ToolCall` (arguments that are not a
dict, an `id` never given), is not reported as a failed parse: the flush raises at the first
such call in that order, and the stream ends there (`toolCalls_record_raises_on_malformed_call`).
-/

namespace LlamaStack.Vllm

variable {α : Type}

/-- The indices of `fs`, in the order they are first seen. -/
def firstSeen (fs : List Fragment) : List PyKey :=
  fs.foldl (fun seen f => if f.index ∈ seen then seen else seen ++ [f.index]) []

/-- What the fragments of index `k` give for one field, in arrival order. -/
def givenFor (k : PyKey) (field : Fragment → Option α) (fs : List Fragment) : List α :=
  fs.filterMap fun f => if f.index = k then field f else none

/-- The partial call of index `k` as the spec describes it: the last `id` and `name` given for
it, and its argument pieces joined once there is one. -/
def partialCall (fs : List Fragment) (k : PyKey) : ToolCallRecord where
  callId := (givenFor k Fragment.id fs).getLast?
  toolName := (givenFor k Fragment.name fs).getLast?
  argumentsStr := if givenFor k Fragment.arguments fs = [] then none
    else some (String.join (givenFor k Fragment.arguments fs))
  arguments := none

theorem firstSeen_append_singleton (fs : List Fragment) (f : Fragment) :
    firstSeen (fs ++ [f]) =
      if f.index ∈ firstSeen fs then firstSeen fs else firstSeen fs ++ [f.index] := by
  simp only [firstSeen, List.foldl_append, List.foldl_cons, List.foldl_nil]

theorem mem_firstSeen {fs : List Fragment} {k : PyKey} : k ∈ firstSeen fs ↔ ∃ f ∈ fs, f.index = k := by
  induction fs using List.reverseRecOn with
  | nil => simp [firstSeen]
  | append_singleton fs f ih =>
      have hsnoc : (∃ g ∈ fs ++ [f], g.index = k) ↔ (∃ g ∈ fs, g.index = k) ∨ f.index = k := by
        simp [or_and_right, exists_or]
      rw [firstSeen_append_singleton, hsnoc, ← ih]
      split
      · exact ⟨Or.inl, fun h => h.elim id fun he => he ▸ ‹_›⟩
      · simp [eq_comm]

theorem nodup_firstSeen (fs : List Fragment) : (firstSeen fs).Nodup := by
  induction fs using List.reverseRecOn with
  | nil => simp [firstSeen]
  | append_singleton fs f ih =>
      rw [firstSeen_append_singleton]
      split
      · exact ih
      · exact ih.append (List.nodup_singleton _) (List.disjoint_singleton.mpr ‹_›)

theorem givenFor_append_singleton (k : PyKey) (field : Fragment → Option α) (fs : List Fragment)
    (f : Fragment) :
    givenFor k field (fs ++ [f]) =
      givenFor k field fs ++ if f.index = k then (field f).toList else [] := by
  simp only [givenFor, List.filterMap_append, List.filterMap_cons, List.filterMap_nil]
  by_cases hk : f.index = k <;> cases field f <;> simp [hk]

theorem givenFor_of_not_mem {k : PyKey} {fs : List Fragment} (h : k ∉ firstSeen fs)
    (field : Fragment → Option α) : givenFor k field fs = [] := by
  rw [mem_firstSeen] at h
  simp only [givenFor, List.filterMap_eq_nil_iff]
  intro f hf
  rw [if_neg fun he => h ⟨f, hf, he⟩]

theorem partialCall_of_not_mem {k : PyKey} {fs : List Fragment} (h : k ∉ firstSeen fs) :
    partialCall fs k = .empty := by
  simp [partialCall, givenFor_of_not_mem h, ToolCallRecord.empty]

theorem getLast?_toList_append (l : List α) (o : Option α) :
    (l ++ o.toList).getLast? = o.or l.getLast? := by
  cases o <;> simp [List.getLast?_append]

/-- A fragment changes the spec's partial call of its own index as `Fragment.apply` does, and
no other. -/
theorem partialCall_append_singleton (fs : List Fragment) (f : Fragment) (k : PyKey) :
    partialCall (fs ++ [f]) k = if f.index = k then f.apply (partialCall fs k) else partialCall fs k := by
  by_cases hk : f.index = k
  · have hargs := givenFor_append_singleton k Fragment.arguments fs f
    rw [if_pos hk] at hargs ⊢
    simp only [partialCall, Fragment.apply, givenFor_append_singleton, if_pos hk,
      getLast?_toList_append, hargs]
    cases f.arguments with
    | none => simp [extendArguments]
    | some piece =>
        by_cases hnil : givenFor k Fragment.arguments fs = [] <;>
          simp [extendArguments, hnil, String.join]
  · simp [partialCall, givenFor_append_singleton, hk]

theorem lookup_pairs (ks : List PyKey) (g : PyKey → ToolCallRecord) (k : PyKey) :
    (ks.map fun k => (k, g k)).lookup k = if k ∈ ks then some (g k) else none := by
  induction ks with
  | nil => simp
  | cons k' ks ih =>
      by_cases h : k = k'
      · subst h; simp [List.lookup_cons]
      · have hne : (k == k') = false := by simpa using h
        simp [List.lookup_cons, ih, hne, h]

theorem setCall_pairs {ks : List PyKey} (hks : ks.Nodup) (g : PyKey → ToolCallRecord) (k : PyKey)
    (r : ToolCallRecord) :
    setCall k r (ks.map fun k => (k, g k)) =
      (if k ∈ ks then ks else ks ++ [k]).map fun k' => (k', if k' = k then r else g k') := by
  induction ks with
  | nil => simp [setCall]
  | cons k' ks ih =>
      obtain ⟨hk', hks⟩ := List.nodup_cons.mp hks
      by_cases h : k' = k
      · subst h
        simp only [List.map_cons, setCall, if_true, List.mem_cons, true_or]
        congr 1
        exact List.map_congr_left fun x hx => by rw [if_neg fun hxk => hk' (by subst hxk; exact hx)]
      · simp only [List.map_cons, setCall, if_neg h, ih hks, List.mem_cons, Ne.symm h, false_or]
        split <;> simp [h]

/-- The buffer filled from empty holds the spec's partial call of every index seen, in the
order of first sight. -/
theorem foldl_addFragment (fs : List Fragment) :
    fs.foldl addFragment [] = (firstSeen fs).map fun k => (k, partialCall fs k) := by
  induction fs using List.reverseRecOn with
  | nil => rfl
  | append_singleton fs f ih =>
      have hget : getCall ((firstSeen fs).map fun k => (k, partialCall fs k)) f.index =
          partialCall fs f.index := by
        rw [getCall, lookup_pairs]
        split
        · rfl
        · rw [Option.getD_none, partialCall_of_not_mem ‹_›]
      rw [List.foldl_append, List.foldl_cons, List.foldl_nil, ih, addFragment, hget,
        setCall_pairs (nodup_firstSeen fs), firstSeen_append_singleton]
      congr 1
      funext k
      rw [partialCall_append_singleton]
      by_cases hk : f.index = k
      · subst hk; simp
      · simp [hk, Ne.symm hk]

variable (loads : String → Option Json)

/-- A flush of a buffer on whose every record the loop body passes yields one `succeeded` event
per record, in order, each with the record's call. -/
theorem flush_of_ok (stop : Option StopReason) (m : ToolCallMap) (g : PyKey × ToolCallRecord → ToolCall)
    (h : ∀ p ∈ m, ∃ done, flushRecord loads p.2 = .ok (done, g p)) :
    ∃ m', flush loads stop m = (m.map fun p => progress (.toolCall (g p) "succeeded") stop, .ok m') := by
  induction m with
  | nil => exact ⟨[], rfl⟩
  | cons p m ih =>
      obtain ⟨done, hp⟩ := h p (List.mem_cons_self _ _)
      obtain ⟨m', hm'⟩ := ih fun q hq => h q (List.mem_cons_of_mem _ hq)
      exact ⟨(p.1, done) :: m', by rw [flush, hp]; simp only [hm']; rfl⟩

/-- A flush that reaches a record the loop body fails on yields one `succeeded` event per record
before it and raises the body's error. -/
theorem flush_of_error (stop : Option StopReason) (m₁ : ToolCallMap) (g : PyKey × ToolCallRecord → ToolCall)
    (h₁ : ∀ p ∈ m₁, ∃ done, flushRecord loads p.2 = .ok (done, g p)) {p : PyKey × ToolCallRecord}
    {e : PyError} (hp : flushRecord loads p.2 = .error e) (m₂ : ToolCallMap) :
    flush loads stop (m₁ ++ p :: m₂) =
      (m₁.map fun q => progress (.toolCall (g q) "succeeded") stop, .error e) := by
  induction m₁ with
  | nil => rw [List.nil_append, flush, hp]; rfl
  | cons q m₁ ih =>
      obtain ⟨done, hq⟩ := h₁ q (List.mem_cons_self _ _)
      rw [List.cons_append, flush, hq]
      simp only [ih fun q' hq' => h₁ q' (List.mem_cons_of_mem _ hq')]
      rfl

theorem flushRecord_error {r : ToolCallRecord} {e : PyError} (h : flushRecord loads r = .error e) :
    e = .keyError "arguments_str" ∨ e = .jsonDecodeError ∨ e = .validationError := by
  unfold flushRecord at h
  split at h
  · cases h; exact .inl rfl
  · split at h
    · cases h; exact .inr (.inl rfl)
    · unfold ToolCallRecord.toToolCall ToolCall.validate at h
      split at h <;> cases h
      exact .inr (.inr rfl)

theorem ofFields?_eq_some {callId toolName arguments : Option Json} {t : ToolCall} :
    ToolCall.ofFields? callId toolName arguments = some t ↔
      callId = some (.str t.callId) ∧ toolName = some (.str t.toolName) ∧
        arguments = some (.obj t.arguments) := by
  constructor
  · intro h
    unfold ToolCall.ofFields? at h
    split at h
    · cases h; exact ⟨rfl, rfl, rfl⟩
    · cases h
  · rintro ⟨rfl, rfl, rfl⟩
    rfl

theorem ofFields?_none {callId toolName : Option Json} : ToolCall.ofFields? callId toolName none = none :=
  Option.eq_none_iff_forall_not_mem.mpr fun _ h => by cases (ofFields?_eq_some.mp h).2.2

def fragmentsOf (cs : List Chunk) : List Fragment := cs.flatMap fun c => c.delta.fragments

/-- The call the spec assembles for index `k`: the `ToolCall` of the last `id` and the last
`name` given for it and of its argument pieces joined in arrival order and decoded, if these
make one. -/
def assembledCall (fs : List Fragment) (k : PyKey) : Option ToolCall :=
  ToolCall.ofFields? (givenFor k Fragment.id fs).getLast? (givenFor k Fragment.name fs).getLast?
    (loads (String.join (givenFor k Fragment.arguments fs)))

/-- The calls a flush finalizes, as the spec describes them, in first-seen order. -/
def assembledCalls (fs : List Fragment) : List ToolCall :=
  (firstSeen fs).filterMap (assembledCall loads fs)

theorem partialCall_argumentsStr_of_decodes {fs : List Fragment} (hempty : loads "" = none)
    {k : PyKey} {v : Json} (hv : loads (String.join (givenFor k Fragment.arguments fs)) = some v) :
    (partialCall fs k).argumentsStr = some (String.join (givenFor k Fragment.arguments fs)) := by
  have hne : givenFor k Fragment.arguments fs ≠ [] := by
    intro hnil
    rw [hnil, String.join, List.foldl_nil, hempty] at hv
    cases hv
  simp [partialCall, hne]

theorem flushRecord_partialCall_of_decodes {fs : List Fragment} (hempty : loads "" = none)
    {k : PyKey} {v : Json} (hv : loads (String.join (givenFor k Fragment.arguments fs)) = some v) :
    flushRecord loads (partialCall fs k) =
      (ToolCall.validate (givenFor k Fragment.id fs).getLast? (givenFor k Fragment.name fs).getLast?
        (some v)).map ((partialCall fs k).finalize v, ·) := by
  rw [flushRecord, partialCall_argumentsStr_of_decodes loads hempty hv]
  simp only [hv]
  rfl

/-- The loop body passes on the partial call of an index with the spec's call, where there is one. -/
theorem flushRecord_partialCall_of_some {fs : List Fragment} (hempty : loads "" = none) {k : PyKey}
    {t : ToolCall} (h : assembledCall loads fs k = some t) :
    ∃ done, flushRecord loads (partialCall fs k) = .ok (done, t) := by
  have hv := (ofFields?_eq_some.mp h).2.2
  rw [assembledCall, hv] at h
  exact ⟨_, by rw [flushRecord_partialCall_of_decodes loads hempty hv, ToolCall.validate, h]; rfl⟩

/-- The loop body fails on the partial call of an index without the spec's call. -/
theorem flushRecord_partialCall_of_none {fs : List Fragment} (hempty : loads "" = none) {k : PyKey}
    (h : assembledCall loads fs k = none) : ∃ e, flushRecord loads (partialCall fs k) = .error e := by
  cases hv : loads (String.join (givenFor k Fragment.arguments fs)) with
  | none =>
      unfold flushRecord
      split
      · exact ⟨_, rfl⟩
      · rename_i s hs
        simp only [partialCall] at hs
        split at hs <;> cases hs
        rw [hv]
        exact ⟨_, rfl⟩
  | some v =>
      rw [assembledCall, hv] at h
      exact ⟨_, by rw [flushRecord_partialCall_of_decodes loads hempty hv, ToolCall.validate, h]; rfl⟩

/-- Where the indices `ks` all have the spec's call, the loop body passes on each of their partial
calls with it. -/
theorem flushRecord_partialCalls (hempty : loads "" = none) {fs : List Fragment} {ks : List PyKey}
    (h : ∀ k ∈ ks, ∃ t, assembledCall loads fs k = some t) :
    ∀ p ∈ ks.map (fun k => (k, partialCall fs k)),
      ∃ done, flushRecord loads p.2 = .ok (done, (assembledCall loads fs p.1).getD ⟨"", "", []⟩) := by
  intro p hp
  obtain ⟨k, hk, rfl⟩ := List.mem_map.mp hp
  obtain ⟨t, ht⟩ := h k hk
  simpa [ht] using flushRecord_partialCall_of_some loads hempty ht

theorem filterMap_eq_map_getD {β γ : Type} {f : β → Option γ} {l : List β} (d : γ)
    (h : ∀ x ∈ l, ∃ y, f x = some y) : l.filterMap f = l.map fun x => (f x).getD d := by
  rw [← List.filterMap_eq_map]
  exact List.filterMap_congr fun x hx => by obtain ⟨y, hy⟩ := h x hx; simp [hy]

/-- The flush of the buffer filled from empty by `fs`, where every index seen has the spec's
call, yields the spec's assembled calls. -/
theorem flush_foldl_addFragment (stop : Option StopReason) {fs : List Fragment}
    (hempty : loads "" = none) (hvalid : ∀ k ∈ firstSeen fs, ∃ t, assembledCall loads fs k = some t) :
    ∃ m, flush loads stop (fs.foldl addFragment []) =
      ((assembledCalls loads fs).map fun t => progress (.toolCall t "succeeded") stop, .ok m) := by
  obtain ⟨m, hm⟩ := flush_of_ok loads stop _ _ (flushRecord_partialCalls loads hempty hvalid)
  refine ⟨m, ?_⟩
  rw [foldl_addFragment, hm, assembledCalls, filterMap_eq_map_getD ⟨"", "", []⟩ hvalid, List.map_map,
    List.map_map]
  rfl

theorem convertFinishReason_toolCalls : convertFinishReason (.str "tool_calls") = some .outOfTokens :=
  rfl

theorem step_after_chunks (cs : List Chunk) {chunkStr : String} {c : Chunk}
    (hc : WireChunk loads chunkStr c) :
    step loads (cs.foldl StreamState.afterChunk StreamState.init) chunkStr =
      endPass loads c.finishReason c.events ((fragmentsOf (cs ++ [c])).foldl addFragment []) := by
  rw [step_of_wireChunk loads hc, stepChunk]
  simp [afterChunks_indexToToolCall, fragmentsOf, List.foldl_append, StreamState.init, Chunk.events]

/-- The pass over a well-formed record finishing with `tool_calls`, from the locals that
records without a flush leave, yields the record's text, then the assembled calls. -/
theorem step_toolCalls_record (cs : List Chunk) {chunkStr : String} {c : Chunk}
    (hc : WireChunk loads chunkStr c) (hfinish : c.finishReason = .str "tool_calls")
    (hempty : loads "" = none)
    (hvalid : ∀ k ∈ firstSeen (fragmentsOf (cs ++ [c])),
      ∃ t, assembledCall loads (fragmentsOf (cs ++ [c])) k = some t) :
    ∃ m, step loads (cs.foldl StreamState.afterChunk StreamState.init) chunkStr =
      (c.events ++ (assembledCalls loads (fragmentsOf (cs ++ [c]))).map
        (fun t => progress (.toolCall t "succeeded") (some .outOfTokens)),
        .next ⟨m, some (some .outOfTokens)⟩) := by
  obtain ⟨m, hflush⟩ := flush_foldl_addFragment loads (some .outOfTokens) hempty hvalid
  refine ⟨m, ?_⟩
  rw [step_after_chunks loads cs hc, hfinish, endPass, convertFinishReason_toolCalls, hflush]
  rfl

/-- At the one record that finishes with `tool_calls`, where every index seen so far has a last
`id` and a last `name` that are strings and argument pieces that, joined, decode to a dict, the
stream yields, after that record's own text event, one `succeeded` event per index, in
first-seen order, each with the `ToolCall` of these. -/
theorem toolCalls_record_emits_assembled_calls {pre : List String} {cs : List Chunk}
    (hpre : List.Forall₂ (WireChunk loads) pre cs)
    (hno : ∀ c ∈ cs, c.finishReason.isStr "tool_calls" = false)
    {chunkStr : String} {c : Chunk} (hc : WireChunk loads chunkStr c)
    (hfinish : c.finishReason = .str "tool_calls") (hempty : loads "" = none)
    (hvalid : ∀ k ∈ firstSeen (fragmentsOf (cs ++ [c])),
      ∃ t, assembledCall loads (fragmentsOf (cs ++ [c])) k = some t)
    (post : List String) :
    ∃ s, convertStreamingResults loads (pre ++ chunkStr :: post) =
      (startEvent :: ((cs ++ [c]).flatMap Chunk.events ++
          (assembledCalls loads (fragmentsOf (cs ++ [c]))).map
            (fun t => progress (.toolCall t "succeeded") (some .outOfTokens)) ++
          (drive (step loads) streamEnded s post).1),
        (drive (step loads) streamEnded s post).2) := by
  obtain ⟨m, hstep⟩ := step_toolCalls_record loads cs hc hfinish hempty hvalid
  refine ⟨⟨m, some (some .outOfTokens)⟩, ?_⟩
  rw [convertStreamingResults, drive_wireChunks loads hpre hno, drive_cons_next hstep]
  simp

/-- A tool-call fragment as vLLM's server writes it. -/
def fragmentJson (index : Int) (id name arguments : String) : Json :=
  .obj [("index", .num index), ("id", .str id),
    ("function", .obj [("name", .str name), ("arguments", .str arguments)])]

def toolCallsRecordJson (tcs : List Json) (finishReason : Json) : Json :=
  .obj [("choices", .arr [.obj [("index", .num 0), ("delta", .obj [("tool_calls", .arr tcs)]),
    ("finish_reason", finishReason)]])]

/-- One record with the fragments of two calls, index 1 before index 0. -/
def twoCallsText : String :=
  "\x7b\"choices\": [\x7b\"index\": 0, \"delta\": \x7b\"tool_calls\": [\x7b\"index\": 1, \"id\": \"call_b\", \"function\": \x7b\"name\": \"get_time\", \"arguments\": \"\x7b\x7d\"\x7d\x7d, \x7b\"index\": 0, \"id\": \"call_a\", \"function\": \x7b\"name\": \"get_weather\", \"arguments\": \"\x7b\x7d\"\x7d\x7d]\x7d, \"finish_reason\": \"tool_calls\"\x7d]\x7d"

def firstCallText : String :=
  "\x7b\"choices\": [\x7b\"index\": 0, \"delta\": \x7b\"tool_calls\": [\x7b\"index\": 0, \"id\": \"call_a\", \"function\": \x7b\"name\": \"get_weather\", \"arguments\": \"\x7b\x7d\"\x7d\x7d]\x7d, \"finish_reason\": \"tool_calls\"\x7d]\x7d"

def secondCallText : String :=
  "\x7b\"choices\": [\x7b\"index\": 0, \"delta\": \x7b\"tool_calls\": [\x7b\"index\": 1, \"id\": \"call_b\", \"function\": \x7b\"name\": \"get_time\", \"arguments\": \"\x7b\x7d\"\x7d\x7d]\x7d, \"finish_reason\": \"tool_calls\"\x7d]\x7d"

/-- `json.loads` on the texts above and on the arguments `\x7b\x7d`. -/
def sampleLoads (s : String) : Option Json :=
  if s = twoCallsText then
    some (toolCallsRecordJson [fragmentJson 1 "call_b" "get_time" "\x7b\x7d",
      fragmentJson 0 "call_a" "get_weather" "\x7b\x7d"] (.str "tool_calls"))
  else if s = firstCallText then
    some (toolCallsRecordJson [fragmentJson 0 "call_a" "get_weather" "\x7b\x7d"] (.str "tool_calls"))
  else if s = secondCallText then
    some (toolCallsRecordJson [fragmentJson 1 "call_b" "get_time" "\x7b\x7d"] (.str "tool_calls"))
  else if s = "\x7b\x7d" then some (.obj [])
  else none

def twoCallsChunk : Chunk :=
  ⟨.str "tool_calls", .toolCalls [⟨.int 1, some (.str "call_b"), some (.str "get_time"), some "\x7b\x7d"⟩,
    ⟨.int 0, some (.str "call_a"), some (.str "get_weather"), some "\x7b\x7d"⟩]⟩

set_option maxRecDepth 10000 in
theorem twoCallsChunk_wireChunk :
    WireChunk sampleLoads ("data: " ++ twoCallsText ++ "\n\n") twoCallsChunk :=
  ⟨twoCallsText, _, rfl, fun h => absurd (congrArg (·.data.head?) h) (by decide), if_pos rfl,
    _, _, _, rfl, rfl, rfl, rfl, rfl, rfl, _, _, rfl, rfl,
    .cons ⟨_, _, rfl, rfl, rfl, rfl, _, rfl, rfl, rfl⟩ (.cons ⟨_, _, rfl, rfl, rfl, rfl, _, rfl, rfl, rfl⟩ .nil)⟩

theorem twoCallsChunk_firstSeen : firstSeen (fragmentsOf ([] ++ [twoCallsChunk])) = [.int 1, .int 0] :=
  rfl

set_option maxRecDepth 10000 in
theorem toolCalls_record_emits_assembled_calls_two_calls :
    ∃ s, convertStreamingResults sampleLoads ([] ++ ("data: " ++ twoCallsText ++ "\n\n") :: [doneChunk]) =
      (startEvent :: (([] ++ [twoCallsChunk]).flatMap Chunk.events ++
          (assembledCalls sampleLoads (fragmentsOf ([] ++ [twoCallsChunk]))).map
            (fun t => progress (.toolCall t "succeeded") (some .outOfTokens)) ++
          (drive (step sampleLoads) streamEnded s [doneChunk]).1),
        (drive (step sampleLoads) streamEnded s [doneChunk]).2) :=
  toolCalls_record_emits_assembled_calls sampleLoads .nil (fun _ h => nomatch h)
    twoCallsChunk_wireChunk rfl rfl
    (by
      intro k hk
      rw [twoCallsChunk_firstSeen] at hk
      rcases List.mem_cons.mp hk with rfl | hk
      · exact ⟨_, rfl⟩
      · rw [List.mem_singleton.mp hk]; exact ⟨_, rfl⟩)
    [doneChunk]

/-- One record with the one fragment of call `call_a`, whose arguments are the list `[1]`. -/
def listArgumentsText : String :=
  "\x7b\"choices\": [\x7b\"index\": 0, \"delta\": \x7b\"tool_calls\": [\x7b\"index\": 0, " ++
    "\"id\": \"call_a\", \"function\": \x7b\"name\": \"get_weather\", \"arguments\": \"[1]\"\x7d\x7d]\x7d, " ++
    "\"finish_reason\": \"tool_calls\"\x7d]\x7d"

/-- `json.loads` on that record and on its arguments. -/
def listArgumentsLoads (s : String) : Option Json :=
  if s = listArgumentsText then
    some (toolCallsRecordJson [fragmentJson 0 "call_a" "get_weather" "[1]"] (.str "tool_calls"))
  else if s = "[1]" then some (.arr [.num 1])
  else none

def listArgumentsChunk : Chunk :=
  ⟨.str "tool_calls", .toolCalls [⟨.int 0, some (.str "call_a"), some (.str "get_weather"), some "[1]"⟩]⟩

set_option maxRecDepth 10000 in
/-- Arguments that are valid JSON but not a dict: the one record finishing with `tool_calls` is
well formed and its only index's arguments decode, yet the stream raises `ValidationError` right
after the `start` event instead of yielding a `succeeded` delta. -/
theorem list_arguments_raise_validationError :
    WireChunk listArgumentsLoads ("data: " ++ listArgumentsText ++ "\n\n") listArgumentsChunk ∧
      listArgumentsLoads "" = none ∧
      listArgumentsLoads (String.join
        (givenFor (.int 0) Fragment.arguments (fragmentsOf [listArgumentsChunk]))) =
        some (.arr [.num 1]) ∧
      convertStreamingResults listArgumentsLoads
          ["data: " ++ listArgumentsText ++ "\n\n", doneChunk] =
        ([startEvent], .error .validationError) :=
  ⟨⟨listArgumentsText, _, rfl, fun h => absurd (congrArg (·.data.head?) h) (by decide), if_pos rfl,
      _, _, _, rfl, rfl, rfl, rfl, rfl, rfl, _, _, rfl, rfl,
      .cons ⟨_, _, rfl, rfl, rfl, rfl, _, rfl, rfl, rfl⟩ .nil⟩,
    rfl, rfl, rfl⟩

set_option maxRecDepth 10000 in
/-- The buffer outlives its flush: at a second `tool_calls` record the flush reaches the first
call again, whose `arguments_str` the first flush deleted, and the stream raises `KeyError`
instead of reaching `[DONE]`. -/
theorem second_flush_raises_keyError :
    convertStreamingResults sampleLoads
        ["data: " ++ firstCallText ++ "\n\n", "data: " ++ secondCallText ++ "\n\n", doneChunk] =
      ([startEvent, progress (.toolCall ⟨"call_a", "get_weather", []⟩ "succeeded") (some .outOfTokens)],
        .error (.keyError "arguments_str")) := rfl

/-! ### A call the flush fails on -/

/-- The pass over a well-formed record finishing with `tool_calls`, where index `k` has no
spec's call and the indices first seen before it have one: the record's text, the calls of the
indices before `k`, then `KeyError`, `JSONDecodeError` or `ValidationError`. -/
theorem step_toolCalls_record_raises (cs : List Chunk) {chunkStr : String} {c : Chunk}
    (hc : WireChunk loads chunkStr c) (hfinish : c.finishReason = .str "tool_calls")
    (hempty : loads "" = none) {ks : List PyKey} {k : PyKey} {ks' : List PyKey}
    (hsplit : firstSeen (fragmentsOf (cs ++ [c])) = ks ++ k :: ks')
    (hgood : ∀ k' ∈ ks, ∃ t, assembledCall loads (fragmentsOf (cs ++ [c])) k' = some t)
    (hbad : assembledCall loads (fragmentsOf (cs ++ [c])) k = none) :
    ∃ e, (e = .keyError "arguments_str" ∨ e = .jsonDecodeError ∨ e = .validationError) ∧
      step loads (cs.foldl StreamState.afterChunk StreamState.init) chunkStr =
        (c.events ++ (ks.filterMap (assembledCall loads (fragmentsOf (cs ++ [c])))).map
          (fun t => progress (.toolCall t "succeeded") (some .outOfTokens)), .raise e) := by
  obtain ⟨e, he⟩ := flushRecord_partialCall_of_none loads hempty hbad
  refine ⟨e, flushRecord_error loads he, ?_⟩
  rw [step_after_chunks loads cs hc, hfinish, endPass, convertFinishReason_toolCalls,
    foldl_addFragment, hsplit, List.map_append, List.map_cons,
    flush_of_error loads _ _ _ (flushRecord_partialCalls loads hempty hgood) he,
    filterMap_eq_map_getD ⟨"", "", []⟩ hgood, List.map_map, List.map_map]
  rfl

/-- At the one record that finishes with `tool_calls`, where the argument pieces of some index
seen so far, joined, do not decode (an index with none included, as `json.loads` refuses the
empty string), the stream yields the record's text and the calls of the indices first seen
before the first index the flush fails on, then raises `KeyError`, `JSONDecodeError` or
`ValidationError`: no `failed` delta and no `complete` event. -/
theorem toolCalls_record_raises_on_malformed_call {pre : List String} {cs : List Chunk}
    (hpre : List.Forall₂ (WireChunk loads) pre cs)
    (hno : ∀ c ∈ cs, c.finishReason.isStr "tool_calls" = false)
    {chunkStr : String} {c : Chunk} (hc : WireChunk loads chunkStr c)
    (hfinish : c.finishReason = .str "tool_calls") (hempty : loads "" = none)
    (hmalformed : ∃ k ∈ firstSeen (fragmentsOf (cs ++ [c])),
      loads (String.join (givenFor k Fragment.arguments (fragmentsOf (cs ++ [c])))) = none)
    (post : List String) :
    ∃ ks k ks' e, firstSeen (fragmentsOf (cs ++ [c])) = ks ++ k :: ks' ∧
      (∀ k' ∈ ks, ∃ t, assembledCall loads (fragmentsOf (cs ++ [c])) k' = some t) ∧
      assembledCall loads (fragmentsOf (cs ++ [c])) k = none ∧
      (e = .keyError "arguments_str" ∨ e = .jsonDecodeError ∨ e = .validationError) ∧
      convertStreamingResults loads (pre ++ chunkStr :: post) =
        (startEvent :: ((cs ++ [c]).flatMap Chunk.events ++
          (ks.filterMap (assembledCall loads (fragmentsOf (cs ++ [c])))).map
            (fun t => progress (.toolCall t "succeeded") (some .outOfTokens))), .error e) := by
  obtain ⟨k₀, hk₀, hbad₀⟩ := hmalformed
  have hnone₀ : assembledCall loads (fragmentsOf (cs ++ [c])) k₀ = none := by
    rw [assembledCall, hbad₀, ofFields?_none]
  obtain ⟨k, hfind⟩ := Option.isSome_iff_exists.mp (List.find?_isSome
    (p := fun k => (assembledCall loads (fragmentsOf (cs ++ [c])) k).isNone)
    |>.mpr ⟨k₀, hk₀, Option.isNone_iff_eq_none.mpr hnone₀⟩)
  obtain ⟨hbad, ks, ks', hsplit, hgood⟩ := List.find?_eq_some.mp hfind
  have hgood' : ∀ k' ∈ ks, ∃ t, assembledCall loads (fragmentsOf (cs ++ [c])) k' = some t :=
    fun k' hk' => Option.isSome_iff_exists.mp (by simpa using hgood k' hk')
  obtain ⟨e, he, hstep⟩ := step_toolCalls_record_raises loads cs hc hfinish hempty hsplit hgood'
    (Option.isNone_iff_eq_none.mp hbad)
  refine ⟨ks, k, ks', e, hsplit, hgood', Option.isNone_iff_eq_none.mp hbad, he, ?_⟩
  rw [convertStreamingResults, drive_wireChunks loads hpre hno, drive_cons_raise hstep]
  simp

/-- One record with the one fragment of call `call_a`, whose arguments are a lone opening brace. -/
def malformedCallText : String :=
  "\x7b\"choices\": [\x7b\"index\": 0, \"delta\": \x7b\"tool_calls\": [\x7b\"index\": 0, " ++
    "\"id\": \"call_a\", \"function\": \x7b\"name\": \"get_weather\", \"arguments\": \"\x7b\"\x7d\x7d]\x7d, " ++
    "\"finish_reason\": \"tool_calls\"\x7d]\x7d"

/-- `json.loads` on that record; it refuses the arguments. -/
def malformedLoads (s : String) : Option Json :=
  if s = malformedCallText then
    some (toolCallsRecordJson [fragmentJson 0 "call_a" "get_weather" "\x7b"] (.str "tool_calls"))
  else none

def malformedCallChunk : Chunk :=
  ⟨.str "tool_calls", .toolCalls [⟨.int 0, some (.str "call_a"), some (.str "get_weather"), some "\x7b"⟩]⟩

set_option maxRecDepth 10000 in
theorem malformedCallChunk_wireChunk :
    WireChunk malformedLoads ("data: " ++ malformedCallText ++ "\n\n") malformedCallChunk :=
  ⟨malformedCallText, _, rfl, fun h => absurd (congrArg (·.data.head?) h) (by decide), if_pos rfl,
    _, _, _, rfl, rfl, rfl, rfl, rfl, rfl, _, _, rfl, rfl,
    .cons ⟨_, _, rfl, rfl, rfl, rfl, _, rfl, rfl, rfl⟩ .nil⟩

set_option maxRecDepth 10000 in
/-- The stream of that record and `[DONE]` raises `JSONDecodeError` after the `start` event. -/
theorem malformed_call_raises_jsonDecodeError :
    convertStreamingResults malformedLoads
        ([] ++ ("data: " ++ malformedCallText ++ "\n\n") :: [doneChunk]) =
      ([startEvent], .error .jsonDecodeError) ∧
    ∃ ks k ks' e, firstSeen (fragmentsOf ([] ++ [malformedCallChunk])) = ks ++ k :: ks' ∧
      (∀ k' ∈ ks, ∃ t, assembledCall malformedLoads (fragmentsOf ([] ++ [malformedCallChunk])) k' =
        some t) ∧
      assembledCall malformedLoads (fragmentsOf ([] ++ [malformedCallChunk])) k = none ∧
      (e = .keyError "arguments_str" ∨ e = .jsonDecodeError ∨ e = .validationError) ∧
      convertStreamingResults malformedLoads
          ([] ++ ("data: " ++ malformedCallText ++ "\n\n") :: [doneChunk]) =
        (startEvent :: (([] ++ [malformedCallChunk]).flatMap Chunk.events ++
          (ks.filterMap (assembledCall malformedLoads (fragmentsOf ([] ++ [malformedCallChunk])))).map
            (fun t => progress (.toolCall t "succeeded") (some .outOfTokens))), .error e) :=
  ⟨rfl, toolCalls_record_raises_on_malformed_call malformedLoads .nil (fun _ h => nomatch h)
    malformedCallChunk_wireChunk rfl rfl ⟨.int 0, List.mem_singleton_self _, rfl⟩ [doneChunk]⟩

end LlamaStack.Vllm
