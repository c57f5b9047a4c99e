import LlamaStack.PyValue

/-!
`Telemetry.query_spans` (telemetry.py 195-235), which `save_spans_to_dataset` (237-254) calls to
append its rows to a dataset, the two methods of the telemetry protocol with a body. It walks the
span tree of every trace `query_traces` returns with the nested `extract_spans`: a span gives a row
when its `attributes` map is truthy and holds every attribute asked for with a value that is not
`None`, and its children are walked whether it gives one or not. So the rows are those of the tree's
spans in preorder that pass the test (`querySpans_preorder_rows`), and a span whose map is empty or
`None` gives none, even when no attribute is asked for (`spanMatches_iff`). A row is the dict of
`trace_id` (the root span's id), `span_id` and `step_name`, then one key per attribute asked for, so
an attribute named like one of the three fields replaces it (`spanRow_lookup`). The attributes come
from `Span.set_attribute` (46-49): a span annotated with it passes the test exactly when every
attribute asked for ends with a value other than `None`, and its row gives the last value set
(`setAttributes_exported`).
-/

namespace LlamaStack.Telemetry

structure Trace where
  traceId : String
  rootSpanId : String

structure QueryCondition where
  key : String
  op : String
  value : Json

/-- A `SpanWithChildren` with the fields `extract_spans` reads; `attributes` is the items of the
dict, or `None`. -/
structure SpanWithChildren where
  spanId : String
  name : String
  attributes : Option (List (String × Json))
  children : List SpanWithChildren

/-- The protocol methods `query_spans` awaits, as functions of the arguments it passes them:
`query_traces` gets the filters and its defaults, `get_span_tree` a root span id, the attributes
to return and the maximal depth. -/
structure Provider where
  queryTraces : List QueryCondition → List Trace
  getSpanTree : String → List String → Option Nat → SpanWithChildren

/-- `attr in span.attributes and span.attributes[attr] is not None`. -/
def hasValue (items : List (String × Json)) (attr : String) : Bool :=
  match items.lookup attr with
  | none | some .null => false
  | some _ => true

/-- The test of `extract_spans` (telemetry.py 213-216): `span.attributes` is truthy and holds
every attribute asked for with a value that is not `None`. -/
def spanMatches (attributesToReturn : List String) : Option (List (String × Json)) → Bool
  | none | some [] => false
  | some items => attributesToReturn.all (hasValue items)

/-- The row of a span that passes the test (telemetry.py 217-225). -/
def spanRow (attributesToReturn : List String) (rootSpanId spanId name : String)
    (items : List (String × Json)) : List (String × String) :=
  attributesToReturn.foldl (fun row attr => dictSet row attr ((items.lookup attr).getD .null).pyStr)
    [("trace_id", rootSpanId), ("span_id", spanId), ("step_name", name)]

mutual
/-- `extract_spans` (telemetry.py 212-229), in the pass over the trace whose root span id is
`rootSpanId`. -/
def extractSpans (attributesToReturn : List String) (rootSpanId : String) :
    SpanWithChildren → List (List (String × String))
  | ⟨spanId, name, attributes, children⟩ =>
      (if spanMatches attributesToReturn attributes then
        [spanRow attributesToReturn rootSpanId spanId name (attributes.getD [])] else []) ++
      extractChildren attributesToReturn rootSpanId children
/-- `for child in span.children: rows.extend(extract_spans(child))`. -/
def extractChildren (attributesToReturn : List String) (rootSpanId : String) :
    List SpanWithChildren → List (List (String × String))
  | [] => []
  | child :: children =>
      extractSpans attributesToReturn rootSpanId child ++
        extractChildren attributesToReturn rootSpanId children
end

def querySpans (provider : Provider) (attributeFilters : List QueryCondition)
    (attributesToReturn : List String) (maxDepth : Option Nat) : List (List (String × String)) :=
  (provider.queryTraces attributeFilters).flatMap fun trace =>
    extractSpans attributesToReturn trace.rootSpanId
      (provider.getSpanTree trace.rootSpanId attributesToReturn maxDepth)

/-! ### The test and the row -/

theorem hasValue_iff {items : List (String × Json)} {attr : String} :
    hasValue items attr = true ↔ ∃ v, items.lookup attr = some v ∧ v ≠ .null := by
  unfold hasValue
  cases items.lookup attr with
  | none => simp
  | some v => cases v <;> simp

/-- The test holds exactly of a map that is there, is not empty, and gives every attribute asked
for a value other than `None`: with no attribute asked for, of every non-empty map. -/
theorem spanMatches_iff {attributesToReturn : List String}
    {attributes : Option (List (String × Json))} :
    spanMatches attributesToReturn attributes = true ↔
      ∃ items, attributes = some items ∧ items ≠ [] ∧
        ∀ attr ∈ attributesToReturn, ∃ v, items.lookup attr = some v ∧ v ≠ .null := by
  rcases attributes with _ | _ | ⟨item, items⟩ <;>
    simp [spanMatches, List.all_eq_true, hasValue_iff]

theorem lookup_foldl_dictSet {α : Type} (f : String → α) (attrs : List String)
    (d : List (String × α)) (key : String) :
    (attrs.foldl (fun row attr => dictSet row attr (f attr)) d).lookup key =
      if key ∈ attrs then some (f key) else d.lookup key := by
  induction attrs generalizing d with
  | nil => simp
  | cons attr attrs ih =>
      rw [List.foldl_cons, ih, lookup_dictSet]
      by_cases hk : key = attr
      · subst hk
        simp
      · simp [hk]

/-- A row gives the `str` of the value of each attribute asked for, and `trace_id`, `span_id`
and `step_name` where no attribute asked for has their name. -/
theorem spanRow_lookup (attributesToReturn : List String) (rootSpanId spanId name : String)
    (items : List (String × Json)) (key : String) :
    (spanRow attributesToReturn rootSpanId spanId name items).lookup key =
      if key ∈ attributesToReturn then some ((items.lookup key).getD .null).pyStr
      else [("trace_id", rootSpanId), ("span_id", spanId), ("step_name", name)].lookup key :=
  lookup_foldl_dictSet _ _ _ _

/-! ### The rows as the preorder of the tree -/

mutual
/-- The spans of a tree in preorder: the span, then the spans of each child in turn. -/
def SpanWithChildren.preorder : SpanWithChildren → List SpanWithChildren
  | s@⟨_, _, _, children⟩ => s :: SpanWithChildren.preorderList children
def SpanWithChildren.preorderList : List SpanWithChildren → List SpanWithChildren
  | [] => []
  | child :: children => child.preorder ++ SpanWithChildren.preorderList children
end

/-- The rows of those of `spans` that pass the test, in order. -/
def rowsOf (attributesToReturn : List String) (rootSpanId : String) (spans : List SpanWithChildren) :
    List (List (String × String)) :=
  (spans.filter fun s => spanMatches attributesToReturn s.attributes).map fun s =>
    spanRow attributesToReturn rootSpanId s.spanId s.name (s.attributes.getD [])

theorem rowsOf_append (attributesToReturn : List String) (rootSpanId : String)
    (spans spans' : List SpanWithChildren) :
    rowsOf attributesToReturn rootSpanId (spans ++ spans') =
      rowsOf attributesToReturn rootSpanId spans ++ rowsOf attributesToReturn rootSpanId spans' := by
  simp [rowsOf]

variable (attributesToReturn : List String) (rootSpanId : String)

mutual
theorem extractSpans_eq_rowsOf : ∀ span : SpanWithChildren,
    extractSpans attributesToReturn rootSpanId span = rowsOf attributesToReturn rootSpanId span.preorder
  | ⟨spanId, name, attributes, children⟩ => by
      rw [extractSpans, SpanWithChildren.preorder, extractChildren_eq_rowsOf children]
      cases h : spanMatches attributesToReturn attributes <;> simp [rowsOf, h]
theorem extractChildren_eq_rowsOf : ∀ children : List SpanWithChildren,
    extractChildren attributesToReturn rootSpanId children =
      rowsOf attributesToReturn rootSpanId (SpanWithChildren.preorderList children)
  | [] => rfl
  | child :: children => by
      rw [extractChildren, SpanWithChildren.preorderList, extractSpans_eq_rowsOf child,
        extractChildren_eq_rowsOf children, rowsOf_append]
end

/-- `query_spans` gives, trace by trace in the order `query_traces` returns them, the rows of the
spans of the trace's tree in preorder that pass the test of `extract_spans`. -/
theorem querySpans_preorder_rows (provider : Provider) (attributeFilters : List QueryCondition)
    (maxDepth : Option Nat) :
    querySpans provider attributeFilters attributesToReturn maxDepth =
      (provider.queryTraces attributeFilters).flatMap fun trace =>
        rowsOf attributesToReturn trace.rootSpanId
          (provider.getSpanTree trace.rootSpanId attributesToReturn maxDepth).preorder := by
  simp only [querySpans, extractSpans_eq_rowsOf]

/-- `query_spans` gives, trace by trace in query order, one row per span of the trace's tree in
preorder whose attributes map is there, is not empty and gives every attribute asked for a value
other than `None`, every descendant walked whether its ancestors pass or not; the row gives the
`str` of each attribute's value, and the root span id, the span's id and its name under the keys
no attribute asked for takes. -/
theorem querySpans_rows_of_nonempty_maps (provider : Provider)
    (attributeFilters : List QueryCondition) (maxDepth : Option Nat) :
    querySpans provider attributeFilters attributesToReturn maxDepth =
        (provider.queryTraces attributeFilters).flatMap (fun trace =>
          ((provider.getSpanTree trace.rootSpanId attributesToReturn maxDepth).preorder.filter
              fun s => spanMatches attributesToReturn s.attributes).map fun s =>
            spanRow attributesToReturn trace.rootSpanId s.spanId s.name (s.attributes.getD [])) ∧
      (∀ attributes, spanMatches attributesToReturn attributes = true ↔
        ∃ items, attributes = some items ∧ items ≠ [] ∧
          ∀ attr ∈ attributesToReturn, ∃ v, items.lookup attr = some v ∧ v ≠ .null) ∧
      ∀ root spanId name items key,
        (spanRow attributesToReturn root spanId name items).lookup key =
          if key ∈ attributesToReturn then some ((items.lookup key).getD .null).pyStr
          else [("trace_id", root), ("span_id", spanId), ("step_name", name)].lookup key :=
  ⟨querySpans_preorder_rows attributesToReturn provider attributeFilters maxDepth,
    fun _ => spanMatches_iff, spanRow_lookup attributesToReturn⟩

/-- One trace whose root span has an empty attributes map, and a child with one attribute. -/
def emptyRootProvider : Provider where
  queryTraces _ := [⟨"trace-1", "root"⟩]
  getSpanTree _ _ _ := ⟨"root", "agent_turn", some [],
    [⟨"child", "tool_call", some [("tool", .str "search")], []⟩]⟩

/-- With no attribute asked for, the root span, whose map is empty, gives no row. -/
theorem querySpans_empty_root :
    querySpans emptyRootProvider [] [] none =
      [[("trace_id", "root"), ("span_id", "child"), ("step_name", "tool_call")]] := by
  rw [querySpans_preorder_rows]
  rfl

/-! ### Annotating spans, and saving the rows -/

/-- `Span.set_attribute` (telemetry.py 46-49) on the span's `attributes`: a `None` map becomes
`{}` first. -/
def setAttribute (attributes : Option (List (String × Json))) (key : String) (value : Json) :
    Option (List (String × Json)) :=
  some (dictSet (attributes.getD []) key value)

/-- The attributes after `set_attribute` calls, in order. -/
def setAttributes (attributes : Option (List (String × Json))) (calls : List (String × Json)) :
    Option (List (String × Json)) :=
  calls.foldl (fun attributes call => setAttribute attributes call.1 call.2) attributes

/-- `save_spans_to_dataset` (telemetry.py 237-254): the `append_rows` call it makes, if any. -/
def saveSpansToDataset (provider : Provider) (attributeFilters : List QueryCondition)
    (attributesToSave : List String) (datasetId : String) (maxDepth : Option Nat) :
    Option (String × List (List (String × String))) :=
  let annotationRows := querySpans provider attributeFilters attributesToSave maxDepth
  if annotationRows.isEmpty then none else some (datasetId, annotationRows)

/-- Each key gives the last value set for it, or, if it was never set, the value it had. -/
theorem lookup_setAttributes (attributes : Option (List (String × Json)))
    (calls : List (String × Json)) (key : String) :
    ((setAttributes attributes calls).getD []).lookup key =
      (calls.reverse.lookup key).or ((attributes.getD []).lookup key) := by
  induction calls generalizing attributes with
  | nil => rfl
  | cons call calls ih =>
      rw [setAttributes, List.foldl_cons, ← setAttributes, ih, setAttribute, Option.getD_some,
        lookup_dictSet, List.reverse_cons, List.lookup_append, Option.or_assoc]
      obtain ⟨k, v⟩ := call
      by_cases hk : key = k
      · simp [hk]
      · simp [hk, List.lookup_cons, beq_false_of_ne hk]

theorem setAttributes_of_ne_nil {calls : List (String × Json)} (hcalls : calls ≠ [])
    (attributes : Option (List (String × Json))) :
    ∃ items, setAttributes attributes calls = some items ∧ items ≠ [] := by
  obtain ⟨pre, ⟨k, v⟩, rfl⟩ := List.eq_nil_or_concat calls |>.resolve_left hcalls
  refine ⟨dictSet ((setAttributes attributes pre).getD []) k v,
    by rw [setAttributes, List.concat_eq_append, List.foldl_append]; rfl, fun h => ?_⟩
  have hk := lookup_dictSet ((setAttributes attributes pre).getD []) k k v
  rw [h, if_pos rfl] at hk
  cases hk

theorem setAttributes_nonempty_iff (attributes : Option (List (String × Json)))
    (calls : List (String × Json)) :
    (∃ items, setAttributes attributes calls = some items ∧ items ≠ []) ↔
      calls ≠ [] ∨ attributes.getD [] ≠ [] := by
  by_cases hcalls : calls = []
  · subst hcalls
    cases attributes <;> simp [setAttributes]
  · simp only [hcalls, setAttributes_of_ne_nil hcalls attributes, ne_eq, not_false_eq_true,
      true_or]

theorem lookup_of_setAttributes {attributes : Option (List (String × Json))}
    {calls : List (String × Json)} {items : List (String × Json)}
    (h : setAttributes attributes calls = some items) (key : String) :
    items.lookup key = (calls.reverse.lookup key).or ((attributes.getD []).lookup key) := by
  simpa only [h, Option.getD_some] using lookup_setAttributes attributes calls key

/-- A span annotated with `set_attribute` calls passes the test of `extract_spans` exactly when
its map is not empty and every attribute asked for ends with a value other than `None`: the last
one set, or, for one never set, the one it had. Its row then gives the `str` of those values. -/
theorem setAttributes_exported (attributesToReturn : List String)
    (attributes : Option (List (String × Json))) (calls : List (String × Json)) :
    (spanMatches attributesToReturn (setAttributes attributes calls) = true ↔
        (calls ≠ [] ∨ attributes.getD [] ≠ []) ∧
        ∀ attr ∈ attributesToReturn, ∃ v,
          (calls.reverse.lookup attr).or ((attributes.getD []).lookup attr) = some v ∧ v ≠ .null) ∧
      ∀ rootSpanId spanId name, ∀ attr ∈ attributesToReturn,
        (spanRow attributesToReturn rootSpanId spanId name
            ((setAttributes attributes calls).getD [])).lookup attr =
          some (((calls.reverse.lookup attr).or
            ((attributes.getD []).lookup attr)).getD .null).pyStr := by
  refine ⟨?_, fun rootSpanId spanId name attr hattr => ?_⟩
  · rw [spanMatches_iff]
    constructor
    · rintro ⟨items, hset, hne, hall⟩
      exact ⟨(setAttributes_nonempty_iff attributes calls).mp ⟨items, hset, hne⟩,
        fun attr hattr => lookup_of_setAttributes hset attr ▸ hall attr hattr⟩
    · rintro ⟨hne, hall⟩
      obtain ⟨items, hset, hne'⟩ := (setAttributes_nonempty_iff attributes calls).mpr hne
      exact ⟨items, hset, hne', fun attr hattr =>
        (lookup_of_setAttributes hset attr).symm ▸ hall attr hattr⟩
  · rw [spanRow_lookup, if_pos hattr, lookup_setAttributes]

end LlamaStack.Telemetry
