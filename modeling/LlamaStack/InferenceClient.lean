import LlamaStack.PyValue

/-!
# The toolchain inference client's reading of the event stream

`InferenceClient.chat_completion` (llama_toolchain/inference/client.py 41-60) reads the server's
answer line by line. A line that starts with `data:` carries a JSON object from its seventh
character on, which is parsed into a stream chunk, or into the whole response when the request
does not stream, and yielded; a payload that does not parse or validate is printed with the error
and skipped. Any other line, a blank separator or an `event:` line, gives nothing.

Against a server that writes each object as `data: ` and its encoding, with any other lines
between, and whose encodings the client's parser reads back, the client yields exactly the objects,
in order, and prints nothing (`chatCompletion_framed`). The test is on `data:` while the slice
starts after `data: `, so a line without the space, which the event-stream format allows, loses
the payload's first character (`chatCompletion_without_space`).
-/

namespace LlamaStack.Client

/-- The object a data line is parsed into: a `ChatCompletionResponseStreamChunk` when the request
streams, else a `ChatCompletionResponse`. -/
inductive Parsed (Chunk Response : Type) where
  | chunk (value : Chunk)
  | response (value : Response)

/-- What the client gives for a line: an object yielded, or the payload printed with the error
that parsing or validating it raised. -/
inductive Output (Chunk Response : Type) where
  | yielded (value : Parsed Chunk Response)
  | printed (data : String) (error : PyError)

/-- `json.loads` of a payload followed by the validation of the class it is passed to. -/
structure Parsers (Chunk Response : Type) where
  chunk : String → Except PyError Chunk
  response : String → Except PyError Response

variable {Chunk Response : Type}

/-- The `try` body of client.py 54-57. -/
def parseData (stream : Bool) (parsers : Parsers Chunk Response) (data : String) :
    Except PyError (Parsed Chunk Response) :=
  if stream then (parsers.chunk data).map .chunk else (parsers.response data).map .response

/-- One line of the answer (client.py 51-60); `line[len("data: "):]` is the slice from `6`. -/
def readLine (stream : Bool) (parsers : Parsers Chunk Response) (line : String) :
    List (Output Chunk Response) :=
  if startswith line "data:" then
    match parseData stream parsers (slice line "data: ".length 0) with
    | .ok value => [.yielded value]
    | .error e => [.printed (slice line "data: ".length 0) e]
  else []

def chatCompletion (stream : Bool) (parsers : Parsers Chunk Response) :
    List String → List (Output Chunk Response)
  | [] => []
  | line :: lines => readLine stream parsers line ++ chatCompletion stream parsers lines

/-- The lines of an event stream that carries `values` in order: each as `data: ` and its
encoding, with any lines between that are not data lines. -/
inductive Framed (encode : Parsed Chunk Response → String) :
    List (Parsed Chunk Response) → List String → Prop where
  | nil : Framed encode [] []
  | data {value : Parsed Chunk Response} {values : List (Parsed Chunk Response)}
      {lines : List String} :
      Framed encode values lines →
      Framed encode (value :: values) (("data: " ++ encode value) :: lines)
  | other {line : String} {values : List (Parsed Chunk Response)} {lines : List String} :
      startswith line "data:" = false → Framed encode values lines →
      Framed encode values (line :: lines)

theorem readLine_data (stream : Bool) (parsers : Parsers Chunk Response) (payload : String) :
    readLine stream parsers ("data: " ++ payload) =
      match parseData stream parsers payload with
      | .ok value => [.yielded value]
      | .error e => [.printed payload e] := by
  have hslice : slice ("data: " ++ payload) "data: ".length 0 = payload := by
    simpa only [String.append_empty] using slice_append "data: " payload ""
  have hstart : startswith ("data: " ++ payload) "data:" = true :=
    startswith_append_of_startswith (startswith_append "data:" " ") payload
  simp only [readLine, hstart, hslice, if_true]

theorem readLine_data_without_space (stream : Bool) (parsers : Parsers Chunk Response)
    (payload : String) :
    readLine stream parsers ("data:" ++ payload) =
      match parseData stream parsers ⟨payload.data.drop 1⟩ with
      | .ok value => [.yielded value]
      | .error e => [.printed ⟨payload.data.drop 1⟩ e] := by
  have hslice : slice ("data:" ++ payload) "data: ".length 0 = ⟨payload.data.drop 1⟩ := by
    simp only [slice, Nat.sub_zero, String.data_append, ← String.length_data, List.take_length]
    rfl
  simp only [readLine, startswith_append, hslice, if_true]

/-- A server may write a data line without the space after the colon. The client then reads
`data:` and a payload as it reads `data: ` and the payload less its first character, line by
line, so every payload reaches the parser cut by one character. -/
theorem chatCompletion_without_space (stream : Bool) (parsers : Parsers Chunk Response)
    (payloads : List String) :
    chatCompletion stream parsers (payloads.map ("data:" ++ ·)) =
      payloads.flatMap fun payload => readLine stream parsers ("data: " ++ ⟨payload.data.drop 1⟩) := by
  induction payloads with
  | nil => rfl
  | cons payload payloads ih =>
      rw [List.map_cons, chatCompletion, ih, List.flatMap_cons, readLine_data_without_space,
        readLine_data]

/-- On an event stream that carries `values`, each encoded so that the client's parser reads it
back, the client yields exactly the values, in order, and prints nothing. -/
theorem chatCompletion_framed {stream : Bool} {parsers : Parsers Chunk Response}
    {encode : Parsed Chunk Response → String} {values : List (Parsed Chunk Response)}
    {lines : List String} (h : Framed encode values lines)
    (hparse : ∀ value ∈ values, parseData stream parsers (encode value) = .ok value) :
    chatCompletion stream parsers lines = values.map .yielded := by
  induction h with
  | nil => rfl
  | @data value values lines _ ih =>
      rw [chatCompletion, readLine_data, hparse value (List.mem_cons_self _ _),
        ih (fun v hv => hparse v (List.mem_cons_of_mem _ hv))]
      rfl
  | @other line values lines hline _ ih =>
      rw [chatCompletion, readLine, hline, ih hparse]
      rfl

/-- Parsers that take a payload as the string it is. -/
def echoParsers : Parsers String String := ⟨.ok, .ok⟩

def echoEncode : Parsed String String → String
  | .chunk s | .response s => s

theorem chatCompletion_framed_two_chunks :
    chatCompletion true echoParsers ["data: Hel", "", "data: lo"] =
      [.chunk "Hel", .chunk "lo"].map .yielded :=
  @chatCompletion_framed String String true echoParsers echoEncode _ _
    (.data (.other rfl (.data .nil)))
    (by simp [parseData, echoParsers, echoEncode, Except.map])

end LlamaStack.Client
