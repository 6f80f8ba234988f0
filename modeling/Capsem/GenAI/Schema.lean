import Capsem.Python.Json

/-! # The validation `google.genai.types` runs

Every model of `google-genai` is a pydantic model with `extra='forbid'`, `populate_by_name=True`
and the camel-case alias generator. So `Part(**x)` raises on a key that names no field, on a field
given both under its alias and under its name, and on a field whose value does not validate,
whether or not the proxy ever reads that field; and so does every model a field nests.

* `Model`, `Model.fields`: the models the proxy validates, directly or as the type of a field, and
  the fields of each by their Python names, with their types. Every field is `Optional`. The
  tables follow `google/genai/types.py` of the 1.2x releases; the library is not under src/.
* `toCamel`: the alias of a field (`function_call` is `functionCall`).
* `FieldType.acceptsLeaf`: pydantic's lax validation of a leaf value as `json.loads` builds it;
  `FieldType.accepts`, `Model.accepts`: a value against a type, the members of an object against
  a model.

## What is approximated

* The strings pydantic parses as numbers and dates follow the grammars below: a sign, digits, a
  fraction and an exponent for numbers, the ISO 8601 forms pydantic documents for `datetime`.
  Underscores in numbers and the range of a Unix timestamp are not checked.
* An enum of the library (`CaseInSensitiveEnum`) takes any string: an unknown value becomes a new
  member, with a warning.
-/

namespace Capsem.GenAI
set_option autoImplicit false

/-! ## Field names -/

/-- The characters of `to_camel` on a lower-case snake-case name: an underscore is dropped and
the letter after it raised. -/
def camelChars : Bool → List Char → List Char
  | _, [] => []
  | _, '_' :: cs => camelChars true cs
  | up, c :: cs => (if up then c.toUpper else c) :: camelChars false cs

/-- `pydantic.alias_generators.to_camel`, the alias of a field. -/
def toCamel (name : String) : String := ⟨camelChars false name.toList⟩

/-! ## Numbers and dates in text -/

/-- One or more decimal digits. -/
def isDigits (cs : List Char) : Bool := !cs.isEmpty && cs.all Char.isDigit

/-- The value of a run of decimal digits. -/
def digitsValue (cs : List Char) : Nat := cs.foldl (fun n c => 10 * n + (c.toNat - 48)) 0

/-- The text after an optional sign. -/
def dropSign : List Char → List Char
  | '+' :: cs | '-' :: cs => cs
  | cs => cs

/-- An optional exponent: `e` or `E`, a sign, digits. -/
def exponentText : List Char → Bool
  | [] => true
  | 'e' :: cs | 'E' :: cs => isDigits (dropSign cs)
  | _ => false

/-- `digits [. digits]` or `. digits`, then an optional exponent. -/
def decimalText (cs : List Char) : Bool :=
  let (int, rest) := cs.span Char.isDigit
  let (frac, rest) := match rest with
    | '.' :: r => r.span Char.isDigit
    | r => ([], r)
  (!int.isEmpty || !frac.isEmpty) && exponentText rest

/-- A string `float(s)` reads, after its sign: a decimal, `inf`, `infinity` or `nan` in any case. -/
def floatText (cs : List Char) : Bool :=
  let body := dropSign cs
  let low := body.map Char.toLower
  low = "inf".toList || low = "infinity".toList || low = "nan".toList || decimalText body

/-- A string pydantic reads as an `int`: a sign, digits, and a fraction of zeros at most. -/
def intText (cs : List Char) : Bool :=
  match (dropSign cs).span Char.isDigit with
  | (ds, []) => !ds.isEmpty
  | (ds, '.' :: zs) => !ds.isEmpty && zs.all (· == '0')
  | _ => false

/-- The `repr` of a Python `int`. -/
def intRepr (r : List Char) : Bool := isDigits (dropSign r)

/-- The number of digits of a fraction that are not trailing zeros. -/
def significantFraction (frac : List Char) : Nat := (frac.reverse.dropWhile (· == '0')).length

/-- The `repr` of a finite `float` with no fractional part: `3.0`, `1e+16`, `1.5e+16`. -/
def floatReprIntegral (r : List Char) : Bool :=
  let (int, rest) := (dropSign r).span Char.isDigit
  let (frac, rest) := match rest with
    | '.' :: f => f.span Char.isDigit
    | f => ([], f)
  !int.isEmpty && match rest with
    | [] => significantFraction frac == 0
    | 'e' :: '+' :: ex => isDigits ex && significantFraction frac ≤ digitsValue ex
    | _ => false

/-- The days of a month of the Gregorian calendar. -/
def daysInMonth (year month : Nat) : Nat :=
  if month = 2 then
    if year % 4 = 0 ∧ (year % 100 ≠ 0 ∨ year % 400 = 0) then 29 else 28
  else if month ∈ [4, 6, 9, 11] then 30 else 31

/-- A time offset: none, `Z`, `z`, or a sign, hours and minutes with an optional colon. -/
def offsetText : List Char → Bool
  | [] | ['Z'] | ['z'] => true
  | s :: h1 :: h2 :: ':' :: m1 :: m2 :: [] | s :: h1 :: h2 :: m1 :: m2 :: [] =>
    (s == '+' || s == '-') && isDigits [h1, h2, m1, m2] && digitsValue [h1, h2] < 24 &&
      digitsValue [m1, m2] < 60
  | _ => false

/-- Optional seconds and fraction, then an offset. -/
def secondsText : List Char → Bool
  | ':' :: s1 :: s2 :: rest =>
    isDigits [s1, s2] && digitsValue [s1, s2] < 60 && match rest with
      | '.' :: f | ',' :: f =>
        let (ds, off) := f.span Char.isDigit
        !ds.isEmpty && offsetText off
      | off => offsetText off
  | off => offsetText off

/-- `HH:MM`, then seconds and an offset. -/
def timeText : List Char → Bool
  | h1 :: h2 :: ':' :: m1 :: m2 :: rest =>
    isDigits [h1, h2, m1, m2] && digitsValue [h1, h2] < 24 && digitsValue [m1, m2] < 60 &&
      secondsText rest
  | _ => false

/-- `YYYY-MM-DD`, alone or followed by `T`, `t`, a space or `_` and a time, with the date in the
calendar. -/
def dateTimeText : List Char → Bool
  | y1 :: y2 :: y3 :: y4 :: '-' :: m1 :: m2 :: '-' :: d1 :: d2 :: rest =>
    let month := digitsValue [m1, m2]
    let day := digitsValue [d1, d2]
    isDigits [y1, y2, y3, y4, m1, m2, d1, d2] && 1 ≤ month && month ≤ 12 && 1 ≤ day &&
      day ≤ daysInMonth (digitsValue [y1, y2, y3, y4]) month && match rest with
        | [] => true
        | sep :: t => (sep == 'T' || sep == 't' || sep == ' ' || sep == '_') && timeText t
  | _ => false

/-- `s.strip()`: the characters without the white space at either end. -/
def trimChars (cs : List Char) : List Char :=
  ((cs.dropWhile Char.isWhitespace).reverse.dropWhile Char.isWhitespace).reverse

/-- pydantic's lax `bool`: a `bool`, `0` or `1`, or one of the strings it knows, in any case. -/
def laxBool : Json → Option Bool
  | .bool b => some b
  | .num r =>
    if r ∈ ["0", "0.0"] then some false else if r ∈ ["1", "1.0"] then some true else none
  | .str s =>
    let low := s.toList.map Char.toLower
    if ["0", "off", "f", "false", "n", "no"].any (·.toList == low) then some false
    else if ["1", "on", "t", "true", "y", "yes"].any (·.toList == low) then some true else none
  | _ => none

/-! ## The models -/

/-- The models of `google.genai.types` a validation by the proxy reaches. -/
inductive Model where
  | part | videoMetadata | blob | fileData | codeExecutionResult | executableCode
  | functionCall | functionResponse | content
  | candidate | citationMetadata | citation | googleTypeDate | urlContextMetadata | urlMetadata
  | groundingMetadata | groundingChunk | groundingChunkRetrievedContext | ragChunk
  | ragChunkPageSpan | groundingChunkWeb | groundingSupport | segment | retrievalMetadata
  | searchEntryPoint | logprobsResult | logprobsResultCandidate | logprobsResultTopCandidates
  | safetyRating | generateContentResponse | httpResponse | promptFeedback | usageMetadata
  | modalityTokenCount
  deriving DecidableEq, Repr

/-- The type of a field, as pydantic validates it. -/
inductive FieldType where
  | str | bool | int | float
  /-- `bytes`: a `str` is encoded. -/
  | bytes
  /-- A `CaseInSensitiveEnum`. -/
  | enum
  | datetime
  /-- `dict[str, Any]`. -/
  | dict
  /-- `dict[str, str]`. -/
  | strDict
  | model (m : Model)
  | list (t : FieldType)
  deriving Repr

/-- The fields of each model, by Python name, with their types. -/
def Model.fields : Model → List (String × FieldType)
  | .part => [("video_metadata", .model .videoMetadata), ("thought", .bool),
      ("inline_data", .model .blob), ("file_data", .model .fileData),
      ("thought_signature", .bytes), ("code_execution_result", .model .codeExecutionResult),
      ("executable_code", .model .executableCode), ("function_call", .model .functionCall),
      ("function_response", .model .functionResponse), ("text", .str)]
  | .videoMetadata => [("fps", .float), ("end_offset", .str), ("start_offset", .str)]
  | .blob => [("display_name", .str), ("data", .bytes), ("mime_type", .str)]
  | .fileData => [("display_name", .str), ("file_uri", .str), ("mime_type", .str)]
  | .codeExecutionResult => [("outcome", .enum), ("output", .str)]
  | .executableCode => [("code", .str), ("language", .enum)]
  | .functionCall => [("id", .str), ("args", .dict), ("name", .str)]
  | .functionResponse => [("will_continue", .bool), ("scheduling", .enum), ("id", .str),
      ("name", .str), ("response", .dict)]
  | .content => [("parts", .list (.model .part)), ("role", .str)]
  | .candidate => [("content", .model .content), ("citation_metadata", .model .citationMetadata),
      ("finish_message", .str), ("token_count", .int), ("finish_reason", .enum),
      ("url_context_metadata", .model .urlContextMetadata), ("avg_logprobs", .float),
      ("grounding_metadata", .model .groundingMetadata), ("index", .int),
      ("logprobs_result", .model .logprobsResult),
      ("safety_ratings", .list (.model .safetyRating))]
  | .citationMetadata => [("citations", .list (.model .citation))]
  | .citation => [("end_index", .int), ("license", .str),
      ("publication_date", .model .googleTypeDate), ("start_index", .int), ("title", .str),
      ("uri", .str)]
  | .googleTypeDate => [("day", .int), ("month", .int), ("year", .int)]
  | .urlContextMetadata => [("url_metadata", .list (.model .urlMetadata))]
  | .urlMetadata => [("retrieved_url", .str), ("url_retrieval_status", .enum)]
  | .groundingMetadata => [("grounding_chunks", .list (.model .groundingChunk)),
      ("grounding_supports", .list (.model .groundingSupport)),
      ("retrieval_metadata", .model .retrievalMetadata), ("retrieval_queries", .list .str),
      ("search_entry_point", .model .searchEntryPoint), ("web_search_queries", .list .str)]
  | .groundingChunk => [("retrieved_context", .model .groundingChunkRetrievedContext),
      ("web", .model .groundingChunkWeb)]
  | .groundingChunkRetrievedContext => [("rag_chunk", .model .ragChunk), ("text", .str),
      ("title", .str), ("uri", .str)]
  | .ragChunk => [("page_span", .model .ragChunkPageSpan), ("text", .str)]
  | .ragChunkPageSpan => [("first_page", .int), ("last_page", .int)]
  | .groundingChunkWeb => [("domain", .str), ("title", .str), ("uri", .str)]
  | .groundingSupport => [("confidence_scores", .list .float),
      ("grounding_chunk_indices", .list .int), ("segment", .model .segment)]
  | .segment => [("end_index", .int), ("part_index", .int), ("start_index", .int), ("text", .str)]
  | .retrievalMetadata => [("google_search_dynamic_retrieval_score", .float)]
  | .searchEntryPoint => [("rendered_content", .str), ("sdk_blob", .bytes)]
  | .logprobsResult => [("chosen_candidates", .list (.model .logprobsResultCandidate)),
      ("top_candidates", .list (.model .logprobsResultTopCandidates))]
  | .logprobsResultCandidate => [("log_probability", .float), ("token", .str), ("token_id", .int)]
  | .logprobsResultTopCandidates => [("candidates", .list (.model .logprobsResultCandidate))]
  | .safetyRating => [("blocked", .bool), ("category", .enum), ("overwritten_threshold", .enum),
      ("probability", .enum), ("probability_score", .float), ("severity", .enum),
      ("severity_score", .float)]
  | .generateContentResponse => [("sdk_http_response", .model .httpResponse),
      ("candidates", .list (.model .candidate)), ("create_time", .datetime),
      ("response_id", .str), ("model_version", .str), ("prompt_feedback", .model .promptFeedback),
      ("usage_metadata", .model .usageMetadata),
      ("automatic_function_calling_history", .list (.model .content)), ("parsed", .dict)]
  | .httpResponse => [("headers", .strDict), ("body", .str)]
  | .promptFeedback => [("block_reason", .enum), ("block_reason_message", .str),
      ("safety_ratings", .list (.model .safetyRating))]
  | .usageMetadata => [("cache_tokens_details", .list (.model .modalityTokenCount)),
      ("cached_content_token_count", .int), ("candidates_token_count", .int),
      ("candidates_tokens_details", .list (.model .modalityTokenCount)),
      ("prompt_token_count", .int), ("prompt_tokens_details", .list (.model .modalityTokenCount)),
      ("thoughts_token_count", .int), ("tool_use_prompt_token_count", .int),
      ("tool_use_prompt_tokens_details", .list (.model .modalityTokenCount)),
      ("total_token_count", .int), ("traffic_type", .enum)]
  | .modalityTokenCount => [("modality", .enum), ("token_count", .int)]

/-- The type of the field the member `key` of the object `kvs` fills: `key` is the field's alias,
or its name while its alias is absent. Any other key is an extra input. -/
def Model.fieldType (m : Model) (kvs : List (String × Json)) (key : String) : Option FieldType :=
  (m.fields.find? fun f => toCamel f.1 == key ||
    (f.1 == key && !kvs.any fun kv => kv.1 == toCamel f.1)).map Prod.snd

/-! ## Validation -/

/-- pydantic's lax validation of a value that is not a model or a list. -/
def FieldType.acceptsLeaf : FieldType → Json → Bool
  | .str, .str _ | .bytes, .str _ | .enum, .str _ | .dict, .obj _ => true
  | .bool, j => (laxBool j).isSome
  | .int, .bool _ | .float, .bool _ | .float, .num _ => true
  | .int, .num r => intRepr r.toList || floatReprIntegral r.toList
  | .int, .str s => intText (trimChars s.toList)
  | .float, .str s => floatText (trimChars s.toList)
  | .datetime, .num r => decimalText (dropSign r.toList)
  | .datetime, .str s => dateTimeText s.toList || decimalText (dropSign s.toList)
  | .strDict, .obj kvs => kvs.all fun kv => (kv.2 matches .str _)
  | _, _ => false

mutual
/-- Whether pydantic validates the value `j` as a `t`. -/
def FieldType.accepts : FieldType → Json → Bool
  | .model m, .obj kvs => Model.acceptsMembers m kvs kvs
  | .list t, .arr xs => FieldType.acceptsItems t xs
  | t, j => t.acceptsLeaf j

/-- Every item of a list validates as a `t`. -/
def FieldType.acceptsItems (t : FieldType) : List Json → Bool
  | [] => true
  | x :: xs => t.accepts x && FieldType.acceptsItems t xs

/-- Every member of the object `kvs` fills a field of `m`, with `None` or a value of its type. -/
def Model.acceptsMembers (m : Model) (kvs : List (String × Json)) :
    List (String × Json) → Bool
  | [] => true
  | (k, v) :: rest =>
    (match m.fieldType kvs k with
      | some t => (v matches .null) || t.accepts v
      | none => false) && Model.acceptsMembers m kvs rest
end

/-- `M(**kvs)` validates. -/
def Model.accepts (m : Model) (kvs : List (String × Json)) : Bool := m.acceptsMembers kvs kvs

end Capsem.GenAI
