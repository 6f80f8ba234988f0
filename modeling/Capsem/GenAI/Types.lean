import Capsem.GenAI.Schema

/-! # The `google.genai.types` models the Gemini endpoints validate with

`Content(**content)` and `GenerateContentResponse(**raw_response)` are pydantic validations of
the third-party `google-genai` library. Each `ofJson` first runs the library's validation of the
whole object (`Model.accepts`, in `GenAI.Schema`): every key a field, no field under both its
alias and its name, every value of its field's type, the fields the proxy never reads included.
It then keeps the fields the proxy reads. `ofJson` returns `none` where the constructor raises.

## Transcription choices

* A field is read under its camel-case alias (`functionCall`) or, the models being built with
  `populate_by_name`, under its own name (`function_call`); the alias is tried first.
* An optional field that is absent or `null` is `None`. A `str` field takes only a string; a
  `bool` field takes pydantic's lax inputs (`0`, `1`, `"yes"`, `"off"`, ...); a `dict` field takes
  only an object.
-/

namespace Capsem.GenAI
set_option autoImplicit false

/-- `FunctionCall`: the fields the proxy reads. -/
structure FunctionCall where
  name : Option String
  args : Option (List (String × Json))

/-- `FunctionResponse`: the fields the proxy reads. -/
structure FunctionResponse where
  name : Option String
  response : Option (List (String × Json))

/-- `Part`: the fields the proxy reads. -/
structure Part where
  text : Option String
  thought : Option Bool
  functionCall : Option FunctionCall
  functionResponse : Option FunctionResponse

/-- `Content`. -/
structure Content where
  parts : Option (List Part)
  role : Option String

/-- `Candidate`: the field the proxy reads. -/
structure Candidate where
  content : Option Content

/-- `GenerateContentResponse`: the field the proxy reads. -/
structure GenerateContentResponse where
  candidates : Option (List Candidate)

/-! ## Field validation -/

/-- The value of a field, under its alias or its name. -/
def field (kvs : List (String × Json)) (camel name : String) : Option Json :=
  (kvs.lookup camel).orElse fun _ => kvs.lookup name

/-- An optional `str` field. -/
def optStr : Option Json → Option (Option String)
  | none | some .null => some none
  | some (.str s) => some (some s)
  | some _ => none

/-- An optional `bool` field, in pydantic's lax mode. -/
def optBool : Option Json → Option (Option Bool)
  | none | some .null => some none
  | some j => (laxBool j).map some

/-- An optional `dict[str, Any]` field. -/
def optDict : Option Json → Option (Option (List (String × Json)))
  | none | some .null => some none
  | some (.obj kvs) => some (some kvs)
  | some _ => none

/-- An optional field holding a nested model, validated by `f`. -/
def optModel {α : Type} (f : Json → Option α) : Option Json → Option (Option α)
  | none | some .null => some none
  | some j => (f j).map some

/-- An optional `list` field whose items are validated by `f`; one bad item fails it. -/
def optList {α : Type} (f : Json → Option α) : Option Json → Option (Option (List α))
  | none | some .null => some none
  | some (.arr xs) => (xs.mapM f).map some
  | some _ => none

/-! ## The models -/

/-- `FunctionCall(**x)`. -/
def FunctionCall.ofJson : Json → Option FunctionCall
  | .obj kvs =>
    if Model.functionCall.accepts kvs then do
      let name ← optStr (field kvs "name" "name")
      let args ← optDict (field kvs "args" "args")
      pure ⟨name, args⟩
    else none
  | _ => none

/-- `FunctionResponse(**x)`. -/
def FunctionResponse.ofJson : Json → Option FunctionResponse
  | .obj kvs =>
    if Model.functionResponse.accepts kvs then do
      let name ← optStr (field kvs "name" "name")
      let response ← optDict (field kvs "response" "response")
      pure ⟨name, response⟩
    else none
  | _ => none

/-- `Part(**x)`. -/
def Part.ofJson : Json → Option Part
  | .obj kvs =>
    if Model.part.accepts kvs then do
      let text ← optStr (field kvs "text" "text")
      let thought ← optBool (field kvs "thought" "thought")
      let functionCall ← optModel FunctionCall.ofJson (field kvs "functionCall" "function_call")
      let functionResponse ←
        optModel FunctionResponse.ofJson (field kvs "functionResponse" "function_response")
      pure ⟨text, thought, functionCall, functionResponse⟩
    else none
  | _ => none

/-- `Content(**content)`: `content` must be a `dict`, else `**` raises a `TypeError`. -/
def Content.ofJson : Json → Option Content
  | .obj kvs =>
    if Model.content.accepts kvs then do
      let parts ← optList Part.ofJson (field kvs "parts" "parts")
      let role ← optStr (field kvs "role" "role")
      pure ⟨parts, role⟩
    else none
  | _ => none

/-- `Candidate(**x)`. -/
def Candidate.ofJson : Json → Option Candidate
  | .obj kvs =>
    if Model.candidate.accepts kvs then do
      let content ← optModel Content.ofJson (field kvs "content" "content")
      pure ⟨content⟩
    else none
  | _ => none

/-- `GenerateContentResponse(**raw_response)`. -/
def GenerateContentResponse.ofJson : Json → Option GenerateContentResponse
  | .obj kvs =>
    if Model.generateContentResponse.accepts kvs then do
      let candidates ← optList Candidate.ofJson (field kvs "candidates" "candidates")
      pure ⟨candidates⟩
    else none
  | _ => none

/-! ## What a validated model says of its JSON -/

@[simp] theorem field_self (kvs : List (String × Json)) (k : String) :
    field kvs k k = kvs.lookup k := by
  unfold field
  cases kvs.lookup k <;> rfl

theorem optStr_eq_some_some {j : Option Json} {s : String} :
    optStr j = some (some s) ↔ j = some (.str s) := by
  rcases j with _ | ⟨_ | _ | _ | t | _ | _⟩ <;> simp [optStr]

theorem optList_eq_some_some {α : Type} {f : Json → Option α} {j : Option Json} {ys : List α} :
    optList f j = some (some ys) ↔ ∃ xs, j = some (.arr xs) ∧ xs.mapM f = some ys := by
  rcases j with _ | ⟨_ | _ | _ | _ | xs | _⟩ <;> simp [optList]

/-- Each item of a list validated item by item is the validation of an item of the input. -/
theorem exists_of_mapM_eq_some {α β : Type} {f : α → Option β} :
    ∀ {xs : List α} {ys : List β}, xs.mapM f = some ys → ∀ y ∈ ys, ∃ x ∈ xs, f x = some y
  | [], ys, h, y, hy => by
    simp only [List.mapM_nil] at h
    cases h
    simp at hy
  | x :: xs, ys, h, y, hy => by
    simp only [List.mapM_cons, Option.bind_eq_bind, Option.bind_eq_some, Option.pure_def,
      Option.some.injEq] at h
    obtain ⟨y', hx, ys', hxs, rfl⟩ := h
    rcases List.mem_cons.1 hy with rfl | hy
    · exact ⟨x, List.mem_cons_self _ _, hx⟩
    · obtain ⟨x', hx', hf⟩ := exists_of_mapM_eq_some hxs y hy
      exact ⟨x', List.mem_cons_of_mem _ hx', hf⟩

/-- A validated entry of `contents` with parts: each part comes from an object of its `parts`. -/
theorem Content.parts_of_ofJson {c : Json} {parts : List Part} {p : Part}
    (h : (Content.ofJson c).bind Content.parts = some parts) (hp : p ∈ parts) :
    ∃ kvs xs, c = .obj kvs ∧ kvs.lookup "parts" = some (.arr xs) ∧
      ∃ x ∈ xs, Part.ofJson x = some p := by
  rcases c with _ | _ | _ | _ | _ | kvs
  iterate 5 simp [Content.ofJson] at h
  simp only [Content.ofJson, Option.ite_none_right_eq_some, field_self, Option.bind_eq_bind,
    Option.bind_eq_some, Option.pure_def, Option.some.injEq] at h
  obtain ⟨_, ⟨-, _, hparts, role, -, rfl⟩, rfl⟩ := h
  obtain ⟨xs, hxs, hmap⟩ := optList_eq_some_some.1 hparts
  obtain ⟨x, hx, hpx⟩ := exists_of_mapM_eq_some hmap p hp
  exact ⟨kvs, xs, rfl, hxs, x, hx, hpx⟩

/-- The text of a validated part is the string under its `text` key. -/
theorem Part.text_of_ofJson {x : Json} {p : Part} {t : String} (h : Part.ofJson x = some p)
    (ht : p.text = some t) : ∃ kvs, x = .obj kvs ∧ kvs.lookup "text" = some (.str t) := by
  rcases x with _ | _ | _ | _ | _ | kvs
  iterate 5 simp [Part.ofJson] at h
  simp only [Part.ofJson, Option.ite_none_right_eq_some, field_self, Option.bind_eq_bind,
    Option.bind_eq_some, Option.pure_def, Option.some.injEq] at h
  obtain ⟨-, text, htext, _, -, _, -, _, -, rfl⟩ := h
  subst ht
  exact ⟨kvs, rfl, optStr_eq_some_some.1 htext⟩

end Capsem.GenAI
