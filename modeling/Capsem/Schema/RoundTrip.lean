import Capsem.Schema.Tool

/-! # Decoding undoes encoding

Each decoder of `src/test.py` reads back what the matching encoder writes, up to what the
encoders leave out: `required` is written only when it is a non-empty list and read back as `[]`
when absent, and a return schema's `properties` are read back as `None` when empty.

* `setAll_toJson`: rebuilding a `dict` entry by entry from its JSON object gives it back.
* One lemma per schema object: `ParameterProperty.validate_dump`, `parseParameterSchema_toJson`,
  `parseReturnSchema_dump`.
* `Tool.decode_encode`: the decoder that reads where an encoder writes gives back the tool,
  `required` and the return properties as the decoders read them (`Tool.reread`).
* `tool_formats_round_trip`, `tool_formats_identify_normalized`: for both formats the round trip
  gives back every tool up to `Tool.normalize`, and identifies no two tools that it tells apart.
-/

namespace Capsem.Schema
set_option autoImplicit false

/-! ## Dicts -/

namespace Dict
variable {α : Type}

/-- An assignment to a new key puts it last. -/
theorem setEntry_of_not_mem {k : String} {v : α} :
    ∀ {es : List (String × α)}, k ∉ es.map Prod.fst → setEntry k v es = es ++ [(k, v)]
  | [], _ => rfl
  | e :: es, h => by
    simp only [List.map_cons, List.mem_cons, not_or] at h
    simp only [setEntry, Ne.symm h.1, ↓reduceIte, setEntry_of_not_mem h.2, List.cons_append]

end Dict

/-- The loop `for k, v in kvs: d[k] = f(v)` over entries written by `g`, which `f` reads back,
with keys new to `d` and to each other: their entries are put after those of `d`. -/
theorem setAll_map {α : Type} {f : Json → Except PyExc α} {g : α → Json}
    (hfg : ∀ a, f (g a) = .ok a) :
    ∀ (es : List (String × α)) (d : Dict α), (es.map Prod.fst).Nodup →
      (∀ k ∈ es.map Prod.fst, k ∉ d.entries.map Prod.fst) →
      ∃ d', setAll f d (es.map fun e => (e.1, g e.2)) = .ok d' ∧ d'.entries = d.entries ++ es
  | [], d, _, _ => ⟨d, rfl, by simp⟩
  | (k, a) :: es, d, hnd, hnew => by
    simp only [List.map_cons, List.nodup_cons, List.mem_cons, forall_eq_or_imp] at hnd hnew
    have hset : (d.set k a).entries = d.entries ++ [(k, a)] :=
      Dict.setEntry_of_not_mem hnew.1
    obtain ⟨d', hd', hentries⟩ := setAll_map hfg es (d.set k a) hnd.2 fun k' hk' => by
      rw [hset, List.map_append, List.mem_append, List.map_singleton, List.mem_singleton,
        not_or]
      exact ⟨hnew.2 k' hk', fun h : k' = k => hnd.1 (h ▸ hk')⟩
    refine ⟨d', ?_, by rw [hentries, hset, List.append_assoc, List.singleton_append]⟩
    simp only [List.map_cons, setAll, hfg, Except.ok_bind]
    exact hd'

/-- Rebuilding a `dict` from its JSON object, each value read back by `f`, gives it back. -/
theorem setAll_toJson {α : Type} {f : Json → Except PyExc α} {g : α → Json}
    (hfg : ∀ a, f (g a) = .ok a) (d : Dict α) :
    setAll f Dict.empty (d.entries.map fun e => (e.1, g e.2)) = .ok d := by
  obtain ⟨d', hd', hentries⟩ :=
    setAll_map hfg d.entries Dict.empty d.keys_nodup fun _ _ h => List.not_mem_nil _ h
  rw [hd', Dict.ext hentries]

/-! ## Optional fields -/

theorem lookup_optEntry_self (k : String) (v : Option Json) : (optEntry k v).lookup k = v := by
  cases v <;> simp [optEntry]

theorem lookup_optEntry_of_ne {k k' : String} (h : k' ≠ k) (v : Option Json) :
    (optEntry k v).lookup k' = none := by
  cases v <;> simp [optEntry, h]

theorem any_optEntry (k k' : String) (v : Option Json) :
    (optEntry k v).any (fun e => e.1 == k') = (v.isSome && k == k') := by
  cases v <;> simp [optEntry]

variable (model field : String)

@[simp] theorem validOptStr_map (o : Option String) :
    validOptStr model field (o.map .str) = .ok o := by
  cases o <;> rfl

@[simp] theorem validOptStr_getD (o : Option String) :
    validOptStr model field (some ((o.map .str).getD .null)) = .ok o := by
  cases o <;> rfl

@[simp] theorem strItems_map_str (xs : List String) :
    strItems model field (xs.map .str) = .ok xs := by
  induction xs with
  | nil => rfl
  | cons x xs ih => simp only [List.map_cons, strItems, ih]; rfl

@[simp] theorem validOptStrList_arr (xs : List String) :
    validOptStrList model field (some (.arr (xs.map .str))) = .ok (some xs) := by
  simp only [validOptStrList, strItems_map_str]
  rfl

@[simp] theorem validOptStrList_map (o : Option (List String)) :
    validOptStrList model field (o.map fun xs => .arr (xs.map .str)) = .ok o := by
  cases o with
  | none => rfl
  | some xs => exact validOptStrList_arr model field xs

@[simp] theorem validOptDict_map (o : Option (Dict Json)) :
    validOptDict model field (o.map (Dict.toJson id)) = .ok o := by
  cases o with
  | none => rfl
  | some d =>
    rw [Option.map_some', Dict.toJson, validOptDict, setAll_toJson (g := id) (fun _ => rfl)]
    rfl

/-! ## The schema objects -/

/-- A property reads back from its dump. -/
@[simp] theorem ParameterProperty.validate_dump (p : ParameterProperty) :
    ParameterProperty.validate p.dump = .ok p := by
  simp [ParameterProperty.dump, ParameterProperty.validate, List.lookup_cons, List.lookup_append,
    lookup_optEntry_self, lookup_optEntry_of_ne, validStr]

/-- `required` as the decoders read it back: absent is `[]`. -/
theorem lookup_requiredEntry (r : Option (List String)) :
    ((requiredEntry r).lookup "required").getD (.arr []) = .arr ((r.getD []).map .str) := by
  rcases r with _ | _ | ⟨x, xs⟩ <;> rfl

/-- A schema object as the decoders read it back: `required` is never `None`. -/
def ParameterSchema.reread (p : ParameterSchema) : ParameterSchema :=
  { p with required := some (p.required.getD []) }

theorem parseParameterSchema_toJson (p : ParameterSchema) :
    parseParameterSchema p.toJson = .ok p.reread := by
  simp [parseParameterSchema, ParameterSchema.toJson, Dict.toJson, List.lookup_cons,
    lookup_requiredEntry, setAll_toJson ParameterProperty.validate_dump,
    ParameterSchema.validate, validStr, ParameterSchema.reread, Functor.map, Except.map]

/-- A return schema as `parseReturnSchema` reads it back: empty properties are `None`. -/
def ReturnSchema.reread (r : ReturnSchema) : ReturnSchema :=
  { r with properties := r.properties.bind fun d => if d.entries.isEmpty then none else some d }

theorem parseReturnSchema_dump (r : ReturnSchema) : parseReturnSchema r.dump = .ok r.reread := by
  rcases r with ⟨type, description, _ | d⟩ <;>
    simp [parseReturnSchema, ReturnSchema.dump, any_optEntry, List.lookup_cons,
      List.lookup_append, lookup_optEntry_self, lookup_optEntry_of_ne, ReturnSchema.validate,
      validStr, ReturnSchema.reread, Json.index_obj_of_lookup, Dict.toJson,
      setAll_toJson ParameterProperty.validate_dump]

/-! ## Tools -/

/-- A tool as the decoders read it back. -/
def Tool.reread (t : Tool) : Tool :=
  { t with parameters := t.parameters.reread, returns := t.returns.map ReturnSchema.reread }

/-- The decoder that finds the schema object and the description where the encoder writes them,
and whose return key is none of the keys written before the return schema, reads the tool back. -/
theorem Tool.decode_encode {schemaOf descriptionOf : Json → Except PyExc Json}
    {schemaKey returnsKey : String} (t : Tool)
    (hschema : schemaOf (t.encode schemaKey returnsKey) = .ok t.parameters.toJson)
    (hdescription : descriptionOf (t.encode schemaKey returnsKey) = .ok (.str t.description))
    (hname : returnsKey ≠ "name") (hdesc : returnsKey ≠ "description")
    (hkey : returnsKey ≠ schemaKey) :
    Tool.decode schemaOf returnsKey descriptionOf (t.encode schemaKey returnsKey) =
      .ok t.reread := by
  simp only [Tool.decode, hschema, hdescription, Except.ok_bind, parseParameterSchema_toJson]
  rcases hr : t.returns with _ | r <;>
    simp [Tool.encode, hr, Json.index_obj_of_lookup, List.lookup_cons,
      beq_eq_false_iff_ne.2 hname, beq_eq_false_iff_ne.2 hdesc, beq_eq_false_iff_ne.2 hkey,
      Ne.symm hname, Ne.symm hdesc, Ne.symm hkey, parseReturnSchema_dump, Tool.validate, validStr,
      Tool.reread]

theorem Tool.fromJson_toOpenaiFormat (t : Tool) : Tool.fromJson t.toOpenaiFormat = .ok t.reread :=
  t.decode_encode (Json.index_obj_of_lookup rfl) (Json.index_obj_of_lookup rfl) (by decide)
    (by decide) (by decide)

theorem Tool.fromMcp_toMcpFormat (t : Tool) : Tool.fromMcp t.toMcpFormat = .ok t.reread :=
  t.decode_encode rfl rfl (by decide) (by decide) (by decide)

/-- The identification the two formats make: `required = None` is `[]`, and a return schema's
`properties = None` is `{}`. -/
def Tool.normalize (t : Tool) : Tool :=
  { t with
    parameters := { t.parameters with required := some (t.parameters.required.getD []) }
    returns := t.returns.map fun r => { r with properties := some (r.properties.getD Dict.empty) } }

/-- Reading empty properties as `None` loses no more than `None` is `{}`. -/
theorem getD_bind_nonempty {α : Type} (o : Option (Dict α)) :
    (o.bind fun d => if d.entries.isEmpty then none else some d).getD Dict.empty =
      o.getD Dict.empty := by
  rcases o with _ | d
  · rfl
  · by_cases h : d.entries.isEmpty
    · simp only [Option.some_bind, h, ↓reduceIte, Option.getD_none, Option.getD_some]
      exact Dict.ext (List.isEmpty_iff.1 h).symm
    · simp only [Option.some_bind, h, Bool.false_eq_true, ↓reduceIte, Option.getD_some]

theorem Tool.normalize_reread (t : Tool) : t.reread.normalize = t.normalize := by
  rcases t with ⟨name, description, parameters, _ | r⟩ <;>
    simp [Tool.normalize, Tool.reread, ParameterSchema.reread, ReturnSchema.reread,
      getD_bind_nonempty]

theorem Tool.reread_normalize (t : Tool) : t.normalize.reread = t.reread := by
  rcases t with ⟨_, _, _, _ | ⟨_, _, _ | _⟩⟩ <;> rfl

/-- Decoding undoes encoding in both wire formats, up to the identification `Tool.normalize`
makes: every field of the tool, of its schemas and of their properties comes back, with the
properties in the same order. -/
theorem tool_formats_round_trip (t : Tool) :
    (∃ t', Tool.fromJson t.toOpenaiFormat = .ok t' ∧ t'.normalize = t.normalize) ∧
      ∃ t', Tool.fromMcp t.toMcpFormat = .ok t' ∧ t'.normalize = t.normalize :=
  ⟨⟨t.reread, t.fromJson_toOpenaiFormat, t.normalize_reread⟩,
    ⟨t.reread, t.fromMcp_toMcpFormat, t.normalize_reread⟩⟩

/-- The round trip of either format identifies two tools exactly when `Tool.normalize` does. -/
theorem tool_formats_identify_normalized (t t' : Tool) :
    (Tool.fromJson t.toOpenaiFormat = Tool.fromJson t'.toOpenaiFormat ↔
        t.normalize = t'.normalize) ∧
      (Tool.fromMcp t.toMcpFormat = Tool.fromMcp t'.toMcpFormat ↔ t.normalize = t'.normalize) := by
  have key : t.reread = t'.reread ↔ t.normalize = t'.normalize :=
    ⟨fun h => by rw [← t.normalize_reread, h, t'.normalize_reread],
      fun h => by rw [← t.reread_normalize, h, t'.reread_normalize]⟩
  simp only [Tool.fromJson_toOpenaiFormat, Tool.fromMcp_toMcpFormat, Except.ok.injEq, key,
    and_self]

end Capsem.Schema
