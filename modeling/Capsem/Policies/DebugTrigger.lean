import Capsem.Policies.DebugPolicy

/-! # Where `DebugPolicy` finds its trigger in a flattened value

`on_tool_call` and `on_tool_response` look for `capsem_block` in the text Python makes of a value:
`", ".join(f"{k}={v}")` of the arguments, where `v` is `str(v)`, and `str(response)`. `str()` of a
container is its `repr`, which quotes and escapes each string inside it.

* No hiding: a key or a string of the value, at any depth,
  whose lower case holds the trigger makes the policy block. `repr` writes every character of
  such an occurrence as it is, and escapes only characters whose lower case has no letter of the
  trigger (`escapeChar_keeps_or_avoids`), so the occurrence survives (`infix_flatMap_flatMap`).
* Creation: the escapes are text too. `repr` writes the form feed as the four characters `\x0c`,
  whose last is a `c`, so the string `"\x0capsem_block"` inside a list makes the policy block
  although no key or string holds the trigger.
-/

namespace Capsem
set_option autoImplicit false

namespace Json

mutual
/-- The keys and the strings of a value, at any depth. -/
def texts : Json → List String
  | str s => [s]
  | arr xs => itemsTexts xs
  | obj kvs => membersTexts kvs
  | null | bool _ | num _ => []

/-- The keys and strings of the items of a `list`. -/
def itemsTexts : List Json → List String
  | [] => []
  | x :: xs => texts x ++ itemsTexts xs

/-- The keys, and the keys and strings of the values, of the members of a `dict`. -/
def membersTexts : List (String × Json) → List String
  | [] => []
  | (k, v) :: kvs => k :: (texts v ++ membersTexts kvs)
end

end Json

namespace DebugPolicy

/-! ## Occurrences in lists of characters -/

theorem mem_intersperse_of_mem {α : Type} {sep x : α} :
    ∀ {xs : List α}, x ∈ xs → x ∈ xs.intersperse sep
  | [], h => absurd h (List.not_mem_nil _)
  | [_], h => h
  | _ :: _ :: _, h => by
    rw [List.intersperse_cons₂]
    rcases List.mem_cons.1 h with rfl | h
    · exact List.mem_cons_self _ _
    · exact List.mem_cons_of_mem _ (List.mem_cons_of_mem _ (mem_intersperse_of_mem h))

/-- Each of the lists `sep.join` joins occurs in the result. -/
theorem infix_intercalate {α : Type} {sep r : List α} {ls : List (List α)} (h : r ∈ ls) :
    r <:+: sep.intercalate ls :=
  List.infix_of_mem_flatten (mem_intersperse_of_mem h)

theorem infix_flatMap {α β : Type} (f : α → List β) {a b : List α} (h : a <:+: b) :
    a.flatMap f <:+: b.flatMap f := by
  obtain ⟨s, t, rfl⟩ := h
  simp only [List.flatMap_append]
  exact List.infix_append _ _ _

/-- A prefix of `A ++ M ++ B` that has no character of `M`, where `M` is not empty, is a prefix
of `A`. -/
theorem prefix_of_prefix_append_of_disjoint {M B : List Char} (hM : M ≠ []) :
    ∀ {T A : List Char}, (∀ x ∈ M, x ∉ T) → T <+: A ++ M ++ B → T <+: A := by
  intro T A hdis h
  induction A generalizing T with
  | nil =>
    rcases T with _ | ⟨t, T⟩
    · exact List.nil_prefix
    · obtain ⟨m, M', rfl⟩ := List.exists_cons_of_ne_nil hM
      simp only [List.nil_append, List.cons_append, List.cons_prefix_cons] at h
      exact absurd (by rw [h.1]; exact List.mem_cons_self _ _) (hdis m (List.mem_cons_self _ _))
  | cons a A ih =>
    rcases T with _ | ⟨t, T⟩
    · exact List.nil_prefix
    · simp only [List.cons_append, List.cons_prefix_cons] at h ⊢
      exact ⟨h.1, ih (fun x hx hxT => hdis x hx (List.mem_cons_of_mem _ hxT)) h.2⟩

/-- An occurrence of `T` in `M ++ B`, where `M` has no character of `T`, lies in `B`. -/
theorem infix_of_infix_append_of_disjoint {T M B : List Char} (hT : T ≠ [])
    (hdis : ∀ x ∈ M, x ∉ T) (h : T <:+: M ++ B) : T <:+: B := by
  induction M with
  | nil => exact h
  | cons m M ih =>
    rcases List.infix_cons_iff.1 h with hp | hi
    · obtain ⟨t, T', rfl⟩ := List.exists_cons_of_ne_nil hT
      rw [List.cons_prefix_cons] at hp
      exact absurd (by rw [hp.1]; exact List.mem_cons_self _ _) (hdis m (List.mem_cons_self _ _))
    · exact ih (fun x hx => hdis x (List.mem_cons_of_mem _ hx)) hi

/-- An occurrence of `T` in `A ++ M ++ B`, where `M` is not empty and has no character of `T`,
lies in `A` or in `B`. -/
theorem infix_or_infix_of_disjoint {T A M B : List Char} (hT : T ≠ []) (hM : M ≠ [])
    (hdis : ∀ x ∈ M, x ∉ T) (h : T <:+: A ++ M ++ B) : T <:+: A ∨ T <:+: B := by
  induction A with
  | nil => exact .inr (infix_of_infix_append_of_disjoint hT hdis h)
  | cons a A ih =>
    rcases List.infix_cons_iff.1 h with hp | hi
    · exact .inl (prefix_of_prefix_append_of_disjoint hM hdis hp).isInfix
    · exact (ih hi).imp_left fun h' => List.infix_cons h'

/-- Rewriting each character `c` of `s` into `g c` keeps every occurrence of `T` in the text `f`
makes of `s`, when each character that `g` changes maps under `f` to some characters, none of
them in `T`. -/
theorem infix_flatMap_flatMap {T : List Char} {f g : Char → List Char} (hT : T ≠ [])
    (hg : ∀ c, g c = [c] ∨ (f c ≠ [] ∧ ∀ x ∈ f c, x ∉ T)) :
    ∀ (s A : List Char), T <:+: A ++ s.flatMap f → T <:+: A ++ (s.flatMap g).flatMap f := by
  intro s
  induction s with
  | nil => exact fun _ h => h
  | cons c s ih =>
    intro A h
    rw [List.flatMap_cons] at h
    rw [List.flatMap_cons, List.flatMap_append]
    rcases hg c with hc | ⟨hne, hdis⟩
    · rw [hc, List.flatMap_singleton, ← List.append_assoc]
      exact ih _ (by rwa [List.append_assoc])
    · rcases infix_or_infix_of_disjoint hT hne hdis (by rwa [List.append_assoc]) with h' | h'
      · exact h'.trans (List.prefix_append _ _).isInfix
      · have := ih [] h'
        rw [List.nil_append] at this
        exact this.trans ((List.suffix_append _ _).trans (List.suffix_append _ _)).isInfix

/-! ## The characters of the trigger -/

/-- The trigger is printable ASCII, with no quote and no backslash. -/
theorem trigger_char : ∀ x ∈ debugTrigger.toList,
    32 ≤ x.toNat ∧ x.toNat < 127 ∧ x ≠ '\x27' ∧ x ≠ '\x22' ∧ x ≠ '\\' := by
  decide

variable (U : UnicodeData)

/-- A quote, a backslash, and a character that is not printable: each is its own lower case, and
none is a character of the trigger. -/
theorem lowerChar_of_escaped {c : Char}
    (h : c = '\x27' ∨ c = '\x22' ∨ c = '\\' ∨ printable U c = false) :
    lowerChar U c = [c] ∧ c ∉ debugTrigger.toList := by
  rcases h with rfl | rfl | rfl | h
  iterate 3 exact ⟨rfl, by decide⟩
  unfold lowerChar
  by_cases ha : c.toNat < 128
  · have hn : ¬(32 ≤ c.toNat ∧ c.toNat < 127) := by simpa [printable, ha] using h
    refine ⟨?_, fun hc => hn ⟨(trigger_char c hc).1, (trigger_char c hc).2.1⟩⟩
    simp only [ha, if_true, Char.toLower, List.cons.injEq, and_true]
    rw [if_neg (by omega)]
  · have hp : U.printable c = false := by simpa [printable, ha] using h
    rw [if_neg ha, U.lower_of_not_printable c hp]
    exact ⟨rfl, fun hc => ha (by have := (trigger_char c hc).2.1; omega)⟩

/-- `repr` writes a character as it is, or writes it escaped when its lower case has no character
of the trigger. -/
theorem escapeChar_keeps_or_avoids {q : Char} (hq : q = '\x27' ∨ q = '\x22') (c : Char) :
    escapeChar U q c = [c] ∨
      (lowerChar U c ≠ [] ∧ ∀ x ∈ lowerChar U c, x ∉ debugTrigger.toList) := by
  have avoid : lowerChar U c = [c] ∧ c ∉ debugTrigger.toList →
      lowerChar U c ≠ [] ∧ ∀ x ∈ lowerChar U c, x ∉ debugTrigger.toList := fun ⟨hl, hc⟩ =>
    ⟨by simp [hl], by simpa [hl] using hc⟩
  by_cases hesc : c = q ∨ c = '\\'
  · refine .inr (avoid (lowerChar_of_escaped U ?_))
    rcases hesc with rfl | rfl
    · rcases hq with rfl | rfl <;> simp
    · simp
  by_cases hp : printable U c
  · have hc : c ≠ '\t' ∧ c ≠ '\n' ∧ c ≠ '\r' := by
      refine ⟨?_, ?_, ?_⟩ <;> rintro rfl <;> simp [printable] at hp
    exact .inl (by simp only [escapeChar, hesc, hc.1, hc.2.1, hc.2.2, hp, if_false, if_true])
  · exact .inr (avoid (lowerChar_of_escaped U (.inr (.inr (.inr (by simpa using hp))))))

/-- `repr` of a string keeps every occurrence of the trigger in its lower case. -/
theorem trigger_in_reprStr {s : List Char} (h : debugTrigger.toList <:+: lower U s) :
    debugTrigger.toList <:+: lower U (reprStr U s) := by
  have hq : quoteFor s = '\x27' ∨ quoteFor s = '\x22' := by
    unfold quoteFor; split <;> simp
  have := infix_flatMap_flatMap (by decide) (escapeChar_keeps_or_avoids U hq) s []
    (by simpa [lower] using h)
  simp only [reprStr, lower, List.nil_append, List.cons_append, List.flatMap_cons,
    List.flatMap_append] at this ⊢
  exact this.trans (List.infix_append' _ _ _)

/-! ## Occurrences in `str` of a value -/

theorem infix_lower {a b : List Char} (h : a <:+: b) : lower U a <:+: lower U b :=
  infix_flatMap _ h

mutual
/-- `repr` of a value holds `repr` of each of its keys and strings. -/
theorem reprStr_infix_pyRepr : ∀ (v : Json) {s : String}, s ∈ v.texts →
    reprStr U s.toList <:+: v.pyRepr U
  | .str t, s, h => by
    simp only [Json.texts, List.mem_singleton] at h
    subst h
    exact List.infix_refl _
  | .arr xs, s, h => by
    obtain ⟨r, hr, hs⟩ := reprStr_infix_reprItems xs h
    exact hs.trans ((infix_intercalate hr).trans (List.infix_append ['['] _ _))
  | .obj kvs, s, h => by
    obtain ⟨r, hr, hs⟩ := reprStr_infix_reprMembers kvs h
    exact hs.trans ((infix_intercalate hr).trans (List.infix_append ['\x7b'] _ _))
  | .null, s, h | .bool _, s, h | .num _, s, h => by simp [Json.texts] at h

/-- The `repr` of some item of a `list` holds `repr` of each key and string of its items. -/
theorem reprStr_infix_reprItems : ∀ (xs : List Json) {s : String}, s ∈ Json.itemsTexts xs →
    ∃ r ∈ Json.reprItems U xs, reprStr U s.toList <:+: r
  | [], s, h => by simp [Json.itemsTexts] at h
  | x :: xs, s, h => by
    simp only [Json.itemsTexts, List.mem_append] at h
    rcases h with h | h
    · exact ⟨_, List.mem_cons_self _ _, reprStr_infix_pyRepr x h⟩
    · obtain ⟨r, hr, hs⟩ := reprStr_infix_reprItems xs h
      exact ⟨r, List.mem_cons_of_mem _ hr, hs⟩

/-- The `repr` of some member of a `dict` holds `repr` of each of its keys and strings. -/
theorem reprStr_infix_reprMembers : ∀ (kvs : List (String × Json)) {s : String},
    s ∈ Json.membersTexts kvs → ∃ r ∈ Json.reprMembers U kvs, reprStr U s.toList <:+: r
  | [], s, h => by simp [Json.membersTexts] at h
  | (k, v) :: kvs, s, h => by
    simp only [Json.membersTexts, List.mem_cons, List.mem_append] at h
    rcases h with rfl | h | h
    · exact ⟨_, List.mem_cons_self _ _, ⟨[], ": ".toList ++ v.pyRepr U, by simp⟩⟩
    · exact ⟨_, List.mem_cons_self _ _,
        (reprStr_infix_pyRepr v h).trans (List.suffix_append _ _).isInfix⟩
    · obtain ⟨r, hr, hs⟩ := reprStr_infix_reprMembers kvs h
      exact ⟨r, List.mem_cons_of_mem _ hr, hs⟩
end

/-- `str` of a value holds every occurrence of the trigger in the lower case of its keys and
strings. -/
theorem trigger_in_pyStr {v : Json} {s : String} (hs : s ∈ v.texts)
    (h : debugTrigger.toList <:+: lower U s.toList) :
    debugTrigger.toList <:+: lower U (v.pyStr U) := by
  cases v with
  | str t =>
    simp only [Json.texts, List.mem_singleton] at hs
    subst hs
    exact h
  | _ => exact (trigger_in_reprStr U h).trans (infix_lower U (reprStr_infix_pyRepr U _ hs))

/-- The keys and the strings of the arguments of a tool call, at any depth. -/
def argsTexts (args : List (String × Json)) : List String :=
  args.flatMap fun kv => kv.1 :: kv.2.texts

/-- The flattened arguments hold every occurrence of the trigger in the lower case of their keys
and strings. -/
theorem trigger_in_argsStr {args : List (String × Json)} {s : String} (hs : s ∈ argsTexts args)
    (h : debugTrigger.toList <:+: lower U s.toList) :
    debugTrigger.toList <:+: lower U (argsStr U args) := by
  simp only [argsTexts, List.mem_flatMap, List.mem_cons] at hs
  obtain ⟨⟨k, v⟩, hkv, hs⟩ := hs
  have hpiece : debugTrigger.toList <:+: lower U (k.toList ++ ['='] ++ v.pyStr U) := by
    rcases hs with rfl | hs
    · exact h.trans (infix_lower U ⟨[], ['='] ++ v.pyStr U, by simp⟩)
    · exact (trigger_in_pyStr U hs h).trans (infix_lower U (List.suffix_append _ _).isInfix)
  exact hpiece.trans (infix_lower U (infix_intercalate (List.mem_map_of_mem _ hkv)))

/-- Flattening hides no trigger: `on_tool_call` blocks when the tool's name, or a key or a string
of the arguments at any depth, holds `capsem_block` in lower case, and `on_tool_response` blocks
when a key or a string of the response does. -/
theorem debugPolicy_finds_every_trigger (tool : Tool) (args : List (String × Json))
    (response : Json) :
    ((∃ s, (s = tool.name ∨ s ∈ argsTexts args) ∧ debugTrigger.toList <:+: lower U s.toList) →
      (onToolCall U tool args).verdict = .block) ∧
    ((∃ s ∈ response.texts, debugTrigger.toList <:+: lower U s.toList) →
      (onToolResponse U response).verdict = .block) := by
  refine ⟨fun ⟨s, hs, h⟩ => (onToolCall_block_iff U tool args).2 ?_,
    fun ⟨s, hs, h⟩ => (onToolResponse_block_iff U response).2 (trigger_in_pyStr U hs h)⟩
  rcases hs with rfl | hs
  · exact .inl h
  · exact .inr (trigger_in_argsStr U hs h)

/-- A tool the examples call. -/
def lookupTool : Tool := ⟨"lookup", "Look up a value", .obj [], by decide⟩

theorem debugPolicy_finds_nested_trigger :
    (onToolCall .asciiOnly lookupTool [("where", .obj [("city", .str "Capsem_Block")])]).verdict =
        .block ∧
      (onToolResponse .asciiOnly (.obj [("r", .arr [.str "capsem_block"])])).verdict = .block :=
  ⟨(debugPolicy_finds_every_trigger .asciiOnly lookupTool
      [("where", .obj [("city", .str "Capsem_Block")])] .null).1
      ⟨"Capsem_Block", .inr (by decide), by decide⟩,
    (debugPolicy_finds_every_trigger .asciiOnly lookupTool []
      (.obj [("r", .arr [.str "capsem_block"])])).2 ⟨"capsem_block", by decide, by decide⟩⟩

theorem debugPolicy_blocks_escaped_form_feed :
    (onToolCall .asciiOnly lookupTool [("k", .arr [.str "\x0capsem_block"])]).verdict = .block ∧
      (onToolResponse .asciiOnly (.obj [("k", .arr [.str "\x0capsem_block"])])).verdict = .block ∧
      ∀ s ∈ lookupTool.name :: argsTexts [("k", .arr [.str "\x0capsem_block"])],
        ¬debugTrigger.toList <:+: lower .asciiOnly s.toList := by
  decide

end DebugPolicy
end Capsem
