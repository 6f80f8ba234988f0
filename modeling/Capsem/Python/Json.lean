import Mathlib.Data.List.Infix

/-! # Python values decoded from JSON, and the Python operations the proxy applies to them

`request.json()` and the provider client turn JSON text into Python values; the endpoints then
read those values with Python's own operations, each of which raises on a value of the wrong
type. This module models both:

* `Json`: a decoded value. An object keeps its members in order, as a `dict` does (`str()`
  shows that order); a number is kept by the text `repr` gives for it.
* `PyExc`: the exception classes the endpoints' `except` clauses tell apart.
* `truthy`, `get`, `iter`, `contains`, `index`: `bool(x)`, `x.get(k, d)`, `for y in x`,
  `k in x` and `x[k]`, with the exception each raises on the wrong type.
* `pyRepr`, `pyStr`: `repr(x)` and `str(x)`, with the quotes and escapes of CPython's
  `unicode_repr`.
* `lower`: `str.lower()`; `UnicodeData` holds the two tables of the Unicode database that it and
  `repr` consult beyond ASCII, which nothing in the source fixes.

## Transcription choices

* Python strings are Lean `String`s; their text is handled as `List Char`. A lone surrogate,
  which `json.loads` accepts in a `\u` escape, is not a Lean `Char` and is left out.
* `dict` lookups find the first member of a key; `json.loads` never builds two members of one key.
* `str.lower()` is taken character by character. The one context rule CPython applies (a final
  capital sigma) maps to a Greek letter either way and never to ASCII.
-/

namespace Capsem
set_option autoImplicit false

/-- A JSON value as `json.loads` returns it. -/
inductive Json where
  | null
  | bool (b : Bool)
  /-- A number, by the text `repr` gives for it: `"3"`, `"1.5"`, `"1e+20"`, `"inf"`. -/
  | num (repr : String)
  | str (s : String)
  | arr (xs : List Json)
  | obj (kvs : List (String × Json))
  deriving Repr, Inhabited

/-- The exceptions the endpoints tell apart. A subclass is folded into the class an `except`
clause tests for: a pydantic `ValidationError` and a `json.JSONDecodeError` are `ValueError`s,
an `httpx.HTTPStatusError` is an `httpx.HTTPError` that carries the upstream status. -/
inductive PyExc where
  /-- `fastapi.HTTPException(status_code, detail)`. -/
  | httpException (statusCode : Nat) (detail : String)
  /-- A `ValueError`, by `str(e)`. -/
  | valueError (msg : String)
  /-- An `httpx.HTTPStatusError` raised for an upstream response of status `statusCode`. -/
  | httpStatusError (statusCode : Nat) (msg : String)
  /-- Any other `httpx.HTTPError`. -/
  | httpError (msg : String)
  /-- Any other `Exception`: `AttributeError`, `TypeError`, `KeyError`, ... -/
  | other (msg : String)
  deriving Repr, DecidableEq

/-- A computation of `Except` that raises nothing: each step returned. -/
theorem Except.bind_eq_ok {ε α β : Type} {x : Except ε α} {f : α → Except ε β} {b : β} :
    x >>= f = .ok b ↔ ∃ a, x = .ok a ∧ f a = .ok b := by
  cases x <;> simp [bind, Except.bind]

@[simp] theorem Except.ok_bind {ε α β : Type} (a : α) (f : α → Except ε β) :
    (Except.ok a >>= f) = f a := rfl

@[simp] theorem Except.pure_eq_ok {ε α : Type} {a b : α} : (pure a : Except ε α) = .ok b ↔ a = b :=
  ⟨fun h => by cases h; rfl, fun h => h ▸ rfl⟩

/-- `sep.join(parts)`. -/
def join (sep : String) (parts : List String) : String :=
  ⟨sep.toList.intercalate (parts.map String.toList)⟩

@[simp] theorem join_singleton (sep t : String) : join sep [t] = t :=
  congrArg String.mk (List.append_nil t.data)

theorem toList_join_cons_cons (sep t t' : String) (ts : List String) :
    (join sep (t :: t' :: ts)).toList = t.toList ++ sep.toList ++ (join sep (t' :: ts)).toList :=
  (List.append_assoc _ _ _).symm

namespace Json

/-! ## Truth, lookup, iteration -/

/-- `type(x).__name__`, for error messages. -/
def typeName : Json → String
  | null => "NoneType"
  | bool _ => "bool"
  | num r => if r.all fun c => c.isDigit || c == '-' then "int" else "float"
  | str _ => "str"
  | arr _ => "list"
  | obj _ => "dict"

/-- `bool(x)`. -/
def truthy : Json → Bool
  | null => false
  | bool b => b
  | num r => !(["0", "0.0", "-0.0"].contains r)
  | str s => !s.isEmpty
  | arr xs => !xs.isEmpty
  | obj kvs => !kvs.isEmpty

/-- `x.get(k, default)`: only a `dict` has `get`. -/
def get (x : Json) (k : String) (default : Json) : Except PyExc Json :=
  match x with
  | obj kvs => .ok ((kvs.lookup k).getD default)
  | _ => .error (.other ("'" ++ x.typeName ++ "' object has no attribute 'get'"))

/-- `x.items()`: only a `dict` has `items`. -/
def items (x : Json) : Except PyExc (List (String × Json)) :=
  match x with
  | obj kvs => .ok kvs
  | _ => .error (.other ("'" ++ x.typeName ++ "' object has no attribute 'items'"))

/-- `for y in x`: a `list` gives its items, a `dict` its keys, a `str` its characters. -/
def iter (x : Json) : Except PyExc (List Json) :=
  match x with
  | arr xs => .ok xs
  | obj kvs => .ok (kvs.map fun kv => str kv.1)
  | str s => .ok (s.toList.map fun c => str (String.singleton c))
  | _ => .error (.other ("'" ++ x.typeName ++ "' object is not iterable"))

/-- `x == k` for a `str` `k`. -/
def isStr (k : String) : Json → Bool
  | str s => s == k
  | _ => false

/-- `k in x` for a `str` `k`: a key of a `dict`, an item of a `list`, a substring of a `str`. -/
def contains (x : Json) (k : String) : Except PyExc Bool :=
  match x with
  | obj kvs => .ok (kvs.any fun kv => kv.1 == k)
  | arr xs => .ok (xs.any (isStr k))
  | str s => .ok (decide (k.toList <:+: s.toList))
  | _ => .error (.other ("argument of type '" ++ x.typeName ++ "' is not iterable"))

/-- `x[k]` for a `str` `k`: only a `dict` takes one. -/
def index (x : Json) (k : String) : Except PyExc Json :=
  match x with
  | obj kvs =>
    match kvs.lookup k with
    | some v => .ok v
    | none => .error (.other ("KeyError: " ++ k))
  | arr _ => .error (.other "list indices must be integers or slices, not str")
  | str _ => .error (.other "string indices must be integers, not 'str'")
  | _ => .error (.other ("'" ++ x.typeName ++ "' object is not subscriptable"))

@[simp] theorem get_obj (kvs : List (String × Json)) (k : String) (d : Json) :
    (obj kvs).get k d = .ok ((kvs.lookup k).getD d) := rfl

theorem index_obj_of_lookup {kvs : List (String × Json)} {k : String} {v : Json}
    (h : kvs.lookup k = some v) : (obj kvs).index k = .ok v := by
  simp only [index, h]

@[simp] theorem iter_arr (xs : List Json) : (arr xs).iter = .ok xs := rfl

@[simp] theorem items_obj (kvs : List (String × Json)) : (obj kvs).items = .ok kvs := rfl

@[simp] theorem contains_obj (kvs : List (String × Json)) (k : String) :
    (obj kvs).contains k = .ok (kvs.any fun kv => kv.1 == k) := rfl

end Json

/-! ## `str.lower()` and `repr()` -/

/-- What `str.lower()` and `str.isprintable()` say of a character beyond ASCII: two tables of
the Unicode character database. A character that is not printable (a control, format, surrogate,
private-use, unassigned or separator character) has no case mapping. -/
structure UnicodeData where
  lower : Char → List Char
  printable : Char → Bool
  lower_of_not_printable : ∀ c, printable c = false → lower c = [c]

/-- The tables of a database with no character beyond ASCII: none is printable, none has a case
mapping. -/
def UnicodeData.asciiOnly : UnicodeData := ⟨fun c => [c], fun _ => false, fun _ _ => rfl⟩

variable (U : UnicodeData)

/-- `c.lower()`: ASCII by `Char.toLower`, the rest by the table. -/
def lowerChar (c : Char) : List Char :=
  if c.toNat < 128 then [c.toLower] else U.lower c

/-- `s.lower()`. -/
def lower (s : List Char) : List Char := s.flatMap (lowerChar U)

/-- `c.isprintable()`: ASCII from space to tilde, the rest by the table. -/
def printable (c : Char) : Bool :=
  if c.toNat < 128 then 32 ≤ c.toNat && c.toNat < 127 else U.printable c

/-- The last `n` hexadecimal digits of `v`, lower case, most significant first. -/
def hexDigits : Nat → Nat → List Char
  | 0, _ => []
  | n + 1, v => hexDigits n (v / 16) ++ [Nat.digitChar (v % 16)]

/-- How `repr` writes one character of a string it quotes with `q`. -/
def escapeChar (q c : Char) : List Char :=
  if c = q ∨ c = '\\' then ['\\', c]
  else if c = '\t' then ['\\', 't']
  else if c = '\n' then ['\\', 'n']
  else if c = '\r' then ['\\', 'r']
  else if printable U c then [c]
  else if c.toNat < 0x100 then '\\' :: 'x' :: hexDigits 2 c.toNat
  else if c.toNat < 0x10000 then '\\' :: 'u' :: hexDigits 4 c.toNat
  else '\\' :: 'U' :: hexDigits 8 c.toNat

/-- The quote `repr` puts around `s`: a double quote when `s` holds a single quote and no double
quote, a single quote otherwise. -/
def quoteFor (s : List Char) : Char :=
  if '\x27' ∈ s ∧ '\x22' ∉ s then '\x22' else '\x27'

/-- `repr(s)` of a string. -/
def reprStr (s : List Char) : List Char :=
  quoteFor s :: s.flatMap (escapeChar U (quoteFor s)) ++ [quoteFor s]

namespace Json

mutual
/-- `repr(x)`. -/
def pyRepr : Json → List Char
  | null => "None".toList
  | bool b => if b then "True".toList else "False".toList
  | num r => r.toList
  | str s => reprStr U s.toList
  | arr xs => '[' :: ", ".toList.intercalate (reprItems xs) ++ [']']
  | obj kvs => '\x7b' :: ", ".toList.intercalate (reprMembers kvs) ++ ['\x7d']

/-- The `repr` of each item of a `list`. -/
def reprItems : List Json → List (List Char)
  | [] => []
  | x :: xs => pyRepr x :: reprItems xs

/-- `repr(k) + ": " + repr(v)` for each member of a `dict`. -/
def reprMembers : List (String × Json) → List (List Char)
  | [] => []
  | (k, v) :: kvs => (reprStr U k.toList ++ ": ".toList ++ pyRepr v) :: reprMembers kvs
end

/-- `str(x)`: a string is its own text, any other value its `repr`. -/
def pyStr : Json → List Char
  | str s => s.toList
  | x => pyRepr U x

end Json
end Capsem
