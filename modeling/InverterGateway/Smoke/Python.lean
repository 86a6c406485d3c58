/-
# Smoke.Python — the values and exceptions of the release check

What the check reads from the output of commands: bytes, ASCII words and JSON
objects, with the exceptions that a read of another shape raises.
-/
import InverterGateway.Theory.Text

namespace InverterGateway.Smoke.Runtime

open InverterGateway.Theory

set_option autoImplicit false

/-- An exception: the name of its type and its text. -/
structure PyError where
  kind : String
  text : String
  deriving DecidableEq

/-- `need`. -/
def need (ok : Bool) (message : String) : Except PyError Unit :=
  if ok then .ok () else .error ⟨"ValueError", message⟩

theorem need_eq_ok {ok : Bool} {message : String} {u : Unit} :
    need ok message = .ok u ↔ ok = true := by
  unfold need
  cases ok <;> simp

/-! ## Bytes and words -/

abbrev Bytes := List UInt8

/-- `str.encode`. -/
def encode (s : String) : Bytes := s.toList.flatMap String.utf8EncodeChar

/-- `bytes.decode("ascii")`. -/
def decodeAscii (raw : Bytes) : Except PyError String :=
  match raw.findIdx? fun byte => 128 ≤ byte with
  | none => .ok (String.ofList (raw.map fun byte => Char.ofNat byte.toNat))
  | some position => .error ⟨"UnicodeDecodeError",
      "'ascii' codec can't decode byte 0x" ++
        String.ofList (Nat.toDigits 16 ((raw.map UInt8.toNat).getD position 0)) ++
        " in position " ++ toString position ++ ": ordinal not in range(128)"⟩

/-- `bytes.strip`. -/
def strip (raw : Bytes) : Bytes :=
  let blank : UInt8 → Bool := fun byte => byte = 32 || (9 ≤ byte && byte ≤ 13)
  ((raw.dropWhile blank).reverse.dropWhile blank).reverse

/-- `str.split`, of an ASCII text. -/
def words (s : String) : List String :=
  let blank : Char → Bool := fun c =>
    c = ' ' || (9 ≤ c.toNat && c.toNat ≤ 13) || (28 ≤ c.toNat && c.toNat ≤ 31)
  ((s.toList.splitOnP blank).filter fun word => word ≠ []).map String.ofList

/-- `re.fullmatch("[0-9a-f]{n}", s)`. -/
def isHex (n : Nat) (s : String) : Bool :=
  s.toList.length = n && s.toList.all fun c => Text.isDigit c || ('a' ≤ c && c ≤ 'f')

/-! ## JSON -/

/-- A double of a JSON text: `NaN` is refused, a large literal is infinite. -/
inductive PyFloat where
  | finite (q : Rat)
  | infinite (negative : Bool)
  deriving DecidableEq

inductive Json where
  | none
  | bool (b : Bool)
  | int (i : Int)
  | float (x : PyFloat)
  | str (s : String)
  | list (elements : List Json)
  | dict (entries : List (String × Json))

namespace Json

def typeName : Json → String
  | .none => "NoneType"
  | .bool _ => "bool"
  | .int _ => "int"
  | .float _ => "float"
  | .str _ => "str"
  | .list _ => "list"
  | .dict _ => "dict"

def lookup (entries : List (String × Json)) (key : String) : Option Json :=
  (entries.find? fun entry => entry.1 == key).map Prod.snd

/-- `dict.get` with a default. -/
def getOr (v : Json) (key : String) (default : Json) : Except PyError Json :=
  match v with
  | .dict entries => .ok ((lookup entries key).getD default)
  | _ => .error ⟨"AttributeError", "'" ++ v.typeName ++ "' object has no attribute 'get'"⟩

/-- `dict.get`. -/
def get (v : Json) (key : String) : Except PyError Json := v.getOr key .none

/-- `v[key]`. -/
def item (v : Json) (key : String) : Except PyError Json :=
  match v with
  | .dict entries =>
      match lookup entries key with
      | some found => .ok found
      | Option.none => .error ⟨"KeyError", "'" ++ key ++ "'"⟩
  | _ => .error ⟨"TypeError", "'" ++ v.typeName ++ "' object is not subscriptable"⟩

/-- Booleans are numbers too. -/
def number : Json → Option PyFloat
  | .bool b => some (.finite (if b then 1 else 0))
  | .int i => some (.finite i)
  | .float x => some x
  | _ => Option.none

mutual

/-- `==`. -/
def eq : Json → Json → Bool
  | .none, .none => true
  | .str s, .str t => s == t
  | .list xs, .list ys => eqElements xs ys
  | .dict xs, .dict ys => xs.length == ys.length && eqEntries xs ys
  | x, y =>
      match x.number, y.number with
      | some p, some q => p = q
      | _, _ => false

def eqElements : List Json → List Json → Bool
  | [], [] => true
  | x :: xs, y :: ys => eq x y && eqElements xs ys
  | _, _ => false

/-- Each entry is in the other dict, in any order. -/
def eqEntries : List (String × Json) → List (String × Json) → Bool
  | [], _ => true
  | (key, x) :: xs, ys =>
      (match lookup ys key with
        | some y => eq x y
        | Option.none => false) && eqEntries xs ys

end

/-- `s in v`. -/
def contains (v : Json) (s : String) : Except PyError Bool :=
  match v with
  | .list elements => .ok (elements.any fun x => (Json.str s).eq x)
  | .str text => .ok (Text.contains text s)
  | .dict entries => .ok (lookup entries s).isSome
  | _ => .error ⟨"TypeError", "argument of type '" ++ v.typeName ++ "' is not iterable"⟩

def isDict : Json → Bool
  | .dict _ => true
  | _ => false

/-- Only a text equals a text. -/
theorem eq_str {v : Json} {s : String} (same : v.eq (.str s) = true) : v = .str s := by
  cases v with
  | str t =>
      rw [eq, beq_iff_eq] at same
      rw [same]
  | none => simp [eq, number] at same
  | bool b => simp [eq, number] at same
  | int i => simp [eq, number] at same
  | float x => simp [eq, number] at same
  | list xs => simp [eq, number] at same
  | dict xs => simp [eq, number] at same

end Json

/-- `json.loads` with the hooks for objects and for constants such as `NaN`. -/
abbrev JsonLoads := (List (String × Json) → Except PyError (List (String × Json))) →
  (String → Except PyError Json) → Bytes → Except PyError Json

def maxJson : Nat := 4 * 1024 ^ 2

/-- `pairs`: no key twice. -/
def pairs (items : List (String × Json)) : Except PyError (List (String × Json)) :=
  items.foldlM (fun out entry => do
    need (!(out.any fun known => known.1 == entry.1)) "Duplicate JSON key"
    return out ++ [entry]) []

/-- `bad`. -/
def bad (value : String) : Except PyError Json :=
  .error ⟨"ValueError", "Non-finite JSON number: " ++ value⟩

/-- `object_json`. -/
def objectJson (loads : JsonLoads) (raw : Bytes) : Except PyError Json := do
  need (raw.length ≤ maxJson) "JSON too large"
  let data ← loads pairs bad raw
  need data.isDict "JSON object required"
  return data

end InverterGateway.Smoke.Runtime
