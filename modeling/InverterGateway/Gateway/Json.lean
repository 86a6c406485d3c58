/-
# Gateway.Json — JSON values as the gateway reads them

`serde_json` values with the accessors the gateway calls, and the compact
rendering it publishes.  A number keeps its kind (unsigned, negative or
floating), because the integer accessors refuse floats even when whole.  An
object is its entry list in key order; lookups find the first entry of a key,
and `insert` keeps one entry per key.
-/
import InverterGateway.Theory.Binary64

namespace InverterGateway.Gateway

open InverterGateway.Theory

set_option autoImplicit false

/-- A JSON number: an unsigned 64-bit integer, a negative one, or a double. -/
inductive Number (F : Type) where
  | posInt (n : UInt64)
  | negInt (i : Int) (negative : i < 0) (fits : -2 ^ 63 ≤ i)
  | float (x : F)

inductive Value (F : Type) where
  | null
  | bool (b : Bool)
  | number (n : Number F)
  | string (s : String)
  | array (elements : List (Value F))
  | object (entries : List (String × Value F))

/-- The entries of a JSON object. -/
abbrev Entries (F : Type) := List (String × Value F)

namespace Entries

variable {F : Type}

def get : Entries F → String → Option (Value F)
  | [], _ => none
  | (k, v) :: rest, key => if k = key then some v else get rest key

/-- Replace the entry of `key`, or add one at its place in the key order. -/
def insert (m : Entries F) (key : String) (value : Value F) : Entries F :=
  match m with
  | [] => [(key, value)]
  | (k, v) :: rest =>
      if k = key then (key, value) :: rest
      else if key < k then (key, value) :: (k, v) :: rest
      else (k, v) :: insert rest key value

theorem get_insert (m : Entries F) (key : String) (value : Value F) (k : String) :
    (insert m key value).get k = if k = key then some value else m.get k := by
  induction m with
  | nil => simp only [insert, get, eq_comm]
  | cons entry rest ih =>
      obtain ⟨k', v⟩ := entry
      simp only [insert]
      split
      · rename_i same
        subst same
        by_cases hit : k' = k
        · simp [get, hit]
        · simp [get, hit, Ne.symm hit]
      · rename_i different
        split
        · simp only [get, eq_comm]
        · simp only [get, ih]
          by_cases here : k' = k
          · subst here; simp [different]
          · simp [here]

end Entries

namespace Value

variable {F : Type}

def isNull : Value F → Bool
  | .null => true
  | _ => false

def isBoolean : Value F → Bool
  | .bool _ => true
  | _ => false

def isString : Value F → Bool
  | .string _ => true
  | _ => false

def isObject : Value F → Bool
  | .object _ => true
  | _ => false

def asBool : Value F → Option Bool
  | .bool b => some b
  | _ => none

def asStr : Value F → Option String
  | .string s => some s
  | _ => none

def asObject : Value F → Option (Entries F)
  | .object m => some m
  | _ => none

/-- Only unsigned integers: a whole-valued float is not one. -/
def asU64 : Value F → Option Nat
  | .number (.posInt n) => some n.toNat
  | _ => none

def asI64 : Value F → Option Int
  | .number (.posInt n) => if n.toNat < 2 ^ 63 then some n.toNat else none
  | .number (.negInt i _ _) => some i
  | _ => none

/-- Every kind of number, converted. -/
def asF64 [Binary64 F] : Value F → Option F
  | .number (.posInt n) => some (Binary64.ofNat n.toNat)
  | .number (.negInt i _ _) => some (Binary64.ofInt i)
  | .number (.float x) => some x
  | _ => none

/-- `Value::get` of a key: only objects have one. -/
def get (v : Value F) (key : String) : Option (Value F) :=
  v.asObject.bind fun m => m.get key

@[simp] theorem isNull_iff {v : Value F} : v.isNull = true ↔ v = .null := by
  cases v <;> simp [isNull]

@[simp] theorem isObject_iff {v : Value F} : v.isObject = true ↔ ∃ m, v = .object m := by
  cases v <;> simp [isObject]

@[simp] theorem asObject_eq_some {v : Value F} {m : Entries F} :
    v.asObject = some m ↔ v = .object m := by
  cases v <;> simp [asObject]

@[simp] theorem asBool_eq_some {v : Value F} {b : Bool} : v.asBool = some b ↔ v = .bool b := by
  cases v <;> simp [asBool]

@[simp] theorem asStr_eq_some {v : Value F} {s : String} : v.asStr = some s ↔ v = .string s := by
  cases v <;> simp [asStr]

@[simp] theorem isBoolean_iff {v : Value F} : v.isBoolean = true ↔ ∃ b, v = .bool b := by
  cases v <;> simp [isBoolean]

@[simp] theorem get_object (m : Entries F) (key : String) : (object m).get key = m.get key := rfl

/-! ## Rendering -/

/-- A lowercase hexadecimal digit. -/
def hexDigit (n : Nat) : Char :=
  if n < 10 then Char.ofNat ('0'.toNat + n) else Char.ofNat ('a'.toNat + (n - 10))

/-- One character inside a rendered string. -/
def escapeChar (c : Char) : List Char :=
  if c = '"' then ['\\', '"']
  else if c = '\\' then ['\\', '\\']
  else if c.toNat = 0x08 then ['\\', 'b']
  else if c.toNat = 0x09 then ['\\', 't']
  else if c.toNat = 0x0A then ['\\', 'n']
  else if c.toNat = 0x0C then ['\\', 'f']
  else if c.toNat = 0x0D then ['\\', 'r']
  else if c.toNat < 0x20 then ['\\', 'u', '0', '0', hexDigit (c.toNat / 16), hexDigit (c.toNat % 16)]
  else [c]

def quote (s : String) : String :=
  "\"" ++ String.ofList (s.toList.flatMap escapeChar) ++ "\""

def renderNumber [Binary64 F] : Number F → String
  | .posInt n => toString n.toNat
  | .negInt i _ _ => toString i
  | .float x => Binary64.shortest x

mutual

/-- `Value::to_string`: the compact rendering. -/
def render [Binary64 F] : Value F → String
  | .null => "null"
  | .bool b => if b then "true" else "false"
  | .number n => renderNumber n
  | .string s => quote s
  | .array elements => "[" ++ String.intercalate "," (renderElements elements) ++ "]"
  | .object entries => "\x7b" ++ String.intercalate "," (renderEntries entries) ++ "\x7d"

def renderElements [Binary64 F] : List (Value F) → List String
  | [] => []
  | v :: rest => render v :: renderElements rest

def renderEntries [Binary64 F] : List (String × Value F) → List String
  | [] => []
  | (key, v) :: rest => (quote key ++ ":" ++ render v) :: renderEntries rest

end

end Value

end InverterGateway.Gateway
