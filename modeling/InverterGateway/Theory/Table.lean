/-
# Theory.Table — a hash map keyed by text

The observable part of a hash map whose iteration order nothing depends on: the
lookup function.  `insert`, `remove` and `retain` are the three updates, each
with the lookup equation that later proofs rewrite with.
-/
import Mathlib.Logic.Function.Basic

namespace InverterGateway.Theory

set_option autoImplicit false

universe u

/-- A finite map seen through its lookups. -/
@[ext] structure Table (V : Type u) where
  get : String → Option V

namespace Table

variable {V : Type u}

def empty : Table V := ⟨fun _ => none⟩

def insert (t : Table V) (key : String) (value : V) : Table V :=
  ⟨fun k => if k = key then some value else t.get k⟩

def remove (t : Table V) (key : String) : Table V :=
  ⟨fun k => if k = key then none else t.get k⟩

/-- Keep the entries whose key passes the test. -/
def retain (t : Table V) (keep : String → Bool) : Table V :=
  ⟨fun k => if keep k then t.get k else none⟩

@[simp] theorem get_empty (k : String) : (empty : Table V).get k = none := rfl

@[simp] theorem get_insert (t : Table V) (key : String) (value : V) (k : String) :
    (t.insert key value).get k = if k = key then some value else t.get k := rfl

@[simp] theorem get_remove (t : Table V) (key k : String) :
    (t.remove key).get k = if k = key then none else t.get k := rfl

@[simp] theorem get_retain (t : Table V) (keep : String → Bool) (k : String) :
    (t.retain keep).get k = if keep k then t.get k else none := rfl

end Table

end InverterGateway.Theory
