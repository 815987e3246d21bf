import AfdPlugin.Lib.Dict
import AfdPlugin.Lib.Fallible
import Mathlib
/-!
# JSON values

The values of JSON documents that hold booleans, integers, arrays and objects.
A document is represented by its value; an object keeps the order in which its
keys are written.
-/

namespace AfdPlugin

inductive Json where
  | bool (b : Bool)
  | int (i : Int)
  | arr (items : List Json)
  | obj (fields : List (String × Json))

namespace Json

/-- An object written with sorted keys. -/
def object (fields : List (String × Json)) : Json := .obj (fields.insertionSort fun a b => a.1 ≤ b.1)

/-- `j[k]`. -/
def field (j : Json) (k : String) : Except String Json :=
  match j with
  | .obj fields => match fields.lookup k with
    | some v => .ok v
    | none => .error s!"KeyError: {k}"
  | _ => .error "TypeError: not an object"

/-- `bool(j.get(k, False))`, for a boolean field. -/
def flag (j : Json) (k : String) : Bool :=
  match j.field k with
  | .ok (.bool b) => b
  | _ => false

def items : Json → Except String (List (String × Json))
  | .obj fields => .ok fields
  | _ => .error "AttributeError: no attribute 'items'"

def elems : Json → Except String (List Json)
  | .arr items => .ok items
  | _ => .error "TypeError: not iterable"

/-- `int(j)` of a JSON number. -/
def toInt : Json → Except String Int
  | .int i => .ok i
  | _ => .error "TypeError: int() argument must be a number"

/-- `int(s)`. -/
def parseInt (s : String) : Except String Int :=
  match s.toInt? with
  | some i => .ok i
  | none => .error s!"invalid literal for int() with base 10: {s}"

theorem parseInt_toString (i : Int) : parseInt (toString i) = .ok i := by
  have h : (toString i).toInt? = some i := Int.toInt?_repr i
  rw [parseInt, h]

/-- Sorting the keys does not change what a key finds. -/
theorem lookup_insertionSort {fields : List (String × Json)} (hn : (fields.map Prod.fst).Nodup)
    (k : String) :
    (fields.insertionSort fun a b => a.1 ≤ b.1).lookup k = fields.lookup k := by
  have hperm := List.perm_insertionSort (fun a b : String × Json => a.1 ≤ b.1) fields
  have hn' := (hperm.map Prod.fst).nodup_iff.2 hn
  refine Option.ext fun v => ?_
  rw [← mem_iff_lookup_eq_some hn', ← mem_iff_lookup_eq_some hn, hperm.mem_iff]

theorem field_object {fields : List (String × Json)} (hn : (fields.map Prod.fst).Nodup) {k : String}
    {v : Json} (h : fields.lookup k = some v) : (object fields).field k = .ok v := by
  rw [object, field, lookup_insertionSort hn, h]

theorem flag_object {fields : List (String × Json)} (hn : (fields.map Prod.fst).Nodup) {k : String}
    {b : Bool} (h : fields.lookup k = some (.bool b)) : (object fields).flag k = b := by
  rw [flag, field_object hn h]

theorem items_object (fields : List (String × Json)) :
    (object fields).items = .ok (fields.insertionSort fun a b => a.1 ≤ b.1) := rfl

@[simp] theorem elems_arr (items : List Json) : (Json.arr items).elems = .ok items := rfl

@[simp] theorem toInt_int (i : Int) : (Json.int i).toInt = .ok i := rfl

end Json

end AfdPlugin
