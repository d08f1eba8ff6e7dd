import WebAcl.Number.Binary64
import WebAcl.Value.Calendar

namespace WebAcl

open Number

inductive Value where
  | null
  | bool (b : Bool)
  | int (i : Int)
  | float (x : Binary64)
  | str (s : String)
  | bytes (bs : List UInt8)
  | date (d : Date)
  | timestamp (t : Timestamp)
  | list (items : List Value)
  | tuple (items : List Value)
  | set (items : List Value)
  | map (entries : List (Value × Value))
  | frozenMap (entries : List (Value × Value))
  /-- A list or map that lies inside itself, where it is met again. -/
  | endless

instance : Inhabited Value := ⟨.null⟩

namespace Value

def toInt? : Value → Option Int
  | bool b => some (if b then 1 else 0)
  | int i => some i
  | float x => x.toInt?
  | _ => none

/-- Equality of values without parts. Numbers are compared by value, so that `1`, `1.0` and `true`
are the same. -/
def sameScalar : Value → Value → Bool
  | null, null => true
  | float x, float y => x.toRatio?.isSome && x.toRatio? == y.toRatio? || x == y
  | str s, str t => s == t
  | bytes s, bytes t => s == t
  | date d, date e => d == e
  | timestamp t, timestamp u => t.same u
  | v, w => v.toInt?.isSome && v.toInt? == w.toInt?

mutual

/-- Equality of data. The order of map entries does not count, nor does it count whether a map is
frozen. -/
def same : Value → Value → Bool
  | list xs, w => match w with
    | list ys => sameItems xs ys
    | _ => false
  -- a tuple is never the same as a list
  | tuple xs, w => match w with
    | tuple ys => sameItems xs ys
    | _ => false
  | set xs, w => match w with
    | set ys => xs.length == ys.length && itemsWithin xs ys
    | _ => false
  | map es, w => match w with
    | map fs => es.length == fs.length && entriesWithin es fs
    | frozenMap fs => es.length == fs.length && entriesWithin es fs
    | _ => false
  | frozenMap es, w => match w with
    | map fs => es.length == fs.length && entriesWithin es fs
    | frozenMap fs => es.length == fs.length && entriesWithin es fs
    | _ => false
  | v, w => sameScalar v w

def sameItems : List Value → List Value → Bool
  | [], [] => true
  | x :: xs, y :: ys => same x y && sameItems xs ys
  | _, _ => false

def itemsWithin : List Value → List Value → Bool
  | [], _ => true
  | x :: xs, ys => ys.any (same x ·) && itemsWithin xs ys

def entriesWithin : List (Value × Value) → List (Value × Value) → Bool
  | [], _ => true
  | (k, v) :: es, fs => fs.any (fun f ↦ same k f.1 && same v f.2) && entriesWithin es fs

end

def lookup? (key : Value) (entries : List (Value × Value)) : Option Value :=
  (entries.find? fun e ↦ e.1.same key).map (·.2)

/-- Sets the value of a key. A key that is already present keeps its place and its spelling. -/
def insert (key v : Value) : List (Value × Value) → List (Value × Value)
  | [] => [(key, v)]
  | e :: es => if e.1.same key then (e.1, v) :: es else e :: insert key v es

theorem same_str (s t : String) : (str s).same (str t) = (s == t) := by
  simp [same, sameScalar]

theorem eq_str_of_same {v : Value} {s : String} (h : v.same (str s) = true) : v = str s := by
  cases v with
  | str t =>
    rw [same_str] at h
    rw [beq_iff_eq.mp h]
  | float x =>
    simp only [same, sameScalar, toInt?, Option.isSome_iff_ne_none, Bool.and_eq_true,
      beq_iff_eq] at h
    exact absurd h.2 h.1
  | _ => simp [same, sameScalar, toInt?] at h

theorem lookup?_insert (key : String) (v : Value) (entries : List (Value × Value)) :
    lookup? (str key) (insert (str key) v entries) = some v := by
  unfold lookup?
  induction entries with
  | nil => simp [insert, same_str]
  | cons e entries ih =>
    rw [insert]
    split
    next h => simp [h]
    next h => simpa [h] using ih

theorem lookup?_insert_of_ne {key key' : String} (h : key ≠ key') (v : Value)
    (entries : List (Value × Value)) :
    lookup? (str key) (insert (str key') v entries) = lookup? (str key) entries := by
  unfold lookup?
  induction entries with
  | nil => simp [insert, same_str, Ne.symm h]
  | cons e entries ih =>
    rw [insert]
    split
    next hsame =>
      have hother : e.1.same (str key) = false := by
        rw [eq_str_of_same hsame, same_str]
        exact beq_eq_false_iff_ne.mpr (Ne.symm h)
      simp [hother]
    next =>
      rw [List.find?_cons, List.find?_cons]
      split
      · rfl
      · exact ih

def record (fields : List (String × Value)) : Value :=
  map (fields.map fun f ↦ (str f.1, f.2))

def ofFields (fields : List (String × Value)) : Value :=
  map (fields.foldl (fun es f ↦ insert (str f.1) f.2 es) [])

def strings (ss : List String) : Value :=
  list (ss.map str)

def isTruthy : Value → Bool
  | null => false
  | bool b => b
  | int i => i != 0
  | float x => x.toRatio?.all (·.1 != 0)
  | str s => s != ""
  | bytes bs => !bs.isEmpty
  | date _ | timestamp _ | endless => true
  | list xs | tuple xs | set xs => !xs.isEmpty
  | map es | frozenMap es => !es.isEmpty

def kindName : Value → String
  | null => "NoneType"
  | bool _ => "bool"
  | int _ => "int"
  | float _ => "float"
  | str _ => "str"
  | bytes _ => "bytes"
  | date _ => "date"
  | timestamp _ => "datetime"
  | list _ => "list"
  | tuple _ => "tuple"
  | set _ => "set"
  | map _ => "dict"
  | frozenMap _ => "FrozenMapping"
  | endless => "dict"

end Value

end WebAcl
