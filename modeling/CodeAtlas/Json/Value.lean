import CodeAtlas.Decimal.Layout

/-!
JSON values. An object keeps its fields in the order of its text; as a value of its own it has each
key once, where it stood first, and of equal keys the last one's value.
-/
namespace CodeAtlas

inductive Number where
  | int (n : Int)
  | double (x : Float)
  | single (x : Float32)
  deriving DecidableEq, Repr

inductive Json where
  | null
  | bool (b : Bool)
  | number (n : Number)
  | string (s : String)
  | array (elements : List Json)
  | object (fields : List (String × Json))
  deriving Repr

namespace Json

mutual

def decEq : (a b : Json) → Decidable (a = b)
  | .null, .null => isTrue rfl
  | .bool a, .bool b => decidable_of_iff (a = b) ⟨congrArg _, fun h => by injection h⟩
  | .number a, .number b => decidable_of_iff (a = b) ⟨congrArg _, fun h => by injection h⟩
  | .string a, .string b => decidable_of_iff (a = b) ⟨congrArg _, fun h => by injection h⟩
  | .array a, .array b =>
    match decEqList a b with
    | isTrue h => isTrue (congrArg _ h)
    | isFalse h => isFalse fun e => h (by injection e)
  | .object a, .object b =>
    match decEqFields a b with
    | isTrue h => isTrue (congrArg _ h)
    | isFalse h => isFalse fun e => h (by injection e)
  | .null, .bool _ | .null, .number _ | .null, .string _ | .null, .array _ | .null, .object _
  | .bool _, .null | .bool _, .number _ | .bool _, .string _ | .bool _, .array _
  | .bool _, .object _ | .number _, .null | .number _, .bool _ | .number _, .string _
  | .number _, .array _ | .number _, .object _ | .string _, .null | .string _, .bool _
  | .string _, .number _ | .string _, .array _ | .string _, .object _ | .array _, .null
  | .array _, .bool _ | .array _, .number _ | .array _, .string _ | .array _, .object _
  | .object _, .null | .object _, .bool _ | .object _, .number _ | .object _, .string _
  | .object _, .array _ => isFalse (by intro h; cases h)

def decEqList : (a b : List Json) → Decidable (a = b)
  | [], [] => isTrue rfl
  | [], _ :: _ => isFalse (by intro h; cases h)
  | _ :: _, [] => isFalse (by intro h; cases h)
  | x :: xs, y :: ys =>
    match decEq x y, decEqList xs ys with
    | isTrue h, isTrue hs => isTrue (by rw [h, hs])
    | isFalse h, _ => isFalse fun e => h (by injection e)
    | _, isFalse hs => isFalse fun e => hs (by injection e)

def decEqFields : (a b : List (String × Json)) → Decidable (a = b)
  | [], [] => isTrue rfl
  | [], _ :: _ => isFalse (by intro h; cases h)
  | _ :: _, [] => isFalse (by intro h; cases h)
  | (k, x) :: xs, (l, y) :: ys =>
    match decEq x y, decEqFields xs ys with
    | isTrue h, isTrue hs =>
      if hk : k = l then isTrue (by rw [h, hs, hk])
      else isFalse fun e => hk (by injection e with e _; injection e)
    | isFalse h, _ => isFalse fun e => h (by injection e with e _; injection e)
    | _, isFalse hs => isFalse fun e => hs (by injection e)

end

instance : DecidableEq Json := decEq

instance : Inhabited Json := ⟨.null⟩

def ofNat (n : Nat) : Json := .number (.int n)

def ofStrings (xs : List String) : Json := .array (xs.map .string)

def insertField {α : Type} (key : String) (value : α) : List (String × α) → List (String × α)
  | [] => [(key, value)]
  | (k, v) :: rest =>
    if key < k then (key, value) :: (k, v) :: rest
    else if key = k then (key, value) :: rest
    else (k, v) :: insertField key value rest

def sortFields {α : Type} (fields : List (String × α)) : List (String × α) :=
  fields.foldl (fun sorted entry => insertField entry.1 entry.2 sorted) []

/-- Puts a field in place of one with the same key, or at the end. -/
def putField {α : Type} (key : String) (value : α) : List (String × α) → List (String × α)
  | [] => [(key, value)]
  | (k, v) :: rest => if key = k then (key, value) :: rest else (k, v) :: putField key value rest

def mergeFields {α : Type} (fields : List (String × α)) : List (String × α) :=
  fields.foldl (fun merged entry => putField entry.1 entry.2 merged) []

mutual

/-- Objects with each key once, at every depth. -/
def canonical : Json → Json
  | .array elements => .array (canonicalList elements)
  | .object fields => .object (mergeFields (canonicalFields fields))
  | value => value

def canonicalList : List Json → List Json
  | [] => []
  | x :: xs => canonical x :: canonicalList xs

def canonicalFields : List (String × Json) → List (String × Json)
  | [] => []
  | (k, x) :: xs => (k, canonical x) :: canonicalFields xs

end

/-- The first field with this key. -/
def field? (key : String) : Json → Option Json
  | .object fields => (fields.find? fun entry => entry.1 == key).map Prod.snd
  | _ => none

end Json
end CodeAtlas
