import CodeAtlas.Json.Reader

/-!
Records in JSON text. A record is an object whose known keys occur at most once and whose other
keys do not matter, or an array of its fields in order of declaration, where fields at the end may
be left out.
-/
namespace CodeAtlas.Json

inductive Refusal where
  | text (fault : Fault)
  | shape
  deriving DecidableEq, Repr

def Refusal.message : Refusal → String
  | text fault => fault.message
  | shape => "unexpected value"

def decodeText {α : Type} (decode? : Json → Option α) (text : String) : Except Refusal α :=
  match ofText text with
  | .error fault => .error (.text fault)
  | .ok value =>
    match decode? value with
    | some decoded => .ok decoded
    | none => .error .shape

def record? (names : List String) : Json → Option (List (Option Json))
  | .object fields =>
    let known := fields.filter fun entry => names.contains entry.1
    if (known.map Prod.fst).Nodup then
      some (names.map fun name => (known.find? fun entry => entry.1 == name).map Prod.snd)
    else none
  | .array elements =>
    if elements.length ≤ names.length then
      some ((elements.map some) ++ List.replicate (names.length - elements.length) none)
    else none
  | _ => none

def string? : Json → Option String
  | .string s => some s
  | _ => none

def bool? : Json → Option Bool
  | .bool b => some b
  | _ => none

/-- Non-negative integers only, never a number with a fraction. -/
def nat? : Json → Option Nat
  | .number (.int n) => if 0 ≤ n then some n.toNat else none
  | _ => none

def listOf? {α : Type} (element? : Json → Option α) : Json → Option (List α)
  | .array elements => elements.mapM element?
  | _ => none

/-- `null` stands for no value. -/
def optional? {α : Type} (value? : Json → Option α) : Json → Option (Option α)
  | .null => some none
  | value => (value? value).map some

def required? {α : Type} (value? : Json → Option α) (field : Option Json) : Option α :=
  field.bind value?

def defaulted? {α : Type} (fallback : α) (value? : Json → Option α) : Option Json → Option α
  | none => some fallback
  | some value => value? value

/-- A name out of a list, alone or as the one key of an object whose value is `null`. -/
def named? {α : Type} (ofName? : String → Option α) : Json → Option α
  | .string s => ofName? s
  | .object [(s, .null)] => ofName? s
  | _ => none

def single? : Json → Option Float32
  | .number (.int n) =>
    let x := Decimal.singleOfNat n.natAbs
    some (if n < 0 then -x else x)
  | .number (.double x) => some (Decimal.toSingle x)
  | .number (.single x) => some x
  | _ => none

end CodeAtlas.Json
