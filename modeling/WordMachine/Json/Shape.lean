import WordMachine.Json.Basic

/-!
# Shapes of JSON values

How typed values are read off a tree. A record is an object or an array with the same values in
order; a choice is a string, or an object whose one field names the choice and holds its content.
-/

namespace WordMachine.Json

/-- A number below `bound`, written as an integer without a sign. -/
def nat? (bound : Nat) : Json → Option Nat
  | .num lexeme =>
    if lexeme.toList.all Char.isDigit then
      match lexeme.toNat? with
      | some n => if n < bound then some n else none
      | none => none
    else none
  | _ => none

def byte? (j : Json) : Option UInt8 := (j.nat? 256).map UInt8.ofNat

def word? (j : Json) : Option UInt16 := (j.nat? 65536).map UInt16.ofNat

/-- Every item of an array, read alike. -/
def list? {α : Type} (item? : Json → Option α) : Json → Option (List α)
  | .arr items => items.mapM item?
  | _ => none

/-- What a record does with a field that it does not know. -/
inductive Unknown where
  | ignored
  | refused
  deriving DecidableEq, Repr

/-- The values of the named fields in order, none for a field that is missing. No field that is
named may be repeated. -/
def record? (unknown : Unknown) (names : List String) : Json → Option (List (Option Json))
  | .arr items =>
    if items.length ≤ names.length then
      some (items.map some ++ List.replicate (names.length - items.length) none)
    else none
  | .obj fields => do
    let fields ← fields.mapM fun (name, value) => name.map (·, value)
    if unknown = .refused then
      guard (fields.all fun (name, _) => names.contains name)
    names.mapM fun name =>
      match fields.filter (·.1 == name) with
      | [] => some none
      | [(_, value)] => some (some value)
      | _ => none
  | _ => none

/-- The name of a choice and its content, if it has any. -/
def choice? : Json → Option (String × Option Json)
  | .str (some name) => some (name, none)
  | .obj [(some name, content)] => some (name, some content)
  | _ => none

/-- The name of a choice without content. -/
def name? (j : Json) : Option String :=
  match j.choice? with
  | some (name, none) => some name
  | some (name, some .null) => some name
  | _ => none

end WordMachine.Json
