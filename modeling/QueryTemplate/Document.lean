/-!
# Documents

Structured values in the shape of a JSON text. Tokens and settings are exchanged as documents.

A choice among named alternatives is written as its name, or as a record whose only member is the
name with the content of the alternative. An alternative without content has the content `null`, so
the name alone says the same.
-/

namespace QueryTemplate

inductive Document where
  | null
  | truth (b : Bool)
  | integer (n : Int)
  /-- A number with a fraction or an exponent, as it was written. -/
  | decimal (literal : String)
  | text (s : String)
  | list (items : List Document)
  | record (members : List (String × Document))

namespace Document

def ofNat (n : Nat) : Document := .integer n

/-- The name and the content of a choice. -/
def choice? : Document → Option (String × Document)
  | text name => some (name, null)
  | record [(name, content)] => some (name, content)
  | _ => none

/-- A choice without content. -/
def plainChoice? (d : Document) : Option String :=
  match d.choice? with
  | some (name, null) => some name
  | _ => none

def text? : Document → Option String
  | text s => some s
  | _ => none

def truth? : Document → Option Bool
  | truth b => some b
  | _ => none

/-- A whole number below `bound`. -/
def natBelow? (bound : Nat) : Document → Option Nat
  | integer n => if 0 ≤ n ∧ n < bound then some n.toNat else none
  | _ => none

/-- The member of a record with the given name, or the item of a list at the given position. -/
def member? (d : Document) (position : Nat) (name : String) : Option Document :=
  match d with
  | record members => members.lookup name
  | list items => items[position]?
  | _ => none

end Document

end QueryTemplate
