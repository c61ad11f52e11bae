import QueryTemplate.Template.Token

/-!
# Boolean queries

What a template produces: groups of clauses, each with the sign of its occurrence, and the text of
the query language that they are written in.

* `Query.Clause`, `Query.Group` and `Query` are the structure.
* `escape` puts a backslash before every character that the query language gives a meaning.
* `Query.text` writes a query, with its values escaped or as they are.
* `Options` say how much of a template has to be filled, and what becomes of the rest.
-/

namespace QueryTemplate

/-! ## Signs -/

/-- The mark in front of a group or a clause. -/
inductive Sign where
  | plus
  | minus
  | bare
  deriving DecidableEq, Repr

def Sign.text : Sign → String
  | plus => "+"
  | minus => "-"
  | bare => ""

def Occurrence.sign : Occurrence → Sign
  | must => .plus
  | should => .bare
  | mustNot => .minus

/-- The sign of a group or clause that may have no occurrence. -/
def Sign.ofOccurrence? : Option Occurrence → Sign
  | some o => o.sign
  | none => bare

/-! ## Escaping -/

/-- The characters that the query language gives a meaning. -/
def specialChars : List Char := "+-&|!()\x7b\x7d[]^\"~*?:\\/".toList

def escapeChars (cs : List Char) : List Char :=
  cs.flatMap fun c => if c ∈ specialChars then ['\\', c] else [c]

def escape (value : String) : String := String.ofList (escapeChars value.toList)

/-! ## Queries -/

structure Query.Clause where
  sign : Sign
  field : String
  value : String
  boost? : Option UInt32
  fuzzy? : Option UInt32
  wildcard : Bool
  deriving DecidableEq, Repr

structure Query.Group where
  sign : Sign
  clauses : List Query.Clause
  deriving DecidableEq, Repr

abbrev Query := List Query.Group

namespace Query

/-- A weight after its mark, if there is one. -/
def weightText (mark : String) : Option UInt32 → String
  | some n => mark ++ Text.Numeral.text n
  | none => ""

/-- What follows the value inside the parentheses of a clause. -/
def Clause.suffix (c : Clause) : String :=
  weightText "^" c.boost? ++ weightText "~" c.fuzzy? ++ if c.wildcard then "*" else ""

def Clause.text (escaped : Bool) (c : Clause) : String :=
  let value := if escaped then escape c.value else c.value
  c.sign.text ++ c.field ++ ":(" ++ value ++ c.suffix ++ ")"

def Group.text (escaped : Bool) (g : Group) : String :=
  g.sign.text ++ "( " ++ " ".intercalate (g.clauses.map (Clause.text escaped)) ++ " )"

def text (escaped : Bool) (query : Query) : String :=
  " ".intercalate (query.map (Group.text escaped))

end Query

/-! ## Options -/

/-- What becomes of a clause without a value. -/
inductive Policy where
  /-- It is left out. -/
  | skip
  /-- It takes the default value. -/
  | substitute
  deriving DecidableEq, Repr

structure Options where
  /-- A group with fewer clauses that have a value is left out. -/
  minResolved : Nat
  defaultValue : String
  policy : Policy
  /-- Are values escaped? -/
  escaped : Bool
  deriving DecidableEq, Repr

namespace Options

/-- What stands in for a missing value, if anything does. -/
def fallback? (o : Options) : Option String :=
  match o.policy with
  | .skip => none
  | .substitute => some o.defaultValue

/-- Leaves out what has no value and escapes nothing. -/
def plain (minResolved : Nat) (defaultValue : String) : Options :=
  ⟨minResolved, defaultValue, .skip, false⟩

end Options

end QueryTemplate
