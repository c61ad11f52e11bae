import QueryTemplate.Template.Lexeme
import QueryTemplate.Template.Token

/-!
# Reading a template

Lexemes become tokens one at a time. What may come next depends on the `Place` that the reader has
reached; an occurrence keyword also looks at the kind of the lexeme after it, because it belongs to
a group when that one is `(`.

* `Place.step` reads one lexeme: it gives at most one token and the next place, or a fault.
* `Place.read` reads a list of them. At a fault it keeps the tokens so far.
* `Reading.ofText` reads a whole template.

The grammar that is read:

* template: one or more groups
* group: an optional occurrence, `(`, one or more clauses, `)`
* clause: an optional occurrence, a field name, a placeholder, decorations
* decoration: `BOOST n`, `FUZZY n`, `WILDCARD` or `CONSTANT`
-/

namespace QueryTemplate

/-- What the reader has before it. -/
inductive Place where
  /-- No group is open. -/
  | outside
  /-- A group is open, and `filled` once it holds a clause; decorations belong to the last one. -/
  | inside (filled : Bool)
  /-- The occurrence keyword `word` was read, and a field name must follow. -/
  | modified (word : String)
  /-- The field `name` was read, and its placeholder must follow. -/
  | named (name : String)
  /-- A weight was read, and its number must follow. If no clause stands before it, `dangling` is
  the position of its keyword. -/
  | weighted (weight : Weight) (dangling : Option Nat)
  deriving DecidableEq, Repr

namespace Place

/-- A step's result: a token, unless the lexeme alone makes none, and the place after it. -/
abbrev Step := Except Fault (Option Token × Place)

def emit (token : Token) (place : Place) : Step := .ok (some token, place)

def fail (position : Nat) (cause : Fault.Cause) : Step := .error ⟨position, cause⟩

/-- Reads `word` where a field name must stand. -/
def stepField (pos : Nat) (word : String) : Step :=
  if isFieldName word then emit (.field word) (named word)
  else fail pos (.invalidFieldName word)

/-- Reads a lexeme while no group is open. -/
def stepOutside (pos : Nat) (next : Option Lexeme.Kind) : Lexeme.Kind → Step
  | .opening => emit .groupOpen (inside false)
  | .closing => fail pos .unbalancedClose
  | .placeholder name => fail pos (.placeholderWithoutField name)
  | .word w =>
    match Keyword.ofWord? w with
    | some (.occurrence o) =>
      if next = some .opening then emit (.groupOccurrence o) outside
      else fail pos (.occurrenceOutsideGroup w)
    | some _ => fail pos (.decorationOutsideGroup w)
    | none => fail pos (.fieldOutsideGroup w)

/-- Reads a decoration that takes no number. -/
def stepDecoration (pos : Nat) (filled : Bool) (d : Decoration) : Step :=
  if filled then emit (.decoration d) (inside true)
  else fail pos (.danglingDecoration d.keyword)

/-- Reads a lexeme inside a group, between clauses. -/
def stepInside (pos : Nat) (next : Option Lexeme.Kind) (filled : Bool) : Lexeme.Kind → Step
  | .opening => fail pos .nestedGroup
  | .closing => if filled then emit .groupClose outside else fail pos .emptyGroup
  | .placeholder name => fail pos (.placeholderWithoutField name)
  | .word w =>
    match Keyword.ofWord? w with
    | some (.occurrence o) =>
      if next = some .opening then fail pos .nestedGroup
      else emit (.fieldOccurrence o) (modified w)
    | some (.weight weight) => .ok (none, weighted weight (if filled then none else some pos))
    | some .wildcard => stepDecoration pos filled .wildcard
    | some .constant => stepDecoration pos filled .constant
    | none => stepField pos w

/-- Reads the number of a weight. It is looked at before the clause that the weight needs. -/
def stepNumber (pos : Nat) (weight : Weight) (dangling : Option Nat) (word : String) : Step :=
  match Text.Numeral.ofChars? word.toList, dangling with
  | none, _ => fail pos (.integerExpected weight)
  | some _, some keywordPos => fail keywordPos (.danglingDecoration weight.keyword)
  | some n, none => emit (.decoration (weight.decoration n)) (inside true)

/-- Reads one lexeme. `next` is the kind of the one after it. -/
def step (place : Place) (lexeme : Lexeme) (next : Option Lexeme.Kind) : Step :=
  let pos := lexeme.position
  match place, lexeme.kind with
  | outside, kind => stepOutside pos next kind
  | inside filled, kind => stepInside pos next filled kind
  | modified _, .word w => stepField pos w
  | modified after, _ => fail pos (.fieldNameExpected after)
  | named _, .placeholder name => emit (.placeholder name) (inside true)
  | named field, _ => fail pos (.placeholderExpected field)
  | weighted weight dangling, .word w => stepNumber pos weight dangling w
  | weighted weight _, _ => fail pos (.integerExpected weight)

/-- What is missing when the template ends here. -/
def missing? : Place → Option Fault.Cause
  | outside => none
  | inside _ => some .unclosedGroup
  | modified after => some (.fieldNameExpected after)
  | named field => some (.placeholderExpected field)
  | weighted weight _ => some (.integerExpected weight)

end Place

/-- The tokens of a template; if it has a fault, those before it. -/
structure Reading where
  tokens : List Token
  fault? : Option Fault
  deriving DecidableEq, Repr

/-- Reads lexemes from `place` on. `stop` is the length of the template, where a fault at its end
is reported. -/
def Place.read (stop : Nat) (place : Place) : List Lexeme → Reading
  | [] => ⟨[], place.missing?.map (⟨stop, ·⟩)⟩
  | lexeme :: rest =>
    match place.step lexeme (rest.head?.map Lexeme.kind) with
    | .error fault => ⟨[], some fault⟩
    | .ok (token?, next) =>
      let reading := next.read stop rest
      ⟨token?.toList ++ reading.tokens, reading.fault?⟩

namespace Reading

/-- Reads the lexemes of a template of `stop` bytes. -/
def ofLexemes (stop : Nat) : List Lexeme → Reading
  | [] => ⟨[], some ⟨0, .emptyTemplate⟩⟩
  | lexemes => Place.outside.read stop lexemes

def ofText (template : String) : Reading :=
  match Lexeme.scan template with
  | .error fault => ⟨[], some fault⟩
  | .ok lexemes => ofLexemes template.utf8ByteSize lexemes

def succeeds (reading : Reading) : Bool := reading.fault?.isNone

/-- The tokens of a reading without a fault. -/
def result (reading : Reading) : Except Fault (List Token) :=
  match reading.fault? with
  | none => .ok reading.tokens
  | some fault => .error fault

end Reading

end QueryTemplate
