import QueryTemplate.Number
import QueryTemplate.Text.Characters

/-!
# Words, tokens and trees

What a template is made of, from its words to the groups that it says.

* `Occurrence` says whether a group or a clause must, should or must not match.
* `Decoration` refines a clause; two of the four kinds, the `Weight`s, carry a number.
* `Keyword` is the closed set of reserved words, read in any ASCII case; `isFieldName` is the
  class of words that may name a field.
* `Token` is one item of a template as a flat list. An occurrence is one token before a group and
  another before a field, although both are written with the same words.
* `Clause` and `Group` are the tree. `Clause.tokens`, `Group.tokens` and `Group.listTokens` write
  it out as the flat list of tokens.
-/

namespace QueryTemplate

/-! ## Occurrence -/

inductive Occurrence where
  | must
  | should
  | mustNot
  deriving DecidableEq, Repr

namespace Occurrence

def keyword : Occurrence → String
  | must => "MUST"
  | should => "SHOULD"
  | mustNot => "MUSTNOT"

def all : List Occurrence := [must, should, mustNot]

end Occurrence

/-! ## Decorations -/

/-- The decorations that take a number. -/
inductive Weight where
  | boost
  | fuzzy
  deriving DecidableEq, Repr

inductive Decoration where
  | boost (n : UInt32)
  | fuzzy (n : UInt32)
  | wildcard
  | constant
  deriving DecidableEq, Repr

def Weight.keyword : Weight → String
  | boost => "BOOST"
  | fuzzy => "FUZZY"

def Weight.decoration : Weight → UInt32 → Decoration
  | boost, n => .boost n
  | fuzzy, n => .fuzzy n

namespace Decoration

def keyword : Decoration → String
  | boost _ => "BOOST"
  | fuzzy _ => "FUZZY"
  | wildcard => "WILDCARD"
  | constant => "CONSTANT"

/-- The decoration as a template writes it. -/
def text : Decoration → String
  | boost n => "BOOST " ++ Text.Numeral.text n
  | fuzzy n => "FUZZY " ++ Text.Numeral.text n
  | wildcard => "WILDCARD"
  | constant => "CONSTANT"

end Decoration

/-! ## Reserved words -/

inductive Keyword where
  | occurrence (o : Occurrence)
  | weight (w : Weight)
  | wildcard
  | constant
  deriving DecidableEq, Repr

namespace Keyword

def spelling : Keyword → String
  | occurrence o => o.keyword
  | weight w => w.keyword
  | wildcard => "WILDCARD"
  | constant => "CONSTANT"

def all : List Keyword :=
  Occurrence.all.map .occurrence ++ [.weight .boost, .weight .fuzzy, .wildcard, .constant]

/-- The keyword that `word` spells in some ASCII case. -/
def ofWord? (word : String) : Option Keyword :=
  all.find? fun k => k.spelling.toList = word.toList.map Char.toUpper

end Keyword

/-- The occurrence that `word` spells in some ASCII case. -/
def Occurrence.ofWord? (word : String) : Option Occurrence :=
  match Keyword.ofWord? word with
  | some (.occurrence o) => some o
  | _ => none

/-! ## Field names -/

def isFieldStart (c : Char) : Bool := Text.isAlphabetic c || c = '_'

def isFieldRest (c : Char) : Bool :=
  Text.isAlphabetic c || Text.isNumeric c || c = '_' || c = '.' || c = '-'

/-- A letter or an underscore, then letters, numbers, underscores, points and hyphens, and no
reserved word. -/
def isFieldName (word : String) : Bool :=
  match word.toList with
  | [] => false
  | c :: cs => isFieldStart c && cs.all isFieldRest && (Keyword.ofWord? word).isNone

/-! ## Tokens -/

inductive Token where
  | groupOpen
  | groupClose
  | groupOccurrence (o : Occurrence)
  | fieldOccurrence (o : Occurrence)
  | field (name : String)
  | placeholder (name : String)
  | decoration (d : Decoration)
  deriving DecidableEq, Repr

namespace Token

/-- The token as a template writes it. -/
def text : Token → String
  | groupOpen => "("
  | groupClose => ")"
  | groupOccurrence o => o.keyword
  | fieldOccurrence o => o.keyword
  | field name => name
  | placeholder name => "<" ++ name ++ ">"
  | decoration d => d.text

def decoration? : Token → Option Decoration
  | decoration d => some d
  | _ => none

/-- The tokens, one space apart. -/
def listText (tokens : List Token) : String := " ".intercalate (tokens.map text)

/-- How many groups the tokens open. -/
def groupCount (tokens : List Token) : Nat := tokens.count groupOpen

end Token

/-! ## Clauses and groups -/

/-- One field with the placeholder that its value is looked up under. -/
structure Clause where
  occurrence? : Option Occurrence
  field : String
  placeholder : String
  decorations : List Decoration
  deriving DecidableEq, Repr

structure Group where
  occurrence? : Option Occurrence
  clauses : List Clause
  deriving DecidableEq, Repr

namespace Clause

def tokens (c : Clause) : List Token :=
  (c.occurrence?.map .fieldOccurrence).toList ++ .field c.field :: .placeholder c.placeholder ::
    c.decorations.map .decoration

end Clause

namespace Group

def tokens (g : Group) : List Token :=
  (g.occurrence?.map .groupOccurrence).toList ++ .groupOpen :: g.clauses.flatMap Clause.tokens ++
    [.groupClose]

def listTokens (gs : List Group) : List Token := gs.flatMap tokens

end Group

end QueryTemplate
