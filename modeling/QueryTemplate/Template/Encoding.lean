import QueryTemplate.Document
import QueryTemplate.Template.Token

/-!
# Tokens as documents

Every token is written as a choice. `Token.toDocument` writes the name alone where there is no
content; `Token.ofDocument?` reads both forms.
-/

namespace QueryTemplate

namespace Occurrence

def name : Occurrence → String
  | must => "Must"
  | should => "Should"
  | mustNot => "MustNot"

def toDocument (o : Occurrence) : Document := .text o.name

def ofDocument? (d : Document) : Option Occurrence := do
  let name ← d.plainChoice?
  all.find? (·.name = name)

end Occurrence

namespace Decoration

def toDocument : Decoration → Document
  | boost n => .record [("Boost", .ofNat n.toNat)]
  | fuzzy n => .record [("Fuzzy", .ofNat n.toNat)]
  | wildcard => .text "Wildcard"
  | constant => .text "Constant"

def ofDocument? (d : Document) : Option Decoration :=
  match d.choice? with
  | some ("Boost", content) => (content.natBelow? UInt32.size).map (boost ∘ UInt32.ofNat)
  | some ("Fuzzy", content) => (content.natBelow? UInt32.size).map (fuzzy ∘ UInt32.ofNat)
  | some ("Wildcard", .null) => some wildcard
  | some ("Constant", .null) => some constant
  | _ => none

end Decoration

namespace Token

def toDocument : Token → Document
  | groupOpen => .text "GroupOpen"
  | groupClose => .text "GroupClose"
  | groupOccurrence o => .record [("GroupModifier", o.toDocument)]
  | fieldOccurrence o => .record [("FieldModifier", o.toDocument)]
  | field name => .record [("Field", .text name)]
  | placeholder name => .record [("Placeholder", .text name)]
  | decoration d => .record [("Decoration", d.toDocument)]

def ofDocument? (d : Document) : Option Token :=
  match d.choice? with
  | some ("GroupOpen", .null) => some groupOpen
  | some ("GroupClose", .null) => some groupClose
  | some ("GroupModifier", content) => (Occurrence.ofDocument? content).map groupOccurrence
  | some ("FieldModifier", content) => (Occurrence.ofDocument? content).map fieldOccurrence
  | some ("Field", content) => content.text?.map field
  | some ("Placeholder", content) => content.text?.map placeholder
  | some ("Decoration", content) => (Decoration.ofDocument? content).map decoration
  | _ => none

/-- A list of tokens. One item that is no token spoils the list. -/
def listOfDocument? : Document → Option (List Token)
  | .list items => items.mapM ofDocument?
  | _ => none

def listToDocument (tokens : List Token) : Document := .list (tokens.map toDocument)

end Token

end QueryTemplate
