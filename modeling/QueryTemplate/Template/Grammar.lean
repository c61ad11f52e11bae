import QueryTemplate.Template.Lexeme
import QueryTemplate.Template.Token

/-!
# The grammar of templates

Which sequences of lexemes spell which groups, said by rules and not by a reader. Only the kinds of
the lexemes matter, not where they stand.

* `Keyword.SpeltBy`: a keyword may be written in any ASCII case.
* `Decoration.Spelt`, `Clause.Spelt` and `Group.Spelt` are the rules of the three levels.
* `SpeltList` puts any number of items one after the other.
* `Group.SpellTemplate`: a template is one group or more.
* `Group.Printable` holds of the groups that a template can spell at all.
-/

namespace QueryTemplate

/-! ## Keywords -/

/-- The word is the keyword in some ASCII case. -/
def Keyword.SpeltBy (k : Keyword) (word : String) : Prop :=
  word.toList.map Char.toUpper = k.spelling.toList

/-- An occurrence is spelt by its keyword, and the absence of one by nothing. -/
inductive Occurrence.Spelt : Option Occurrence → List Lexeme.Kind → Prop where
  | none : Spelt none []
  | some {o : Occurrence} {word : String} (h : (Keyword.occurrence o).SpeltBy word) :
      Spelt (some o) [.word word]

/-! ## Clauses and groups -/

/-- Items spelt one after the other. -/
inductive SpeltList {α : Type} (Spelt : α → List Lexeme.Kind → Prop) :
    List α → List Lexeme.Kind → Prop where
  | nil : SpeltList Spelt [] []
  | cons {a : α} {as : List α} {ks rest : List Lexeme.Kind}
      (head : Spelt a ks) (tail : SpeltList Spelt as rest) :
      SpeltList Spelt (a :: as) (ks ++ rest)

/-- A weight is spelt by its keyword and the canonical numeral of its number. -/
inductive Decoration.Spelt : Decoration → List Lexeme.Kind → Prop where
  | weight {w : Weight} {n : UInt32} {word : String} (h : (Keyword.weight w).SpeltBy word) :
      Spelt (w.decoration n) [.word word, .word (Text.Numeral.text n)]
  | wildcard {word : String} (h : Keyword.wildcard.SpeltBy word) : Spelt .wildcard [.word word]
  | constant {word : String} (h : Keyword.constant.SpeltBy word) : Spelt .constant [.word word]

inductive Clause.Spelt : Clause → List Lexeme.Kind → Prop where
  | intro {c : Clause} {os ds : List Lexeme.Kind}
      (occurrence : Occurrence.Spelt c.occurrence? os)
      (field : isFieldName c.field = true)
      (decorations : SpeltList Decoration.Spelt c.decorations ds) :
      Spelt c (os ++ .word c.field :: .placeholder c.placeholder :: ds)

inductive Group.Spelt : Group → List Lexeme.Kind → Prop where
  | intro {g : Group} {os cs : List Lexeme.Kind}
      (occurrence : Occurrence.Spelt g.occurrence? os)
      (nonempty : g.clauses ≠ [])
      (clauses : SpeltList Clause.Spelt g.clauses cs) :
      Spelt g (os ++ .opening :: cs ++ [.closing])

/-- The lexemes of a template spell one group or more. -/
def Group.SpellTemplate (gs : List Group) (kinds : List Lexeme.Kind) : Prop :=
  gs ≠ [] ∧ SpeltList Group.Spelt gs kinds

/-! ## What can be written -/

/-- The name of a placeholder has no `>` and no blanks around it, and it is not empty. -/
def isPlaceholderName (name : String) : Bool :=
  !name.isEmpty && !name.toList.contains '>' && Text.trim name.toList = name.toList

def Clause.Printable (c : Clause) : Prop :=
  isFieldName c.field = true ∧ isPlaceholderName c.placeholder = true

/-- Groups that the text of a template can hold. -/
def Group.Printable (g : Group) : Prop := g.clauses ≠ [] ∧ ∀ c ∈ g.clauses, c.Printable

end QueryTemplate
