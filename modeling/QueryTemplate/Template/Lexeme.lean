import QueryTemplate.Template.Token

/-!
# Lexemes

The text of a template falls into parentheses, placeholders in angle brackets and words, with
blanks between them. Every lexeme keeps the offset, in UTF-8 bytes, of its first character.

* `scanFrom` reads the lexemes of a list of characters that starts at a given offset.
* `Lexeme.scan` reads a whole template.

A word is as long as it can be: it ends at a blank, a parenthesis or an angle bracket. Inside a
placeholder every character but `>` is part of the name, which is then trimmed.

A template that cannot be read has a `Fault`: a `Cause`, which is what went wrong, and the byte
offset at which it shows. The wording of all faults stands here and nowhere else, also of those
that are found only when the lexemes are read.
-/

namespace QueryTemplate

/-! ## Faults of a template -/

inductive Fault.Cause where
  | unterminatedPlaceholder
  | emptyPlaceholder
  | unexpectedAngle
  | emptyTemplate
  | nestedGroup
  | unbalancedClose
  | emptyGroup
  | unclosedGroup
  | placeholderWithoutField (name : String)
  | occurrenceOutsideGroup (word : String)
  | decorationOutsideGroup (word : String)
  | fieldOutsideGroup (word : String)
  | fieldNameExpected (after : String)
  | invalidFieldName (word : String)
  | placeholderExpected (field : String)
  | integerExpected (weight : Weight)
  | danglingDecoration (keyword : String)
  deriving DecidableEq, Repr

/-- Where a template cannot be read on, as an offset in UTF-8 bytes, and why. -/
structure Fault where
  position : Nat
  cause : Fault.Cause
  deriving DecidableEq, Repr

namespace Fault

def Cause.detail : Cause → String
  | unterminatedPlaceholder => "unterminated placeholder"
  | emptyPlaceholder => "empty placeholder"
  | unexpectedAngle => "unexpected '>'"
  | emptyTemplate => "empty template"
  | nestedGroup => "groups do not nest"
  | unbalancedClose => "unbalanced ')'"
  | emptyGroup => "empty group"
  | unclosedGroup => "unclosed group"
  | placeholderWithoutField name => "placeholder <" ++ name ++ "> without a preceding field"
  | occurrenceOutsideGroup word => word ++ " must precede '(' outside a group"
  | decorationOutsideGroup word => word ++ " outside a group"
  | fieldOutsideGroup word => "field '" ++ word ++ "' outside a group"
  | fieldNameExpected after => "expected field name after " ++ after
  | invalidFieldName word => "'" ++ word ++ "' is not a valid field name"
  | placeholderExpected field => "field '" ++ field ++ "' is missing its <placeholder>"
  | integerExpected weight => weight.keyword ++ " expects a non-negative integer"
  | danglingDecoration keyword => keyword

/-- A decoration with no clause before it is told apart from every other fault. -/
def isDangling (fault : Fault) : Bool :=
  match fault.cause with
  | .danglingDecoration _ => true
  | _ => false

def detail (fault : Fault) : String := fault.cause.detail

def message (fault : Fault) : String :=
  if fault.isDangling then
    fault.detail ++ " at offset " ++ fault.position.repr ++ " has no field clause to decorate"
  else
    "syntax error at offset " ++ fault.position.repr ++ ": " ++ fault.detail

end Fault

/-! ## Lexemes -/

inductive Lexeme.Kind where
  | opening
  | closing
  | placeholder (name : String)
  | word (text : String)
  deriving DecidableEq, Repr

structure Lexeme where
  kind : Lexeme.Kind
  position : Nat
  deriving DecidableEq, Repr

namespace Lexeme

/-- May `c` stand in a word? -/
def isWordChar (c : Char) : Bool :=
  !Text.isBlank c && c != '(' && c != ')' && c != '<' && c != '>'

/-- May `c` stand between `<` and the `>` that ends the placeholder? -/
def isInnerChar (c : Char) : Bool := c != '>'

/-- The length of `cs` in UTF-8 bytes. -/
def byteLength (cs : List Char) : Nat := cs.foldr (fun c n => c.utf8Size + n) 0

/-- The name of the placeholder that opens at `pos`, between its brackets. -/
def placeholderName (pos : Nat) (inner : List Char) : Except Fault String :=
  match Text.trim inner with
  | [] => .error ⟨pos, .emptyPlaceholder⟩
  | name => .ok (String.ofList name)

/-- The lexemes of `cs`, the first character of which has the offset `pos`. -/
def scanFrom (pos : Nat) : List Char → Except Fault (List Lexeme)
  | [] => .ok []
  | c :: cs =>
    if Text.isBlank c then scanFrom (pos + c.utf8Size) cs
    else if c = '(' then do
      let rest ← scanFrom (pos + 1) cs
      return ⟨.opening, pos⟩ :: rest
    else if c = ')' then do
      let rest ← scanFrom (pos + 1) cs
      return ⟨.closing, pos⟩ :: rest
    else if c = '<' then
      let inner := cs.takeWhile isInnerChar
      match h : cs.dropWhile isInnerChar with
      | [] => .error ⟨pos, .unterminatedPlaceholder⟩
      | _ :: after => do
        let name ← placeholderName pos inner
        let rest ← scanFrom (pos + 1 + byteLength inner + 1) after
        return ⟨.placeholder name, pos⟩ :: rest
    else if c = '>' then .error ⟨pos, .unexpectedAngle⟩
    else do
      let word := c :: cs.takeWhile isWordChar
      let rest ← scanFrom (pos + byteLength word) (cs.dropWhile isWordChar)
      return ⟨.word (String.ofList word), pos⟩ :: rest
termination_by cs => cs.length
decreasing_by
  all_goals simp only [List.length_cons]
  · omega
  · omega
  · omega
  · -- what follows the closing bracket is shorter than what followed the opening one
    have := (List.dropWhile_sublist isInnerChar (l := cs)).length_le
    rw [h, List.length_cons] at this
    omega
  · have := (List.dropWhile_sublist isWordChar (l := cs)).length_le
    omega

/-- The lexemes of a template, or the first place where it has none. -/
def scan (template : String) : Except Fault (List Lexeme) := scanFrom 0 template.toList

end Lexeme

end QueryTemplate
