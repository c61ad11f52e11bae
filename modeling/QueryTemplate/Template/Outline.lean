import QueryTemplate.Template.Token

/-!
# From tokens to groups

A list of tokens may come from anywhere, so its shape is checked when its groups are needed. The
check walks the tokens once; `OutlineState` is what it has put together so far, and a `ShapeFault`
names the first token that does not fit.

* `OutlineState.step` takes one token.
* `outlineFrom` walks the rest of the tokens.
* `outline` gives the groups of a whole list, in order.
-/

namespace QueryTemplate

/-! ## Faults -/

inductive ShapeFault.Cause where
  | fieldWithoutPlaceholder
  | placeholderWithoutField
  | decorationWithoutField
  | strayOccurrence
  | nestedGroup
  | unbalancedClose
  | outsideGroup
  | unclosedGroup
  deriving DecidableEq, Repr

/-- The index of the token that does not fit, and why. A group that is never closed is named by the
token that opens it. -/
structure ShapeFault where
  cause : ShapeFault.Cause
  index : Nat
  deriving DecidableEq, Repr

def ShapeFault.message (fault : ShapeFault) : String :=
  let token := "token " ++ fault.index.repr ++ ": "
  match fault.cause with
  | .fieldWithoutPlaceholder => token ++ "field has no placeholder"
  | .placeholderWithoutField => token ++ "placeholder has no preceding field"
  | .decorationWithoutField => token ++ "decoration has no field clause"
  | .strayOccurrence => token ++ "modifier is not followed by a group or field"
  | .nestedGroup => token ++ "groups do not nest"
  | .unbalancedClose => token ++ "')' without an open group"
  | .outsideGroup => token ++ "clause outside a group"
  | .unclosedGroup => "group opened at token " ++ fault.index.repr ++ " is never closed"

/-! ## The group being built -/

/-- A group that is still open, with the index of the token that opened it. Its clauses are kept
newest first. -/
structure OpenGroup where
  start : Nat
  occurrence? : Option Occurrence
  recent : List Clause
  deriving DecidableEq, Repr

namespace OpenGroup

def close (g : OpenGroup) : Group := ⟨g.occurrence?, g.recent.reverse⟩

def addClause (g : OpenGroup) (c : Clause) : OpenGroup := { g with recent := c :: g.recent }

/-- Adds a decoration to the last clause, if there is one. -/
def decorate? (g : OpenGroup) (d : Decoration) : Option OpenGroup :=
  match g.recent with
  | [] => none
  | c :: cs => some { g with recent := { c with decorations := c.decorations ++ [d] } :: cs }

end OpenGroup

/-! ## The walk -/

/-- Where the walk stands. An index is that of the token that made it wait. -/
inductive OutlineState where
  /-- No group is open. -/
  | outside
  /-- An occurrence waits for its group. -/
  | announced (index : Nat) (o : Occurrence)
  /-- A group is open. -/
  | inside (g : OpenGroup)
  /-- An occurrence waits for its field. -/
  | modified (g : OpenGroup) (index : Nat) (o : Occurrence)
  /-- A field waits for its placeholder. -/
  | named (g : OpenGroup) (index : Nat) (occurrence? : Option Occurrence) (field : String)
  deriving DecidableEq, Repr

namespace OutlineState

/-- A step's result: the group that the token closes, if it closes one, and the state after it. -/
abbrev Step := Except ShapeFault (Option Group × OutlineState)

def proceed (state : OutlineState) : Step := .ok (none, state)

def fail (cause : ShapeFault.Cause) (index : Nat) : Step := .error ⟨cause, index⟩

/-- Takes the token at index `i` while no group is open. -/
def stepOutside (i : Nat) : Token → Step
  | .groupOpen => (inside ⟨i, none, []⟩).proceed
  | .groupOccurrence o => (announced i o).proceed
  | .groupClose => fail .unbalancedClose i
  | .fieldOccurrence _ => fail .outsideGroup i
  | .field _ => fail .outsideGroup i
  | .placeholder _ => fail .placeholderWithoutField i
  | .decoration _ => fail .decorationWithoutField i

/-- Takes the token at index `i` inside `g`, between clauses. -/
def stepInside (i : Nat) (g : OpenGroup) : Token → Step
  | .groupOpen => fail .nestedGroup i
  | .groupOccurrence _ => fail .nestedGroup i
  | .groupClose => .ok (some g.close, outside)
  | .fieldOccurrence o => (modified g i o).proceed
  | .field name => (named g i none name).proceed
  | .placeholder _ => fail .placeholderWithoutField i
  | .decoration d =>
    match g.decorate? d with
    | some g => (inside g).proceed
    | none => fail .decorationWithoutField i

/-- Takes the token at index `i`. -/
def step (i : Nat) : OutlineState → Token → Step
  | outside, token => stepOutside i token
  | inside g, token => stepInside i g token
  | announced _ o, .groupOpen => (inside ⟨i, some o, []⟩).proceed
  | announced j _, _ => fail .strayOccurrence j
  | modified g _ o, .field name => (named g i (some o) name).proceed
  | modified _ j _, _ => fail .strayOccurrence j
  | named g _ occurrence? field, .placeholder name =>
    (inside (g.addClause ⟨occurrence?, field, name, []⟩)).proceed
  | named _ j _ _, _ => fail .fieldWithoutPlaceholder j

/-- What is wrong when the tokens end here. -/
def fault? : OutlineState → Option ShapeFault
  | outside => none
  | announced j _ => some ⟨.strayOccurrence, j⟩
  | inside g => some ⟨.unclosedGroup, g.start⟩
  | modified _ j _ => some ⟨.strayOccurrence, j⟩
  | named _ j _ _ => some ⟨.fieldWithoutPlaceholder, j⟩

end OutlineState

/-- The groups that `tokens` complete from `state` on, where the first token has index `i`. -/
def outlineFrom (i : Nat) (state : OutlineState) : List Token → Except ShapeFault (List Group)
  | [] =>
    match state.fault? with
    | none => .ok []
    | some fault => .error fault
  | token :: tokens => do
    let (group?, next) ← state.step i token
    let groups ← outlineFrom (i + 1) next tokens
    return group?.toList ++ groups

/-- The groups of a list of tokens, or the first token that does not fit. -/
def outline (tokens : List Token) : Except ShapeFault (List Group) :=
  outlineFrom 0 .outside tokens

end QueryTemplate
