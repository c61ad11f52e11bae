import QueryTemplate.Bindings
import QueryTemplate.Telemetry.Signal
import QueryTemplate.Template.Reading

/-!
# Templates

A template that was read without a fault. Its text can be written out again, and it knows the names
that it looks up.

* `Template.compile` reads a template and reports how it went.
* `Template.text` writes it in its canonical form, its tokens one space apart.
* `Template.lookups` lists the names that a query reads from its bindings.
-/

namespace QueryTemplate

/-! ## Reading with a report -/

namespace Reading

def signals (reading : Reading) : List Signal :=
  match reading.fault? with
  | none =>
    [.event (.parsed reading.tokens.length (Token.groupCount reading.tokens)),
     .measurement (.parse "ok")]
  | some fault =>
    [.event (.parseFailed fault.position fault.message), .measurement (.parse "error")]

/-- Reads a template and reports it. -/
def logged (template : String) : Logged Reading :=
  let reading := ofText template
  ⟨reading, reading.signals⟩

end Reading

/-! ## Compiled templates -/

structure Template where
  tokens : List Token
  deriving DecidableEq, Repr

namespace Template

def compile (template : String) : Logged (Except Fault Template) := do
  let reading ← Reading.logged template
  return reading.result.map Template.mk

def text (t : Template) : String := Token.listText t.tokens

def groupCount (t : Template) : Nat := Token.groupCount t.tokens

/-- Does a placeholder that these tokens follow stand for itself? -/
def constantFollows (tokens : List Token) : Bool :=
  (tokens.takeWhile (·.decoration?.isSome)).contains (.decoration .constant)

/-- The placeholders whose values are looked up, in order. -/
def lookupNames : List Token → List String
  | [] => []
  | .placeholder name :: tokens =>
    if constantFollows tokens then lookupNames tokens else name :: lookupNames tokens
  | _ :: tokens => lookupNames tokens

/-- The names that a query reads, in order. Of those that are one name to the bindings the first
stands for all. -/
def lookups (t : Template) : List String :=
  (lookupNames t.tokens).eraseDupsBy fun a b => Text.lowercase a = Text.lowercase b

end Template

end QueryTemplate
