import QueryTemplate.Bindings
import QueryTemplate.Query.Basic
import QueryTemplate.Telemetry.Signal
import QueryTemplate.Template.Outline
import QueryTemplate.Text.Characters

/-!
# From groups to a query

Every clause is resolved first. Then each group is judged as a whole: with too few resolved clauses
it is dropped, otherwise it goes into the query with the clauses that have something to show.

* `Traits` sums up the decorations of a clause.
* `Clause.resolve` finds the value of a clause, `Clause.fill` makes a query clause from a value.
* `Group.judge` gives the `Verdict` on a group.
* `Rendering` is the list of verdicts. Its query, its text and its signals are views of it.
* `render` does all of it for a list of tokens.
-/

namespace QueryTemplate

/-! ## Decorations of a clause -/

/-- What the decorations of a clause add up to. -/
structure Traits where
  boost? : Option UInt32
  fuzzy? : Option UInt32
  wildcard : Bool
  constant : Bool
  deriving DecidableEq, Repr

namespace Traits

def none : Traits := ⟨.none, .none, false, false⟩

/-- A later number replaces an earlier one. -/
def add (t : Traits) : Decoration → Traits
  | .boost n => { t with boost? := some n }
  | .fuzzy n => { t with fuzzy? := some n }
  | .wildcard => { t with wildcard := true }
  | .constant => { t with constant := true }

/-- Is a star written after the value? A constant is written as it is. -/
def starred (t : Traits) : Bool := t.wildcard && !t.constant

end Traits

/-! ## Clauses -/

/-- Removes the stars at the end of a value. -/
def dropStars (value : String) : String :=
  String.ofList (Text.dropEndWhile (· = '*') value.toList)

namespace Clause

def traits (c : Clause) : Traits := c.decorations.foldl Traits.add Traits.none

/-- What of a value goes into the query. The star of a wildcard takes the place of its own. -/
def shown (c : Clause) (value : String) : String :=
  if c.traits.starred then dropStars value else value

/-- The value of a clause. A constant is its own value; any other clause needs a binding that is not
blank, and for a wildcard not blank without the stars at its end. -/
def resolve (c : Clause) (bindings : Bindings) : Option String :=
  if c.traits.constant then some c.placeholder
  else (bindings.get? c.placeholder).filter fun value => !Text.isBlankText (c.shown value)

/-- The query clause that shows `value`. -/
def fill (c : Clause) (value : String) : Query.Clause where
  sign := .ofOccurrence? c.occurrence?
  field := c.field
  value := c.shown value
  boost? := c.traits.boost?
  fuzzy? := if c.traits.constant then none else c.traits.fuzzy?
  wildcard := c.traits.starred

end Clause

/-! ## Groups -/

/-- What becomes of a group. -/
inductive Verdict where
  /-- It is left out, because only `resolved` of its clauses have a value. -/
  | dropped (resolved : Nat)
  /-- It is in the query, without `omitted` of its clauses. -/
  | emitted (group : Query.Group) (omitted : Nat)
  deriving DecidableEq, Repr

def Verdict.group? : Verdict → Option Query.Group
  | dropped _ => none
  | emitted g _ => some g

namespace Group

/-- How many clauses have a value. -/
def resolvedCount (g : Group) (bindings : Bindings) : Nat :=
  g.clauses.countP fun c => (c.resolve bindings).isSome

/-- The clauses that have something to show, their own value or the one that stands in for it. -/
def filled (g : Group) (bindings : Bindings) (fallback? : Option String) : List Query.Clause :=
  g.clauses.filterMap fun c => (c.resolve bindings <|> fallback?).map c.fill

/-- A group needs a clause with a value, whatever the options say, and as many as they say. Clauses
that only have the default do not count. -/
def judge (g : Group) (bindings : Bindings) (options : Options) : Verdict :=
  let resolved := g.resolvedCount bindings
  if resolved = 0 ∨ resolved < options.minResolved then .dropped resolved
  else
    let clauses := g.filled bindings options.fallback?
    .emitted ⟨.ofOccurrence? g.occurrence?, clauses⟩ (g.clauses.length - clauses.length)

end Group

/-! ## The whole query -/

/-- The verdicts on the groups of a template, in order, under some options. -/
structure Rendering where
  options : Options
  verdicts : List Verdict
  deriving DecidableEq, Repr

namespace Rendering

def ofGroups (groups : List Group) (bindings : Bindings) (options : Options) : Rendering :=
  ⟨options, groups.map (·.judge bindings options)⟩

def query (r : Rendering) : Query := r.verdicts.filterMap Verdict.group?

def text (r : Rendering) : String := r.query.text r.options.escaped

/-- What is reported of the group at `index`. -/
def verdictSignals (required index : Nat) : Verdict → List Signal
  | .dropped resolved =>
    [.event (.groupDropped index resolved required), .measurement .groupDropped]
  | .emitted _ omitted => List.replicate omitted (.measurement .clauseDropped)

def signals (r : Rendering) : List Signal :=
  (r.verdicts.zipIdx.flatMap fun (v, i) => verdictSignals r.options.minResolved i v) ++
    [.measurement (.render r.verdicts.length r.query.length)]

end Rendering

/-- The query text of a list of tokens. Its time is measured also when the tokens have a fault. -/
def render (tokens : List Token) (bindings : Bindings) (options : Options) :
    Logged (Except ShapeFault String) :=
  match outline tokens with
  | .error fault => ⟨.error fault, [.measurement .renderTime]⟩
  | .ok groups =>
    let rendering := Rendering.ofGroups groups bindings options
    ⟨.ok rendering.text, rendering.signals ++ [.measurement .renderTime]⟩

end QueryTemplate
