import QueryTemplate.Document
import QueryTemplate.Query.Basic
import QueryTemplate.Store

/-!
# Settings

The options of queries together with the capacity of the store, as a document gives them. Every
setting has a default. A document names its settings in a record, or lists them in their order and
may stop early; a setting that is present has to be of its kind.
-/

namespace QueryTemplate

structure Settings where
  minResolved : Nat
  defaultValue : String
  policy : Policy
  escaped : Bool
  capacity : Nat
  deriving DecidableEq, Repr

namespace Policy

def name : Policy → String
  | skip => "omit"
  | substitute => "substitute"

def ofDocument? (d : Document) : Option Policy := do
  let name ← d.plainChoice?
  [skip, substitute].find? (·.name = name)

end Policy

namespace Settings

def standard : Settings := ⟨1, "", .skip, false, Store.defaultCapacity⟩

def options (s : Settings) : Options := ⟨s.minResolved, s.defaultValue, s.policy, s.escaped⟩

def store (s : Settings) : Store := .empty s.capacity

/-! ## Settings and documents -/

/-- The names of the settings, in their order. -/
def names : List String :=
  ["min_resolved_per_group", "unresolved_default", "unresolved_policy", "escape_values",
   "cache_max_entries"]

/-- May `d` hold settings? It is a record, or a list that is not too long. -/
def isHolder : Document → Bool
  | .record _ => true
  | .list items => items.length ≤ names.length
  | _ => false

/-- The setting at `position`, read by `read?`, or the default if it is not there. -/
def member? {α : Type} (d : Document) (position : Nat) (read? : Document → Option α)
    (default : α) : Option α :=
  match d.member? position (names.getD position "") with
  | some content => read? content
  | none => some default

/-- A count of 64 bits. -/
def count? (d : Document) : Option Nat := d.natBelow? UInt64.size

def ofDocument? (d : Document) : Option Settings := do
  guard (isHolder d)
  return {
    minResolved := ← member? d 0 count? standard.minResolved
    defaultValue := ← member? d 1 Document.text? standard.defaultValue
    policy := ← member? d 2 Policy.ofDocument? standard.policy
    escaped := ← member? d 3 Document.truth? standard.escaped
    capacity := ← member? d 4 count? standard.capacity }

/-- The settings by name, in their order. -/
def members (s : Settings) : List (String × Document) :=
  names.zip
    [.ofNat s.minResolved, .text s.defaultValue, .text s.policy.name, .truth s.escaped,
     .ofNat s.capacity]

end Settings

end QueryTemplate
