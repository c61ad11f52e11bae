import QueryTemplate.Document

/-!
# Signals

Work on templates and queries reports what it does. A report is data: an `Event` for a log or a
`Measurement` for a set of metrics. A computation that reports is a `Logged` value, its result
together with its signals in order.
-/

namespace QueryTemplate

/-! ## Measurements -/

/-- One thing to count or to measure. -/
inductive Measurement where
  /-- A template was read, with this status. -/
  | parse (status : String)
  /-- A query was made from so many groups, of which so many are in it. -/
  | render (groups emitted : Nat)
  | groupDropped
  | clauseDropped
  | lookup (hit : Bool)
  | eviction (count : Nat)
  /-- The store holds so many templates. -/
  | entries (count : Nat)
  /-- Making a query took some time, with or without success. -/
  | renderTime
  deriving DecidableEq, Repr

/-! ## Events -/

inductive Level where
  | debug
  | warn
  deriving DecidableEq, Repr

def Level.name : Level → String
  | debug => "DEBUG"
  | warn => "WARN"

inductive Event where
  | parsed (tokens groups : Nat)
  | parseFailed (position : Nat) (error : String)
  | groupDropped (group resolved required : Nat)
  | evicted (count capacity : Nat)
  deriving DecidableEq, Repr

namespace Event

def level : Event → Level
  | parseFailed .. => .warn
  | _ => .debug

def message : Event → String
  | parsed .. => "Search profile parsed"
  | parseFailed .. => "Search profile failed to parse"
  | groupDropped .. => "Dropping search profile group"
  | evicted .. => "Evicted compiled search profiles"

def fields : Event → List (String × Document)
  | parsed tokens groups => [("tokens", .ofNat tokens), ("groups", .ofNat groups)]
  | parseFailed position error => [("position", .ofNat position), ("error", .text error)]
  | groupDropped group resolved required =>
    [("group", .ofNat group), ("resolved", .ofNat resolved), ("required", .ofNat required)]
  | evicted count capacity => [("evicted", .ofNat count), ("max_entries", .ofNat capacity)]

def toDocument (e : Event) : Document :=
  .record [("level", .text e.level.name), ("message", .text e.message),
    ("fields", .record e.fields)]

end Event

/-! ## Signals -/

inductive Signal where
  | event (e : Event)
  | measurement (m : Measurement)
  deriving DecidableEq, Repr

namespace Signal

def event? : Signal → Option Event
  | event e => some e
  | measurement _ => none

def measurement? : Signal → Option Measurement
  | event _ => none
  | measurement m => some m

end Signal

/-- A result, and what was reported on the way to it, oldest first. -/
structure Logged (α : Type) where
  value : α
  signals : List Signal

namespace Logged

variable {α β : Type}

instance : Monad Logged where
  pure a := ⟨a, []⟩
  bind m f := ⟨(f m.value).value, m.signals ++ (f m.value).signals⟩

@[simp]
theorem value_bind (m : Logged α) (f : α → Logged β) : (m >>= f).value = (f m.value).value := rfl

end Logged

end QueryTemplate
