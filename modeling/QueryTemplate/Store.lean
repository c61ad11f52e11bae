import Std.Data.ExtTreeMap
import QueryTemplate.Number
import QueryTemplate.Template.Basic

/-!
# Stores of compiled templates

A store keeps templates that were compiled, by their text, so that none is compiled twice while it is
kept. It holds a bounded number of them. When it is full, the template that came first leaves first,
whether it was asked for since or not.

* `Store.find` looks a template up.
* `Store.fetch` looks it up and otherwise compiles and keeps it. A template with a fault is not kept.
* `Store.clear` empties the store; its counters go on.
* `Store.stats` reads the counters.
-/

namespace QueryTemplate

/-- The compiled templates by their text, and in `arrivals` their texts from the oldest to the newest.
The counters are 64 bits wide. -/
structure Store where
  capacity : Nat
  templates : Std.ExtTreeMap String Template
  arrivals : List String
  hits : UInt64
  misses : UInt64
  evictions : UInt64

namespace Store

/-- An empty store for `capacity` templates, or for one if that is none. -/
def empty (capacity : Nat) : Store := ⟨max capacity 1, ∅, [], 0, 0, 0⟩

def defaultCapacity : Nat := 256

def size (s : Store) : Nat := s.templates.size

/-! ## Looking up -/

/-- Looks a template up and counts whether it was there. -/
def find (s : Store) (template : String) : Logged (Option Template × Store) :=
  match s.templates[template]? with
  | some t => ⟨(some t, { s with hits := s.hits + 1 }), [.measurement (.lookup true)]⟩
  | none => ⟨(none, { s with misses := s.misses + 1 }), [.measurement (.lookup false)]⟩

/-! ## Keeping -/

/-- Lets the oldest templates go until there is room for one more: what stays, by text and in order,
and how many went. -/
def makeRoom (capacity : Nat) (templates : Std.ExtTreeMap String Template) :
    List String → Std.ExtTreeMap String Template × List String × Nat
  | [] => (templates, [], 0)
  | oldest :: arrivals =>
    if templates.size < capacity then (templates, oldest :: arrivals, 0)
    else
      let (templates, arrivals, evicted) := makeRoom capacity (templates.erase oldest) arrivals
      (templates, arrivals, evicted + 1)

/-- What is reported when `evicted` templates left a store of the given capacity. -/
def evictionSignals (evicted capacity : Nat) : List Signal :=
  if evicted = 0 then []
  else [.measurement (.eviction evicted), .event (.evicted evicted capacity)]

/-- Keeps a template. If there is one under its text already, because another caller compiled it
first, that one stays and nothing is reported. -/
def keep (s : Store) (template : String) (t : Template) : Logged Store :=
  if template ∈ s.templates then ⟨s, []⟩
  else
    let (templates, arrivals, evicted) := makeRoom s.capacity s.templates s.arrivals
    let kept : Store :=
      { s with
        templates := templates.insert template t
        arrivals := arrivals ++ [template]
        evictions := s.evictions + UInt64.ofNat evicted }
    ⟨kept, evictionSignals evicted s.capacity ++ [.measurement (.entries kept.size)]⟩

/-- The compiled template, from the store or else into it. -/
def fetch (s : Store) (template : String) : Logged (Except Fault Template × Store) := do
  let (found?, s) ← s.find template
  match found? with
  | some t => return (.ok t, s)
  | none =>
    match ← Template.compile template with
    | .error fault => return (.error fault, s)
    | .ok t =>
      let s ← s.keep template t
      return (.ok t, s)

def clear (s : Store) : Logged Store :=
  ⟨{ s with templates := ∅, arrivals := [] }, [.measurement (.entries 0)]⟩

/-! ## Statistics -/

structure Stats where
  hits : UInt64
  misses : UInt64
  evictions : UInt64
  size : Nat
  deriving DecidableEq, Repr

def stats (s : Store) : Stats := ⟨s.hits, s.misses, s.evictions, s.size⟩

/-- The share of the lookups that found their template. -/
def Stats.hitRate (s : Stats) : Float :=
  let total := s.hits + s.misses
  if total = 0 then 0 else s.hits.toFloat / total.toFloat

/-- The hit rate with six decimals. -/
def Stats.hitRateText (s : Stats) : String := Number.FixedPoint.text 6 s.hitRate

end Store

end QueryTemplate
