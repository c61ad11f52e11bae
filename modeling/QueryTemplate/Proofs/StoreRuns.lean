import QueryTemplate.Store

/-!
# Runs of a store

A store is used by a sequence of calls. Here the calls and their replies are data, and what one call can
do is said once:

* **`Store.perform`**, **`Store.run`** — one call, and a sequence of them, with all signals,
* **`Store.Moves`** — the six ways in which a call can go: its reply, the store after it and its signals;
  **`moves_perform`** says that there are no others,
* **`run_preserves`** — what every move preserves holds after every run.
-/

namespace QueryTemplate.Store

inductive Call where
  | fetch (template : String)
  | find (template : String)
  | clear
  deriving DecidableEq, Repr

inductive Reply where
  | fetched (result : Except Fault Template)
  | found (template? : Option Template)
  | cleared

def perform (s : Store) : Call → Logged (Reply × Store)
  | .fetch template =>
    let ⟨(result, s), signals⟩ := s.fetch template
    ⟨(.fetched result, s), signals⟩
  | .find template =>
    let ⟨(found?, s), signals⟩ := s.find template
    ⟨(.found found?, s), signals⟩
  | .clear =>
    let ⟨s, signals⟩ := s.clear
    ⟨(.cleared, s), signals⟩

/-- Performs calls in order: the reply to each, and the store after all of them. -/
def run (s : Store) : List Call → Logged (List Reply × Store)
  | [] => return ([], s)
  | call :: calls => do
    let (reply, s) ← s.perform call
    let (replies, s) ← s.run calls
    return (reply :: replies, s)

/-- The store after some calls. -/
def after (s : Store) (calls : List Call) : Store := (s.run calls).value.2

/-! ## What a call can do -/

def countHit (s : Store) : Store := { s with hits := s.hits + 1 }

def countMiss (s : Store) : Store := { s with misses := s.misses + 1 }

/-- A call, and what comes of it. A template is compiled only if it was looked for and not found, and kept
only if it has no fault. -/
inductive Moves (s : Store) : Call → Logged (Reply × Store) → Prop where
  | hit {template : String} {t : Template} (there : s.templates[template]? = some t) :
      Moves s (.fetch template)
        ⟨(.fetched (.ok t), s.countHit), [.measurement (.lookup true)]⟩
  | refused {template : String} {fault : Fault} (missing : s.templates[template]? = none)
      (faulty : (Template.compile template).value = .error fault) :
      Moves s (.fetch template)
        ⟨(.fetched (.error fault), s.countMiss),
          .measurement (.lookup false) :: (Template.compile template).signals⟩
  | kept {template : String} {t : Template} (missing : s.templates[template]? = none)
      (compiled : (Template.compile template).value = .ok t) :
      Moves s (.fetch template)
        ⟨(.fetched (.ok t), (s.countMiss.keep template t).value),
          .measurement (.lookup false) ::
            ((Template.compile template).signals ++ (s.countMiss.keep template t).signals)⟩
  | found {template : String} {t : Template} (there : s.templates[template]? = some t) :
      Moves s (.find template) ⟨(.found (some t), s.countHit), [.measurement (.lookup true)]⟩
  | missed {template : String} (missing : s.templates[template]? = none) :
      Moves s (.find template) ⟨(.found none, s.countMiss), [.measurement (.lookup false)]⟩
  | cleared :
      Moves s .clear
        ⟨(.cleared, { s with templates := ∅, arrivals := [] }), [.measurement (.entries 0)]⟩

/-- Looking up what is there counts a hit and changes nothing else. -/
theorem find_of_some {s : Store} {template : String} {t : Template}
    (h : s.templates[template]? = some t) :
    s.find template = ⟨(some t, s.countHit), [.measurement (.lookup true)]⟩ := by
  rw [find, h]
  rfl

theorem find_of_none {s : Store} {template : String} (h : s.templates[template]? = none) :
    s.find template = ⟨(none, s.countMiss), [.measurement (.lookup false)]⟩ := by
  rw [find, h]
  rfl

/-- **A fetch that hits** is a lookup: nothing is compiled. -/
theorem fetch_of_some {s : Store} {template : String} {t : Template}
    (h : s.templates[template]? = some t) :
    s.fetch template = ⟨(.ok t, s.countHit), [.measurement (.lookup true)]⟩ := by
  rw [fetch, find_of_some h]
  rfl

/-- **A fetch of a template with a fault** counts a miss, passes the fault on with its signals, and does
not touch what is kept. -/
theorem fetch_of_error {s : Store} {template : String} {fault : Fault}
    (h : s.templates[template]? = none) (hcompile : (Template.compile template).value = .error fault) :
    s.fetch template
      = ⟨(.error fault, s.countMiss),
          .measurement (.lookup false) :: (Template.compile template).signals⟩ := by
  rw [fetch, find_of_none h]
  -- only the two components of what the compiler gives back are used
  generalize Template.compile template = compiled at hcompile ⊢
  obtain ⟨value, signals⟩ := compiled
  obtain rfl : value = .error fault := hcompile
  show Logged.mk _ ([.measurement (.lookup false)] ++ (signals ++ [])) = _
  rw [List.append_nil]
  rfl

/-- **A fetch that brings a template in** counts the miss first, so that it is the store with the miss
that keeps the template. The signals are those of the lookup, of the reading and of the keeping, in this
order. -/
theorem fetch_of_ok {s : Store} {template : String} {t : Template}
    (h : s.templates[template]? = none) (hcompile : (Template.compile template).value = .ok t) :
    s.fetch template
      = ⟨(.ok t, (s.countMiss.keep template t).value),
          .measurement (.lookup false) ::
            ((Template.compile template).signals ++ (s.countMiss.keep template t).signals)⟩ := by
  rw [fetch, find_of_none h]
  generalize Template.compile template = compiled at hcompile ⊢
  obtain ⟨value, signals⟩ := compiled
  obtain rfl : value = .ok t := hcompile
  show Logged.mk _ ([.measurement (.lookup false)] ++
    (signals ++ ((s.countMiss.keep template t).signals ++ []))) = _
  rw [List.append_nil]
  rfl

/-- **A template that is there already.** The first one stays, and the store does not change. -/
theorem keep_of_mem {s : Store} {template : String} (h : template ∈ s.templates) (t : Template) :
    s.keep template t = ⟨s, []⟩ := if_pos h

/-- **A template that comes in.** Everything that `keep` does to a store then follows from how room was
made for it; `makeRoom` itself is opened only where its loop is studied. -/
theorem keep_of_not_mem {s : Store} {template : String} (hnew : template ∉ s.templates) (t : Template)
    {templates : Std.ExtTreeMap String Template} {arrivals : List String} {evicted : Nat}
    (hroom : makeRoom s.capacity s.templates s.arrivals = (templates, arrivals, evicted)) :
    s.keep template t
      = ⟨{ s with
            templates := templates.insert template t
            arrivals := arrivals ++ [template]
            evictions := s.evictions + UInt64.ofNat evicted },
          evictionSignals evicted s.capacity
            ++ [.measurement (.entries (templates.insert template t).size)]⟩ := by
  rw [keep, if_neg hnew, hroom]
  rfl

/-- Keeping a template is no lookup: neither counter of lookups goes up, whether it comes in or not. -/
theorem lookups_keep (s : Store) (template : String) (t : Template) :
    (s.keep template t).value.hits = s.hits ∧ (s.keep template t).value.misses = s.misses := by
  unfold keep
  split <;> exact ⟨rfl, rfl⟩

/-- **There are no other ways.** Invariants are proved by cases on `Moves` from here on, and no later
proof opens `fetch` or `find`. -/
theorem moves_perform (s : Store) (call : Call) : s.Moves call (s.perform call) := by
  cases call with
  | fetch template =>
    -- the map decides between a hit and a miss, and on a miss the compiler between a fault and a
    -- template
    cases hlookup : s.templates[template]? with
    | some t =>
      rw [perform, fetch_of_some hlookup]
      exact .hit hlookup
    | none =>
      cases hcompile : (Template.compile template).value with
      | error fault =>
        rw [perform, fetch_of_error hlookup hcompile]
        exact .refused hlookup hcompile
      | ok t =>
        rw [perform, fetch_of_ok hlookup hcompile]
        exact .kept hlookup hcompile
  | find template =>
    cases hlookup : s.templates[template]? with
    | some t =>
      rw [perform, find_of_some hlookup]
      exact .found hlookup
    | none =>
      rw [perform, find_of_none hlookup]
      exact .missed hlookup
  | clear => exact .cleared

/-! ## Whole runs -/

/-- The store after a run is the store after the first call, run on. -/
theorem after_cons (s : Store) (call : Call) (calls : List Call) :
    s.after (call :: calls) = (s.perform call).value.2.after calls := rfl

theorem replies_cons (s : Store) (call : Call) (calls : List Call) :
    (s.run (call :: calls)).value.1
      = (s.perform call).value.1 :: ((s.perform call).value.2.run calls).value.1 := rfl

/-- **What every move preserves holds after every run.** The induction is on the calls, for all stores at
once. -/
theorem run_preserves {P : Store → Prop}
    (hstep : ∀ s call out, Moves s call out → P s → P out.value.2) {s : Store} (h : P s)
    (calls : List Call) : P (s.after calls) := by
  induction calls generalizing s with
  | nil => exact h
  | cons call calls ih =>
    rw [after_cons]
    exact ih (hstep s call _ (moves_perform s call) h)

end QueryTemplate.Store
