import QueryTemplate.Query.Rendering
import QueryTemplate.Settings
import QueryTemplate.Telemetry.Snapshot

/-!
# Sessions

A session works with one store, one set of bindings and one set of options at a time, and keeps the
signals of everything it did. A `Request` is one step; `Session.perform` does it and gives the
`Reply`.
-/

namespace QueryTemplate

structure Session where
  store : Store
  options : Options
  bindings : Bindings
  /-- All signals since the session began, oldest first. -/
  signals : List Signal

namespace Session

inductive Request where
  | fetch (template : String)
  | find (template : String)
  /-- Fetches a template and fills it with the current bindings. -/
  | render (template : String)
  | clear
  | stats
  /-- Takes an empty store in place of the current one. -/
  | renew (capacity : Nat)
  /-- Takes the options from a document. The store stays. -/
  | configure (settings : Document)
  | metrics
  | edit (e : Bindings.Edit)

/-- Why a template gave no query. -/
inductive Failure where
  | template (fault : Fault)
  | shape (fault : ShapeFault)
  deriving DecidableEq, Repr

inductive Reply where
  | fetched (result : Except Fault Template)
  | found (template? : Option Template)
  | rendered (result : Except Failure String)
  | done
  /-- Are the new options in force? -/
  | configured (accepted : Bool)
  | metrics (measurements : List Measurement)
  | edited (answer : Bindings.Answer)

def start (settings : Settings) (bindings : Bindings) : Session :=
  ⟨settings.store, settings.options, bindings, []⟩

def measurements (s : Session) : List Measurement := s.signals.filterMap Signal.measurement?

/-- Fetches a template from the store of a session and renders it. -/
def renderWith (store : Store) (options : Options) (bindings : Bindings) (template : String) :
    Logged (Except Failure String × Store) := do
  let (result, store) ← store.fetch template
  match result with
  | .error fault => return (.error (.template fault), store)
  | .ok t =>
    let result ← QueryTemplate.render t.tokens bindings options
    return (result.mapError .shape, store)

/-- The session after some work on its store, with the signals of that work. -/
def advance (s : Session) {α : Type} (work : Logged (α × Store)) : Session × α :=
  ({ s with store := work.value.2, signals := s.signals ++ work.signals }, work.value.1)

def perform (s : Session) : Request → Session × Reply
  | .fetch template =>
    let (s, result) := s.advance (s.store.fetch template)
    (s, .fetched result)
  | .find template =>
    let (s, found?) := s.advance (s.store.find template)
    (s, .found found?)
  | .render template =>
    let (s, result) := s.advance (renderWith s.store s.options s.bindings template)
    (s, .rendered result)
  | .clear =>
    let cleared := s.store.clear
    ({ s with store := cleared.value, signals := s.signals ++ cleared.signals }, .done)
  | .stats => (s, .done)
  | .renew capacity => ({ s with store := .empty capacity }, .done)
  | .configure document =>
    match Settings.ofDocument? document with
    | some settings => ({ s with options := settings.options }, .configured true)
    | none => (s, .configured false)
  | .metrics => (s, .metrics s.measurements)
  | .edit e =>
    let (bindings, answer) := s.bindings.apply e
    ({ s with bindings }, .edited answer)

/-- Performs requests in order: the session after them, and the reply to each together with the
session that gave it. -/
def run (s : Session) : List Request → Session × List (Reply × Session)
  | [] => (s, [])
  | request :: requests =>
    let (s, reply) := s.perform request
    let (last, replies) := s.run requests
    (last, (reply, s) :: replies)

end Session

end QueryTemplate
