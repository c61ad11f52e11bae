import Mathlib.Data.List.Forall2
import QueryTemplate.Proofs.StoreRuns
import QueryTemplate.Session

/-!
# A store is transparent

A store only saves work. Whatever was asked of it before, and however many templates it may hold, its
answers are those that compiling the template again would give:

* **`Store.Faithful`** — every template in the store is the compiled form of its text. Letting templates
  go cannot break this (`getElem?_makeRoom`), and what comes in was compiled just before
  (`faithful_of_moves`).
* **`Call.Answered`** — the right replies to a call, without mention of a store;
  **`answered_run`** — a faithful store gives no others.
* **`Session.queriesAfresh`** — the queries of a session that keeps no templates at all;
  **`rendered_run`** — a session with a faithful store gives these queries.
* **`store_transparent`** — the two together, from any empty store on.
-/

namespace QueryTemplate

namespace Store

/-! ## What is kept is compiled -/

/-- Every template is the compiled form of the text that it is kept under. -/
def Faithful (s : Store) : Prop :=
  ∀ template t, s.templates[template]? = some t → (Template.compile template).value = .ok t

/-- A template with a fault is not in a faithful store, since what is there compiles. -/
theorem Faithful.getElem?_eq_none {s : Store} (h : s.Faithful) {template : String} {fault : Fault}
    (hfault : (Template.compile template).value = .error fault) :
    s.templates[template]? = none := by
  cases hlookup : s.templates[template]? with
  | none => rfl
  | some t =>
    rw [h template t hlookup] at hfault
    exact absurd hfault (by simp)

/-- **Making room only takes away.** What is found after it was found before, under the same text. The
induction is on the list that the oldest templates are taken from. -/
theorem getElem?_makeRoom {capacity : Nat} {templates : Std.ExtTreeMap String Template}
    {arrivals : List String} {template : String} {t : Template}
    (h : (makeRoom capacity templates arrivals).1[template]? = some t) :
    templates[template]? = some t := by
  induction arrivals generalizing templates with
  | nil => exact h
  | cons oldest arrivals ih =>
    rw [makeRoom] at h
    split at h
    · exact h
    · -- what is there without the oldest was there with it
      have herase : (templates.erase oldest)[template]? = some t := ih h
      rw [Std.ExtTreeMap.getElem?_erase] at herase
      split at herase
      · exact absurd herase (by simp)
      · exact herase

theorem faithful_empty (capacity : Nat) : (empty capacity).Faithful := by
  intro template t h
  simp [empty] at h

/-- **Keeping a compiled template.** It is found under its own text, and whatever else is found was there
before room was made. -/
theorem Faithful.keep {s : Store} (h : s.Faithful) {template : String} {t : Template}
    (hcompile : (Template.compile template).value = .ok t) :
    (s.keep template t).value.Faithful := by
  by_cases hmem : template ∈ s.templates
  · rw [keep_of_mem hmem]
    exact h
  · -- under its own text the new template is found, and under any other text what was there
    intro other t' hother
    rw [keep_of_not_mem hmem t rfl] at hother
    have hinsert : ((makeRoom s.capacity s.templates s.arrivals).1.insert template t)[other]?
        = some t' := hother
    rw [Std.ExtTreeMap.getElem?_insert] at hinsert
    split at hinsert
    · next hsame =>
      rw [← Std.LawfulEqCmp.eq_of_compare hsame, hcompile, Option.some.inj hinsert]
    · exact h other t' (getElem?_makeRoom hinsert)

/-- **One call.** Only the move that keeps a template can put one into the store, and that one was
compiled just before. -/
theorem faithful_of_moves {s : Store} {call : Call} {out : Logged (Reply × Store)}
    (hmove : s.Moves call out) (h : s.Faithful) : out.value.2.Faithful := by
  cases hmove with
  | hit => exact h
  | refused => exact h
  | kept _ compiled =>
    have hcount : s.countMiss.Faithful := h
    exact hcount.keep compiled
  | found => exact h
  | missed => exact h
  | cleared =>
    intro template t hnone
    simp at hnone

/-! ## Calls -/

/-- The replies that a call may get: a template is fetched as it compiles, and found as it compiles or not
at all. -/
def Call.Answered : Call → Reply → Prop
  | .fetch template, .fetched result => result = (Template.compile template).value
  | .find template, .found template? => ∀ t ∈ template?, (Template.compile template).value = .ok t
  | .clear, .cleared => True
  | _, _ => False

/-- **The reply to one call.** A hit is answered from the store, which is faithful; a miss is answered by
the compiler itself. -/
theorem answered_of_moves {s : Store} {call : Call} {out : Logged (Reply × Store)}
    (hmove : s.Moves call out) (h : s.Faithful) : call.Answered out.value.1 := by
  cases hmove with
  | hit there => exact (h _ _ there).symm
  | refused _ faulty => exact faulty.symm
  | kept _ compiled => exact compiled.symm
  | found there =>
    rintro t ⟨rfl⟩
    exact h _ _ there
  | missed =>
    intro t ht
    exact absurd ht (by simp)
  | cleared => trivial

/-- The replies to a run, call by call. The induction is on the calls, and the store stays faithful on the
way. -/
theorem answered_run {s : Store} (h : s.Faithful) (calls : List Call) :
    List.Forall₂ Call.Answered calls (s.run calls).value.1 := by
  induction calls generalizing s with
  | nil => exact .nil
  | cons call calls ih =>
    have hmove := moves_perform s call
    rw [replies_cons]
    exact .cons (answered_of_moves hmove h) (ih (faithful_of_moves hmove h))

end Store

/-! ## Sessions

Only the options and the bindings of a session have to last from one request to the next. `queriesAfresh`
keeps nothing else, and compiles a template whenever a query is made from it. -/

namespace Session

def Reply.rendered? : Reply → Option (Except Failure String)
  | .rendered result => some result
  | _ => none

/-- The options that are in force after a request. -/
def optionsAfter (options : Options) : Request → Options
  | .configure document =>
    match Settings.ofDocument? document with
    | some settings => settings.options
    | none => options
  | _ => options

/-- The bindings after a request. -/
def bindingsAfter (bindings : Bindings) : Request → Bindings
  | .edit e => (bindings.apply e).1
  | _ => bindings

/-- The query of a template that is compiled for it and for nothing else. -/
def queryAfresh (options : Options) (bindings : Bindings) (template : String) :
    Except Failure String :=
  match (Template.compile template).value with
  | .error fault => .error (.template fault)
  | .ok t => (render t.tokens bindings options).value.mapError .shape

def answerAfresh? (options : Options) (bindings : Bindings) :
    Request → Option (Except Failure String)
  | .render template => some (queryAfresh options bindings template)
  | _ => none

/-- For each request in turn the query or the failure that it asks for, if it asks for one. -/
def queriesAfresh (options : Options) (bindings : Bindings) :
    List Request → List (Option (Except Failure String))
  | [] => []
  | request :: requests =>
    answerAfresh? options bindings request ::
      queriesAfresh (optionsAfter options request) (bindingsAfter bindings request) requests

/-! ### One request -/

/-- Only a configuration that can be read changes the options of a session. -/
theorem options_perform (s : Session) (request : Request) :
    (s.perform request).1.options = optionsAfter s.options request := by
  cases request with
  -- the document may be no configuration, and then nothing changes
  | configure document =>
    rw [perform, optionsAfter]
    cases Settings.ofDocument? document <;> rfl
  | _ => rfl

/-- Only an edit changes the bindings of a session, and it does not look at the store. -/
theorem bindings_perform (s : Session) (request : Request) :
    (s.perform request).1.bindings = bindingsAfter s.bindings request := by
  cases request with
  | configure document =>
    show _ = s.bindings
    rw [perform]
    cases Settings.ofDocument? document <;> rfl
  | _ => rfl

/-- Rendering from a store: the store is left as fetching leaves it, and the query is made from what was
fetched. -/
theorem value_renderWith (store : Store) (options : Options) (bindings : Bindings)
    (template : String) :
    (renderWith store options bindings template).value
      = (match (store.fetch template).value.1 with
          | .error fault => .error (.template fault)
          | .ok t => (render t.tokens bindings options).value.mapError .shape,
        (store.fetch template).value.2) := by
  rw [renderWith, Logged.value_bind]
  generalize (store.fetch template).value = fetched
  obtain ⟨result, rest⟩ := fetched
  cases result <;> rfl

/-- **A request leaves the store faithful:** it is asked, emptied or exchanged for an empty one. The other
requests leave it as it is. -/
theorem faithful_perform {s : Session} (h : s.store.Faithful) (request : Request) :
    (s.perform request).1.store.Faithful := by
  have hfetch (template : String) : (s.store.fetch template).value.2.Faithful :=
    Store.faithful_of_moves (s.store.moves_perform (.fetch template)) h
  cases request with
  | fetch template => exact hfetch template
  | find template => exact Store.faithful_of_moves (s.store.moves_perform (.find template)) h
  | render template =>
    show (renderWith s.store s.options s.bindings template).value.2.Faithful
    rw [value_renderWith]
    exact hfetch template
  | clear => exact Store.faithful_of_moves (s.store.moves_perform .clear) h
  | renew capacity => exact Store.faithful_empty capacity
  | configure document =>
    rw [perform]
    cases Settings.ofDocument? document <;> exact h
  | stats => exact h
  | metrics => exact h
  | edit e => exact h

/-- **One request.** If it asks for a query, it gets the one that is made from the template compiled
afresh; no other request gets one. -/
theorem rendered_perform {s : Session} (h : s.store.Faithful) (request : Request) :
    (s.perform request).2.rendered? = answerAfresh? s.options s.bindings request := by
  cases request with
  | render template =>
    -- a faithful store fetches what compiling gives, whether it was there or not
    have hfetch : (s.store.fetch template).value.1 = (Template.compile template).value :=
      Store.answered_of_moves (s.store.moves_perform (.fetch template)) h
    show some (renderWith s.store s.options s.bindings template).value.1 = _
    rw [value_renderWith, hfetch]
    rfl
  | configure document =>
    show _ = none
    rw [perform]
    cases Settings.ofDocument? document <;> rfl
  | _ => rfl

/-! ### Any number of requests -/

/-- The queries of a whole session. The induction is on the requests; the options and bindings after each
of them are those of `optionsAfter` and `bindingsAfter`. -/
theorem rendered_run {s : Session} (h : s.store.Faithful) (requests : List Request) :
    (s.run requests).2.map (fun entry => entry.1.rendered?)
      = queriesAfresh s.options s.bindings requests := by
  induction requests generalizing s with
  | nil => rfl
  | cons request requests ih =>
    rw [queriesAfresh, ← rendered_perform h, ← options_perform, ← bindings_perform,
      ← ih (faithful_perform h request)]
    rfl

end Session

/-- **The store is transparent.** After any calls on a store of any capacity, none included, every template
is fetched as it compiles, with or without a fault and as often as it is asked for, and found as it compiles
or not at all. So in any session, whatever stores, options and bindings it goes through, each query or
failure is the one that compiling the template afresh gives with the options and bindings of that moment. -/
theorem store_transparent :
    (∀ (capacity : Nat) (calls : List Store.Call),
        List.Forall₂ Store.Call.Answered calls ((Store.empty capacity).run calls).value.1) ∧
      ∀ (settings : Settings) (bindings : Bindings) (requests : List Session.Request),
        ((Session.start settings bindings).run requests).2.map (fun entry => entry.1.rendered?)
          = Session.queriesAfresh settings.options bindings requests := by
  constructor
  · intro capacity calls
    exact Store.answered_run (Store.faithful_empty capacity) calls
  · intro settings bindings requests
    have hstart : (Session.start settings bindings).store.Faithful :=
      Store.faithful_empty settings.capacity
    exact Session.rendered_run hstart requests

end QueryTemplate
