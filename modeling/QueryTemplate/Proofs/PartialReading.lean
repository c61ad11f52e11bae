import QueryTemplate.Proofs.Printing
import QueryTemplate.Proofs.Validation

/-!
# What is read before a fault

A reading with a fault keeps the tokens before it. They are checked again when a query is made of them,
by a walk that knows nothing of the reader:

* **`Place.Tracks`** — the walk over the tokens stands where the reader does. Each move of the reader is
  a move of the walk, or it adds no token (`Tracks.reached_move`), so this holds up to the fault
  (`tracks_read`).
* **`exists_reached`** — the tokens of every reading are taken by the walk to their end, and the names
  among them can be printed.
* **`partial_reading_renders_or_fails`** — the headline: the tokens before a fault are always the
  beginning of some template. They render if no group was open, and otherwise the fault is told by their
  last token.
-/

namespace QueryTemplate

open OutlineState

/-! ## The reader and the walk over its tokens -/

namespace Place

/-- The place at which reading stops, at a lexeme that does not fit or at the end. -/
def stoppedAt (place : Place) : List Lexeme → Place
  | [] => place
  | lexeme :: rest =>
    match place.step lexeme (rest.head?.map Lexeme.kind) with
    | .error _ => place
    | .ok (_, next) => next.stoppedAt rest

/-- The walk over the tokens so far stands where the reader does. `next` is the kind of the lexeme that
the reader has before it: the walk waits for a group only where this is a parenthesis. -/
inductive Tracks : Place → Option Lexeme.Kind → OutlineState → Prop where
  | outside {next : Option Lexeme.Kind} : Tracks .outside next .outside
  | announced {j : Nat} {o : Occurrence} : Tracks .outside (some .opening) (.announced j o)
  | inside {next : Option Lexeme.Kind} {filled : Bool} {g : OpenGroup}
      (hfilled : filled = true ↔ g.recent ≠ []) : Tracks (.inside filled) next (.inside g)
  | modified {next : Option Lexeme.Kind} {word : String} {g : OpenGroup} {j : Nat} {o : Occurrence} :
      Tracks (.modified word) next (.modified g j o)
  | named {next : Option Lexeme.Kind} {field : String} {g : OpenGroup} {j : Nat}
      {occurrence? : Option Occurrence} :
      Tracks (.named field) next (.named g j occurrence? field)
  | weighted {next : Option Lexeme.Kind} {w : Weight} {dangling : Option Nat} {g : OpenGroup}
      (hdangling : dangling = none ↔ g.recent ≠ []) :
      Tracks (.weighted w dangling) next (.inside g)

end Place

theorem OpenGroup.exists_decorate? {g : OpenGroup} (h : g.recent ≠ []) (d : Decoration) :
    ∃ g', g.decorate? d = some g' ∧ g'.recent ≠ [] := by
  obtain ⟨start, occurrence?, recent⟩ := g
  cases recent with
  | nil => exact absurd rfl h
  | cons c recent => exact ⟨_, rfl, by simp⟩

namespace Place

/-- **One move of the reader.** The token that it adds, if it adds one, moves the walk on, and if a group
is completed then it has a clause. -/
theorem Tracks.reached_move {place after : Place} {lexeme : Lexeme} {next : Option Lexeme.Kind}
    {token? : Option Token} {ts : List Token} {gs : List Group} {state : OutlineState}
    (h : place.Tracks (some lexeme.kind) state) (hmove : place.Moves lexeme next token? after)
    (hreached : Reached ts gs state) (hgs : ∀ g ∈ gs, g.clauses ≠ []) :
    ∃ gs' state', Reached (ts ++ token?.toList) gs' state' ∧ (∀ g ∈ gs', g.clauses ≠ []) ∧
      after.Tracks next state' := by
  -- a move that completes no group leaves the groups as they are
  have hstep : ∀ {token : Token} {state' : OutlineState},
      OutlineState.Moves ts.length state token none state' → after.Tracks next state' →
        ∃ gs' state', Reached (ts ++ [token]) gs' state' ∧ (∀ g ∈ gs', g.clauses ≠ []) ∧
          after.Tracks next state' := by
    intro token state' hmove htracks
    have hreached' := hreached.step hmove
    rw [Option.toList_none, List.append_nil] at hreached'
    exact ⟨gs, state', hreached', hgs, htracks⟩
  cases hmove with
  | opening =>
    cases h with
    | outside => exact hstep .opening (.inside (by simp))
    | announced => exact hstep .announced (.inside (by simp))
  | groupOccurrence hword =>
    cases h with
    | outside => exact hstep .announce .announced
  -- the reader closes a group only if it has a clause, and the walk has the same clause
  | closing =>
    cases h with
    | @inside _ _ g hfilled =>
      refine ⟨gs ++ [g.close], .outside, hreached.step .closing, ?_, .outside⟩
      have hclose : g.close.clauses ≠ [] := by
        simpa [OpenGroup.close] using hfilled.mp rfl
      simpa [or_imp, forall_and, hclose] using hgs
  | fieldOccurrence hword hnext =>
    cases h with
    | inside hfilled => exact hstep .occurrence .modified
  | @weight _ _ filled w word hword =>
    cases h with
    | inside hfilled =>
      -- the keyword alone adds no token
      refine ⟨gs, _, by simpa using hreached, hgs, .weighted ?_⟩
      rw [← hfilled]
      cases filled <;> simp
  | wildcard hword =>
    cases h with
    | inside hfilled =>
      obtain ⟨g', hdecorate, hne⟩ := OpenGroup.exists_decorate? (hfilled.mp rfl) .wildcard
      exact hstep (.decoration hdecorate) (.inside (by simp [hne]))
  | constant hword =>
    cases h with
    | inside hfilled =>
      obtain ⟨g', hdecorate, hne⟩ := OpenGroup.exists_decorate? (hfilled.mp rfl) .constant
      exact hstep (.decoration hdecorate) (.inside (by simp [hne]))
  | field hword =>
    cases h with
    | inside hfilled => exact hstep .field .named
  | modifiedField hword =>
    cases h with
    | modified => exact hstep .modifiedField .named
  | placeholder =>
    cases h with
    | named => exact hstep .placeholder (.inside (by simp [OpenGroup.addClause]))
  | @number _ _ w n =>
    cases h with
    | weighted hdangling =>
      obtain ⟨g', hdecorate, hne⟩ := OpenGroup.exists_decorate? (hdangling.mp rfl) (w.decoration n)
      exact hstep (.decoration hdecorate) (.inside (by simp [hne]))

/-- Where a lexeme does not fit, the walk does not wait for a group: a group is announced only in front of
a parenthesis, and that fits. -/
theorem Tracks.of_step_error {place : Place} {lexeme : Lexeme} {next : Option Lexeme.Kind}
    {state : OutlineState} {fault : Fault} (h : place.Tracks (some lexeme.kind) state)
    (hstep : place.step lexeme next = .error fault) : place.Tracks none state := by
  obtain ⟨kind, pos⟩ := lexeme
  cases h with
  | outside => exact .outside
  | announced => exact absurd hstep (by simp [step, stepOutside, emit])
  | inside hfilled => exact .inside hfilled
  | modified => exact .modified
  | named => exact .named
  | weighted hdangling => exact .weighted hdangling

/-- When nothing comes any more, the walk does not wait for a group, and it is outside all groups where
the reader is. -/
theorem Tracks.settled {place : Place} {state : OutlineState} (h : place.Tracks none state) :
    (∀ j o, state ≠ .announced j o) ∧ (state = .outside ↔ place = .outside) := by
  cases h <;> simp

/-- **The whole reading.** The walk takes all of its tokens, and in the end it stands where the reader has
stopped. The induction is on the lexemes, one move at a time. -/
theorem tracks_read {place : Place} {lexemes : List Lexeme} {ts : List Token} {gs : List Group}
    {state : OutlineState} (h : place.Tracks (lexemes.head?.map Lexeme.kind) state)
    (hreached : Reached ts gs state) (hgs : ∀ g ∈ gs, g.clauses ≠ []) (stop : Nat) :
    ∃ gs' state', Reached (ts ++ (place.read stop lexemes).tokens) gs' state' ∧
      (∀ g ∈ gs', g.clauses ≠ []) ∧ (place.stoppedAt lexemes).Tracks none state' := by
  induction lexemes generalizing place ts gs state with
  | nil => exact ⟨gs, state, by simpa [read] using hreached, hgs, h⟩
  | cons lexeme rest ih =>
    rw [read, stoppedAt]
    cases hstep : place.step lexeme (rest.head?.map Lexeme.kind) with
    | error fault => exact ⟨gs, state, by simpa using hreached, hgs, h.of_step_error hstep⟩
    | ok result =>
      obtain ⟨token?, after⟩ := result
      obtain ⟨gs', state', hreached', hgs', htracks⟩ :=
        h.reached_move (step_eq_ok_iff.mp hstep) hreached hgs
      obtain ⟨gs'', state'', hwhole⟩ := ih htracks hreached' hgs'
      exact ⟨gs'', state'', by simpa using hwhole⟩

/-! ## Names among the tokens -/

/-- A token that the reader adds can be printed, if the placeholder that it is made from can. -/
theorem Moves.printable {place after : Place} {lexeme : Lexeme} {next : Option Lexeme.Kind}
    {token : Token} (h : place.Moves lexeme next (some token) after)
    (hname : ∀ name, lexeme.kind = .placeholder name → isPlaceholderName name = true) :
    token.Printable := by
  cases h with
  | field hword => exact hword
  | modifiedField hword => exact hword
  | placeholder => exact hname _ rfl
  | _ => trivial

/-- All tokens of a reading can be printed, if the placeholders of the lexemes can. The induction is on
the lexemes. -/
theorem printable_of_mem_read {place : Place} {stop : Nat} {lexemes : List Lexeme}
    (hnames : ∀ name, Lexeme.Kind.placeholder name ∈ lexemes.map Lexeme.kind →
      isPlaceholderName name = true)
    {t : Token} (ht : t ∈ (place.read stop lexemes).tokens) : t.Printable := by
  induction lexemes generalizing place with
  | nil => exact absurd ht (by simp [read])
  | cons lexeme rest ih =>
    rw [read] at ht
    cases hstep : place.step lexeme (rest.head?.map Lexeme.kind) with
    | error fault => exact absurd ht (by simp [hstep])
    | ok result =>
      obtain ⟨token?, after⟩ := result
      rw [hstep] at ht
      rcases List.mem_append.mp ht with ht | ht
      · obtain rfl := Option.mem_toList.mp ht
        refine Moves.printable (step_eq_ok_iff.mp hstep) fun name hname => hnames name ?_
        simp [hname]
      · exact ih (fun name hname => hnames name (by simp [hname])) ht

end Place

/-- A group can be printed if its tokens can, since its names are among them. -/
theorem Group.printable_of_tokens {g : Group} (hne : g.clauses ≠ [])
    (h : ∀ t ∈ g.tokens, t.Printable) : g.Printable := by
  refine ⟨hne, fun c hc => ?_⟩
  have hclause : ∀ t ∈ c.tokens, t ∈ g.tokens := by
    intro t ht
    have hmem : t ∈ g.clauses.flatMap Clause.tokens := List.mem_flatMap.mpr ⟨c, hc, ht⟩
    simp [Group.tokens, hmem]
  exact ⟨h (.field c.field) (hclause _ (by simp [Clause.tokens])),
    h (.placeholder c.placeholder) (hclause _ (by simp [Clause.tokens]))⟩

theorem OutlineState.clauses_completed (state : OutlineState) : state.completed.clauses ≠ [] := by
  cases state <;> simp [completed, OpenGroup.close, OpenGroup.addClause]

/-- **Tokens that the walk takes are the beginning of a well-formed list**, if the complete groups among
them have clauses and the names can be printed. The missing part of the last group is made up. -/
theorem OutlineState.Reached.exists_wellFormed {ts : List Token} {gs : List Group}
    {state : OutlineState} (h : Reached ts gs state) (hgs : ∀ g ∈ gs, g.clauses ≠ [])
    (hprintable : ∀ t ∈ ts, t.Printable) :
    ∃ rest, rest ≠ [] ∧ Token.WellFormed (ts ++ rest) := by
  obtain ⟨rest, hne, hsuffix, htokens⟩ := state.exists_completion
  have hts := h.tokens_eq
  refine ⟨rest, hne, gs ++ [state.completed], by simp, fun g hg => ?_, ?_⟩
  · rcases List.mem_append.mp hg with hg | hg
    · refine Group.printable_of_tokens (hgs g hg) fun t ht => hprintable t ?_
      have hmem : t ∈ Group.listTokens gs := List.mem_flatMap.mpr ⟨g, hg, ht⟩
      rw [hts]
      exact List.mem_append_left _ hmem
    · obtain rfl := List.mem_singleton.mp hg
      refine Group.printable_of_tokens state.clauses_completed fun t ht => ?_
      rw [htokens] at ht
      rcases List.mem_append.mp ht with ht | ht
      · exact hprintable t (by rw [hts]; exact List.mem_append_right _ ht)
      · -- the tokens that were made up
        have hmem := hsuffix.subset ht
        simp only [List.mem_cons, List.not_mem_nil, or_false] at hmem
        rcases hmem with rfl | rfl | rfl | rfl
        · trivial
        · exact (by decide : isFieldName "a" = true)
        · exact (by decide : isPlaceholderName "a" = true)
        · trivial
  · rw [hts, List.append_assoc, ← htokens]
    simp [Group.listTokens]

/-! ## The last token -/

/-- The walk waits for a placeholder or a field exactly behind a field or an occurrence of one. The last
move decides, so this needs no induction. -/
theorem OutlineState.Reached.getLast?_iff {ts : List Token} {gs : List Group} {state : OutlineState}
    (h : Reached ts gs state) :
    (∀ name, ts.getLast? = some (.field name) ↔ ∃ g j occurrence?, state = .named g j occurrence? name) ∧
      ∀ o, ts.getLast? = some (.fieldOccurrence o) ↔ ∃ g j, state = .modified g j o := by
  cases h with
  | start => simp
  | step before move =>
    rw [List.getLast?_concat]
    cases move <;> simp

/-- The fault of tokens that end inside a group is told by the last one. -/
def Token.EndFault (ts : List Token) (fault : ShapeFault) : Prop :=
  match ts.getLast? with
  | some (.field _) => fault = ⟨.fieldWithoutPlaceholder, ts.length - 1⟩
  | some (.fieldOccurrence _) => fault = ⟨.strayOccurrence, ts.length - 1⟩
  | _ => fault.cause = .unclosedGroup ∧ Token.LastOpensAt ts fault.index

/-- Tokens of a reading can go wrong at their end in three ways only. -/
theorem Token.EndFault.cause_mem {ts : List Token} {fault : ShapeFault} (h : Token.EndFault ts fault) :
    fault.cause ∈ [.fieldWithoutPlaceholder, .strayOccurrence, .unclosedGroup] := by
  unfold EndFault at h
  split at h
  · simp [h]
  · simp [h]
  · simp [h.1]

namespace OutlineState.Reached

variable {ts : List Token} {gs : List Group} {state : OutlineState} {fault : ShapeFault}

/-- **The fault at the end, told by the last token.** That no group is announced excludes the one state
that the last token would not tell. -/
theorem endFault (h : Reached ts gs state) (hannounced : ∀ j o, state ≠ .announced j o)
    (hfault : state.fault? = some fault) : Token.EndFault ts fault := by
  obtain ⟨hfield, hoccurrence⟩ := h.getLast?_iff
  have hmarks := h.marks
  unfold Token.EndFault
  cases state with
  | outside => exact absurd hfault (by simp [fault?])
  | announced j o => exact absurd rfl (hannounced j o)
  | inside g =>
    obtain rfl := Option.some.inj hfault
    split
    · next name hlast => exact absurd ((hfield name).mp hlast) (by simp)
    · next o hlast => exact absurd ((hoccurrence o).mp hlast) (by simp)
    · exact ⟨rfl, hmarks⟩
  | modified g j o =>
    obtain rfl := Option.some.inj hfault
    rw [(hoccurrence o).mpr ⟨g, j, rfl⟩]
    have hlast : j + 1 = ts.length := hmarks.2
    simp only [← hlast, Nat.add_sub_cancel]
  | named g j occurrence? name =>
    obtain rfl := Option.some.inj hfault
    rw [(hfield name).mpr ⟨g, j, occurrence?, rfl⟩]
    have hlast : j + 1 = ts.length := hmarks.2
    simp only [← hlast, Nat.add_sub_cancel]

/-- Tokens that are all taken render with the fault of the state in which they end, under all bindings and
options. -/
theorem value_render_eq_error_iff (h : Reached ts gs state) (bindings : Bindings)
    (options : Options) :
    (render ts bindings options).value = .error fault ↔ state.fault? = some fault := by
  have houtline := h.outline_eq
  cases hfault : state.fault? with
  | none =>
    rw [hfault] at houtline
    rw [outline_eq_ok_iff.mp houtline, value_render_listTokens]
    simp
  | some found =>
    rw [hfault] at houtline
    rw [value_render_of_outline_error houtline]
    simp

theorem grouped_iff (h : Reached ts gs state) : Token.Grouped ts ↔ state.fault? = none := by
  have houtline := h.outline_eq
  cases hfault : state.fault? with
  | none =>
    rw [hfault] at houtline
    exact ⟨fun _ => rfl, fun _ => ⟨gs, outline_eq_ok_iff.mp houtline⟩⟩
  | some found =>
    rw [hfault] at houtline
    refine ⟨?_, by simp⟩
    rintro ⟨gs', hgs'⟩
    rw [outline_eq_ok_iff.mpr hgs'] at houtline
    exact absurd houtline (by simp)

end OutlineState.Reached

/-! ## Readings with a fault -/

/-- **The walk takes all tokens of a reading, with or without a fault.** Where the text could not be
scanned there are none. -/
theorem exists_reached (template : String) :
    ∃ gs state, Reached (Reading.ofText template).tokens gs state ∧ (∀ g ∈ gs, g.clauses ≠ []) ∧
      (∀ t ∈ (Reading.ofText template).tokens, t.Printable) ∧
      (∀ j o, state ≠ .announced j o) ∧
      (state = .outside ↔ (∃ fault, Lexeme.scan template = .error fault) ∨
        ∃ lexemes, Lexeme.scan template = .ok lexemes ∧
          Place.outside.stoppedAt lexemes = .outside) := by
  rw [Reading.ofText]
  cases hscan : Lexeme.scan template with
  | error fault => exact ⟨[], .outside, .start, by simp, by simp, by simp, by simp⟩
  | ok lexemes =>
    have hofLexemes : (Reading.ofLexemes template.utf8ByteSize lexemes).tokens
        = (Place.outside.read template.utf8ByteSize lexemes).tokens := by
      cases lexemes <;> rfl
    -- reader and walk start together, outside all groups
    have hstart : Place.outside.Tracks (lexemes.head?.map Lexeme.kind) .outside := .outside
    obtain ⟨gs, state, hreached, hgs, htracks⟩ :=
      Place.tracks_read hstart .start (by simp) template.utf8ByteSize
    obtain ⟨hannounced, houtside⟩ := htracks.settled
    simp only [hofLexemes]
    refine ⟨gs, state, by simpa using hreached, hgs, fun t ht => ?_, hannounced, by simp [houtside]⟩
    exact Place.printable_of_mem_read
      (fun name hname => (Lexeme.scanFrom_eq_ok_iff.mp hscan).isPlaceholderName hname) ht

/-- **The tokens before a fault.** They are a proper beginning of the tokens of some template without a
fault. They render if and only if they are complete groups, which is so if the text had no lexemes to
read or if no group was open where the reading stopped. Otherwise rendering fails, under all bindings and
options with the fault that the last token tells. No other fault is found in the tokens of any reading,
and none at all if it has no fault itself. -/
theorem partial_reading_renders_or_fails (template : String) :
    (∀ tokens fault, Reading.ofText template = ⟨tokens, some fault⟩ →
      (∃ whole rest, rest ≠ [] ∧ Reading.ofText whole = ⟨tokens ++ rest, none⟩) ∧
      (∀ bindings options,
        (∃ text, (render tokens bindings options).value = .ok text) ↔ Token.Grouped tokens) ∧
      (Token.Grouped tokens ↔ (∃ fault, Lexeme.scan template = .error fault) ∨
        ∃ lexemes, Lexeme.scan template = .ok lexemes ∧
          Place.outside.stoppedAt lexemes = .outside) ∧
      (¬ Token.Grouped tokens → ∃ fault, Token.EndFault tokens fault ∧
        ∀ bindings options, (render tokens bindings options).value = .error fault)) ∧
      ∀ bindings options fault,
        (render (Reading.ofText template).tokens bindings options).value = .error fault →
          (Reading.ofText template).succeeds = false ∧
            fault.cause ∈ [.fieldWithoutPlaceholder, .strayOccurrence, .unclosedGroup] := by
  obtain ⟨gs, state, hreached, hgs, hprintable, hannounced, houtside⟩ := exists_reached template
  refine ⟨fun tokens fault h => ?_, fun bindings options fault h => ⟨?_, ?_⟩⟩
  · rw [h] at hreached hprintable
    refine ⟨?_, renders_iff_grouped, ?_, fun hnot => ?_⟩
    · -- print the completed tokens: their text is a template without a fault
      obtain ⟨rest, hne, hwhole⟩ := hreached.exists_wellFormed hgs hprintable
      exact ⟨_, rest, hne, ofText_listText hwhole⟩
    · rw [hreached.grouped_iff, fault?_eq_none_iff, houtside]
    · rw [hreached.grouped_iff] at hnot
      obtain ⟨fault, hfault⟩ := Option.ne_none_iff_exists'.mp hnot
      exact ⟨fault, hreached.endFault hannounced hfault,
        fun bindings options => (hreached.value_render_eq_error_iff bindings options).mpr hfault⟩
  · cases hsucceeds : (Reading.ofText template).succeeds with
    | false => rfl
    | true =>
      rw [Reading.succeeds, Option.isNone_iff_eq_none] at hsucceeds
      obtain ⟨gs, -, -, htokens⟩ := wellFormed_of_ofText hsucceeds
      rw [htokens, value_render_listTokens] at h
      exact absurd h (by simp)
  · have hfault := (hreached.value_render_eq_error_iff bindings options).mp h
    exact (hreached.endFault hannounced hfault).cause_mem

/-- The second group ends behind an occurrence. -/
theorem partial_reading_renders_or_fails_in_clause :
    ∃ tokens fault, Reading.ofText "(é<b>)(must " = ⟨tokens, some fault⟩ ∧
      (∃ whole rest, rest ≠ [] ∧ Reading.ofText whole = ⟨tokens ++ rest, none⟩) ∧
      ¬ Token.Grouped tokens ∧
      ∀ bindings options, (render tokens bindings options).value = .error ⟨.strayOccurrence, 5⟩ := by
  have hreading : Reading.ofText "(é<b>)(must "
      = ⟨[.groupOpen, .field "é", .placeholder "b", .groupClose, .groupOpen, .fieldOccurrence .must],
          some ⟨13, .fieldNameExpected "must"⟩⟩ := by
    decide +kernel
  obtain ⟨hwhole, -, -, hfails⟩ :=
    (partial_reading_renders_or_fails "(é<b>)(must ").1 _ _ hreading
  refine ⟨_, _, hreading, hwhole, by decide, fun bindings options => ?_⟩
  obtain ⟨fault, hfault, hrender⟩ := hfails (by decide)
  have hfault : fault = ⟨.strayOccurrence, 5⟩ := hfault
  rw [hrender, hfault]

end QueryTemplate
