import Mathlib.Data.List.Induction
import QueryTemplate.Proofs.Rendering

/-!
# The check of the tokens is exact

`outline` accepts or refuses a list of tokens in one walk. A list may have been put together by hand, so
nothing is known about it. The walk is described by what one token can do to it, and by what it remembers
of the tokens behind it:

* **`OutlineState.Moves`** — all that one token can do, and `step_eq_error` for what it cannot do.
* **`OutlineState.Reached`** — the walk has taken all of these tokens. What it remembers
  (`OutlineState.pending`) is what follows the complete groups (`Reached.tokens_eq`), and a group can
  always be made of it (`exists_completion`).
* **`Token.Viable`** — the beginnings of lists of groups. The walk takes exactly these
  (`viable_of_reached`), and it refuses a token only where no list of groups goes on with it
  (`not_viable_of_step_error`).
* **`render_refuses_exactly`** — the headline: rendering fails on exactly the lists that are no groups,
  always with one and the same fault, and the fault stands where the list stops being such a beginning.
-/

namespace QueryTemplate

/-! ## Lists of groups and their beginnings -/

namespace Token

/-- Groups one after the other, each of them complete. A group may have no clauses. -/
def Grouped (ts : List Token) : Prop := ∃ gs, ts = Group.listTokens gs

/-- The beginning of a list of groups. -/
def Viable (ts : List Token) : Prop := ∃ rest, Grouped (ts ++ rest)

/-- The last token of `ts` that opens a group has the index `i`. -/
def LastOpensAt (ts : List Token) (i : Nat) : Prop :=
  ∃ before after, ts = before ++ .groupOpen :: after ∧ before.length = i ∧ .groupOpen ∉ after

theorem Viable.of_append {ts ts' : List Token} (h : Viable (ts ++ ts')) : Viable ts := by
  obtain ⟨rest, hrest⟩ := h
  exact ⟨ts' ++ rest, by rwa [← List.append_assoc]⟩

/-- The first tokens of a viable list are viable, however many. A fault is located by the longest of
them. -/
theorem Viable.take {ts : List Token} (h : Viable ts) (n : Nat) : Viable (ts.take n) := by
  rw [← List.take_append_drop n ts] at h
  exact h.of_append

theorem LastOpensAt.lt_length {ts : List Token} {i : Nat} (h : LastOpensAt ts i) :
    i < ts.length := by
  obtain ⟨before, after, rfl, rfl, -⟩ := h
  simp

/-- A parenthesis at the end is the last one that opens a group. -/
theorem lastOpensAt_concat (ts : List Token) : LastOpensAt (ts ++ [.groupOpen]) ts.length :=
  ⟨ts, [], rfl, rfl, by simp⟩

theorem LastOpensAt.concat {ts : List Token} {i : Nat} (h : LastOpensAt ts i) {token : Token}
    (hne : token ≠ .groupOpen) : LastOpensAt (ts ++ [token]) i := by
  obtain ⟨before, after, rfl, hi, hafter⟩ := h
  refine ⟨before, after ++ [token], by simp, hi, ?_⟩
  simp [hafter, hne.symm]

end Token

/-! ## What the walk remembers -/

namespace OpenGroup

/-- The tokens of a group that is still open. -/
def tokens (g : OpenGroup) : List Token :=
  (g.occurrence?.map .groupOccurrence).toList ++ .groupOpen :: g.recent.reverse.flatMap Clause.tokens

theorem tokens_close (g : OpenGroup) : g.close.tokens = g.tokens ++ [.groupClose] := by
  simp [close, tokens, Group.tokens]

/-- Adding a clause adds its tokens. The open group keeps its clauses newest first, and its tokens are in
order. -/
theorem tokens_addClause (g : OpenGroup) (c : Clause) :
    (g.addClause c).tokens = g.tokens ++ c.tokens := by
  simp [addClause, tokens]

/-- Only a group with a clause can be decorated, and then its last clause changes. -/
theorem exists_of_decorate? {g g' : OpenGroup} {d : Decoration} (h : g.decorate? d = some g') :
    ∃ c recent, g.recent = c :: recent ∧
      g' = { g with recent := { c with decorations := c.decorations ++ [d] } :: recent } := by
  obtain ⟨start, occurrence?, recent⟩ := g
  cases recent with
  | nil => exact absurd h (by simp [decorate?])
  | cons c recent => exact ⟨c, recent, rfl, (Option.some.inj h).symm⟩

/-- Decorating a group adds the decoration, because the last clause ends with its decorations. -/
theorem tokens_decorate? {g g' : OpenGroup} {d : Decoration} (h : g.decorate? d = some g') :
    g'.tokens = g.tokens ++ [.decoration d] := by
  obtain ⟨c, recent, hrecent, rfl⟩ := exists_of_decorate? h
  simp [tokens, hrecent, Clause.tokens]

end OpenGroup

namespace OutlineState

/-- The tokens that the walk has taken since the last group was complete. -/
def pending : OutlineState → List Token
  | outside => []
  | announced _ o => [.groupOccurrence o]
  | inside g => g.tokens
  | modified g _ o => g.tokens ++ [.fieldOccurrence o]
  | named g _ occurrence? name =>
    g.tokens ++ (occurrence?.map .fieldOccurrence).toList ++ [.field name]

/-- A group that starts with the pending tokens. What is missing of a clause is called `a`. -/
def completed : OutlineState → Group
  | outside => ⟨none, [⟨none, "a", "a", []⟩]⟩
  | announced _ o => ⟨some o, [⟨none, "a", "a", []⟩]⟩
  | inside g => (g.addClause ⟨none, "a", "a", []⟩).close
  | modified g _ o => (g.addClause ⟨some o, "a", "a", []⟩).close
  | named g _ occurrence? field => (g.addClause ⟨occurrence?, field, "a", []⟩).close

/-- **The walk is never at a dead end**: behind the pending tokens the end of `( a <a> )` completes a
group. -/
theorem exists_completion (state : OutlineState) :
    ∃ rest, rest ≠ [] ∧ rest <:+ [.groupOpen, .field "a", .placeholder "a", .groupClose] ∧
      state.completed.tokens = state.pending ++ rest := by
  cases state with
  | outside => exact ⟨_, by simp, List.suffix_refl _, rfl⟩
  | announced j o => exact ⟨_, by simp, List.suffix_refl _, rfl⟩
  | inside g =>
    refine ⟨[.field "a", .placeholder "a", .groupClose], by simp, ⟨[.groupOpen], rfl⟩, ?_⟩
    simp [completed, pending, OpenGroup.tokens_close, OpenGroup.tokens_addClause, Clause.tokens]
  | modified g j o =>
    refine ⟨[.field "a", .placeholder "a", .groupClose], by simp, ⟨[.groupOpen], rfl⟩, ?_⟩
    simp [completed, pending, OpenGroup.tokens_close, OpenGroup.tokens_addClause, Clause.tokens]
  | named g j occurrence? field =>
    refine ⟨[.placeholder "a", .groupClose], by simp, ⟨[.groupOpen, .field "a"], rfl⟩, ?_⟩
    simp [completed, pending, OpenGroup.tokens_close, OpenGroup.tokens_addClause, Clause.tokens]

/-! ## One token

`Moves` lists what the token at index `i` can do: the state before it, the token, the group that it
completes, and the state after it. -/

inductive Moves (i : Nat) : OutlineState → Token → Option Group → OutlineState → Prop where
  | opening : Moves i .outside .groupOpen none (.inside ⟨i, none, []⟩)
  | announce {o : Occurrence} : Moves i .outside (.groupOccurrence o) none (.announced i o)
  | announced {j : Nat} {o : Occurrence} :
      Moves i (.announced j o) .groupOpen none (.inside ⟨i, some o, []⟩)
  | closing {g : OpenGroup} : Moves i (.inside g) .groupClose (some g.close) .outside
  | occurrence {g : OpenGroup} {o : Occurrence} :
      Moves i (.inside g) (.fieldOccurrence o) none (.modified g i o)
  | field {g : OpenGroup} {name : String} :
      Moves i (.inside g) (.field name) none (.named g i none name)
  | decoration {g g' : OpenGroup} {d : Decoration} (hdecorate : g.decorate? d = some g') :
      Moves i (.inside g) (.decoration d) none (.inside g')
  | modifiedField {g : OpenGroup} {j : Nat} {o : Occurrence} {name : String} :
      Moves i (.modified g j o) (.field name) none (.named g i (some o) name)
  | placeholder {g : OpenGroup} {j : Nat} {occurrence? : Option Occurrence} {field name : String} :
      Moves i (.named g j occurrence? field) (.placeholder name) none
        (.inside (g.addClause ⟨occurrence?, field, name, []⟩))

theorem Moves.step_eq {i : Nat} {state next : OutlineState} {token : Token} {group? : Option Group}
    (h : Moves i state token group? next) : state.step i token = .ok (group?, next) := by
  cases h with
  | decoration hdecorate => simp [step, stepInside, hdecorate, proceed]
  | _ => rfl

/-- Every token that the walk takes makes one of the moves. The cases are those of the state, and in each
state those of the token. -/
theorem moves_of_step {i : Nat} {state next : OutlineState} {token : Token} {group? : Option Group}
    (h : state.step i token = .ok (group?, next)) : Moves i state token group? next := by
  cases state with
  | outside =>
    cases token with
    | groupOpen => obtain ⟨rfl, rfl⟩ := Prod.mk.inj (Except.ok.inj h); exact .opening
    | groupOccurrence o => obtain ⟨rfl, rfl⟩ := Prod.mk.inj (Except.ok.inj h); exact .announce
    | _ => exact absurd h (by simp [step, stepOutside, fail])
  | announced j o =>
    cases token with
    | groupOpen => obtain ⟨rfl, rfl⟩ := Prod.mk.inj (Except.ok.inj h); exact .announced
    | _ => exact absurd h (by simp [step, fail])
  | inside g =>
    cases token with
    | groupClose => obtain ⟨rfl, rfl⟩ := Prod.mk.inj (Except.ok.inj h); exact .closing
    | fieldOccurrence o => obtain ⟨rfl, rfl⟩ := Prod.mk.inj (Except.ok.inj h); exact .occurrence
    | field name => obtain ⟨rfl, rfl⟩ := Prod.mk.inj (Except.ok.inj h); exact .field
    | decoration d =>
      simp only [step, stepInside] at h
      split at h
      · next g' hdecorate =>
        obtain ⟨rfl, rfl⟩ := Prod.mk.inj (Except.ok.inj h)
        exact .decoration hdecorate
      · exact absurd h (by simp [fail])
    | _ => exact absurd h (by simp [step, stepInside, fail])
  | modified g j o =>
    cases token with
    | field name => obtain ⟨rfl, rfl⟩ := Prod.mk.inj (Except.ok.inj h); exact .modifiedField
    | _ => exact absurd h (by simp [step, fail])
  | named g j occurrence? field =>
    cases token with
    | placeholder name => obtain ⟨rfl, rfl⟩ := Prod.mk.inj (Except.ok.inj h); exact .placeholder
    | _ => exact absurd h (by simp [step, fail])

/-- **What one token can do.** This is the inversion of the step function that all proofs about the walk
use. -/
theorem step_eq_ok_iff {i : Nat} {state next : OutlineState} {token : Token}
    {group? : Option Group} :
    state.step i token = .ok (group?, next) ↔ Moves i state token group? next :=
  ⟨moves_of_step, Moves.step_eq⟩

end OutlineState

namespace ShapeFault.Cause

/-- Is it the token before the one that does not fit that is named, because it waits for another one? -/
def isUnanswered : ShapeFault.Cause → Bool
  | strayOccurrence => true
  | fieldWithoutPlaceholder => true
  | _ => false

/-- Is it the token that does not fit that is named? -/
def isMisplaced (cause : ShapeFault.Cause) : Bool := !cause.isUnanswered && cause != unclosedGroup

end ShapeFault.Cause

namespace OutlineState

/-- **What one token cannot do.** A state that waits for a token has the same fault when another token
comes as when none comes. In the other states it is the token that does not fit. -/
theorem step_eq_error {i : Nat} {state : OutlineState} {token : Token} {fault : ShapeFault}
    (h : state.step i token = .error fault) :
    (state.fault? = some fault ∧ fault.cause.isUnanswered = true) ∨
      (fault.index = i ∧ fault.cause.isMisplaced = true) := by
  cases state with
  | outside =>
    right
    cases token with
    | groupOpen => exact absurd h (by simp [step, stepOutside, proceed])
    | groupOccurrence o => exact absurd h (by simp [step, stepOutside, proceed])
    | _ => obtain rfl := Except.error.inj h; exact ⟨rfl, rfl⟩
  | inside g =>
    right
    cases token with
    | groupClose => exact absurd h (by simp [step, stepInside])
    | fieldOccurrence o => exact absurd h (by simp [step, stepInside, proceed])
    | field name => exact absurd h (by simp [step, stepInside, proceed])
    | decoration d =>
      simp only [step, stepInside] at h
      split at h
      · exact absurd h (by simp [proceed])
      · obtain rfl := Except.error.inj h; exact ⟨rfl, rfl⟩
    | _ => obtain rfl := Except.error.inj h; exact ⟨rfl, rfl⟩
  | announced j o =>
    left
    cases token with
    | groupOpen => exact absurd h (by simp [step, proceed])
    | _ => obtain rfl := Except.error.inj h; exact ⟨rfl, rfl⟩
  | modified g j o =>
    left
    cases token with
    | field name => exact absurd h (by simp [step, proceed])
    | _ => obtain rfl := Except.error.inj h; exact ⟨rfl, rfl⟩
  | named g j occurrence? field =>
    left
    cases token with
    | placeholder name => exact absurd h (by simp [step, proceed])
    | _ => obtain rfl := Except.error.inj h; exact ⟨rfl, rfl⟩

/-- Only outside all groups the tokens may end. -/
theorem fault?_eq_none_iff {state : OutlineState} : state.fault? = none ↔ state = .outside := by
  cases state <;> simp [fault?]

/-! ## Many tokens -/

/-- Taking all of `ts` from the start on completes the groups `gs` and leaves the walk in a state. -/
inductive Reached : List Token → List Group → OutlineState → Prop where
  | start : Reached [] [] .outside
  | step {ts : List Token} {gs : List Group} {state next : OutlineState} {token : Token}
      {group? : Option Group} (before : Reached ts gs state)
      (move : Moves ts.length state token group? next) :
      Reached (ts ++ [token]) (gs ++ group?.toList) next

namespace Reached

variable {ts : List Token} {gs : List Group} {state : OutlineState}

/-- **What the walk makes of the tokens behind `ts` depends only on the state it has reached.** The
induction is on the steps that led there. -/
theorem outline_append (h : Reached ts gs state) (rest : List Token) :
    outline (ts ++ rest) = (outlineFrom ts.length state rest).map (gs ++ ·) := by
  induction h generalizing rest with
  | start => cases h : outlineFrom 0 .outside rest <;> simp [outline, Except.map, h]
  | @step ts gs state next token group? _ move ih =>
    rw [List.append_assoc, List.singleton_append, ih, List.length_append, List.length_singleton]
    cases group? with
    | none => rw [outlineFrom_cons_of_proceed next move.step_eq]; simp
    | some g =>
      rw [outlineFrom_cons_of_close move.step_eq]
      cases outlineFrom (ts.length + 1) next rest <;> simp [Except.map]

/-- **Nothing is lost:** the tokens are those of the groups, and then the pending ones. Each move adds its
token to one of the two. -/
theorem tokens_eq (h : Reached ts gs state) : ts = Group.listTokens gs ++ state.pending := by
  induction h with
  | start => rfl
  | step _ move ih =>
    rw [ih]
    cases move with
    | closing => simp [pending, Group.listTokens, OpenGroup.tokens_close]
    | decoration hdecorate => simp [pending, OpenGroup.tokens_decorate? hdecorate]
    | placeholder => simp [pending, OpenGroup.tokens_addClause, Clause.tokens]
    | _ => simp [pending, OpenGroup.tokens]

/-- If all tokens are taken, the walk has the fault of the state in which they end, if that state has
one. -/
theorem outline_eq (h : Reached ts gs state) :
    outline ts = match state.fault? with
      | none => .ok gs
      | some fault => .error fault := by
  have houtline := h.outline_append []
  rw [List.append_nil] at houtline
  rw [houtline, outlineFrom]
  cases state.fault? <;> simp [Except.map]

/-- Behind a token that the walk cannot take, nothing matters any more. -/
theorem outline_of_step_error {token : Token} {fault : ShapeFault} (h : Reached ts gs state)
    (hstep : state.step ts.length token = .error fault) (after : List Token) :
    outline (ts ++ token :: after) = .error fault := by
  rw [h.outline_append, outlineFrom, hstep]
  rfl

end Reached

/-- **The walk takes all tokens, or there is a first one that it cannot take.** The induction is from the
end: one more token is taken, is refused, or comes behind one that was refused. -/
theorem reached_or_stuck (ts : List Token) :
    (∃ gs state, Reached ts gs state) ∨
      ∃ before token after gs state fault, ts = before ++ token :: after ∧
        Reached before gs state ∧ state.step before.length token = .error fault := by
  induction ts using List.reverseRecOn with
  | nil => exact .inl ⟨[], .outside, .start⟩
  | append_singleton ts token ih =>
    rcases ih with ⟨gs, state, hreached⟩ | ⟨before, first, after, gs, state, fault, rfl, hstuck⟩
    · cases hstep : state.step ts.length token with
      | ok result =>
        obtain ⟨group?, next⟩ := result
        exact .inl ⟨_, next, hreached.step (step_eq_ok_iff.mp hstep)⟩
      | error fault => exact .inr ⟨ts, token, [], gs, state, fault, rfl, hreached, hstep⟩
    · exact .inr ⟨before, first, after ++ [token], gs, state, fault, by simp, hstuck⟩

/-! ## The indices that the walk remembers -/

/-- A waiting token is the last one, and an open group starts at the last token that opens one. -/
def Marks (ts : List Token) : OutlineState → Prop
  | outside => True
  | announced j _ => j + 1 = ts.length
  | inside g => Token.LastOpensAt ts g.start
  | modified g j _ => Token.LastOpensAt ts g.start ∧ j + 1 = ts.length
  | named g j _ _ => Token.LastOpensAt ts g.start ∧ j + 1 = ts.length

/-- The walk remembers the right indices. Each move writes down the index of its own token, or leaves the
open group alone. -/
theorem Reached.marks {ts : List Token} {gs : List Group} {state : OutlineState}
    (h : Reached ts gs state) : state.Marks ts := by
  induction h with
  | start => trivial
  | step _ move ih =>
    cases move with
    | opening => exact Token.lastOpensAt_concat _
    | announce => simp [Marks]
    | announced => exact Token.lastOpensAt_concat _
    | closing => trivial
    | occurrence => exact ⟨Token.LastOpensAt.concat ih (by simp), by simp⟩
    | field => exact ⟨Token.LastOpensAt.concat ih (by simp), by simp⟩
    | decoration hdecorate =>
      obtain ⟨c, recent, -, rfl⟩ := OpenGroup.exists_of_decorate? hdecorate
      exact Token.LastOpensAt.concat ih (by simp)
    | modifiedField => exact ⟨Token.LastOpensAt.concat ih.1 (by simp), by simp⟩
    | placeholder => exact Token.LastOpensAt.concat ih.1 (by simp)

/-- The fault of a waiting token stands at the last token. -/
theorem Marks.index_add_one {ts : List Token} {state : OutlineState} {fault : ShapeFault}
    (h : state.Marks ts) (hfault : state.fault? = some fault)
    (hcause : fault.cause.isUnanswered = true) : fault.index + 1 = ts.length := by
  cases state with
  | outside => exact absurd hfault (by simp [fault?])
  | announced j o =>
    obtain rfl := Option.some.inj hfault
    exact h
  | inside g =>
    obtain rfl := Option.some.inj hfault
    exact absurd hcause (by simp [ShapeFault.Cause.isUnanswered])
  | modified g j o =>
    obtain rfl := Option.some.inj hfault
    exact h.2
  | named g j occurrence? field =>
    obtain rfl := Option.some.inj hfault
    exact h.2

end OutlineState

open OutlineState

/-! ## Which lists are accepted, and which can still be -/

/-- **The check accepts the lists of groups and no others.** If all tokens are taken and none is pending,
they are the tokens of the groups. -/
theorem outline_eq_ok_iff {ts : List Token} {gs : List Group} :
    outline ts = .ok gs ↔ ts = Group.listTokens gs := by
  refine ⟨fun h => ?_, ?_⟩
  · rcases reached_or_stuck ts with ⟨gs', state, hreached⟩ | ⟨_, _, after, _, _, _, rfl, hr, hstep⟩
    · have htokens := hreached.tokens_eq
      rw [hreached.outline_eq] at h
      split at h
      · next hfault =>
        -- outside all groups nothing is pending
        obtain rfl := fault?_eq_none_iff.mp hfault
        obtain rfl := Except.ok.inj h
        simpa [pending] using htokens
      · exact absurd h (by simp)
    · -- a token that is refused makes the whole outline fail
      rw [hr.outline_of_step_error hstep after] at h
      exact absurd h (by simp)
  · rintro rfl
    exact outline_listTokens gs

instance (ts : List Token) : Decidable (Token.Grouped ts) :=
  match h : outline ts with
  | .ok gs => .isTrue ⟨gs, outline_eq_ok_iff.mp h⟩
  | .error _ => .isFalse fun ⟨gs, hgs⟩ => by
      rw [outline_eq_ok_iff.mpr hgs] at h
      exact absurd h (by simp)

/-- Tokens that are taken can be completed to a list of groups, whatever state they lead to. -/
theorem Token.viable_of_reached {ts : List Token} {gs : List Group} {state : OutlineState}
    (h : Reached ts gs state) : Token.Viable ts := by
  obtain ⟨rest, -, -, hrest⟩ := state.exists_completion
  refine ⟨rest, gs ++ [state.completed], ?_⟩
  rw [h.tokens_eq, List.append_assoc, ← hrest]
  simp [Group.listTokens]

/-- Tokens with one at the end that is refused cannot be completed, since the walk would refuse the whole
list. -/
theorem Token.not_viable_of_step_error {ts : List Token} {gs : List Group} {state : OutlineState}
    {token : Token} {fault : ShapeFault} (h : Reached ts gs state)
    (hstep : state.step ts.length token = .error fault) : ¬ Token.Viable (ts ++ [token]) := by
  rintro ⟨rest, gs', hgs'⟩
  have hok := outline_eq_ok_iff.mpr hgs'
  rw [List.append_assoc, List.singleton_append, h.outline_of_step_error hstep] at hok
  exact absurd hok (by simp)

/-! ## Where the fault stands -/

/-- A fault stands at a token of the list, and the tokens before it are the beginning of a list of
groups. A group that is not closed is the last one, and nothing else is wrong. A token that waits for
another one still fits, but it is the last one or not the one after it. Any other token named by a fault
does not fit. -/
def ShapeFault.Pinpoints (fault : ShapeFault) (ts : List Token) : Prop :=
  fault.index < ts.length ∧ Token.Viable (ts.take fault.index) ∧
    match fault.cause with
    | .unclosedGroup => Token.LastOpensAt ts fault.index ∧ Token.Viable ts
    | .strayOccurrence | .fieldWithoutPlaceholder =>
      Token.Viable (ts.take (fault.index + 1)) ∧
        (fault.index + 1 = ts.length ∨ ¬ Token.Viable (ts.take (fault.index + 2)))
    | _ => ¬ Token.Viable (ts.take (fault.index + 1))

namespace ShapeFault

/-- A fault that names a token that waits for another one. -/
theorem pinpoints_of_unanswered {fault : ShapeFault} {ts : List Token}
    (hcause : fault.cause.isUnanswered = true) (hviable : Token.Viable (ts.take (fault.index + 1)))
    (hlt : fault.index < ts.length)
    (hnext : fault.index + 1 = ts.length ∨ ¬ Token.Viable (ts.take (fault.index + 2))) :
    fault.Pinpoints ts := by
  have hbefore : Token.Viable (ts.take fault.index) := by
    have htake := hviable.take fault.index
    rwa [List.take_take, Nat.min_eq_left (by omega)] at htake
  obtain ⟨cause, index⟩ := fault
  cases cause with
  | strayOccurrence => exact ⟨hlt, hbefore, hviable, hnext⟩
  | fieldWithoutPlaceholder => exact ⟨hlt, hbefore, hviable, hnext⟩
  | _ => exact absurd hcause (by simp [Cause.isUnanswered])

theorem pinpoints_of_misplaced {fault : ShapeFault} {ts : List Token}
    (hcause : fault.cause.isMisplaced = true) (hlt : fault.index < ts.length)
    (hviable : Token.Viable (ts.take fault.index))
    (hnot : ¬ Token.Viable (ts.take (fault.index + 1))) : fault.Pinpoints ts := by
  obtain ⟨cause, index⟩ := fault
  cases cause with
  | strayOccurrence => exact absurd hcause (by simp [Cause.isMisplaced, Cause.isUnanswered])
  | fieldWithoutPlaceholder =>
    exact absurd hcause (by simp [Cause.isMisplaced, Cause.isUnanswered])
  | unclosedGroup => exact absurd hcause (by simp [Cause.isMisplaced])
  | _ => exact ⟨hlt, hviable, hnot⟩

/-- The tokens end, but the walk is not outside all groups: the group is not closed, or the last token
waits for another one. -/
theorem pinpoints_of_end {ts : List Token} {gs : List Group} {state : OutlineState}
    {fault : ShapeFault} (h : Reached ts gs state) (hfault : state.fault? = some fault) :
    fault.Pinpoints ts := by
  have hviable := Token.viable_of_reached h
  cases state with
  | outside => exact absurd hfault (by simp [fault?])
  | inside g =>
    obtain rfl := Option.some.inj hfault
    have hopens : Token.LastOpensAt ts g.start := h.marks
    exact ⟨hopens.lt_length, hviable.take _, hopens, hviable⟩
  | _ =>
    -- the token that waits is the last one
    have hcause : fault.cause.isUnanswered = true := by
      obtain rfl := Option.some.inj hfault
      rfl
    have hlast := h.marks.index_add_one hfault hcause
    exact pinpoints_of_unanswered hcause (hviable.take _) (by omega) (.inl hlast)

/-- **The walk cannot take `token`.** Then the tokens before it are viable and those with it are not; the
fault names it, or the token before it that waited. -/
theorem pinpoints_of_step_error {before after : List Token} {gs : List Group}
    {state : OutlineState} {token : Token} {fault : ShapeFault} (h : Reached before gs state)
    (hstep : state.step before.length token = .error fault) :
    fault.Pinpoints (before ++ token :: after) := by
  have hviable := Token.viable_of_reached h
  have hnot := Token.not_viable_of_step_error h hstep
  have hbefore : (before ++ token :: after).take before.length = before := List.take_left
  -- with the token, the list is one longer than the tokens that were taken
  have hwith : (before ++ token :: after).take (before.length + 1) = before ++ [token] := by
    rw [List.take_append, List.take_of_length_le (by omega)]
    simp
  rcases step_eq_error hstep with ⟨hfault, hcause⟩ | ⟨hindex, hcause⟩
  · -- the token before this one waits for another one
    have hlast := h.marks.index_add_one hfault hcause
    refine pinpoints_of_unanswered hcause ?_ (by simp; omega) (.inr ?_)
    · rwa [hlast, hbefore]
    · rwa [show fault.index + 2 = before.length + 1 by omega, hwith]
  · refine pinpoints_of_misplaced hcause (by simp [hindex]) ?_ ?_
    · rwa [hindex, hbefore]
    · rwa [hindex, hwith]

end ShapeFault

/-- A list that is not made of complete groups has a fault, and it stands where the list goes wrong. -/
theorem exists_fault_of_not_grouped {ts : List Token} (h : ¬ Token.Grouped ts) :
    ∃ fault, outline ts = .error fault ∧ fault.Pinpoints ts := by
  rcases reached_or_stuck ts with ⟨gs, state, hr⟩ | ⟨before, token, after, _, _, fault, rfl, hr, hstep⟩
  · cases hfault : state.fault? with
    | none =>
      -- with no fault at the end, the list would be accepted, and so it would be made of groups
      have hok : outline ts = .ok gs := by rw [hr.outline_eq, hfault]
      exact absurd ⟨gs, outline_eq_ok_iff.mp hok⟩ h
    | some fault =>
      exact ⟨fault, by rw [hr.outline_eq, hfault], ShapeFault.pinpoints_of_end hr hfault⟩
  · exact ⟨fault, hr.outline_of_step_error hstep after,
      ShapeFault.pinpoints_of_step_error hr hstep⟩

/-- Rendering passes a fault of the outline on, and does not look at bindings or options before that. -/
theorem value_render_of_outline_error {ts : List Token} {fault : ShapeFault}
    (h : outline ts = .error fault) (bindings : Bindings) (options : Options) :
    (render ts bindings options).value = .error fault := by
  unfold render
  rw [h]

/-- **Whether a list of tokens renders does not depend on the bindings and options**, but only on whether
it is made of complete groups. -/
theorem renders_iff_grouped {ts : List Token} (bindings : Bindings) (options : Options) :
    (∃ text, (render ts bindings options).value = .ok text) ↔ Token.Grouped ts := by
  refine ⟨fun ⟨text, htext⟩ => ?_, ?_⟩
  · by_contra hnot
    obtain ⟨fault, houtline, -⟩ := exists_fault_of_not_grouped hnot
    rw [value_render_of_outline_error houtline] at htext
    exact absurd htext (by simp)
  · rintro ⟨gs, rfl⟩
    exact ⟨_, value_render_listTokens gs bindings options⟩

/-- **Rendering refuses exactly the lists that are no groups.** If a list of tokens renders under some
bindings and options, then it does so under all of them, and it is a list of complete groups; every such
list renders. On any other list the fault is the same under all bindings and options, and it stands where
the list goes wrong. -/
theorem render_refuses_exactly (ts : List Token) :
    ((∃ bindings options text, (render ts bindings options).value = .ok text) ↔
        ∀ bindings options, ∃ text, (render ts bindings options).value = .ok text) ∧
      ((∀ bindings options, ∃ text, (render ts bindings options).value = .ok text) ↔
        Token.Grouped ts) ∧
      (¬ Token.Grouped ts →
        ∃ fault, (∀ bindings options, (render ts bindings options).value = .error fault) ∧
          fault.Pinpoints ts) := by
  have hall : (∀ bindings options, ∃ text, (render ts bindings options).value = .ok text) ↔
      Token.Grouped ts :=
    ⟨fun h => (renders_iff_grouped NameTable.empty (.plain 1 "")).mp (h _ _),
      fun h bindings options => (renders_iff_grouped bindings options).mpr h⟩
  refine ⟨⟨fun ⟨bindings, options, hsome⟩ => ?_, fun h => ?_⟩, hall, fun h => ?_⟩
  · exact hall.mpr ((renders_iff_grouped bindings options).mp hsome)
  · exact ⟨NameTable.empty, .plain 1 "", h NameTable.empty (.plain 1 "")⟩
  · obtain ⟨fault, houtline, hpinpoints⟩ := exists_fault_of_not_grouped h
    exact ⟨fault, value_render_of_outline_error houtline, hpinpoints⟩

/-- An occurrence at the end of a group, behind a complete group: it is named, and not the parenthesis
behind it. -/
theorem render_refuses_exactly_stray :
    ∃ fault, (render [.groupOpen, .groupClose, .groupOpen, .field "a", .placeholder "b",
        .fieldOccurrence .must, .groupClose] NameTable.empty (.plain 1 "")).value = .error fault ∧
      fault = ⟨.strayOccurrence, 5⟩ ∧
      fault.Pinpoints [.groupOpen, .groupClose, .groupOpen, .field "a", .placeholder "b",
        .fieldOccurrence .must, .groupClose] := by
  obtain ⟨-, -, hrefuses⟩ := render_refuses_exactly [.groupOpen, .groupClose, .groupOpen,
    .field "a", .placeholder "b", .fieldOccurrence .must, .groupClose]
  obtain ⟨fault, hfault, hpinpoints⟩ := hrefuses (by decide)
  have hvalue := hfault NameTable.empty (.plain 1 "")
  refine ⟨fault, hvalue, ?_, hpinpoints⟩
  exact Except.error.inj hvalue.symm

end QueryTemplate
