import QueryTemplate.Template.Outline

/-!
# The outline of written groups

`Group.listTokens` writes groups as a flat list of tokens; `outline` walks such a list and puts groups
together again. Here the walk is followed over the tokens of each level of the tree, whatever tokens
come after them:

* `outlineFrom_decorations`: decorations go to the last clause of the open group,
* `outlineFrom_clause`, `outlineFrom_clauses`: the tokens of a clause add that clause,
* `outlineFrom_group`: the tokens of a group give that group and leave the walk outside.

So `outline` is a left inverse of `Group.listTokens` (`outline_listTokens`), and the tokens determine
the groups (`listTokens_injective`).
-/

namespace QueryTemplate

/-! ## One step of the walk -/

/-- A token that closes no group only moves the walk on. Any fault behind it comes out unchanged. -/
theorem outlineFrom_cons_of_proceed (next : OutlineState) {i : Nat} {state : OutlineState}
    {token : Token} (h : state.step i token = next.proceed) (tokens : List Token) :
    outlineFrom i state (token :: tokens) = outlineFrom (i + 1) next tokens := by
  rw [outlineFrom, h, OutlineState.proceed]
  cases hrest : outlineFrom (i + 1) next tokens with
  | error fault => simp [bind, Except.bind, hrest]
  | ok groups => simp [bind, Except.bind, pure, Except.pure, hrest]

/-- A token that closes a group puts it in front of the groups behind it, if there is no fault among
them. -/
theorem outlineFrom_cons_of_close {i : Nat} {state next : OutlineState} {token : Token} {g : Group}
    (h : state.step i token = .ok (some g, next)) (tokens : List Token) :
    outlineFrom i state (token :: tokens) = (outlineFrom (i + 1) next tokens).map (g :: ·) := by
  rw [outlineFrom, h]
  cases hrest : outlineFrom (i + 1) next tokens with
  | error fault => simp [bind, Except.bind, Except.map, hrest]
  | ok groups => simp [bind, Except.bind, pure, Except.pure, Except.map, hrest]

/-! ## Decorations, clauses and groups -/

/-- **Decorations go to the last clause of the open group.** The induction is on the decorations, with the
clause growing by one of them at each step. -/
theorem outlineFrom_decorations (i start : Nat) (o : Option Occurrence) (c : Clause)
    (recent : List Clause) (ds : List Decoration) (rest : List Token) :
    outlineFrom i (.inside ⟨start, o, c :: recent⟩) (ds.map .decoration ++ rest)
      = outlineFrom (i + ds.length)
          (.inside ⟨start, o, { c with decorations := c.decorations ++ ds } :: recent⟩) rest := by
  induction ds generalizing i c with
  | nil => simp
  | cons d ds ih =>
    rw [List.map_cons, List.cons_append,
      outlineFrom_cons_of_proceed
        (.inside ⟨start, o, { c with decorations := c.decorations ++ [d] } :: recent⟩) rfl,
      ih]
    simp [Nat.add_assoc, Nat.add_comm 1]

/-- The tokens of a clause up to its placeholder add it without decorations. The walk passes through the
states that wait for a field and for a placeholder. -/
theorem outlineFrom_bare (i : Nat) (g : OpenGroup) (c : Clause) (rest : List Token) :
    outlineFrom i (.inside g) ((c.occurrence?.map .fieldOccurrence).toList
        ++ .field c.field :: .placeholder c.placeholder :: rest)
      = outlineFrom (i + (c.occurrence?.map Token.fieldOccurrence).toList.length + 2)
          (.inside (g.addClause { c with decorations := [] })) rest := by
  cases ho : c.occurrence? with
  | none =>
    rw [Option.map_none, Option.toList_none, List.nil_append,
      outlineFrom_cons_of_proceed (.named g i none c.field) rfl,
      outlineFrom_cons_of_proceed
        (.inside (g.addClause ⟨none, c.field, c.placeholder, []⟩)) rfl]
    simp
  -- with an occurrence there is one more token, and one more state
  | some o =>
    rw [Option.map_some, Option.toList_some, List.singleton_append,
      outlineFrom_cons_of_proceed (.modified g i o) rfl,
      outlineFrom_cons_of_proceed (.named g (i + 1) (some o) c.field) rfl,
      outlineFrom_cons_of_proceed
        (.inside (g.addClause ⟨some o, c.field, c.placeholder, []⟩)) rfl]
    simp

/-- **The tokens of a clause add that clause.** It comes in without decorations and then gets them. -/
theorem outlineFrom_clause (i : Nat) (g : OpenGroup) (c : Clause) (rest : List Token) :
    outlineFrom i (.inside g) (c.tokens ++ rest)
      = outlineFrom (i + c.tokens.length) (.inside (g.addClause c)) rest := by
  -- the tokens up to the placeholder, then the decorations
  have hsplit : c.tokens ++ rest = (c.occurrence?.map .fieldOccurrence).toList
      ++ .field c.field :: .placeholder c.placeholder :: (c.decorations.map .decoration ++ rest) := by
    simp [Clause.tokens]
  have hlen : c.tokens.length
      = (c.occurrence?.map Token.fieldOccurrence).toList.length + 2 + c.decorations.length := by
    simp [Clause.tokens]
    omega
  rw [hsplit, outlineFrom_bare, OpenGroup.addClause, outlineFrom_decorations, hlen]
  simp [OpenGroup.addClause, Nat.add_assoc]

/-- Clauses are added one after the other; the open group keeps them newest first. The induction is on the
clauses. -/
theorem outlineFrom_clauses (i : Nat) (g : OpenGroup) (cs : List Clause) (rest : List Token) :
    outlineFrom i (.inside g) (cs.flatMap Clause.tokens ++ rest)
      = outlineFrom (i + (cs.flatMap Clause.tokens).length)
          (.inside { g with recent := cs.reverse ++ g.recent }) rest := by
  induction cs generalizing i g with
  | nil => simp
  | cons c cs ih =>
    rw [List.flatMap_cons, List.append_assoc, outlineFrom_clause, ih]
    simp [OpenGroup.addClause, Nat.add_assoc]

/-- **The tokens of a group give that group**, and the walk goes on outside, with the index behind the
group. -/
theorem outlineFrom_group (i : Nat) (g : Group) (rest : List Token) :
    outlineFrom i .outside (g.tokens ++ rest)
      = (outlineFrom (i + g.tokens.length) .outside rest).map (g :: ·) := by
  -- after the opening token both forms of a group run in the same way
  have hbody : ∀ j start,
      outlineFrom j (.inside ⟨start, g.occurrence?, []⟩)
          (g.clauses.flatMap Clause.tokens ++ .groupClose :: rest)
        = (outlineFrom (j + (g.clauses.flatMap Clause.tokens).length + 1) .outside rest).map
            (g :: ·) := by
    intro j start
    rw [outlineFrom_clauses]
    refine outlineFrom_cons_of_close ?_ rest
    simp [OutlineState.step, OutlineState.stepInside, OpenGroup.close]
  cases ho : g.occurrence? with
  | none =>
    have hsplit : g.tokens ++ rest
        = .groupOpen :: (g.clauses.flatMap Clause.tokens ++ .groupClose :: rest) := by
      simp [Group.tokens, ho]
    have hlen : g.tokens.length = 1 + (g.clauses.flatMap Clause.tokens).length + 1 := by
      simp [Group.tokens, ho]
      omega
    rw [hsplit, outlineFrom_cons_of_proceed (.inside ⟨i, none, []⟩) rfl, ← ho, hbody, hlen]
    simp only [Nat.add_assoc]
  | some o =>
    have hsplit : g.tokens ++ rest = .groupOccurrence o :: .groupOpen ::
        (g.clauses.flatMap Clause.tokens ++ .groupClose :: rest) := by
      simp [Group.tokens, ho]
    have hlen : g.tokens.length = 1 + 1 + (g.clauses.flatMap Clause.tokens).length + 1 := by
      simp [Group.tokens, ho]
      omega
    rw [hsplit, outlineFrom_cons_of_proceed (.announced i o) rfl,
      outlineFrom_cons_of_proceed (.inside ⟨i + 1, some o, []⟩) rfl, ← ho, hbody, hlen]
    simp only [Nat.add_assoc]

/-! ## Whole lists -/

/-- Any number of groups, by induction on them. Whatever comes behind them is walked through as if it
stood alone, at its own index. -/
theorem outlineFrom_groups (i : Nat) (gs : List Group) (rest : List Token) :
    outlineFrom i .outside (Group.listTokens gs ++ rest)
      = (outlineFrom (i + (Group.listTokens gs).length) .outside rest).map (gs ++ ·) := by
  induction gs generalizing i with
  | nil => cases h : outlineFrom i .outside rest <;> simp [Group.listTokens, Except.map, h]
  | cons g gs ih =>
    have hsplit : Group.listTokens (g :: gs) ++ rest
        = g.tokens ++ (Group.listTokens gs ++ rest) := by
      simp [Group.listTokens]
    have hlen : (Group.listTokens (g :: gs)).length
        = g.tokens.length + (Group.listTokens gs).length := by
      simp [Group.listTokens]
    rw [hsplit, outlineFrom_group, ih, hlen, ← Nat.add_assoc]
    cases outlineFrom (i + g.tokens.length + (Group.listTokens gs).length) .outside rest <;> rfl

/-- **The outline of written groups is these groups.** So rendering never fails on tokens that come from a
tree. -/
theorem outline_listTokens (gs : List Group) : outline (Group.listTokens gs) = .ok gs := by
  have h := outlineFrom_groups 0 gs []
  rw [List.append_nil] at h
  rw [outline, h]
  simp [outlineFrom, OutlineState.fault?, Except.map]

/-- **The tokens determine the groups**, because the outline finds them again. -/
theorem listTokens_injective {gs gs' : List Group}
    (h : Group.listTokens gs = Group.listTokens gs') : gs = gs' := by
  have hok : Except.ok gs = (Except.ok gs' : Except ShapeFault (List Group)) := by
    rw [← outline_listTokens gs, ← outline_listTokens gs', h]
  exact Except.ok.inj hok

end QueryTemplate
