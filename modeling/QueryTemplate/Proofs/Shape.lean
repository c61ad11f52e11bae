import QueryTemplate.Proofs.Signals

/-!
# All passes see one shape

A template is looked at more than once. The reader turns its lexemes into tokens and reports how many
groups they open; the outline puts the tokens together again when a query is made; the renderer reports
how many groups it had before it. None of them asks another one, and they agree:

* **`groupCount_listTokens`** — the tokens of groups open as many groups as there are,
* **`filter_isName_listTokens`** — the fields and placeholders among the tokens are those of the clauses,
  in the order of the clauses,
* **`signals_compile`** — the reading reports the number of groups that its tokens open, as `samplesIn_render`
  says of the rendering and the groups before it,
* **`passes_agree`** — the headline: what is read without a fault renders under all bindings and options,
  and every pass has found the same groups.
-/

namespace QueryTemplate

/-! ## Groups and names among the tokens -/

namespace Token

def isName : Token → Bool
  | field _ => true
  | placeholder _ => true
  | _ => false

end Token

/-- The tokens that carry the two names of a clause. -/
def Clause.names (c : Clause) : List Token := [.field c.field, .placeholder c.placeholder]

theorem Clause.count_groupOpen_tokens (c : Clause) : c.tokens.count .groupOpen = 0 := by
  rw [List.count_eq_zero]
  intro hmem
  simp [Clause.tokens] at hmem

/-- Of the tokens of a clause, only its field and its placeholder carry a name. -/
theorem Clause.filter_isName_tokens (c : Clause) : c.tokens.filter Token.isName = c.names := by
  -- neither a decoration nor an occurrence carries a name
  have hdecorations : (c.decorations.map Token.decoration).filter Token.isName = [] := by
    rw [List.filter_eq_nil_iff]
    intro token htoken
    obtain ⟨d, -, rfl⟩ := List.mem_map.mp htoken
    simp [Token.isName]
  have hoccurrence : (c.occurrence?.map Token.fieldOccurrence).toList.filter Token.isName = [] := by
    cases c.occurrence? <;> rfl
  rw [Clause.tokens, List.filter_append, hoccurrence, List.nil_append,
    List.filter_cons_of_pos rfl, List.filter_cons_of_pos rfl, hdecorations]
  rfl

/-- A group is opened once, by its own parenthesis. -/
theorem Group.count_groupOpen_tokens (g : Group) : g.tokens.count .groupOpen = 1 := by
  have hclauses : (g.clauses.flatMap Clause.tokens).count .groupOpen = 0 := by
    rw [List.count_eq_zero]
    intro hmem
    obtain ⟨c, -, hc⟩ := List.mem_flatMap.mp hmem
    exact List.count_eq_zero.mp c.count_groupOpen_tokens hc
  have hoccurrence : (g.occurrence?.map Token.groupOccurrence).toList.count .groupOpen = 0 := by
    cases g.occurrence? <;> rfl
  simp [Group.tokens, hclauses, hoccurrence]

/-- The names among the tokens of a group are those of its clauses, in their order. -/
theorem Group.filter_isName_tokens (g : Group) :
    g.tokens.filter Token.isName = g.clauses.flatMap Clause.names := by
  have hclauses : (g.clauses.flatMap Clause.tokens).filter Token.isName
      = g.clauses.flatMap Clause.names := by
    rw [List.filter_flatMap]
    exact List.flatMap_congr fun c _ => c.filter_isName_tokens
  have hoccurrence : (g.occurrence?.map Token.groupOccurrence).toList.filter Token.isName = [] := by
    cases g.occurrence? <;> rfl
  simp [Group.tokens, hclauses, hoccurrence, Token.isName]

/-- **The tokens of groups open as many groups as there are.** The reader counts them in this way, without
an outline. -/
theorem groupCount_listTokens (gs : List Group) :
    Token.groupCount (Group.listTokens gs) = gs.length := by
  induction gs with
  | nil => rfl
  | cons g gs ih =>
    have hsplit : Group.listTokens (g :: gs) = g.tokens ++ Group.listTokens gs := rfl
    rw [Token.groupCount] at ih ⊢
    rw [hsplit, List.count_append, ih, g.count_groupOpen_tokens, List.length_cons]
    omega

/-- **The fields and placeholders among the tokens are those of the clauses**, in the order of the
clauses. No clause is lost, doubled or moved between the token list and the tree. -/
theorem filter_isName_listTokens (gs : List Group) :
    (Group.listTokens gs).filter Token.isName
      = (gs.flatMap Group.clauses).flatMap Clause.names := by
  rw [Group.listTokens, List.filter_flatMap, List.flatMap_assoc]
  exact List.flatMap_congr fun g _ => g.filter_isName_tokens

/-! ## The passes together -/

/-- The signals of a reading without a fault: an event with the numbers of tokens and of groups, and one
more reading counted as right. -/
theorem signals_compile {template : String} {t : Template}
    (h : (Template.compile template).value = .ok t) :
    (Template.compile template).signals
      = [.event (.parsed t.tokens.length t.groupCount), .measurement (.parse "ok")] := by
  have hsignals : (Template.compile template).signals = (Reading.ofText template).signals ++ [] := rfl
  rw [hsignals, compile_eq_ok_iff.mp h]
  rfl

/-- **What is read renders, and all passes agree on its shape.** A template that is read without a fault
compiles. Its tokens have an outline, with as many groups as they open, as the report of the reading says
and as every rendering gives for a sample. No group is empty, and the clauses of all groups carry the
fields and placeholders of the tokens in their order. Rendering never fails, whatever the bindings and
options are. A snapshot of its measurements shows the sample as it is, as long as it has no more than
53 bits. -/
theorem passes_agree (template : String) (h : (Reading.ofText template).succeeds = true) :
    ∃ t gs, (Template.compile template).value = .ok t ∧ outline t.tokens = .ok gs ∧
      gs.length = t.groupCount ∧
      (Template.compile template).signals.filterMap Signal.event?
        = [.parsed t.tokens.length t.groupCount] ∧
      (∀ g ∈ gs, g.clauses ≠ []) ∧
      (gs.flatMap Group.clauses).flatMap Clause.names = t.tokens.filter Token.isName ∧
      ∀ bindings options,
        (∃ text, (render t.tokens bindings options).value = .ok text) ∧
          Series.renderGroups.samplesIn (render t.tokens bindings options).signals
            = [t.groupCount] ∧
          (t.groupCount < Nat.pow 2 53 → (.renderGroups, .samples [t.groupCount]) ∈
            snapshot ((render t.tokens bindings options).signals.filterMap Signal.measurement?)) := by
  rw [Reading.succeeds, Option.isNone_iff_eq_none] at h
  have hcompile : (Template.compile template).value = .ok ⟨(Reading.ofText template).tokens⟩ := by
    rw [compile_eq_ok_iff, ← h]
  obtain ⟨gs, -, hprintable, htokens⟩ := wellFormed_of_ofText h
  rw [htokens] at hcompile
  have hcount : Template.groupCount ⟨Group.listTokens gs⟩ = gs.length := groupCount_listTokens gs
  refine ⟨⟨Group.listTokens gs⟩, gs, hcompile, outline_listTokens gs, hcount.symm, ?_, ?_, ?_, ?_⟩
  · rw [signals_compile hcompile]
    rfl
  · intro g hg
    exact (hprintable g hg).1
  · exact (filter_isName_listTokens gs).symm
  · intro bindings options
    -- the sample of the rendering is one of those that `samplesIn_render` lists
    have hsamples := samplesIn_render (outline_listTokens gs) bindings options .renderGroups
    rw [hcount]
    refine ⟨⟨_, value_render_listTokens gs bindings options⟩, hsamples, fun hlt => ?_⟩
    have hmem := Series.renderGroups.mem_snapshot (by rw [hsamples]; simp)
    rw [hsamples] at hmem
    -- up to 53 bits the distribution holds the number itself
    have hmeter : Series.renderGroups.kind.meter [gs.length] = .samples [gs.length] := by
      show Meter.samples [heldValue gs.length] = _
      rw [heldValue_of_lt hlt]
    rw [hmeter] at hmem
    exact hmem

/-- Two groups with three clauses, one of them a constant, under no bindings: the first group is dropped,
and the sample still counts it. -/
theorem passes_agree_dropped_group :
    ∃ t text, (Template.compile "MUST(a<b>BOOST 2 not<c>WILDCARD)(e< f >constant)").value = .ok t ∧
      t.groupCount = 2 ∧
      t.tokens.filter Token.isName = [.field "a", .placeholder "b", .field "not", .placeholder "c",
        .field "e", .placeholder "f"] ∧
      (render t.tokens NameTable.empty (.plain 1 "")).value = .ok text ∧ text = "( e:(f) )" ∧
      Series.renderGroups.samplesIn (render t.tokens NameTable.empty (.plain 1 "")).signals = [2] := by
  obtain ⟨t, gs, hcompile, -, -, -, -, -, hrender⟩ :=
    passes_agree "MUST(a<b>BOOST 2 not<c>WILDCARD)(e< f >constant)" (by decide +kernel)
  obtain ⟨⟨text, htext⟩, hsamples, -⟩ := hrender NameTable.empty (.plain 1 "")
  have hgroups : (Template.compile "MUST(a<b>BOOST 2 not<c>WILDCARD)(e< f >constant)").value
      = .ok ⟨Group.listTokens
        [⟨some .must, [⟨none, "a", "b", [.boost 2]⟩, ⟨none, "not", "c", [.wildcard]⟩]⟩,
          ⟨none, [⟨none, "e", "f", [.constant]⟩]⟩]⟩ :=
    compile_eq_ok_iff.mpr (by decide +kernel)
  obtain rfl := Except.ok.inj (hgroups.symm.trans hcompile)
  refine ⟨_, text, hcompile, by decide, by decide, htext, ?_, hsamples⟩
  rw [value_render_listTokens] at htext
  rw [← Except.ok.inj htext]
  decide +kernel

end QueryTemplate
