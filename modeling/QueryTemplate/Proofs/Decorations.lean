import QueryTemplate.Proofs.Lookups

/-!
# Decorations in any order

The decorations of a clause may be written in any order and more than once. A query shows four things of
them: whether the clause is a constant, its last boost, and, if it is no constant, its last fuzziness and
whether it is a wildcard.

* **`Clause.effect`** — the sum of the decorations of a clause without what a constant hides,
* **`Clause.resolve_eq`**, **`Clause.fill_eq`** — finding the value of a clause and writing it look at no
  more of the decorations than this,
* **`Clause.DecoratedAlike`** — two clauses that agree on the four things and on all but the decorations, and
  so have the same effect (`effect_eq`),
* **`Group.DecoratedAlike.judge_eq`**, **`lookedUp_of_decoratedAlike`** — the verdict on a group and the list
  of names, which looks for constants on its own,
* **`decorations_in_any_order`** — the headline: templates with such clauses look up the same names and
  give the same queries.
-/

namespace QueryTemplate

/-! ## What of the decorations counts -/

/-- A constant hides a fuzziness and a wildcard. -/
def Traits.effective (t : Traits) : Traits :=
  if t.constant then ⟨t.boost?, .none, false, true⟩ else t

namespace Clause

/-- What the decorations of a clause come to. -/
def effect (c : Clause) : Traits := c.traits.effective

theorem constant_effect (c : Clause) : c.effect.constant = c.traits.constant := by
  unfold effect Traits.effective
  split
  · next hconstant => exact hconstant.symm
  · rfl

/-- What is left of the wildcards is whether the value of the clause loses its stars. -/
theorem wildcard_effect (c : Clause) : c.effect.wildcard = c.traits.starred := by
  unfold effect Traits.effective Traits.starred
  cases h : c.traits.constant <;> simp

theorem shown_eq (c : Clause) (value : String) :
    c.shown value = if c.effect.wildcard then dropStars value else value := by
  rw [shown, wildcard_effect]

/-- **The value of a clause depends on the effect of its decorations**, and on its placeholder. -/
theorem resolve_eq (c : Clause) (bindings : Bindings) :
    c.resolve bindings
      = if c.effect.constant then some c.placeholder
        else (bindings.get? c.placeholder).filter fun value =>
          !Text.isBlankText (if c.effect.wildcard then dropStars value else value) := by
  unfold resolve
  rw [constant_effect]
  simp only [shown_eq]

/-- **So does what is written for it.** A constant writes no fuzziness and no star, and the effect has
neither. -/
theorem fill_eq (c : Clause) (value : String) :
    c.fill value = ⟨.ofOccurrence? c.occurrence?, c.field,
      if c.effect.wildcard then dropStars value else value, c.effect.boost?, c.effect.fuzzy?,
      c.effect.wildcard⟩ := by
  -- the boost is shown in any case, the fuzziness only without a constant
  have hweights : c.effect.boost? = c.traits.boost? ∧
      c.effect.fuzzy? = if c.traits.constant then none else c.traits.fuzzy? := by
    unfold effect Traits.effective
    cases h : c.traits.constant <;> simp
  unfold fill
  rw [shown_eq, wildcard_effect, hweights.1, hweights.2]

/-! ## Clauses that show the same -/

/-- Two clauses that differ in nothing but their decorations, and in these in nothing that counts. -/
structure DecoratedAlike (c c' : Clause) : Prop where
  occurrence_eq : c.occurrence? = c'.occurrence?
  field_eq : c.field = c'.field
  placeholder_eq : c.placeholder = c'.placeholder
  constant_iff : c.IsConstant ↔ c'.IsConstant
  boost_eq : c.lastNumber? .boost = c'.lastNumber? .boost
  fuzzy_eq : ¬ c.IsConstant → c.lastNumber? .fuzzy = c'.lastNumber? .fuzzy
  wildcard_iff : ¬ c.IsConstant →
    (Decoration.wildcard ∈ c.decorations ↔ Decoration.wildcard ∈ c'.decorations)

namespace DecoratedAlike

variable {c c' : Clause} (h : c.DecoratedAlike c')
include h

/-- Clauses that agree on the four things have decorations of the same effect. A constant hides the last
two of them. -/
theorem effect_eq : c.effect = c'.effect := by
  unfold effect
  rw [traits_eq, traits_eq]
  unfold Traits.effective
  -- only beside a constant may fuzziness and wildcards differ
  by_cases hconstant : c.IsConstant
  · simp [hconstant, h.constant_iff.mp hconstant, h.boost_eq]
  · have hconstant' : ¬ c'.IsConstant := fun hc => hconstant (h.constant_iff.mpr hc)
    simp [hconstant, hconstant', h.boost_eq, h.fuzzy_eq hconstant, h.wildcard_iff hconstant]

theorem resolve_eq (bindings : Bindings) : c.resolve bindings = c'.resolve bindings := by
  rw [Clause.resolve_eq, Clause.resolve_eq, h.effect_eq, h.placeholder_eq]

theorem fill_eq : c.fill = c'.fill := by
  funext value
  rw [Clause.fill_eq, Clause.fill_eq, h.effect_eq, h.occurrence_eq, h.field_eq]

end DecoratedAlike

end Clause

/-! ## Groups and templates -/

/-- Two groups whose clauses differ in nothing that counts. -/
structure Group.DecoratedAlike (g g' : Group) : Prop where
  occurrence_eq : g.occurrence? = g'.occurrence?
  clauses : List.Forall₂ Clause.DecoratedAlike g.clauses g'.clauses

/-- Groups whose clauses differ in nothing that counts are judged alike. -/
theorem Group.DecoratedAlike.judge_eq {g g' : Group} (h : g.DecoratedAlike g') (bindings : Bindings)
    (options : Options) : g.judge bindings options = g'.judge bindings options := by
  refine judge_eq_of_clauses h.occurrence_eq (h.clauses.imp fun c c' hc => ?_)
  exact ⟨hc.resolve_eq bindings, hc.fill_eq⟩

section Templates

variable {gs gs' : List Group} (h : List.Forall₂ Group.DecoratedAlike gs gs')
include h

theorem render_of_decoratedAlike (bindings : Bindings) (options : Options) :
    render (Group.listTokens gs) bindings options = render (Group.listTokens gs') bindings options :=
  render_eq_of_judge (h.imp fun _ _ hg => hg.judge_eq bindings options)

/-- **Templates with such groups list the same names**, in the same order. The list leaves out constants,
and clauses that are decorated alike are constants both or neither. -/
theorem lookedUp_of_decoratedAlike : Group.lookedUp gs = Group.lookedUp gs' := by
  -- the clauses of all groups, one list against the other
  have hclauses : List.Forall₂ Clause.DecoratedAlike (gs.flatMap Group.clauses)
      (gs'.flatMap Group.clauses) :=
    List.rel_flatMap h fun g g' hg => hg.clauses
  unfold Group.lookedUp
  refine map_eq_of_forall₂ (fun c c' hc => hc.placeholder_eq) (List.rel_filter ?_ hclauses)
  intro c c' hc
  simp only [decide_eq_true_eq, hc.constant_iff]

end Templates

/-! ## The headline -/

/-- **Decorations may be written in any order.** The tokens of two templates that compile are those of two
lists of groups. If these differ in the decorations of clauses only, and for each clause agree on whether
it is a constant, on its last boost and, for all but constants, on its last fuzziness and on whether it is
a wildcard, then both templates list the same names and render, under all bindings and options, to the
same query, with the same reports. -/
theorem decorations_in_any_order (template template' : String) (t t' : Template)
    (h : (Template.compile template).value = .ok t)
    (h' : (Template.compile template').value = .ok t') :
    ∃ gs gs', t.tokens = Group.listTokens gs ∧ t'.tokens = Group.listTokens gs' ∧
      (List.Forall₂ Group.DecoratedAlike gs gs' →
        t.lookups = t'.lookups ∧
        ∀ bindings options,
          render t.tokens bindings options = render t'.tokens bindings options ∧
          ∃ text, (render t.tokens bindings options).value = .ok text) := by
  obtain ⟨gs, -, -, htokens⟩ := wellFormed_of_compile h
  obtain ⟨gs', -, -, htokens'⟩ := wellFormed_of_compile h'
  obtain ⟨tokens⟩ := t
  obtain ⟨tokens'⟩ := t'
  subst htokens htokens'
  refine ⟨gs, gs', rfl, rfl, fun halike => ⟨?_, fun bindings options => ⟨?_, ?_⟩⟩⟩
  · rw [Template.lookups_listTokens, Template.lookups_listTokens, lookedUp_of_decoratedAlike halike]
  · exact render_of_decoratedAlike halike bindings options
  · exact ⟨_, value_render_listTokens gs bindings options⟩

/-- A wildcard whose weights are written again and in another order, and a constant beside which other
decorations come and go. -/
theorem decorations_in_any_order_repeated :
    ∃ t t', (Template.compile "(a <x> WILDCARD BOOST 2 FUZZY 1 BOOST 3 b <y> FUZZY 5 CONSTANT)").value
        = .ok t ∧
      (Template.compile "(a <x> FUZZY 7 FUZZY 1 BOOST 3 WILDCARD WILDCARD b <y> CONSTANT WILDCARD)").value
        = .ok t' ∧
      t.lookups = t'.lookups ∧
      (∀ bindings options, render t.tokens bindings options = render t'.tokens bindings options) ∧
      (render t'.tokens (NameTable.empty.insert "x" "v*") ⟨1, "", .skip, false⟩).value
        = .ok "( a:(v^3~1*) b:(y) )" := by
  have hcompile : (Template.compile
      "(a <x> WILDCARD BOOST 2 FUZZY 1 BOOST 3 b <y> FUZZY 5 CONSTANT)").value
      = .ok ⟨Group.listTokens [⟨none, [⟨none, "a", "x", [.wildcard, .boost 2, .fuzzy 1, .boost 3]⟩,
          ⟨none, "b", "y", [.fuzzy 5, .constant]⟩]⟩]⟩ :=
    compile_eq_ok_iff.mpr (by decide +kernel)
  have hcompile' : (Template.compile
      "(a <x> FUZZY 7 FUZZY 1 BOOST 3 WILDCARD WILDCARD b <y> CONSTANT WILDCARD)").value
      = .ok ⟨Group.listTokens
        [⟨none, [⟨none, "a", "x", [.fuzzy 7, .fuzzy 1, .boost 3, .wildcard, .wildcard]⟩,
          ⟨none, "b", "y", [.constant, .wildcard]⟩]⟩]⟩ :=
    compile_eq_ok_iff.mpr (by decide +kernel)
  obtain ⟨gs, gs', hgs, hgs', hall⟩ := decorations_in_any_order _ _ _ _ hcompile hcompile'
  obtain rfl := listTokens_injective hgs
  obtain rfl := listTokens_injective hgs'
  obtain ⟨hlookups, hrender⟩ := hall (.cons ⟨rfl, .cons (by constructor <;> decide)
    (.cons (by constructor <;> decide) .nil)⟩ .nil)
  refine ⟨_, _, hcompile, hcompile', hlookups, fun bindings options => (hrender bindings options).1, ?_⟩
  rw [← (hrender _ _).1, value_render_listTokens]
  exact congrArg Except.ok (by decide +kernel)

end QueryTemplate
