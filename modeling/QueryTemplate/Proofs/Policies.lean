import Mathlib.Data.List.Forall2
import QueryTemplate.Proofs.Emission
import QueryTemplate.Proofs.Validation

/-!
# A policy changes clauses and never groups

Whether a group goes into the query is decided by the values that its clauses have of their own. The policy
says only what becomes of the other clauses of such a group:

* **`EmittedGroup.Completes`** — a group with all its clauses, beside the same group with only those that
  have a value,
* **`Group.completes_emitted?`** — the two policies give such a pair, or both leave the group out,
* **`render_skip`** — where clauses are left out, the default makes no difference, not even to what is
  reported,
* **`policies_emit_same_groups`** — the headline, for every list of tokens that can be rendered.
-/

namespace QueryTemplate

/-- `e'` has every clause of the group in its order, the default standing in for missing values, and `e`
has those of them that have a value of their own. -/
structure EmittedGroup.Completes (gs : List Group) (bindings : Bindings) (defaultValue : String)
    (e e' : EmittedGroup) : Prop where
  place_eq : e'.place = e.place
  source_eq : e'.source = e.source
  source_at : gs[e.place]? = some e.source
  sign_eq : e'.sign = e.sign
  all_clauses : e'.clauses = e'.source.clauses.zipIdx.map fun entry =>
    ⟨entry.2, entry.1, entry.1.fill ((entry.1.ownValue? bindings).getD defaultValue)⟩
  own_clauses : e.clauses = e'.clauses.filter fun c => (c.source.ownValue? bindings).isSome

namespace Group

/-- Without a fallback the clauses are those of the whole group that have a value of their own. -/
theorem filter_emittedClauses (g : Group) (bindings : Bindings) (fallback : String) :
    (g.emittedClauses bindings (some fallback)).filter
        (fun c => (c.source.ownValue? bindings).isSome)
      = g.emittedClauses bindings none := by
  rw [emittedClauses_some, emittedClauses_none, List.filter_map, ← List.filterMap_eq_filter,
    List.map_filterMap]
  apply List.filterMap_congr
  intro entry _
  show (Option.guard _ entry).map _ = _
  -- a clause is left out in both ways of looking at it, or in neither
  cases hvalue : entry.1.ownValue? bindings with
  | none => simp [Option.guard, hvalue]
  | some value => simp [Option.guard, hvalue]

/-- **Both policies emit a group, or neither does**, since the number of its values is the same. If they
do, one of the results completes the other. -/
theorem completes_emitted? {gs : List Group} {g : Group} {place : Nat} (h : gs[place]? = some g)
    (bindings : Bindings) (m : Nat) (defaultValue : String) (escaped : Bool) :
    Option.Rel (EmittedGroup.Completes gs bindings defaultValue)
      (g.emitted? place bindings ⟨m, defaultValue, .skip, escaped⟩)
      (g.emitted? place bindings ⟨m, defaultValue, .substitute, escaped⟩) := by
  rw [emitted?_eq, emitted?_eq]
  -- the condition is the same on both sides
  show Option.Rel _ (if 1 ≤ g.resolvedCount bindings ∧ m ≤ g.resolvedCount bindings then _ else none)
    (if 1 ≤ g.resolvedCount bindings ∧ m ≤ g.resolvedCount bindings then _ else none)
  split
  · apply Option.Rel.some
    exact
      { place_eq := rfl
        source_eq := rfl
        source_at := h
        sign_eq := rfl
        all_clauses := g.emittedClauses_some bindings defaultValue
        own_clauses := (g.filter_emittedClauses bindings defaultValue).symm }
  · exact .none

end Group

theorem completes_emission (gs : List Group) (bindings : Bindings) (m : Nat) (defaultValue : String)
    (escaped : Bool) :
    List.Forall₂ (EmittedGroup.Completes gs bindings defaultValue)
      (emission gs bindings ⟨m, defaultValue, .skip, escaped⟩)
      (emission gs bindings ⟨m, defaultValue, .substitute, escaped⟩) := by
  -- both policies walk over the same groups
  have hsame : List.Forall₂ (fun entry entry' => entry = entry' ∧ gs[entry.2]? = some entry.1)
      gs.zipIdx gs.zipIdx := by
    rw [List.forall₂_same]
    intro entry hentry
    exact ⟨rfl, List.mem_zipIdx_iff_getElem?.mp hentry⟩
  refine List.rel_filterMap ?_ hsame
  rintro entry _ ⟨rfl, hplace⟩
  exact Group.completes_emitted? hplace bindings m defaultValue escaped

/-- Where clauses are left out, the default makes no difference, not even to what is reported. Nothing
reads it. -/
theorem render_skip (tokens : List Token) (bindings : Bindings) (m : Nat)
    (defaultValue defaultValue' : String) (escaped : Bool) :
    render tokens bindings ⟨m, defaultValue, .skip, escaped⟩
      = render tokens bindings ⟨m, defaultValue', .skip, escaped⟩ := by
  unfold render
  cases outline tokens with
  | error fault => rfl
  | ok gs => rfl

/-- **A policy changes clauses and never groups.** For every list of tokens that can be rendered, and under
all bindings, thresholds, defaults and ways of escaping, both policies write the same groups behind the same
marks. Where the default is substituted, a group has all its clauses in their order; where clauses are left
out, it has those of them that have a value, as they are. Then nothing depends on the default. -/
theorem policies_emit_same_groups (tokens : List Token)
    (h : ∃ bindings options text, (render tokens bindings options).value = .ok text) :
    ∃ gs, outline tokens = .ok gs ∧
      (∀ bindings options, (render tokens bindings options).value
        = .ok (emissionText options.escaped (emission gs bindings options))) ∧
      (∀ bindings m defaultValue escaped,
        List.Forall₂ (EmittedGroup.Completes gs bindings defaultValue)
          (emission gs bindings ⟨m, defaultValue, .skip, escaped⟩)
          (emission gs bindings ⟨m, defaultValue, .substitute, escaped⟩)) ∧
      ∀ bindings m defaultValue defaultValue' escaped,
        render tokens bindings ⟨m, defaultValue, .skip, escaped⟩
          = render tokens bindings ⟨m, defaultValue', .skip, escaped⟩ := by
  obtain ⟨bindings, options, hrenders⟩ := h
  obtain ⟨gs, rfl⟩ := (renders_iff_grouped bindings options).mp hrenders
  have houtline := outline_listTokens gs
  exact ⟨gs, houtline, value_render_of_outline houtline, completes_emission gs, render_skip _⟩

/-- Two groups, and a value for the first clause only. The second group is in neither query, although a
default would be at hand for it. -/
theorem policies_emit_same_groups_one_value :
    ∃ gs e e', outline [.groupOccurrence .mustNot, .groupOpen, .field "a", .placeholder "x", .field "b",
        .placeholder "y", .decoration .wildcard, .groupClose, .groupOpen, .field "c", .placeholder "z",
        .groupClose] = .ok gs ∧
      emission gs (NameTable.empty.insert "x" "1") ⟨1, "(d)*", .skip, true⟩ = [e] ∧
      emission gs (NameTable.empty.insert "x" "1") ⟨1, "(d)*", .substitute, true⟩ = [e'] ∧
      EmittedGroup.Completes gs (NameTable.empty.insert "x" "1") "(d)*" e e' ∧
      emissionText true [e] = "-( a:(1) )" ∧
      emissionText true [e'] = "-( a:(1) b:(\\(d\\)*) )" := by
  obtain ⟨gs, hgs⟩ : ∃ gs : List Group, gs =
      [⟨some .mustNot, [⟨none, "a", "x", []⟩, ⟨none, "b", "y", [.wildcard]⟩]⟩,
        ⟨none, [⟨none, "c", "z", []⟩]⟩] := ⟨_, rfl⟩
  obtain ⟨_, houtline, -, hcompletes, -⟩ := policies_emit_same_groups (Group.listTokens gs)
    ⟨NameTable.empty, .plain 1 "", _, value_render_listTokens gs _ _⟩
  obtain rfl := Except.ok.inj ((outline_listTokens gs).symm.trans houtline)
  have hpair := hcompletes (NameTable.empty.insert "x" "1") 1 "(d)*" true
  have hskip : emission gs (NameTable.empty.insert "x" "1") ⟨1, "(d)*", .skip, true⟩
      = [⟨0, ⟨some .mustNot, [⟨none, "a", "x", []⟩, ⟨none, "b", "y", [.wildcard]⟩]⟩, .minus,
          [⟨0, ⟨none, "a", "x", []⟩, ⟨.bare, "a", "1", none, none, false⟩⟩]⟩] := by
    rw [hgs]
    decide +kernel
  have hsubstitute : emission gs (NameTable.empty.insert "x" "1") ⟨1, "(d)*", .substitute, true⟩
      = [⟨0, ⟨some .mustNot, [⟨none, "a", "x", []⟩, ⟨none, "b", "y", [.wildcard]⟩]⟩, .minus,
          [⟨0, ⟨none, "a", "x", []⟩, ⟨.bare, "a", "1", none, none, false⟩⟩,
            ⟨1, ⟨none, "b", "y", [.wildcard]⟩, ⟨.bare, "b", "(d)", none, none, true⟩⟩]⟩] := by
    rw [hgs]
    decide +kernel
  rw [hskip, hsubstitute] at hpair
  refine ⟨gs, _, _, ?_, hskip, hsubstitute, ?_, ?_, ?_⟩
  · rw [← houtline, hgs]
    rfl
  · exact (List.forall₂_cons.mp hpair).1
  · decide +kernel
  · decide +kernel

end QueryTemplate
