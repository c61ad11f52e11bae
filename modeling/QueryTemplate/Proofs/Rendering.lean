import QueryTemplate.Proofs.Lists
import QueryTemplate.Proofs.Outline
import QueryTemplate.Query.Rendering

/-!
# What rendering lets through

Membership in the stages of a rendering, so that nothing else has to open `Group.judge` or walk over
verdicts:

* **`group?_judge`** — when a group goes into the query, and as what,
* **`mem_filled`**, **`mem_query`** — where the clauses and groups of a query come from,
* **`Query.text_append`** — the text of a query that is put together from two,
* **`value_render_listTokens`** — the tokens of groups render to the text of their query,
* **`Group.judge_eq_of_clauses`**, **`render_eq_of_judge`** — what the verdict on a group sees of its clauses,
  and a query of its groups.
-/

namespace QueryTemplate

namespace Group

variable (g : Group) (bindings : Bindings) (options : Options)

/-- **When a group goes into the query.** The model refuses a group with no value or with too few of them;
this is the same condition the other way round, in the one form that all later proofs use. -/
theorem group?_judge :
    (g.judge bindings options).group?
      = if 1 ≤ g.resolvedCount bindings ∧ options.minResolved ≤ g.resolvedCount bindings then
          some ⟨.ofOccurrence? g.occurrence?, g.filled bindings options.fallback?⟩
        else none := by
  unfold judge
  by_cases h : 1 ≤ g.resolvedCount bindings ∧ options.minResolved ≤ g.resolvedCount bindings
  · rw [if_pos h, if_neg (by omega)]
    rfl
  · rw [if_neg h, if_pos (by omega)]
    rfl

/-- A clause of the query was made from a clause of the group, with the value of that clause or with the
fallback. -/
theorem mem_filled {g : Group} {bindings : Bindings} {fallback? : Option String}
    {clause : Query.Clause} :
    clause ∈ g.filled bindings fallback?
      ↔ ∃ c ∈ g.clauses, ∃ value, (c.resolve bindings <|> fallback?) = some value ∧
          c.fill value = clause := by
  simp only [filled, List.mem_filterMap, Option.map_eq_some_iff]

/-- A group with a clause that has a value has a clause to show, whatever the fallback is. So no group of
a query is empty. -/
theorem filled_ne_nil {g : Group} {bindings : Bindings} (h : 1 ≤ g.resolvedCount bindings)
    (fallback? : Option String) : g.filled bindings fallback? ≠ [] := by
  obtain ⟨c, hc, hsome⟩ := List.countP_pos_iff.mp h
  obtain ⟨value, hvalue⟩ := Option.isSome_iff_exists.mp hsome
  -- its own value comes first, and the fallback is not asked
  have hmem : c.fill value ∈ g.filled bindings fallback? :=
    mem_filled.mpr ⟨c, hc, value, by simp [hvalue], rfl⟩
  exact List.ne_nil_of_mem hmem

end Group

namespace Query

/-- The text of a query with a group in it has at least the parentheses of that group. This is why the
empty text can stand for "no query" in `joinTexts`. -/
theorem text_ne_empty {query : Query} (escaped : Bool) (h : query ≠ []) : query.text escaped ≠ "" := by
  obtain ⟨g, gs, rfl⟩ := List.exists_cons_of_ne_nil h
  cases gs with
  | nil => simp [text, Group.text]
  | cons g' gs => simp [text, Group.text, String.intercalate_cons_cons]

/-- Two texts with a space between them, or the one that is not empty. -/
def joinTexts (text text' : String) : String :=
  if text = "" then text' else if text' = "" then text else text ++ " " ++ text'

/-- **The text of a query in two parts.** There is a space between the parts if both of them are there,
and none otherwise; an empty query leaves no trace. -/
theorem text_append (escaped : Bool) (query query' : Query) :
    text escaped (query ++ query') = joinTexts (query.text escaped) (query'.text escaped) := by
  -- an empty part has no text, and the other one stands alone
  by_cases hquery : query = []
  · subst hquery
    have hempty : text escaped [] = "" := rfl
    rw [joinTexts, if_pos hempty, List.nil_append]
  by_cases hquery' : query' = []
  · subst hquery'
    rw [joinTexts, if_neg (text_ne_empty escaped hquery), List.append_nil]
    rfl
  · -- both parts have groups, and the library says how such lists are joined
    have hmap : query.map (Group.text escaped) ≠ [] := by simpa using hquery
    have hmap' : query'.map (Group.text escaped) ≠ [] := by simpa using hquery'
    rw [joinTexts, if_neg (text_ne_empty escaped hquery), if_neg (text_ne_empty escaped hquery'),
      text, List.map_append, String.intercalate_append_of_ne_nil hmap hmap']
    rfl

end Query

namespace Rendering

/-- The query is the list of the groups that were let through. The list of verdicts between the two is
gone after this. -/
theorem query_ofGroups (gs : List Group) (bindings : Bindings) (options : Options) :
    (ofGroups gs bindings options).query
      = gs.filterMap fun g => (g.judge bindings options).group? := by
  unfold query ofGroups
  rw [List.filterMap_map]
  rfl

/-- Groups are judged one by one, so that the text of two lists of groups is put together from their two
texts. -/
theorem text_ofGroups_append (gs gs' : List Group) (bindings : Bindings) (options : Options) :
    (ofGroups (gs ++ gs') bindings options).text
      = Query.joinTexts (ofGroups gs bindings options).text (ofGroups gs' bindings options).text := by
  unfold text
  rw [query_ofGroups, List.filterMap_append, ← query_ofGroups, ← query_ofGroups]
  exact Query.text_append options.escaped _ _

/-- A group of the query was made from a group of the template that has enough values, with all that it
has to show. -/
theorem mem_query {gs : List Group} {bindings : Bindings} {options : Options} {q : Query.Group} :
    q ∈ (ofGroups gs bindings options).query
      ↔ ∃ g ∈ gs, 1 ≤ g.resolvedCount bindings ∧ options.minResolved ≤ g.resolvedCount bindings ∧
          ⟨.ofOccurrence? g.occurrence?, g.filled bindings options.fallback?⟩ = q := by
  rw [query_ofGroups, List.mem_filterMap]
  simp only [Group.group?_judge, Option.ite_none_right_eq_some, Option.some.injEq, and_assoc]

end Rendering

/-- **The tokens of groups render to the text of their query.** The outline of such tokens are the groups
again, so that rendering cannot fail on them. -/
theorem value_render_listTokens (gs : List Group) (bindings : Bindings) (options : Options) :
    (render (Group.listTokens gs) bindings options).value
      = .ok (Rendering.ofGroups gs bindings options).text := by
  unfold render
  rw [outline_listTokens]

/-! ## Renderings that cannot be told apart -/

section Alike

variable {bindings bindings' : Bindings} {options : Options}

/-- **Of a clause, the judgement of its group sees no more than its value and what is made of one.** Both
are collected in one list, from which the number of values and the filled clauses are computed. The
clauses and the bindings may differ at the same time. -/
theorem Group.judge_eq_of_clauses {g g' : Group} (hoccurrence : g.occurrence? = g'.occurrence?)
    (h : List.Forall₂ (fun c c' => c.resolve bindings = c'.resolve bindings' ∧ c.fill = c'.fill)
      g.clauses g'.clauses) :
    g.judge bindings options = g'.judge bindings' options := by
  -- all that the verdict reads of the clauses
  have hclauses : g.clauses.map (fun c => (c.resolve bindings, c.fill))
      = g'.clauses.map fun c => (c.resolve bindings', c.fill) :=
    map_eq_of_forall₂ (fun c c' hc => by rw [hc.1, hc.2]) h
  have hcount : g.resolvedCount bindings = g'.resolvedCount bindings' := by
    have hcounted := congrArg (List.countP fun entry => entry.1.isSome) hclauses
    rwa [List.countP_map, List.countP_map] at hcounted
  have hfilled : ∀ fallback?, g.filled bindings fallback? = g'.filled bindings' fallback? := by
    intro fallback?
    have hshown := congrArg (List.filterMap fun entry => (entry.1 <|> fallback?).map entry.2) hclauses
    rwa [List.filterMap_map, List.filterMap_map] at hshown
  have hlength : g.clauses.length = g'.clauses.length := h.length_eq
  unfold judge
  rw [hcount, hfilled, hlength, hoccurrence]

/-- **Of a group, a query shows no more than the verdict on it**, and so do the reports. -/
theorem render_eq_of_judge {gs gs' : List Group}
    (h : List.Forall₂ (fun g g' => g.judge bindings options = g'.judge bindings' options) gs gs') :
    render (Group.listTokens gs) bindings options
      = render (Group.listTokens gs') bindings' options := by
  have hverdicts : Rendering.ofGroups gs bindings options
      = Rendering.ofGroups gs' bindings' options := by
    unfold Rendering.ofGroups
    rw [map_eq_of_forall₂ (fun g g' hg => hg) h]
  unfold render
  rw [outline_listTokens, outline_listTokens]
  simp only [hverdicts]

end Alike

end QueryTemplate
