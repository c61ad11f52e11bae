import QueryTemplate.Proofs.Meaning

/-!
# Where the parts of a query come from

A query does not say which clause of the template a clause of it was made from. An emission does: it is the
query, with the place of every group in the template and of every clause in its group.

* **`Group.emittedClauses`**, **`Group.emitted?`**, **`emission`** — a clause list, a group and the whole
  query with their places,
* **`Clause.resolve_or_fallback_iff`** — which value a clause shows,
* **`mem_emittedClauses`**, **`emitted?_eq_some_iff`**, **`mem_emission`** — what is in them,
* **`map_group_emission`** — without the places an emission is the query, so that
  **`value_render_of_outline`** says of every text that is rendered which emission it is the text of.
-/

namespace QueryTemplate

/-- A clause of a query, the clause of the template that it shows, and the place of that one in its
group. -/
structure EmittedClause where
  place : Nat
  source : Clause
  clause : Query.Clause
  deriving DecidableEq, Repr

/-- A group of a query, the group of the template that it shows, and the place of that one among the
groups. -/
structure EmittedGroup where
  place : Nat
  source : Group
  sign : Sign
  clauses : List EmittedClause
  deriving DecidableEq, Repr

/-- The group as it stands in the query. -/
def EmittedGroup.group (e : EmittedGroup) : Query.Group := ⟨e.sign, e.clauses.map EmittedClause.clause⟩

namespace Group

/-- The clauses that have something to show, each with its place. -/
def emittedClauses (g : Group) (bindings : Bindings) (fallback? : Option String) : List EmittedClause :=
  g.clauses.zipIdx.filterMap fun entry =>
    (entry.1.resolve bindings <|> fallback?).map fun value => ⟨entry.2, entry.1, entry.1.fill value⟩

/-- What the group at `place` becomes, if it goes into the query. -/
def emitted? (g : Group) (place : Nat) (bindings : Bindings) (options : Options) : Option EmittedGroup :=
  (g.judge bindings options).group?.map fun shown =>
    ⟨place, g, shown.sign, g.emittedClauses bindings options.fallback?⟩

end Group

/-- The groups that go into the query, each with its place. -/
def emission (gs : List Group) (bindings : Bindings) (options : Options) : List EmittedGroup :=
  gs.zipIdx.filterMap fun entry => entry.1.emitted? entry.2 bindings options

def emissionText (escaped : Bool) (es : List EmittedGroup) : String :=
  Query.text escaped (es.map EmittedGroup.group)

/-! ## Fallbacks -/

namespace Options

variable {options : Options}

theorem fallback?_of_skip (h : options.policy = .skip) : options.fallback? = none := by
  rw [fallback?, h]

/-- There is a fallback exactly under the other policy, and it is the default value. -/
theorem fallback?_eq_some_iff {value : String} :
    options.fallback? = some value
      ↔ options.policy = .substitute ∧ options.defaultValue = value := by
  unfold fallback?
  cases options.policy <;> simp

end Options

/-- **Which value a clause shows**: its own, and the default only if it has none and defaults are
substituted. -/
theorem Clause.resolve_or_fallback_iff {c : Clause} {bindings : Bindings} {options : Options}
    {value : String} :
    (c.resolve bindings <|> options.fallback?) = some value
      ↔ c.ownValue? bindings = some value ∨
        c.ownValue? bindings = none ∧ options.policy = .substitute ∧
          options.defaultValue = value := by
  rw [resolve_eq_ownValue?, ← Options.fallback?_eq_some_iff]
  cases c.ownValue? bindings <;> simp

/-! ## Clauses -/

namespace Group

variable {g : Group} {place : Nat} {bindings : Bindings} {options : Options}

/-- **What is among the clauses.** A clause that is shown stands in its group at its place, has its own
value or the fallback, and is shown with that value. -/
theorem mem_emittedClauses {fallback? : Option String} {c : EmittedClause} :
    c ∈ g.emittedClauses bindings fallback?
      ↔ g.clauses[c.place]? = some c.source ∧
        ∃ value, (c.source.resolve bindings <|> fallback?) = some value ∧
          c.source.fill value = c.clause := by
  unfold emittedClauses
  rw [List.mem_filterMap]
  constructor
  · -- an entry with its number is a clause at a place
    rintro ⟨⟨source, i⟩, hentry, hmap⟩
    obtain ⟨value, hvalue, rfl⟩ := Option.map_eq_some_iff.mp hmap
    exact ⟨List.mk_mem_zipIdx_iff_getElem?.mp hentry, value, hvalue, rfl⟩
  · rintro ⟨hsource, value, hvalue, hfill⟩
    refine ⟨(c.source, c.place), List.mk_mem_zipIdx_iff_getElem?.mpr hsource, ?_⟩
    rw [hvalue, Option.map_some, hfill]

/-- Without the places, the clauses are those that the renderer fills. Numbering the clauses first and
dropping the numbers at the end leaves no trace. -/
theorem map_clause_emittedClauses (g : Group) (bindings : Bindings) (fallback? : Option String) :
    (g.emittedClauses bindings fallback?).map EmittedClause.clause = g.filled bindings fallback? := by
  -- number the clauses that the renderer fills, so that both sides are made from the same list
  have hfilled : g.filled bindings fallback?
      = (g.clauses.zipIdx.map Prod.fst).filterMap fun c =>
          (c.resolve bindings <|> fallback?).map c.fill := by
    rw [List.zipIdx_map_fst]
    rfl
  unfold emittedClauses
  rw [hfilled, List.map_filterMap, List.filterMap_map]
  refine List.filterMap_congr fun entry _ => ?_
  rw [Option.map_map]
  rfl

theorem emittedClauses_none (g : Group) (bindings : Bindings) :
    g.emittedClauses bindings none
      = g.clauses.zipIdx.filterMap fun entry =>
          (entry.1.ownValue? bindings).map fun value => ⟨entry.2, entry.1, entry.1.fill value⟩ := by
  unfold emittedClauses
  simp only [Clause.resolve_eq_ownValue?, Option.orElse_eq_orElse, Option.orElse_eq_or,
    Option.or_none]

/-- With a fallback no clause is left out, so that places and clauses run in parallel. -/
theorem emittedClauses_some (g : Group) (bindings : Bindings) (fallback : String) :
    g.emittedClauses bindings (some fallback)
      = g.clauses.zipIdx.map fun entry =>
          ⟨entry.2, entry.1, entry.1.fill ((entry.1.ownValue? bindings).getD fallback)⟩ := by
  unfold emittedClauses
  simp only [Clause.resolve_eq_ownValue?, Option.orElse_eq_orElse, Option.orElse_eq_or,
    Option.or_some, Option.map_some, List.filterMap_eq_map']

/-! ## Groups -/

/-- **When a group is emitted, and as what.** The condition is that of `Group.group?_judge`; the clauses
do not depend on it. -/
theorem emitted?_eq (g : Group) (place : Nat) (bindings : Bindings) (options : Options) :
    g.emitted? place bindings options
      = if 1 ≤ g.resolvedCount bindings ∧ options.minResolved ≤ g.resolvedCount bindings then
          some ⟨place, g, .ofOccurrence? g.occurrence?, g.emittedClauses bindings options.fallback?⟩
        else none := by
  unfold emitted?
  rw [group?_judge]
  split <;> rfl

/-- The same for a given result, which is how an emitted group is taken apart and put together. -/
theorem emitted?_eq_some_iff {e : EmittedGroup} :
    g.emitted? place bindings options = some e
      ↔ (1 ≤ g.resolvedCount bindings ∧ options.minResolved ≤ g.resolvedCount bindings) ∧
        ⟨place, g, .ofOccurrence? g.occurrence?, g.emittedClauses bindings options.fallback?⟩ = e := by
  rw [emitted?_eq, Option.ite_none_right_eq_some, Option.some.injEq]

/-- Without its places, an emitted group is the group that the verdict lets through. -/
theorem map_group_emitted? (g : Group) (place : Nat) (bindings : Bindings) (options : Options) :
    (g.emitted? place bindings options).map EmittedGroup.group = (g.judge bindings options).group? := by
  rw [emitted?_eq, group?_judge]
  split
  · rw [Option.map_some, EmittedGroup.group, map_clause_emittedClauses]
  · rfl

end Group

/-! ## The whole query -/

variable {gs : List Group} {bindings : Bindings} {options : Options}

/-- **What is in an emission:** the groups of the template, each at its place, that are emitted there. -/
theorem mem_emission {e : EmittedGroup} :
    e ∈ emission gs bindings options
      ↔ gs[e.place]? = some e.source ∧ e.source.emitted? e.place bindings options = some e := by
  unfold emission
  rw [List.mem_filterMap]
  constructor
  · rintro ⟨⟨source, i⟩, hentry, hsome⟩
    obtain ⟨-, rfl⟩ := Group.emitted?_eq_some_iff.mp hsome
    exact ⟨List.mk_mem_zipIdx_iff_getElem?.mp hentry, hsome⟩
  · rintro ⟨hsource, hsome⟩
    exact ⟨(e.source, e.place), List.mk_mem_zipIdx_iff_getElem?.mpr hsource, hsome⟩

/-- The clauses of an emitted group are all that its source has to show. -/
theorem clauses_of_mem_emission {e : EmittedGroup} (h : e ∈ emission gs bindings options) :
    e.clauses = e.source.emittedClauses bindings options.fallback? := by
  obtain ⟨-, hshape⟩ := Group.emitted?_eq_some_iff.mp (mem_emission.mp h).2
  rw [← hshape]

/-- **Without the places an emission is the query.** Verdict by verdict, the two lists keep the same
groups. -/
theorem map_group_emission (gs : List Group) (bindings : Bindings) (options : Options) :
    (emission gs bindings options).map EmittedGroup.group
      = (Rendering.ofGroups gs bindings options).query := by
  -- the query is made from the groups without their numbers
  have hplaces : (gs.zipIdx.map Prod.fst).filterMap (fun g => (g.judge bindings options).group?)
      = (Rendering.ofGroups gs bindings options).query := by
    rw [List.zipIdx_map_fst, Rendering.query_ofGroups]
  unfold emission
  rw [← hplaces, List.map_filterMap, List.filterMap_map]
  exact List.filterMap_congr fun entry _ => entry.1.map_group_emitted? entry.2 bindings options

/-- **What is rendered is the text of the emission.** Statements about a text are proved on the emission
from here on, where every part of it is known by its place. -/
theorem value_render_of_outline {tokens : List Token} (h : outline tokens = .ok gs)
    (bindings : Bindings) (options : Options) :
    (render tokens bindings options).value
      = .ok (emissionText options.escaped (emission gs bindings options)) := by
  unfold render emissionText
  rw [h, map_group_emission]
  rfl

/-- What compiles has an outline, and so it has an emission under all bindings and options. -/
theorem exists_outline_of_compile {template : String} {t : Template}
    (h : (Template.compile template).value = .ok t) : ∃ gs, outline t.tokens = .ok gs := by
  obtain ⟨gs, -, -, htokens⟩ := wellFormed_of_compile h
  exact ⟨gs, by rw [htokens, outline_listTokens]⟩

end QueryTemplate
