import QueryTemplate.Proofs.Emission
import QueryTemplate.Proofs.Metrics

/-!
# What a rendering reports

Making a query reports every group that it drops and every clause that it omits from a group it keeps. The
signals are compared here, group by group, with what became of the groups:

* **`Group.omittedCount`**, **`droppedGroups`** — what of a template is not in its query,
* **`Group.judge_eq`** — the verdict on a group, in these terms,
* **`Accounted`** — signals that match what became of some groups; `Accounted.drop` and `Accounted.emit` add
  one more group, and **`accounted`** says it of the signals on any groups,
* **`samplesIn_render`** — every sample of every series that making a query gives.
-/

namespace QueryTemplate

/-! ## What is not in the query -/

namespace Group

variable (g : Group) (bindings : Bindings) (options : Options)

/-- How many clauses a group loses when it goes into the query: those without a value, unless a default is
substituted for them. -/
def omittedCount : Nat :=
  match options.policy with
  | .skip => g.clauses.countP fun c => (c.ownValue? bindings).isNone
  | .substitute => 0

/-- **Clauses shown and clauses omitted make up the group.** With a default nothing is omitted; without
one, the clauses with a value and those without are all there are. -/
theorem length_emittedClauses :
    (g.emittedClauses bindings options.fallback?).length + g.omittedCount bindings options
      = g.clauses.length := by
  unfold omittedCount
  cases hpolicy : options.policy with
  | substitute =>
    rw [Options.fallback?_eq_some_iff.mpr ⟨hpolicy, rfl⟩, emittedClauses_some, List.length_map,
      List.length_zipIdx]
    rfl
  | skip =>
    -- without a fallback, the clauses that are shown are those with a value
    have hshown : (g.emittedClauses bindings options.fallback?).length
        = g.clauses.countP fun c => (c.ownValue? bindings).isSome := by
      rw [Options.fallback?_of_skip hpolicy, ← List.length_map EmittedClause.clause,
        map_clause_emittedClauses, filled, List.length_filterMap_eq_countP]
      refine List.countP_congr fun c _ => ?_
      simp [Clause.resolve_eq_ownValue?]
    have hsplit := List.length_eq_countP_add_countP (l := g.clauses)
      fun c => (c.ownValue? bindings).isSome
    simp only [Bool.not_eq_true, Option.isSome_eq_false_iff, Bool.decide_eq_true] at hsplit
    rw [hshown, hsplit]

/-- **The verdict on a group**, with the count that comes with it. The condition is the one of
`emitted?_eq`: as many clauses have a value as are needed, and one is always needed. -/
theorem judge_eq :
    g.judge bindings options
      = if 1 ≤ g.resolvedCount bindings ∧ options.minResolved ≤ g.resolvedCount bindings then
          .emitted ⟨.ofOccurrence? g.occurrence?, g.filled bindings options.fallback?⟩
            (g.omittedCount bindings options)
        else .dropped (g.ownCount bindings) := by
  -- the model subtracts the clauses that are shown from all of them
  have homitted : g.clauses.length - (g.filled bindings options.fallback?).length
      = g.omittedCount bindings options := by
    have hlength := g.length_emittedClauses bindings options
    rw [← List.length_map EmittedClause.clause, map_clause_emittedClauses] at hlength
    omega
  unfold judge
  dsimp only
  rw [homitted]
  by_cases h : 1 ≤ g.resolvedCount bindings ∧ options.minResolved ≤ g.resolvedCount bindings
  · rw [if_pos h, if_neg (by omega)]
  · rw [if_neg h, if_pos (by omega), resolvedCount_eq_ownCount]

end Group

/-- The groups that are not in the query, each with its place. -/
def droppedGroups (gs : List Group) (bindings : Bindings) (options : Options) : List (Group × Nat) :=
  gs.zipIdx.filter fun entry => entry.2 ∉ (emission gs bindings options).map EmittedGroup.place

/-- A group is in the query exactly if it has enough values. Both sides are about the same group, because
a place determines it. -/
theorem mem_places_iff {gs : List Group} {bindings : Bindings} {options : Options} {g : Group}
    {place : Nat} (h : gs[place]? = some g) :
    place ∈ (emission gs bindings options).map EmittedGroup.place
      ↔ ¬ g.ownCount bindings < max 1 options.minResolved := by
  rw [List.mem_map, ← Group.resolvedCount_eq_ownCount]
  constructor
  · rintro ⟨e, he, rfl⟩
    obtain ⟨hsource, hsome⟩ := mem_emission.mp he
    obtain rfl : g = e.source := Option.some.inj (h.symm.trans hsource)
    have henough := (Group.emitted?_eq_some_iff.mp hsome).1
    omega
  · intro hnotfew
    have henough : 1 ≤ g.resolvedCount bindings ∧ options.minResolved ≤ g.resolvedCount bindings := by
      omega
    exact ⟨⟨place, g, .ofOccurrence? g.occurrence?, g.emittedClauses bindings options.fallback?⟩,
      mem_emission.mpr ⟨h, Group.emitted?_eq_some_iff.mpr ⟨henough, rfl⟩⟩, rfl⟩

/-- The dropped groups are those with too few values. The definition only says that their places are
missing from the emission. -/
theorem droppedGroups_eq (gs : List Group) (bindings : Bindings) (options : Options) :
    droppedGroups gs bindings options
      = gs.zipIdx.filter fun entry => entry.1.ownCount bindings < max 1 options.minResolved := by
  unfold droppedGroups
  refine List.filter_congr fun entry hentry => ?_
  rw [decide_eq_decide, mem_places_iff (List.mk_mem_zipIdx_iff_getElem?.mp hentry), not_not]

/-- Dropped groups are listed in the order of their places, since numbering and filtering both keep it. -/
theorem pairwise_droppedGroups (gs : List Group) (bindings : Bindings) (options : Options) :
    ((droppedGroups gs bindings options).map Prod.snd).Pairwise (· < ·) := by
  have hplaces : (gs.zipIdx.map Prod.snd).Pairwise (· < ·) := by
    rw [List.zipIdx_map_snd]
    exact List.pairwise_lt_range'
  exact hplaces.sublist (List.filter_sublist.map Prod.snd)

/-! ## Signals and groups -/

/-- The event that says a group is dropped. -/
def dropEvent (bindings : Bindings) (options : Options) (entry : Group × Nat) : Event :=
  .groupDropped entry.2 (entry.1.ownCount bindings) options.minResolved

/-- Signals on some groups with their places, of which some went into the query and the others were
dropped. -/
structure Accounted (bindings : Bindings) (options : Options) (entries : List (Group × Nat))
    (signals : List Signal) (emitted : List EmittedGroup) (dropped : List (Group × Nat)) : Prop where
  events : signals.filterMap Signal.event? = dropped.map (dropEvent bindings options)
  samples : ∀ series : Series, series.samplesIn signals
    = if series = .groupsDropped then List.replicate dropped.length 1
      else if series = .clausesDropped then
        List.replicate (emitted.map fun e => e.source.omittedCount bindings options).sum 1
      else []
  groups : emitted.length + dropped.length = entries.length
  /-- A clause is in the query, or omitted from its group, or dropped with it. -/
  clauses : (emitted.map fun e => e.clauses.length).sum
      + (emitted.map fun e => e.source.omittedCount bindings options).sum
      + (dropped.map fun entry => entry.1.clauses.length).sum
    = (entries.map fun entry => entry.1.clauses.length).sum

namespace Rendering

/-- A group that is dropped is one sample for the counter of dropped groups and for nothing else. -/
theorem samplesIn_dropped (series : Series) (required place resolved : Nat) :
    series.samplesIn (verdictSignals required place (.dropped resolved))
      = if series = .groupsDropped then [1] else [] := by
  by_cases h : series = .groupsDropped
  · rw [if_pos h, h]
    rfl
  · have hne : ¬ Series.groupsDropped = series := fun heq => h heq.symm
    rw [if_neg h]
    simp [Series.samplesIn, verdictSignals, Signal.measurement?, Measurement.samples, hne]

/-- A group that goes into the query is one sample for each clause that it omits. The induction is on
their number. -/
theorem samplesIn_emitted (series : Series) (required place : Nat) (g : Query.Group) (omitted : Nat) :
    series.samplesIn (verdictSignals required place (.emitted g omitted))
      = if series = .clausesDropped then List.replicate omitted 1 else [] := by
  by_cases h : series = .clausesDropped
  · rw [if_pos h, h]
    induction omitted with
    | zero => rfl
    | succ n ih => exact congrArg (1 :: ·) ih
  · have hne : ¬ Series.clausesDropped = series := fun heq => h heq.symm
    rw [if_neg h]
    apply Series.samplesIn_eq_nil
    intro signal hsignal
    rw [(List.mem_replicate.mp hsignal).2]
    simp [Series.samplesIn, Signal.measurement?, Measurement.samples, hne]

end Rendering

namespace Accounted

variable {bindings : Bindings} {options : Options} {entries : List (Group × Nat)}
  {signals : List Signal} {emitted : List EmittedGroup} {dropped : List (Group × Nat)}

theorem nil : Accounted bindings options [] [] [] [] where
  events := rfl
  samples := fun series => by
    split
    · rfl
    · split <;> rfl
  groups := rfl
  clauses := rfl

/-- **One more group is dropped.** It adds an event, a sample and all its clauses to what is lost. -/
theorem drop (h : Accounted bindings options entries signals emitted dropped) (entry : Group × Nat) :
    Accounted bindings options (entry :: entries)
      (Rendering.verdictSignals options.minResolved entry.2 (.dropped (entry.1.ownCount bindings))
        ++ signals)
      emitted (entry :: dropped) := by
  constructor
  · rw [List.filterMap_append, h.events]
    rfl
  · intro series
    rw [Series.samplesIn_append, Rendering.samplesIn_dropped, h.samples]
    by_cases hseries : series = .groupsDropped
    · rw [if_pos hseries, if_pos hseries, if_pos hseries, List.length_cons, List.replicate_succ]
      rfl
    · rw [if_neg hseries, if_neg hseries, if_neg hseries, List.nil_append]
  · have hgroups := h.groups
    simp only [List.length_cons]
    omega
  · have hclauses := h.clauses
    simp only [List.map_cons, List.sum_cons]
    omega

/-- **One more group goes into the query.** It adds no event; its clauses are partly shown and partly
omitted, and each one that is omitted adds a sample. -/
theorem emit (h : Accounted bindings options entries signals emitted dropped) (g : Group) (place : Nat)
    (sign : Sign) (shown : Query.Group) :
    Accounted bindings options ((g, place) :: entries)
      (Rendering.verdictSignals options.minResolved place
        (.emitted shown (g.omittedCount bindings options)) ++ signals)
      (⟨place, g, sign, g.emittedClauses bindings options.fallback?⟩ :: emitted) dropped := by
  constructor
  · -- clauses that are omitted are measured, but no event is logged for them
    have hnone : (Rendering.verdictSignals options.minResolved place
        (.emitted shown (g.omittedCount bindings options))).filterMap Signal.event? = [] := by
      rw [List.filterMap_eq_nil_iff]
      intro signal hsignal
      rw [(List.mem_replicate.mp hsignal).2]
      rfl
    rw [List.filterMap_append, hnone, h.events]
    rfl
  · intro series
    rw [Series.samplesIn_append, Rendering.samplesIn_emitted, h.samples]
    by_cases hdropped : series = .groupsDropped
    · rw [if_pos hdropped, if_pos hdropped, if_neg (by simp [hdropped]), List.nil_append]
    · rw [if_neg hdropped, if_neg hdropped]
      by_cases homitted : series = .clausesDropped
      · rw [if_pos homitted, if_pos homitted, if_pos homitted, List.map_cons, List.sum_cons,
          List.replicate_append_replicate]
      · rw [if_neg homitted, if_neg homitted, if_neg homitted, List.nil_append]
  · have hgroups := h.groups
    simp only [List.length_cons]
    omega
  · have hclauses := h.clauses
    have hlength := g.length_emittedClauses bindings options
    simp only [List.map_cons, List.sum_cons]
    omega

end Accounted

/-- **The signals on any groups match what became of them.** The induction is on the groups with their
places, and each verdict is one of the two steps above. -/
theorem accounted (bindings : Bindings) (options : Options) (entries : List (Group × Nat)) :
    Accounted bindings options entries
      (entries.flatMap fun entry =>
        Rendering.verdictSignals options.minResolved entry.2 (entry.1.judge bindings options))
      (entries.filterMap fun entry => entry.1.emitted? entry.2 bindings options)
      (entries.filter fun entry => entry.1.ownCount bindings < max 1 options.minResolved) := by
  induction entries with
  | nil => exact .nil
  | cons entry entries ih =>
    rw [List.flatMap_cons, List.filterMap_cons, List.filter_cons, Group.judge_eq, Group.emitted?_eq]
    have hcount := entry.1.resolvedCount_eq_ownCount bindings
    -- the verdict, the emission and the list of dropped groups split on the same condition
    by_cases h : 1 ≤ entry.1.resolvedCount bindings ∧
        options.minResolved ≤ entry.1.resolvedCount bindings
    · rw [if_pos h, if_pos h, if_neg (by rw [decide_eq_true_eq]; omega)]
      exact ih.emit entry.1 entry.2 _ _
    · rw [if_neg h, if_neg h, if_pos (decide_eq_true (by omega))]
      exact ih.drop entry

/-! ## The report on a query -/

variable {tokens : List Token} {gs : List Group}

/-- The signals on a whole query are those on its groups, then one measurement of both numbers of
groups. -/
theorem accounted_ofGroups (gs : List Group) (bindings : Bindings) (options : Options) :
    ∃ signals, (Rendering.ofGroups gs bindings options).signals
        = signals ++ [.measurement (.render gs.length (emission gs bindings options).length)] ∧
      Accounted bindings options gs.zipIdx signals (emission gs bindings options)
        (droppedGroups gs bindings options) := by
  refine ⟨_, ?_, by rw [droppedGroups_eq]; exact accounted bindings options gs.zipIdx⟩
  -- the measurement counts the groups of the query, which are those of the emission
  have hquery : (Rendering.ofGroups gs bindings options).query.length
      = (emission gs bindings options).length := by
    rw [← map_group_emission, List.length_map]
  unfold Rendering.signals
  rw [hquery]
  unfold Rendering.ofGroups
  rw [List.zipIdx_map, List.flatMap_map, List.length_map]
  rfl

/-- What is reported when a query is made: the verdicts, and the time it took. -/
theorem signals_render (h : outline tokens = .ok gs) (bindings : Bindings) (options : Options) :
    (render tokens bindings options).signals
      = (Rendering.ofGroups gs bindings options).signals ++ [.measurement .renderTime] := by
  unfold render
  rw [h]

/-- What is reported when the tokens have a fault is the time only. -/
theorem signals_render_error {fault : ShapeFault} (h : outline tokens = .error fault)
    (bindings : Bindings) (options : Options) :
    (render tokens bindings options).signals = [.measurement .renderTime] := by
  unfold render
  rw [h]

/-- **Every sample of every series that making a query gives.** The series that are not listed belong to
the reading of templates and to the store. -/
theorem samplesIn_render (h : outline tokens = .ok gs) (bindings : Bindings) (options : Options)
    (series : Series) :
    series.samplesIn (render tokens bindings options).signals
      = match series with
        | .renders => [1]
        | .renderGroups => [gs.length]
        | .renderGroupsEmitted => [(emission gs bindings options).length]
        | .groupsDropped => List.replicate (droppedGroups gs bindings options).length 1
        | .clausesDropped =>
          List.replicate
            ((emission gs bindings options).map fun e => e.source.omittedCount bindings options).sum 1
        | .renderSeconds => [0]
        | _ => [] := by
  obtain ⟨signals, hsignals, haccounted⟩ := accounted_ofGroups gs bindings options
  rw [signals_render h, hsignals, Series.samplesIn_append, Series.samplesIn_append, haccounted.samples]
  cases series <;> simp [Series.samplesIn, Signal.measurement?, Measurement.samples]

end QueryTemplate
