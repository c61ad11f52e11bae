import QueryTemplate.Proofs.Shape
import QueryTemplate.Proofs.Validation

/-!
# No clause is lost without a report

What metrics and log say about one query is compared here with the query itself. The signals of one query
are known from `samplesIn_render`; now they come after any signals that were there before:

* **`countP_isField_listTokens`** — there are as many clauses as fields among the tokens,
* **`Reported`**, **`reported_render`** — what metrics and a log show after one more query,
* **`clauses_add_up`** — the clauses of a template are those in its query and those that are not,
* **`rendering_accounts_for_every_clause`** — the headline, for metrics and a log that are already in use.
-/

namespace QueryTemplate

/-! ## Fields among the tokens -/

def Token.isField : Token → Bool
  | field _ => true
  | _ => false

/-- **There is a clause for every field.** Each clause has one field among its two names, and there are no
other fields among the tokens. -/
theorem countP_isField_listTokens (gs : List Group) :
    (Group.listTokens gs).countP Token.isField = (gs.map fun g => g.clauses.length).sum := by
  -- a field is a name, so nothing is lost by looking at the names only
  have hnames : (Group.listTokens gs).countP Token.isField
      = ((Group.listTokens gs).filter Token.isName).countP Token.isField := by
    rw [List.countP_filter]
    refine List.countP_congr fun token _ => ?_
    cases token <;> simp [Token.isField, Token.isName]
  have hclause : ∀ c : Clause, c.names.countP Token.isField = 1 := fun _ => rfl
  rw [hnames, filter_isName_listTokens, List.countP_flatMap, ← List.length_flatMap]
  simp only [Function.comp_def, hclause, List.map_const', List.sum_replicate_nat, Nat.mul_one]

/-! ## The headline -/

variable {tokens : List Token} {gs : List Group}

/-- What metrics and a log say about one query from the groups `gs`: what they show after its `signals`,
against what they showed after `earlier` ones, and against the query. -/
structure Reported (gs : List Group) (bindings : Bindings) (options : Options)
    (earlier signals : List Signal) : Prop where
  renders : Series.renders.countIn (earlier ++ signals) = Series.renders.countIn earlier + 1
  renderGroups : Series.renderGroups.distributionIn (earlier ++ signals)
    = Series.renderGroups.distributionIn earlier ++ [heldValue gs.length]
  renderGroupsEmitted : Series.renderGroupsEmitted.distributionIn (earlier ++ signals)
    = Series.renderGroupsEmitted.distributionIn earlier
      ++ [heldValue (emission gs bindings options).length]
  /-- Up to 53 bits a distribution holds the numbers themselves. -/
  held : gs.length < Nat.pow 2 53 → heldValue gs.length = gs.length ∧
    heldValue (emission gs bindings options).length = (emission gs bindings options).length
  groupsDropped : Series.groupsDropped.countIn (earlier ++ signals)
    = Series.groupsDropped.countIn earlier
      + UInt64.ofNat (gs.length - (emission gs bindings options).length)
  clausesDropped : Series.clausesDropped.countIn (earlier ++ signals)
    = Series.clausesDropped.countIn earlier + UInt64.ofNat
      ((emission gs bindings options).map fun e => e.source.omittedCount bindings options).sum
  others : ∀ series ∉ [Series.renders, .renderGroups, .renderGroupsEmitted, .groupsDropped,
      .clausesDropped, .renderSeconds],
    series.shownIn? (earlier ++ signals) = series.shownIn? earlier
  /-- An event for every group that is not in the query, in the order of the groups. -/
  events : signals.filterMap Signal.event? = (droppedGroups gs bindings options).map fun entry =>
    .groupDropped entry.2 (entry.1.ownCount bindings) options.minResolved
  ascending : ((droppedGroups gs bindings options).map Prod.snd).Pairwise (· < ·)
  messages : ∀ event ∈ signals.filterMap Signal.event?,
    event.message = "Dropping search profile group"
  fewer : ∀ entry ∈ droppedGroups gs bindings options,
    entry.1.ownCount bindings < max 1 options.minResolved

/-- **What metrics and a log show after one more query.** Each entry follows from the samples of its
series, and the log from the events that match the dropped groups. -/
theorem reported_render (h : outline tokens = .ok gs) (bindings : Bindings) (options : Options)
    (earlier : List Signal) :
    Reported gs bindings options earlier (render tokens bindings options).signals := by
  obtain ⟨signals, hsignals, haccounted⟩ := accounted_ofGroups gs bindings options
  have hsamples := samplesIn_render h bindings options
  have hgroups := haccounted.groups
  rw [List.length_zipIdx] at hgroups
  -- no event comes from the two measurements at the end
  have hevents : (render tokens bindings options).signals.filterMap Signal.event?
      = (droppedGroups gs bindings options).map (dropEvent bindings options) := by
    rw [signals_render h, hsignals, List.filterMap_append, List.filterMap_append, haccounted.events]
    simp [Signal.event?]
  constructor
  case renders =>
    rw [Series.countIn_append rfl, Series.sumIn, hsamples]
    rfl
  case renderGroups =>
    rw [Series.distributionIn_append rfl, hsamples]
    rfl
  case renderGroupsEmitted =>
    rw [Series.distributionIn_append rfl, hsamples]
    rfl
  case held =>
    intro hlt
    exact ⟨heldValue_of_lt hlt, heldValue_of_lt (by omega)⟩
  case groupsDropped =>
    have hdropped : gs.length - (emission gs bindings options).length
        = (droppedGroups gs bindings options).length := by omega
    rw [Series.countIn_append rfl, Series.sumIn, hsamples, hdropped]
    simp only [List.sum_replicate_nat, Nat.mul_one]
  case clausesDropped =>
    rw [Series.countIn_append rfl, Series.sumIn, hsamples]
    simp only [List.sum_replicate_nat, Nat.mul_one]
  case others =>
    intro series hother
    apply Series.shownIn?_append_of_samplesIn_eq_nil
    rw [hsamples]
    cases series <;> simp at hother ⊢
  case events => exact hevents
  case ascending => exact pairwise_droppedGroups gs bindings options
  case messages =>
    intro event hevent
    rw [hevents] at hevent
    obtain ⟨entry, -, rfl⟩ := List.mem_map.mp hevent
    rfl
  case fewer =>
    intro entry hentry
    rw [droppedGroups_eq] at hentry
    exact of_decide_eq_true (List.mem_filter.mp hentry).2

/-- Every clause of the template is in the query, or omitted from a group that is, or in a group that is
not. The clauses are counted by the fields among the tokens. -/
theorem clauses_add_up (h : outline tokens = .ok gs) (bindings : Bindings) (options : Options) :
    ((emission gs bindings options).map fun e => e.clauses.length).sum
        + ((emission gs bindings options).map fun e => e.source.omittedCount bindings options).sum
        + ((droppedGroups gs bindings options).map fun entry => entry.1.clauses.length).sum
      = tokens.countP Token.isField := by
  obtain ⟨signals, -, haccounted⟩ := accounted_ofGroups gs bindings options
  -- the places do not matter for a sum over all groups
  have hplaces : gs.zipIdx.map (fun entry => entry.1.clauses.length)
      = gs.map fun g => g.clauses.length := by
    rw [show (fun entry : Group × Nat => entry.1.clauses.length)
      = (fun g : Group => g.clauses.length) ∘ Prod.fst from rfl, ← List.map_map, List.zipIdx_map_fst]
  rw [haccounted.clauses, hplaces, outline_eq_ok_iff.mp h, countP_isField_listTokens]

/-- **No clause is lost without a report.** Whatever was reported before, the time of every attempt to make a
query is measured once. If the tokens have a fault, then nothing else is measured and nothing is logged. If
they have none, then metrics and log show what became of their groups and clauses, and no clause is
unaccounted for: the clauses of the query, those that were omitted from its groups and those of the groups
that were dropped are as many as the fields among the tokens. -/
theorem rendering_accounts_for_every_clause (tokens : List Token) (bindings : Bindings)
    (options : Options) (earlier : List Signal) :
    let rendered := render tokens bindings options
    Series.renderSeconds.readingsIn (earlier ++ rendered.signals)
        = Series.renderSeconds.readingsIn earlier + 1 ∧
      (∀ fault, rendered.value = .error fault →
        rendered.signals.filterMap Signal.event? = [] ∧
        ∀ series ≠ Series.renderSeconds,
          series.shownIn? (earlier ++ rendered.signals) = series.shownIn? earlier) ∧
      ∀ text, rendered.value = .ok text →
        ∃ gs, outline tokens = .ok gs ∧
          text = emissionText options.escaped (emission gs bindings options) ∧
          Reported gs bindings options earlier rendered.signals ∧
          ((emission gs bindings options).map fun e => e.clauses.length).sum
              + ((emission gs bindings options).map fun e => e.source.omittedCount bindings options).sum
              + ((droppedGroups gs bindings options).map fun entry => entry.1.clauses.length).sum
            = tokens.countP Token.isField := by
  intro rendered
  cases houtline : outline tokens with
  -- tokens with a fault: only the time is measured
  | error fault =>
    have hsignals : rendered.signals = [.measurement .renderTime] :=
      signals_render_error houtline bindings options
    have hvalue : rendered.value = .error fault :=
      value_render_of_outline_error houtline bindings options
    refine ⟨?_, ?_, ?_⟩
    · rw [hsignals, Series.readingsIn_append rfl]
      rfl
    · intro _ _
      rw [hsignals]
      refine ⟨rfl, fun series hseries => Series.shownIn?_append_of_samplesIn_eq_nil ?_ earlier⟩
      have hne : ¬ Series.renderSeconds = series := fun heq => hseries heq.symm
      simp [Series.samplesIn, Signal.measurement?, Measurement.samples, hne]
    · intro text htext
      rw [hvalue] at htext
      cases htext
  -- tokens with an outline: the query is made, and its report is that of `reported_render`
  | ok gs =>
    have hvalue : rendered.value
        = .ok (emissionText options.escaped (emission gs bindings options)) :=
      value_render_of_outline houtline bindings options
    refine ⟨?_, ?_, ?_⟩
    · rw [Series.readingsIn_append rfl, samplesIn_render houtline]
      rfl
    · intro fault hfault
      rw [hvalue] at hfault
      cases hfault
    · intro text htext
      rw [hvalue] at htext
      exact ⟨gs, rfl, (Except.ok.inj htext).symm, reported_render houtline bindings options earlier,
        clauses_add_up houtline bindings options⟩

/-- A clause that is omitted, and a group of two clauses that is dropped because it needs both; before that,
an attempt that failed. -/
theorem rendering_accounts_for_every_clause_omitted :
    let earlier := (render [.groupClose] NameTable.empty (.plain 1 "")).signals
    let tokens := Group.listTokens
      [⟨none, [⟨none, "a", "x", []⟩, ⟨none, "b", "y", []⟩]⟩,
        ⟨none, [⟨none, "c", "x", []⟩, ⟨none, "d", "z", [.constant]⟩, ⟨none, "e", "y", []⟩]⟩]
    let rendered := render tokens (NameTable.empty.insert "x" "1") (.plain 2 "")
    rendered.value = .ok "( c:(1) d:(z) )" ∧
      Series.renderSeconds.readingsIn (earlier ++ rendered.signals) = 2 ∧
      Series.groupsDropped.countIn (earlier ++ rendered.signals) = 1 ∧
      Series.clausesDropped.countIn (earlier ++ rendered.signals) = 1 ∧
      Series.renderGroups.distributionIn (earlier ++ rendered.signals) = [2] ∧
      Series.renderGroupsEmitted.distributionIn (earlier ++ rendered.signals) = [1] ∧
      rendered.signals.filterMap Signal.event? = [.groupDropped 0 1 2] ∧
      tokens.countP Token.isField = 5 := by
  intro earlier tokens rendered
  have hvalue : rendered.value = .ok "( c:(1) d:(z) )" := by decide +kernel
  obtain ⟨hfirst, -, -⟩ :=
    rendering_accounts_for_every_clause [.groupClose] NameTable.empty (.plain 1 "") []
  obtain ⟨hreadings, -, hreported⟩ :=
    rendering_accounts_for_every_clause tokens (NameTable.empty.insert "x" "1") (.plain 2 "") earlier
  obtain ⟨gs, houtline, -, hreport, hclauses⟩ := hreported _ hvalue
  obtain rfl := Except.ok.inj ((outline_listTokens _).symm.trans houtline)
  refine ⟨hvalue, ?_, ?_, ?_, ?_, ?_, ?_, ?_⟩
  · rw [hreadings]
    exact congrArg (· + 1) hfirst
  · rw [hreport.groupsDropped]
    decide +kernel
  · rw [hreport.clausesDropped]
    decide +kernel
  · rw [hreport.renderGroups]
    decide +kernel
  · rw [hreport.renderGroupsEmitted]
    decide +kernel
  · rw [hreport.events]
    decide +kernel
  · rw [← hclauses]
    decide +kernel

end QueryTemplate
