import QueryTemplate.Proofs.Emission
import QueryTemplate.Proofs.Lookups

/-!
# More values never take anything away

What has no value is left out, clause by clause and, where too few clauses of a group are left, with the
whole group. So a query grows with its bindings and shrinks with the number of clauses that a group needs:

* **`Bindings.Extends`** — bindings with the same values and perhaps more names; a clause keeps its value
  under them (`keeps_of_extends`), and a group that is in the query stays in it
  (`Group.exists_emitted?_of_extends`),
* **`EmittedGroup.lines`** — the clauses of a query as they are written, each with the place and the mark of
  its group and with its own place there,
* **`lines_sublist`** — under more bindings and a lower threshold all lines are still there, in their order,
* **`omission_monotone`** — the headline, with what a lower threshold alone does to the groups.
-/

namespace QueryTemplate

/-! ## More bindings -/

/-- `bindings'` binds every name that `bindings` binds, to the same value. -/
def Bindings.Extends (bindings' bindings : Bindings) : Prop :=
  ∀ name, bindings.contains name = true → bindings'.get? name = bindings.get? name

theorem NameTable.contains_of_get? {fold : String → String} {t : NameTable fold} {name value : String}
    (h : t.get? name = some value) : t.contains name = true := by
  unfold contains
  unfold get? at h
  rw [Std.ExtTreeMap.contains_eq_isSome_getElem?, h]
  rfl

/-- **A clause keeps its value under more bindings.** A constant does not ask for one, and any other
clause had its name bound already. -/
theorem Clause.keeps_of_extends {bindings bindings' : Bindings} (h : bindings'.Extends bindings)
    (c : Clause) : c.Keeps bindings bindings' := by
  intro value hvalue
  unfold ownValue? at hvalue ⊢
  split at hvalue
  · next hconstant => rwa [if_pos hconstant]
  · next hconstant =>
    rw [if_neg hconstant]
    cases hget : bindings.get? c.placeholder with
    | none =>
      rw [hget] at hvalue
      cases hvalue
    | some bound =>
      rw [h c.placeholder (NameTable.contains_of_get? hget)]
      exact hvalue

/-! ## Groups under more bindings -/

/-- Under more bindings a group shows the clauses it has shown before, and perhaps others between them. -/
theorem Group.emittedClauses_sublist {bindings bindings' : Bindings} (h : bindings'.Extends bindings)
    (g : Group) : (g.emittedClauses bindings none).Sublist (g.emittedClauses bindings' none) := by
  rw [emittedClauses_none, emittedClauses_none]
  apply filterMap_sublist_filterMap
  intro entry _ c hc
  obtain ⟨value, hvalue, rfl⟩ := Option.map_eq_some_iff.mp hc
  rw [entry.1.keeps_of_extends h value hvalue]
  rfl

/-- **A group stays in the query**, with all its clauses and perhaps more: it has no fewer values, and no
more of them are asked for. -/
theorem Group.exists_emitted?_of_extends {bindings bindings' : Bindings} {options options' : Options}
    (h : bindings'.Extends bindings) (hskip : options.policy = .skip) (hskip' : options'.policy = .skip)
    (hmin : options'.minResolved ≤ options.minResolved) {g : Group} {place : Nat} {e : EmittedGroup}
    (he : g.emitted? place bindings options = some e) :
    ∃ e', g.emitted? place bindings' options' = some e' ∧ e'.place = e.place ∧ e'.sign = e.sign ∧
      e.clauses.Sublist e'.clauses := by
  obtain ⟨⟨hone, hmany⟩, rfl⟩ := emitted?_eq_some_iff.mp he
  -- the same clauses have a value, and perhaps others too
  have hcount : g.resolvedCount bindings ≤ g.resolvedCount bindings' := by
    rw [resolvedCount_eq_ownCount, resolvedCount_eq_ownCount]
    exact ownCount_le fun c _ => c.keeps_of_extends h
  refine ⟨_, emitted?_eq_some_iff.mpr ⟨⟨by omega, by omega⟩, rfl⟩, rfl, rfl, ?_⟩
  show (g.emittedClauses bindings options.fallback?).Sublist
    (g.emittedClauses bindings' options'.fallback?)
  rw [Options.fallback?_of_skip hskip, Options.fallback?_of_skip hskip']
  exact g.emittedClauses_sublist h

/-! ## Lines -/

/-- A clause as it is written in a query, with the place and the mark of its group, and its own place in
the group. -/
structure Line where
  group : Nat
  mark : String
  place : Nat
  text : String
  deriving DecidableEq, Repr

def EmittedGroup.lines (escaped : Bool) (e : EmittedGroup) : List Line :=
  e.clauses.map fun c => ⟨e.place, e.sign.text, c.place, c.clause.text escaped⟩

/-- What is made of an emission is made of its groups one by one, those that are left out giving
nothing. -/
theorem flatMap_emission {β : Type} (f : EmittedGroup → List β) (gs : List Group) (bindings : Bindings)
    (options : Options) :
    (emission gs bindings options).flatMap f
      = gs.zipIdx.flatMap fun entry => (entry.1.emitted? entry.2 bindings options).toList.flatMap f := by
  unfold emission
  rw [List.filterMap_eq_flatMap_toList, List.flatMap_assoc]

/-- **All lines are still there**, in their order. Group by group: what is left out adds no lines, and
what was emitted is emitted again. -/
theorem lines_sublist {bindings bindings' : Bindings} {options options' : Options}
    (h : bindings'.Extends bindings) (hskip : options.policy = .skip) (hskip' : options'.policy = .skip)
    (hmin : options'.minResolved ≤ options.minResolved) (escaped : Bool) (gs : List Group) :
    ((emission gs bindings options).flatMap (EmittedGroup.lines escaped)).Sublist
      ((emission gs bindings' options').flatMap (EmittedGroup.lines escaped)) := by
  rw [flatMap_emission, flatMap_emission]
  apply List.Sublist.flatMap_right
  intro entry _
  -- was the group emitted before?
  cases he : entry.1.emitted? entry.2 bindings options with
  | none => exact List.nil_sublist _
  | some e =>
    obtain ⟨e', he', hplace, hsign, hclauses⟩ :=
      Group.exists_emitted?_of_extends h hskip hskip' hmin he
    rw [he']
    show (e.lines escaped ++ []).Sublist (e'.lines escaped ++ [])
    rw [List.append_nil, List.append_nil, EmittedGroup.lines, EmittedGroup.lines, hplace, hsign]
    exact hclauses.map _

/-! ## Thresholds -/

/-- Under the same bindings a lower threshold leaves every group as it is, since the threshold does not
touch the clauses. -/
theorem emission_sublist {options options' : Options} (hpolicy : options'.fallback? = options.fallback?)
    (hmin : options'.minResolved ≤ options.minResolved) (gs : List Group) (bindings : Bindings) :
    (emission gs bindings options).Sublist (emission gs bindings options') := by
  apply filterMap_sublist_filterMap
  intro entry _ e he
  obtain ⟨⟨hone, hmany⟩, rfl⟩ := Group.emitted?_eq_some_iff.mp he
  exact Group.emitted?_eq_some_iff.mpr ⟨⟨hone, by omega⟩, by rw [hpolicy]⟩

/-- A group without a single value is never in the query, so that it makes no difference whether none or
one is asked for. -/
theorem emission_zero_eq_one (gs : List Group) (bindings : Bindings) (defaultValue : String)
    (policy : Policy) (escaped : Bool) :
    emission gs bindings ⟨0, defaultValue, policy, escaped⟩
      = emission gs bindings ⟨1, defaultValue, policy, escaped⟩ := by
  apply List.filterMap_congr
  intro entry _
  rw [Group.emitted?_eq, Group.emitted?_eq]
  -- the two conditions side by side
  show (if 1 ≤ _ ∧ 0 ≤ _ then _ else none) = if 1 ≤ _ ∧ 1 ≤ _ then _ else none
  simp only [Nat.zero_le, and_true, and_self]
  rfl

/-! ## The headline -/

/-- **More values never take anything away.** Where clauses without a value are left out, every line of a
query is in the query under more bindings and a lower threshold too: with the same text, in the same group,
behind the same mark and in the same order. Asking for no value is asking for one. Under the same bindings a
lower threshold leaves the groups of the query as they are and adds others between them. -/
theorem omission_monotone (template : String) (t : Template)
    (h : (Template.compile template).value = .ok t) :
    ∃ gs, outline t.tokens = .ok gs ∧
      (∀ bindings options, (render t.tokens bindings options).value
        = .ok (emissionText options.escaped (emission gs bindings options))) ∧
      (∀ (bindings bindings' : Bindings) (m m' : Nat) (defaultValue defaultValue' : String)
        (escaped : Bool), bindings'.Extends bindings → m' ≤ m →
        ((emission gs bindings ⟨m, defaultValue, .skip, escaped⟩).flatMap
            (EmittedGroup.lines escaped)).Sublist
          ((emission gs bindings' ⟨m', defaultValue', .skip, escaped⟩).flatMap
            (EmittedGroup.lines escaped))) ∧
      (∀ bindings defaultValue escaped, (render t.tokens bindings ⟨0, defaultValue, .skip, escaped⟩).value
        = (render t.tokens bindings ⟨1, defaultValue, .skip, escaped⟩).value) ∧
      ∀ bindings m m' defaultValue escaped, m' ≤ m →
        (emission gs bindings ⟨m, defaultValue, .skip, escaped⟩).Sublist
          (emission gs bindings ⟨m', defaultValue, .skip, escaped⟩) := by
  obtain ⟨gs, houtline⟩ := exists_outline_of_compile h
  refine ⟨gs, houtline, value_render_of_outline houtline, ?_, ?_, ?_⟩
  · intro bindings bindings' m m' defaultValue defaultValue' escaped hextends hmin
    exact lines_sublist hextends rfl rfl hmin escaped gs
  · intro bindings defaultValue escaped
    rw [value_render_of_outline houtline, value_render_of_outline houtline, emission_zero_eq_one]
  · intro bindings m m' defaultValue escaped hmin
    refine emission_sublist ?_ ?_ gs bindings
    · rfl
    · exact hmin

/-- Two values and a blank more, and a lower threshold: the first group gains a clause between its own,
and the second group appears with the one clause whose value is not blank. -/
theorem omission_monotone_two_groups :
    ∃ t, (Template.compile "MUST (a <a> b <b> k <K> CONSTANT) (c <c> d <d>)").value = .ok t ∧
      (render t.tokens (NameTable.empty.insert "a" "1") ⟨2, "", .skip, true⟩).value
        = .ok "+( a:(1) k:(K) )" ∧
      (render t.tokens
          ((((NameTable.empty.insert "a" "1").insert "B" "2").insert "c" "3").insert "d" " ")
          ⟨1, "", .skip, true⟩).value
        = .ok "+( a:(1) b:(2) k:(K) ) ( c:(3) )" ∧
      [Line.mk 0 "+" 0 "a:(1)", Line.mk 0 "+" 2 "k:(K)"].Sublist
        [Line.mk 0 "+" 0 "a:(1)", Line.mk 0 "+" 1 "b:(2)", Line.mk 0 "+" 2 "k:(K)",
          Line.mk 1 "" 0 "c:(3)"] := by
  obtain ⟨gs, hgs⟩ : ∃ gs : List Group, gs =
      [⟨some .must, [⟨none, "a", "a", []⟩, ⟨none, "b", "b", []⟩, ⟨none, "k", "K", [.constant]⟩]⟩,
        ⟨none, [⟨none, "c", "c", []⟩, ⟨none, "d", "d", []⟩]⟩] := ⟨_, rfl⟩
  have hcompile : (Template.compile "MUST (a <a> b <b> k <K> CONSTANT) (c <c> d <d>)").value
      = .ok ⟨Group.listTokens gs⟩ := by
    rw [compile_eq_ok_iff, hgs]
    decide +kernel
  obtain ⟨_, houtline, hrender, hlines, -⟩ := omission_monotone _ _ hcompile
  obtain rfl := Except.ok.inj ((outline_listTokens gs).symm.trans houtline)
  have hextends : Bindings.Extends
      ((((NameTable.empty.insert "a" "1").insert "B" "2").insert "c" "3").insert "d" " ")
      (NameTable.empty.insert "a" "1") := by
    intro name hname
    have hfold : Text.lowercase "a" = Text.lowercase name := by
      simpa [NameTable.contains, NameTable.insert, NameTable.empty] using hname
    rw [NameTable.get?_insert, NameTable.get?_insert, NameTable.get?_insert, ← hfold,
      if_neg (by decide +kernel), if_neg (by decide +kernel), if_neg (by decide +kernel)]
  refine ⟨_, hcompile, ?_, ?_, ?_⟩
  · rw [hrender, hgs]
    decide +kernel
  · rw [hrender, hgs]
    decide +kernel
  · have hfirst : (emission gs (NameTable.empty.insert "a" "1") ⟨2, "", .skip, true⟩).flatMap
        (EmittedGroup.lines true) = [⟨0, "+", 0, "a:(1)"⟩, ⟨0, "+", 2, "k:(K)"⟩] := by
      rw [hgs]
      decide +kernel
    have hsecond : (emission gs
        ((((NameTable.empty.insert "a" "1").insert "B" "2").insert "c" "3").insert "d" " ")
        ⟨1, "", .skip, true⟩).flatMap (EmittedGroup.lines true)
        = [⟨0, "+", 0, "a:(1)"⟩, ⟨0, "+", 1, "b:(2)"⟩, ⟨0, "+", 2, "k:(K)"⟩,
            ⟨1, "", 0, "c:(3)"⟩] := by
      rw [hgs]
      decide +kernel
    rw [← hfirst, ← hsecond]
    exact hlines _ _ 2 1 "" "" true hextends (by decide)

end QueryTemplate
