import QueryTemplate.Proofs.Emission

/-!
# When a wildcard matches everything

A wildcard with nothing in front of its star matches everything. A value that is blank, or blank without
the stars at its end, is therefore no value to a wildcard, and its clause is left out. The default that is
substituted for a missing value is not held to this:

* **`not_isBlankText_shown`** — no value that a clause has of its own is shown as a blank,
* **`isBlankText_value_iff`** — so a wildcard of the query is blank exactly if it shows a default that is
  blank without its stars,
* **`value_eq_empty_of_bare`** — and only such a wildcard is written as a bare star,
* **`wildcards_match_something_iff`** — the headline: the options and bindings under which no wildcard of a
  query is blank.
-/

namespace QueryTemplate

/-! ## Values and stars -/

/-- **No value that a clause has of its own is shown as a blank.** The check is made on the value as it is
shown, that is, after the stars are removed. -/
theorem Clause.not_isBlankText_shown {c : Clause} {bindings : Bindings} {value : String}
    (hconstant : ¬ c.IsConstant) (h : c.ownValue? bindings = some value) :
    Text.isBlankText (c.shown value) = false := by
  rw [← resolve_eq_ownValue?, resolve] at h
  rw [c.constant_traits, decide_eq_false hconstant, if_neg Bool.false_ne_true,
    Option.filter_eq_some_iff] at h
  simpa using h.2

theorem Clause.shown_of_isWildcard {c : Clause} (h : c.IsWildcard) (value : String) :
    c.shown value = dropStars value := by
  unfold shown
  rw [c.starred_traits, decide_eq_true h, if_pos rfl]

/-- **When a wildcard of the query is blank**: it has no value of its own, and shows a default that is
blank without its stars. -/
theorem isBlankText_value_iff {g : Group} {bindings : Bindings} {options : Options} {c : EmittedClause}
    (h : c ∈ g.emittedClauses bindings options.fallback?) (hstar : c.source.IsWildcard) :
    Text.isBlankText c.clause.value = true
      ↔ options.policy = .substitute ∧ Text.isBlankText (dropStars options.defaultValue) = true ∧
        c.source.ownValue? bindings = none := by
  obtain ⟨-, value, hvalue, hfill⟩ := Group.mem_emittedClauses.mp h
  have hshown : c.clause.value = dropStars value := by
    rw [← hfill]
    exact Clause.shown_of_isWildcard hstar value
  rw [hshown]
  rcases Clause.resolve_or_fallback_iff.mp hvalue with hown | ⟨hnone, hpolicy, rfl⟩
  · -- a value of its own is not blank
    have hblank := Clause.not_isBlankText_shown hstar.2 hown
    rw [Clause.shown_of_isWildcard hstar] at hblank
    simp [hblank, hown]
  · -- the default is shown, whatever it is
    simp [hnone, hpolicy]

/-! ## The bare star -/

theorem eq_empty_of_escape {value : String} (h : escape value = "") : value = "" := by
  have hchars : escapeChars value.toList = [] := by
    have hlist : (escape value).toList = [] := by rw [h]; rfl
    rwa [escape, String.toList_ofList] at hlist
  cases hvalue : value.toList with
  | nil => exact String.toList_eq_nil_iff.mp hvalue
  | cons c cs =>
    -- a character is never escaped to nothing
    rw [hvalue, escapeChars, List.flatMap_cons] at hchars
    have hfirst := (List.append_eq_nil_iff.mp hchars).1
    split at hfirst <;> cases hfirst

/-- **A bare star has no value in front of it.** This is seen from the length of the clause: every piece
between the parentheses takes room. -/
theorem value_eq_empty_of_bare {c : Query.Clause} (hstar : c.wildcard = true) {escaped : Bool}
    (h : c.text escaped = c.sign.text ++ c.field ++ ":(*)") : c.value = "" := by
  obtain ⟨written, hwritten⟩ : ∃ written, (if escaped then escape c.value else c.value) = written :=
    ⟨_, rfl⟩
  have htext : c.text escaped = c.sign.text ++ c.field ++ ":(" ++ written
      ++ (Query.weightText "^" c.boost? ++ Query.weightText "~" c.fuzzy? ++ "*") ++ ")" := by
    unfold Query.Clause.text Query.Clause.suffix
    rw [hwritten, hstar]
    rfl
  -- between the parentheses there is room for the star and for nothing else
  have hlength := congrArg String.length (htext.symm.trans h)
  have hbare : ":(*)".length = 4 := rfl
  have hopen : ":(".length = 2 := rfl
  have hone : "*".length = 1 ∧ ")".length = 1 := ⟨rfl, rfl⟩
  simp only [String.length_append] at hlength
  have hempty : written = "" := String.length_eq_zero_iff.mp (by omega)
  rw [hempty] at hwritten
  cases escaped with
  | false => exact hwritten
  | true => exact eq_empty_of_escape hwritten

theorem Clause.wildcard_fill (c : Clause) (value : String) :
    (c.fill value).wildcard = decide c.IsWildcard := c.starred_traits

/-- A wildcard whose value is not blank is not written as a bare star. -/
theorem text_ne_bare {g : Group} {bindings : Bindings} {fallback? : Option String} {c : EmittedClause}
    (h : c ∈ g.emittedClauses bindings fallback?) (hstar : c.source.IsWildcard)
    (hvalue : Text.isBlankText c.clause.value = false) (escaped : Bool) :
    c.clause.text escaped ≠ c.clause.sign.text ++ c.clause.field ++ ":(*)" := by
  intro hbare
  obtain ⟨-, value, -, hfill⟩ := Group.mem_emittedClauses.mp h
  have hwildcard : c.clause.wildcard = true := by
    rw [← hfill, Clause.wildcard_fill, decide_eq_true hstar]
  rw [value_eq_empty_of_bare hwildcard hbare] at hvalue
  exact absurd hvalue (by decide)

/-! ## The headline -/

/-- Where defaults are substituted, a clause without a value is in the query all the same. -/
theorem mem_emittedClauses_of_substitute {g : Group} {bindings : Bindings} {options : Options}
    (hpolicy : options.policy = .substitute) {c : Clause} {place : Nat}
    (hplace : g.clauses[place]? = some c) (hnone : c.ownValue? bindings = none) :
    ⟨place, c, c.fill options.defaultValue⟩ ∈ g.emittedClauses bindings options.fallback? := by
  rw [Group.mem_emittedClauses]
  exact ⟨hplace, _, Clause.resolve_or_fallback_iff.mpr (.inr ⟨hnone, hpolicy, rfl⟩), rfl⟩

/-- **When no wildcard matches everything.** Under all bindings and options, a query of a template shows
something in front of the star of every wildcard, and so no bare star, exactly if no default is substituted
that is blank without its stars: the policy is another one, or the default has something to show, or every
wildcard in a group of the query has a value of its own. -/
theorem wildcards_match_something_iff (template : String) (t : Template)
    (h : (Template.compile template).value = .ok t) :
    ∃ gs, outline t.tokens = .ok gs ∧ ∀ bindings options,
      (render t.tokens bindings options).value
        = .ok (emissionText options.escaped (emission gs bindings options)) ∧
      ((∀ e ∈ emission gs bindings options, ∀ c ∈ e.clauses, c.source.IsWildcard →
          Text.isBlankText c.clause.value = false ∧
          c.clause.text options.escaped ≠ c.clause.sign.text ++ c.clause.field ++ ":(*)") ↔
        (options.policy = .substitute → Text.isBlankText (dropStars options.defaultValue) = true →
          ∀ e ∈ emission gs bindings options, ∀ c ∈ e.source.clauses, c.IsWildcard →
            c.ownValue? bindings ≠ none)) := by
  obtain ⟨gs, houtline⟩ := exists_outline_of_compile h
  refine ⟨gs, houtline, fun bindings options => ⟨value_render_of_outline houtline _ _, ?_⟩⟩
  constructor
  · -- a wildcard without a value would be shown with the blank default
    intro hshown hpolicy hblank e he c hc hstar hnone
    obtain ⟨place, hplace⟩ := List.mem_iff_getElem?.mp hc
    have hsubstituted := mem_emittedClauses_of_substitute hpolicy hplace hnone
    have hvalue := (isBlankText_value_iff hsubstituted hstar).mpr ⟨hpolicy, hblank, hnone⟩
    rw [← clauses_of_mem_emission he] at hsubstituted
    rw [(hshown e he _ hsubstituted hstar).1] at hvalue
    cases hvalue
  · -- the only blank that can be shown is excluded
    intro hown e he c hc hstar
    rw [clauses_of_mem_emission he] at hc
    have hvalue : Text.isBlankText c.clause.value = false := by
      apply Bool.eq_false_iff.mpr
      intro hblank
      obtain ⟨hpolicy, hdefault, hnone⟩ := (isBlankText_value_iff hc hstar).mp hblank
      have hsource := (Group.mem_emittedClauses.mp hc).1
      exact hown hpolicy hdefault e he c.source (List.mem_of_getElem? hsource) hstar hnone
    exact ⟨hvalue, text_ne_bare hc hstar hvalue options.escaped⟩

/-- A wildcard without a value beside a clause that has one. With an empty default it is substituted by
nothing, and a bare star is written; with another default it is not. -/
theorem wildcards_match_something_iff_empty_default :
    ∃ t gs, (Template.compile "(a <a> b <b> WILDCARD)").value = .ok t ∧ outline t.tokens = .ok gs ∧
      (render t.tokens (NameTable.empty.insert "a" "1") ⟨1, "", .substitute, false⟩).value
        = .ok "( a:(1) b:(*) )" ∧
      (¬ ∀ e ∈ emission gs (NameTable.empty.insert "a" "1") ⟨1, "", .substitute, false⟩,
        ∀ c ∈ e.clauses, c.source.IsWildcard → Text.isBlankText c.clause.value = false ∧
          c.clause.text false ≠ c.clause.sign.text ++ c.clause.field ++ ":(*)") ∧
      ∀ e ∈ emission gs (NameTable.empty.insert "a" "1") ⟨1, "x*", .substitute, false⟩,
        ∀ c ∈ e.clauses, c.source.IsWildcard → Text.isBlankText c.clause.value = false ∧
          c.clause.text false ≠ c.clause.sign.text ++ c.clause.field ++ ":(*)" := by
  have hcompile : (Template.compile "(a <a> b <b> WILDCARD)").value
      = .ok ⟨Group.listTokens [⟨none, [⟨none, "a", "a", []⟩, ⟨none, "b", "b", [.wildcard]⟩]⟩]⟩ :=
    compile_eq_ok_iff.mpr (by decide +kernel)
  obtain ⟨gs, houtline, hiff⟩ := wildcards_match_something_iff _ _ hcompile
  obtain rfl : [⟨none, [⟨none, "a", "a", []⟩, ⟨none, "b", "b", [.wildcard]⟩]⟩] = gs :=
    Except.ok.inj ((outline_listTokens _).symm.trans houtline)
  refine ⟨_, _, hcompile, houtline, ?_, ?_, ?_⟩
  · rw [(hiff _ _).1]
    decide +kernel
  · rw [(hiff _ _).2]
    decide +kernel
  · rw [(hiff _ _).2]
    decide +kernel

end QueryTemplate
