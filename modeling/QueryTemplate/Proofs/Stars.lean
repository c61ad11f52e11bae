import Mathlib.Data.List.DropRight
import QueryTemplate.Proofs.Validation
import QueryTemplate.Proofs.Wildcards

/-!
# One live star

A wildcard is written with one star behind its value and its weights. The value may bring stars of its own
and end in backslashes, and neither adds to that star or takes it away:

* **`exists_stars`** — a value is its stem and the stars that are removed from its end,
* **`trailingBackslashes_escapeChars`** — escaping doubles the backslashes at the end of a value, so there is
  an even number of them, and none is left over to escape what follows,
* **`eq_or_endsInDigit`** — between the value and the star there is nothing, or a number,
* **`wildcards_end_in_one_live_star`** — the headline, for every wildcard of every query.
-/

namespace QueryTemplate

/-! ## Stars at the end of a value -/

/-- Removing the stars at the end is the library's `List.rdropWhile`, about which it has lemmas. -/
theorem toList_dropStars (value : String) :
    (dropStars value).toList = value.toList.rdropWhile (· = '*') := by
  rw [dropStars, String.toList_ofList, Text.dropEndWhile_eq_rdropWhile]

theorem getLast?_dropStars (value : String) : (dropStars value).toList.getLast? ≠ some '*' := by
  rw [toList_dropStars]
  intro hlast
  -- something is left, since it has a last character
  have hne : value.toList.rdropWhile (· = '*') ≠ [] := by
    intro hnil
    rw [hnil] at hlast
    cases hlast
  rw [List.getLast?_eq_some_getLast hne] at hlast
  have hnot := List.rdropWhile_last_not (fun c : Char => decide (c = '*')) value.toList hne
  exact hnot (decide_eq_true (Option.some.inj hlast))

/-- **A value is its stem and the stars that are removed from its end.** So nothing else is removed. -/
theorem exists_stars (value : String) :
    ∃ n, value.toList = (dropStars value).toList ++ List.replicate n '*' := by
  refine ⟨(value.toList.rtakeWhile (· = '*')).length, ?_⟩
  have hstars : value.toList.rtakeWhile (· = '*')
      = List.replicate (value.toList.rtakeWhile (· = '*')).length '*' := by
    apply List.eq_replicate_of_mem
    intro c hc
    exact of_decide_eq_true (List.mem_rtakeWhile_imp (p := fun c => decide (c = '*')) hc)
  rw [← hstars, toList_dropStars, List.rdropWhile_append_rtakeWhile]

/-! ## Backslashes at the end of a value -/

/-- How many backslashes stand at the end, with nothing else behind them. -/
def trailingBackslashes (cs : List Char) : Nat := (cs.rtakeWhile (· = '\\')).length

/-- A backslash at the end adds one, and any other character sets the count back. -/
theorem trailingBackslashes_concat (cs : List Char) (c : Char) :
    trailingBackslashes (cs ++ [c]) = if c = '\\' then trailingBackslashes cs + 1 else 0 := by
  unfold trailingBackslashes
  rw [List.rtakeWhile_concat]
  split <;> simp_all

theorem trailingBackslashes_of_getLast? {cs : List Char} {c : Char} (h : cs.getLast? = some c)
    (hc : c ≠ '\\') : trailingBackslashes cs = 0 := by
  obtain ⟨front, rfl⟩ := List.getLast?_eq_some_iff.mp h
  rw [trailingBackslashes_concat, if_neg hc]

theorem escapeChars_concat (cs : List Char) (c : Char) :
    escapeChars (cs ++ [c]) = escapeChars cs ++ if c ∈ specialChars then ['\\', c] else [c] := by
  unfold escapeChars
  rw [List.flatMap_append, List.flatMap_singleton]

/-- A character that is escaped stays the last one. -/
theorem getLast?_escapeChars (cs : List Char) : (escapeChars cs).getLast? = cs.getLast? := by
  rcases List.eq_nil_or_concat cs with rfl | ⟨front, last, rfl⟩
  · rfl
  · rw [List.concat_eq_append, escapeChars_concat]
    split <;> simp

/-- **Escaping doubles the backslashes at the end.** The induction is from the end, where they are
counted: a backslash becomes two, and any other character, escaped or not, is still the last one. -/
theorem trailingBackslashes_escapeChars (cs : List Char) :
    trailingBackslashes (escapeChars cs) = 2 * trailingBackslashes cs := by
  induction cs using List.reverseRecOn with
  | nil => rfl
  | append_singleton cs c ih =>
    rw [escapeChars_concat, trailingBackslashes_concat]
    by_cases hc : c = '\\'
    · subst hc
      have hsplit : escapeChars cs ++ ['\\', '\\'] = escapeChars cs ++ ['\\'] ++ ['\\'] := by simp
      rw [if_pos (by decide), if_pos rfl, hsplit, trailingBackslashes_concat, if_pos rfl,
        trailingBackslashes_concat, if_pos rfl, ih]
      omega
    · rw [if_neg hc]
      refine trailingBackslashes_of_getLast? ?_ hc
      split <;> simp

/-! ## What stands before the star -/

namespace Query

theorem getLast?_weightText (mark : String) (n : UInt32) :
    ∃ c, (weightText mark (some n)).toList.getLast? = some c ∧ c.isDigit = true := by
  have hne : (Text.Numeral.text n).toList ≠ [] := by
    rw [Text.Numeral.text, Nat.toList_repr]
    exact Nat.toDigits_ne_nil
  refine ⟨(Text.Numeral.text n).toList.getLast hne, ?_, ?_⟩
  · rw [weightText, String.toList_append, List.getLast?_append, List.getLast?_eq_some_getLast hne]
    rfl
  · exact Text.Numeral.isDigit_of_mem_text (List.getLast_mem hne)

/-- **What stands behind a value.** With its weights it ends as it does without them, or in a digit, which
is neither a star nor a backslash. -/
theorem eq_or_endsInDigit (written : String) (boost? fuzzy? : Option UInt32) :
    written ++ weightText "^" boost? ++ weightText "~" fuzzy? = written ∨
      ∃ c, (written ++ weightText "^" boost? ++ weightText "~" fuzzy?).toList.getLast? = some c ∧
        c.isDigit = true := by
  -- the weight that comes last decides
  cases fuzzy? with
  | some n =>
    obtain ⟨c, hlast, hdigit⟩ := getLast?_weightText "~" n
    refine .inr ⟨c, ?_, hdigit⟩
    rw [String.toList_append, List.getLast?_append, hlast]
    rfl
  | none =>
    cases boost? with
    | some n =>
      obtain ⟨c, hlast, hdigit⟩ := getLast?_weightText "^" n
      refine .inr ⟨c, ?_, hdigit⟩
      show (written ++ weightText "^" (some n) ++ "").toList.getLast? = some c
      rw [String.append_empty, String.toList_append, List.getLast?_append, hlast]
      rfl
    | none =>
      left
      show written ++ "" ++ "" = written
      rw [String.append_empty, String.append_empty]

end Query

namespace Clause

/-- What a wildcard that shows `stem` is written as, between the parenthesis and its star. -/
def beforeStar (c : Clause) (escaped : Bool) (stem : String) : String :=
  (if escaped then escape stem else stem) ++ Query.weightText "^" (c.lastNumber? .boost)
    ++ Query.weightText "~" (c.lastNumber? .fuzzy)

/-- There is no other star in front of the star, whatever the weights are and whether the value is escaped
or not. -/
theorem getLast?_beforeStar (c : Clause) (escaped : Bool) {stem : String}
    (h : stem.toList.getLast? ≠ some '*') :
    (c.beforeStar escaped stem).toList.getLast? ≠ some '*' := by
  unfold beforeStar
  rcases Query.eq_or_endsInDigit (if escaped then escape stem else stem) (c.lastNumber? .boost)
    (c.lastNumber? .fuzzy) with heq | ⟨d, hlast, hdigit⟩
  · rw [heq]
    -- escaping does not change the last character
    cases escaped with
    | false => exact h
    | true =>
      show (escape stem).toList.getLast? ≠ some '*'
      rwa [escape, String.toList_ofList, getLast?_escapeChars]
  · rw [hlast]
    rintro ⟨⟩
    cases hdigit

/-- **No backslash is left over to escape the star.** Behind a number there is none, and at the end of an
escaped value they come in pairs. -/
theorem even_trailingBackslashes_beforeStar (c : Clause) (stem : String) :
    trailingBackslashes (c.beforeStar true stem).toList % 2 = 0 := by
  unfold beforeStar
  rw [if_pos rfl]
  rcases Query.eq_or_endsInDigit (escape stem) (c.lastNumber? .boost) (c.lastNumber? .fuzzy)
    with heq | ⟨d, hlast, hdigit⟩
  · rw [heq, escape, String.toList_ofList, trailingBackslashes_escapeChars]
    omega
  · have hnone := trailingBackslashes_of_getLast? hlast (by rintro rfl; cases hdigit)
    rw [hnone]

/-- How a wildcard is written: the star is the last character between its parentheses. -/
theorem text_fill_of_isWildcard {c : Clause} (h : c.IsWildcard) (escaped : Bool) (value : String) :
    (c.fill value).text escaped
      = (c.fill value).sign.text ++ c.field ++ ":(" ++ (c.beforeStar escaped (dropStars value) ++ "*")
        ++ ")" := by
  have hfuzzy : (c.fill value).fuzzy? = c.lastNumber? .fuzzy := by
    show (if c.traits.constant then none else c.traits.fuzzy?) = _
    rw [traits_eq, decide_eq_false h.2]
    rfl
  have hboost : (c.fill value).boost? = c.lastNumber? .boost := by
    show c.traits.boost? = _
    rw [traits_eq]
  have hvalue : (c.fill value).value = dropStars value := shown_of_isWildcard h value
  unfold Query.Clause.text Query.Clause.suffix beforeStar
  rw [wildcard_fill, decide_eq_true h, if_pos rfl, hfuzzy, hboost, hvalue]
  simp only [String.append_assoc]
  rfl

end Clause

/-! ## The headline -/

/-- **Every wildcard ends in one live star.** If a list of tokens renders, then every wildcard of the query
shows the value that it has of its own, or the default that is substituted for it, without the stars at the
end of it. Escaped or not, with its weights or without, that is followed by a star and the closing
parenthesis. It is the only star there, and where values are escaped, every backslash before it belongs to
a pair. -/
theorem wildcards_end_in_one_live_star (tokens : List Token) (bindings : Bindings) (options : Options)
    (text : String) (h : (render tokens bindings options).value = .ok text) :
    ∃ gs, outline tokens = .ok gs ∧
      text = emissionText options.escaped (emission gs bindings options) ∧
      ∀ e ∈ emission gs bindings options, ∀ c ∈ e.clauses, c.source.IsWildcard →
        ∃ (value stem before : String) (stars : Nat),
          (c.source.ownValue? bindings = some value ∨
            c.source.ownValue? bindings = none ∧ options.policy = .substitute ∧
              options.defaultValue = value) ∧
          value.toList = stem.toList ++ List.replicate stars '*' ∧
          stem.toList.getLast? ≠ some '*' ∧
          before = (if options.escaped then escape stem else stem)
            ++ Query.weightText "^" (c.source.lastNumber? .boost)
            ++ Query.weightText "~" (c.source.lastNumber? .fuzzy) ∧
          c.clause.text options.escaped
            = c.clause.sign.text ++ c.source.field ++ ":(" ++ (before ++ "*") ++ ")" ∧
          before.toList.getLast? ≠ some '*' ∧
          (options.escaped = true → trailingBackslashes before.toList % 2 = 0) := by
  obtain ⟨gs, hgs⟩ := (renders_iff_grouped bindings options).mp ⟨text, h⟩
  have houtline : outline tokens = .ok gs := outline_eq_ok_iff.mpr hgs
  have htext := Except.ok.inj (h.symm.trans (value_render_of_outline houtline bindings options))
  refine ⟨gs, houtline, htext, ?_⟩
  intro e he c hc hstar
  rw [clauses_of_mem_emission he] at hc
  obtain ⟨-, value, hvalue, hfill⟩ := Group.mem_emittedClauses.mp hc
  obtain ⟨stars, hstars⟩ := exists_stars value
  have hstem := getLast?_dropStars value
  have horigin : c.source.ownValue? bindings = some value ∨
      c.source.ownValue? bindings = none ∧ options.policy = .substitute ∧
        options.defaultValue = value := Clause.resolve_or_fallback_iff.mp hvalue
  refine ⟨value, dropStars value, c.source.beforeStar options.escaped (dropStars value), stars, horigin,
    hstars, hstem, rfl, ?_, c.source.getLast?_beforeStar options.escaped hstem, ?_⟩
  · rw [← hfill]
    exact Clause.text_fill_of_isWildcard hstar options.escaped value
  · intro hescaped
    rw [hescaped]
    exact c.source.even_trailingBackslashes_beforeStar (dropStars value)

/-- A value that ends in a backslash and two stars, and a default that is nothing but a star. -/
theorem wildcards_end_in_one_live_star_backslash :
    let tokens := Group.listTokens
      [⟨none, [⟨none, "a", "a", [.wildcard]⟩, ⟨some .must, "b", "b", [.fuzzy 2, .wildcard]⟩]⟩]
    let bindings := NameTable.empty.insert "a" "x\\**"
    let options : Options := ⟨1, "*", .substitute, true⟩
    (render tokens bindings options).value = .ok "( a:(x\\\\*) +b:(~2*) )" ∧
      ∃ gs, outline tokens = .ok gs ∧ ∃ e ∈ emission gs bindings options, e.clauses.length = 2 ∧
        ∀ c ∈ e.clauses, ∃ before,
          c.clause.text true = c.clause.sign.text ++ c.source.field ++ ":(" ++ (before ++ "*") ++ ")" ∧
          before.toList.getLast? ≠ some '*' ∧ trailingBackslashes before.toList % 2 = 0 := by
  intro tokens bindings options
  have hrender : (render tokens bindings options).value = .ok "( a:(x\\\\*) +b:(~2*) )" := by
    decide +kernel
  refine ⟨hrender, ?_⟩
  obtain ⟨gs, houtline, -, hstars⟩ :=
    wildcards_end_in_one_live_star tokens bindings options _ hrender
  obtain rfl := Except.ok.inj ((outline_listTokens _).symm.trans houtline)
  refine ⟨_, houtline, _, List.mem_singleton.mpr rfl, rfl, ?_⟩
  intro c hc
  have hwildcard : c.source.IsWildcard := by
    revert c
    decide +kernel
  obtain ⟨_, _, before, _, _, _, _, _, htext, hlast, hpairs⟩ :=
    hstars _ (List.mem_singleton.mpr rfl) c hc hwildcard
  exact ⟨before, htext, hlast, hpairs rfl⟩

end QueryTemplate
