import QueryTemplate.Template.Grammar

/-!
# The words of a template

Is a word a keyword, is it a field name? Both tests are tied here to the rule that they decide, so
that nothing later has to open them.

* `Keyword.ofWord?_eq_some_iff`: the look-up of a keyword finds exactly the keyword that the word
  spells in some ASCII case.
* `Keyword.SpeltBy.unique`: a word spells one keyword at most.
* `ofWord?_of_isFieldName`, `not_speltBy_of_isFieldName`: a field name is no keyword.
* `isFieldName_chars`: what the characters of a field name are.
-/

namespace QueryTemplate

/-! ## Keywords -/

instance (k : Keyword) (word : String) : Decidable (k.SpeltBy word) :=
  inferInstanceAs (Decidable (_ = _))

/-- The list of keywords is complete, so that a search in it misses none. -/
theorem Keyword.mem_all (k : Keyword) : k ∈ Keyword.all := by
  cases k with
  | occurrence o => cases o <;> decide
  | weight w => cases w <;> decide
  | wildcard => decide
  | constant => decide

/-- No two keywords have the same spelling. There are seven of them, and all pairs are checked. -/
theorem Keyword.spelling_injective {k l : Keyword} (h : k.spelling = l.spelling) : k = l := by
  have hall : ∀ k ∈ Keyword.all, ∀ l ∈ Keyword.all, k.spelling = l.spelling → k = l := by decide
  exact hall k k.mem_all l l.mem_all h

/-- **A word is looked up as the keyword that it spells.** The search stops at the first spelling that
fits, and no other one does. -/
theorem Keyword.ofWord?_eq_some_iff {word : String} {k : Keyword} :
    Keyword.ofWord? word = some k ↔ k.SpeltBy word := by
  constructor
  · intro h
    have hk := List.find?_some h
    exact (of_decide_eq_true hk).symm
  · intro h
    have hk : decide (k.spelling.toList = word.toList.map Char.toUpper) = true :=
      decide_eq_true h.symm
    cases hfind : Keyword.ofWord? word with
    | none =>
      exact absurd hk (List.find?_eq_none.mp hfind k k.mem_all)
    | some l =>
      -- the keyword that was found has the same spelling
      have hl := List.find?_some hfind
      have hl : l.spelling.toList = word.toList.map Char.toUpper := of_decide_eq_true hl
      have hspelling : l.spelling = k.spelling := String.toList_inj.mp (hl.trans h)
      rw [Keyword.spelling_injective hspelling]

/-- A keyword is spelt by its own spelling, which is in capitals. -/
theorem Keyword.speltBy_spelling (k : Keyword) : k.SpeltBy k.spelling := by
  have hall : ∀ k ∈ Keyword.all, k.spelling.toList.map Char.toUpper = k.spelling.toList := by decide
  exact hall k k.mem_all

/-- A word spells one keyword at most, since both of them are found when it is looked up. -/
theorem Keyword.SpeltBy.unique {k l : Keyword} {word : String} (hk : k.SpeltBy word)
    (hl : l.SpeltBy word) : k = l := by
  have hfind := ofWord?_eq_some_iff.mpr hk
  rw [ofWord?_eq_some_iff.mpr hl] at hfind
  exact (Option.some.inj hfind).symm

/-! ## Field names -/

/-- A field name is looked up in vain: that it is no keyword is part of what a field name is. -/
theorem ofWord?_of_isFieldName {word : String} (h : isFieldName word = true) :
    Keyword.ofWord? word = none := by
  unfold isFieldName at h
  split at h
  · exact absurd h (by decide)
  · simp only [Bool.and_eq_true, Option.isNone_iff_eq_none] at h
    exact h.2

/-- A field name spells no keyword, in any case of its letters. -/
theorem not_speltBy_of_isFieldName {word : String} (h : isFieldName word = true) (k : Keyword) :
    ¬ k.SpeltBy word := by
  intro hk
  have hfind := Keyword.ofWord?_eq_some_iff.mpr hk
  rw [ofWord?_of_isFieldName h] at hfind
  cases hfind

theorem isFieldName_chars {word : String} (h : isFieldName word = true) :
    ∃ c cs, word.toList = c :: cs ∧ isFieldStart c = true ∧ ∀ d ∈ cs, isFieldRest d = true := by
  unfold isFieldName at h
  split at h
  · exact absurd h (by decide)
  · next c cs hword =>
    simp only [Bool.and_eq_true, List.all_eq_true] at h
    exact ⟨c, cs, hword, h.1.1, h.1.2⟩

theorem isFieldRest_of_isFieldStart {c : Char} (h : isFieldStart c = true) :
    isFieldRest c = true := by
  simp only [isFieldStart, Bool.or_eq_true] at h
  simp only [isFieldRest, Bool.or_eq_true]
  rcases h with h | h
  · exact .inl (.inl (.inl (.inl h)))
  · exact .inl (.inl (.inr h))

/-- Every character of a field name is one that may stand behind its first one. -/
theorem isFieldRest_of_mem {word : String} (h : isFieldName word = true) {c : Char}
    (hc : c ∈ word.toList) : isFieldRest c = true := by
  obtain ⟨d, cs, hword, hd, hcs⟩ := isFieldName_chars h
  rw [hword] at hc
  rcases List.mem_cons.mp hc with rfl | hc
  · exact isFieldRest_of_isFieldStart hd
  · exact hcs c hc

end QueryTemplate
