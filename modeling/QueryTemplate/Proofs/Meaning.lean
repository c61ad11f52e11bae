import QueryTemplate.Proofs.Printing
import QueryTemplate.Proofs.Rendering

/-!
# What a template means

The text that groups stand for under some bindings and options, said on the tree and clause by clause,
with no tokens, no sums of decorations and no query in between.

* **`Group.listMeaning`** — the reference: which groups appear, which of their clauses, and how each of
  them is written.
* **`traits_eq`** — the running sum over the decorations is what the reference says about the whole
  list of them.
* **`render_eq_listMeaning`** — from the text of a template to the text of its query, rendering gives
  the meaning of the one tree that the template spells.
-/

namespace QueryTemplate

/-! ## The reference -/

def Decoration.number? : Weight → Decoration → Option UInt32
  | .boost, .boost n => some n
  | .fuzzy, .fuzzy n => some n
  | _, _ => none

/-- Only what is required or forbidden is marked. -/
def Occurrence.mark : Option Occurrence → String
  | some .must => "+"
  | some .mustNot => "-"
  | _ => ""

namespace Clause

def IsConstant (c : Clause) : Prop := Decoration.constant ∈ c.decorations

/-- A constant is never a wildcard. -/
def IsWildcard (c : Clause) : Prop := Decoration.wildcard ∈ c.decorations ∧ ¬ c.IsConstant

instance (c : Clause) : Decidable c.IsConstant := inferInstanceAs (Decidable (_ ∈ _))

instance (c : Clause) : Decidable c.IsWildcard := inferInstanceAs (Decidable (_ ∧ _))

/-- Of several numbers of one weight the last one counts. -/
def lastNumber? (c : Clause) (w : Weight) : Option UInt32 :=
  (c.decorations.filterMap (Decoration.number? w)).getLast?

/-- The part of a value that is written. -/
def stem (c : Clause) (value : String) : String :=
  if c.IsWildcard then String.ofList (value.toList.rdropWhile (· = '*')) else value

/-- The value that a clause has of its own. -/
def ownValue? (c : Clause) (bindings : Bindings) : Option String :=
  if c.IsConstant then some c.placeholder
  else
    match bindings.get? c.placeholder with
    | none => none
    | some value => if Text.trim (c.stem value).toList = [] then none else some value

def meaningOf (c : Clause) (escaped : Bool) (value : String) : String :=
  let stem := c.stem value
  let boost := match c.lastNumber? .boost with
    | some n => "^" ++ Text.Numeral.text n
    | none => ""
  let fuzzy := match c.lastNumber? .fuzzy with
    | some n => if c.IsConstant then "" else "~" ++ Text.Numeral.text n
    | none => ""
  let star := if c.IsWildcard then "*" else ""
  Occurrence.mark c.occurrence? ++ c.field ++ ":(" ++ (if escaped then escape stem else stem) ++ boost
    ++ fuzzy ++ star ++ ")"

/-- What a clause adds to a group that appears. -/
def meaning? (c : Clause) (bindings : Bindings) (options : Options) : Option String :=
  match c.ownValue? bindings, options.policy with
  | some value, _ => some (c.meaningOf options.escaped value)
  | none, .substitute => some (c.meaningOf options.escaped options.defaultValue)
  | none, .skip => none

end Clause

namespace Group

def ownCount (g : Group) (bindings : Bindings) : Nat :=
  (g.clauses.filter fun c => (c.ownValue? bindings).isSome).length

def meaning? (g : Group) (bindings : Bindings) (options : Options) : Option String :=
  if 1 ≤ g.ownCount bindings ∧ options.minResolved ≤ g.ownCount bindings then
    some (Occurrence.mark g.occurrence? ++ "( "
      ++ " ".intercalate (g.clauses.filterMap (·.meaning? bindings options)) ++ " )")
  else none

def listMeaning (gs : List Group) (bindings : Bindings) (options : Options) : String :=
  " ".intercalate (gs.filterMap (·.meaning? bindings options))

end Group

/-! ## Decorations

The renderer adds up the decorations from left to right. Since each of them only touches its own entry,
the sum can be read off the list: the last number of each weight, and whether a mark occurs at all. -/

/-- **The sum of some decorations, read off their list.** Each kind has an entry of its own: a weight
keeps the last number, and a mark stays once it is set. The induction is from the end. -/
theorem Traits.foldl_add_eq (ds : List Decoration) :
    ds.foldl Traits.add Traits.none
      = ⟨(ds.filterMap (Decoration.number? .boost)).getLast?,
          (ds.filterMap (Decoration.number? .fuzzy)).getLast?,
          decide (Decoration.wildcard ∈ ds), decide (Decoration.constant ∈ ds)⟩ := by
  -- from the end, since the last decoration is the one that replaces the others
  induction ds using List.reverseRecOn with
  | nil => rfl
  | append_singleton ds d ih =>
    rw [List.foldl_append, ih]
    cases d with
    | boost n => simp [Traits.add, Decoration.number?]
    | fuzzy n => simp [Traits.add, Decoration.number?]
    | wildcard => simp [Traits.add, Decoration.number?]
    | constant => simp [Traits.add, Decoration.number?]

/-- The sign of a group or a clause is written as the reference writes its mark; `SHOULD` and no
occurrence at all look the same. -/
theorem Sign.text_ofOccurrence? (occurrence? : Option Occurrence) :
    (Sign.ofOccurrence? occurrence?).text = Occurrence.mark occurrence? := by
  cases occurrence? with
  | none => rfl
  | some o => cases o <;> rfl

namespace Clause

variable (c : Clause)

/-- **What the renderer knows of a clause.** Its running sum over the decorations is what the reference
says about the whole list of them. -/
theorem traits_eq :
    c.traits = ⟨c.lastNumber? .boost, c.lastNumber? .fuzzy,
      decide (Decoration.wildcard ∈ c.decorations), decide c.IsConstant⟩ :=
  Traits.foldl_add_eq c.decorations

/-- The renderer treats a clause as a constant exactly if one of its decorations says so. -/
theorem constant_traits : c.traits.constant = decide c.IsConstant := by
  rw [traits_eq]

/-- A clause gets a star exactly if it is a wildcard in the sense of the reference, which a constant never
is. -/
theorem starred_traits : c.traits.starred = decide c.IsWildcard := by
  rw [traits_eq, Traits.starred, Bool.eq_iff_iff, decide_eq_true_eq]
  simp [IsWildcard]

/-! ## One clause -/

/-- What is shown of a value is its stem: without the stars at its end for a wildcard, and the value as it
is otherwise. -/
theorem shown_eq_stem (value : String) : c.shown value = c.stem value := by
  unfold shown stem dropStars
  rw [starred_traits, Text.dropEndWhile_eq_rdropWhile]
  simp only [decide_eq_true_eq]

/-- **The value of a clause.** The renderer looks up, cuts the stars off and gives up on what is blank, in
this order; the reference says the same about the value at once. -/
theorem resolve_eq_ownValue? (bindings : Bindings) :
    c.resolve bindings = c.ownValue? bindings := by
  unfold resolve ownValue?
  simp only [constant_traits, shown_eq_stem, decide_eq_true_eq]
  by_cases hconstant : c.IsConstant
  · -- a constant is its placeholder, and nothing is looked up
    rw [if_pos hconstant, if_pos hconstant]
  · rw [if_neg hconstant, if_neg hconstant]
    cases bindings.get? c.placeholder with
    | none => rfl
    | some value =>
      -- keeping what is not blank is giving up on what is blank
      by_cases hblank : Text.isBlankText (c.stem value) = true
      · simp [Text.isBlankText_iff.mp hblank, hblank]
      · have hstem : Text.trim (c.stem value).toList ≠ [] :=
          fun h => hblank (Text.isBlankText_iff.mpr h)
        simp [hstem, hblank]

/-- **One clause as it is written.** Sign, field, value, weights and star are put together by the query in
several functions. In the reference they are one line. -/
theorem text_fill (escaped : Bool) (value : String) :
    (c.fill value).text escaped = c.meaningOf escaped value := by
  unfold fill Query.Clause.text Query.Clause.suffix meaningOf
  rw [shown_eq_stem, starred_traits, constant_traits, traits_eq, Sign.text_ofOccurrence?]
  -- the weights are the only parts that are written in two ways
  have hboost : Query.weightText "^" (c.lastNumber? .boost)
      = match c.lastNumber? .boost with
        | some n => "^" ++ Text.Numeral.text n
        | none => "" := by
    cases c.lastNumber? .boost <;> rfl
  have hfuzzy : Query.weightText "~" (if c.IsConstant then none else c.lastNumber? .fuzzy)
      = match c.lastNumber? .fuzzy with
        | some n => if c.IsConstant then "" else "~" ++ Text.Numeral.text n
        | none => "" := by
    by_cases h : c.IsConstant <;> cases c.lastNumber? .fuzzy <;> simp [h, Query.weightText]
  simp only [hboost, hfuzzy, decide_eq_true_eq, String.append_assoc]

/-- What a clause adds to a group that goes into the query: its own value, the default if the policy
substitutes it, or nothing. -/
theorem text_filled (bindings : Bindings) (options : Options) :
    ((c.resolve bindings <|> options.fallback?).map c.fill).map (Query.Clause.text options.escaped)
      = c.meaning? bindings options := by
  rw [resolve_eq_ownValue?, meaning?, Options.fallback?]
  cases c.ownValue? bindings with
  | some value => simp [text_fill]
  | none => cases options.policy <;> simp [text_fill]

end Clause

/-! ## Groups and the whole query -/

/-- A list of things that are made and then written is a list of texts that are made. Groups and clauses
are both of this kind. -/
theorem map_filterMap_text {α β : Type} (text : α → String) (f : β → Option α) (g : β → Option String)
    (h : ∀ b, (f b).map text = g b) (bs : List β) : (bs.filterMap f).map text = bs.filterMap g := by
  rw [List.map_filterMap]
  exact List.filterMap_congr fun b _ => h b

namespace Group

variable (g : Group) (bindings : Bindings) (options : Options)

/-- Both sides count the clauses that have a value of their own. A default never counts. -/
theorem resolvedCount_eq_ownCount : g.resolvedCount bindings = g.ownCount bindings := by
  unfold resolvedCount ownCount
  simp only [Clause.resolve_eq_ownValue?, List.countP_eq_length_filter]

/-- **One group as it is written**, if it goes into the query. The condition is the same on both sides,
and the clauses agree by `Clause.text_filled`. -/
theorem text_judge :
    ((g.judge bindings options).group?).map (Query.Group.text options.escaped)
      = g.meaning? bindings options := by
  rw [group?_judge, meaning?, resolvedCount_eq_ownCount]
  by_cases h : 1 ≤ g.ownCount bindings ∧ options.minResolved ≤ g.ownCount bindings
  · rw [if_pos h, if_pos h]
    -- clause by clause, what is filled and written is what the reference means
    have hclauses : (g.filled bindings options.fallback?).map (Query.Clause.text options.escaped)
        = g.clauses.filterMap (·.meaning? bindings options) :=
      map_filterMap_text _ _ _ (fun c => c.text_filled bindings options) g.clauses
    simp only [Option.map_some, Query.Group.text, hclauses, Sign.text_ofOccurrence?]
  · rw [if_neg h, if_neg h]
    rfl

/-- The text of the query that is made from some groups is what these groups mean. -/
theorem text_ofGroups (gs : List Group) :
    (Rendering.ofGroups gs bindings options).text = listMeaning gs bindings options := by
  have hgroups : (Rendering.ofGroups gs bindings options).query.map (Query.Group.text options.escaped)
      = gs.filterMap (·.meaning? bindings options) := by
    rw [Rendering.query_ofGroups]
    exact map_filterMap_text _ _ _ (fun g => g.text_judge bindings options) gs
  show " ".intercalate _ = " ".intercalate _
  rw [← hgroups]
  rfl

end Group

/-- **Rendering gives the meaning of the template.** A template that is read without a fault compiles,
its lexemes spell one list of groups and no other, and under all bindings and options it renders to what
these groups mean. -/
theorem render_eq_listMeaning (template : String) (h : (Reading.ofText template).succeeds = true) :
    ∃ t lexemes gs, (Template.compile template).value = .ok t ∧
      Lexeme.scan template = .ok lexemes ∧
      Group.SpellTemplate gs (lexemes.map Lexeme.kind) ∧
      (∀ others, Group.SpellTemplate others (lexemes.map Lexeme.kind) → others = gs) ∧
      ∀ bindings options,
        (render t.tokens bindings options).value = .ok (Group.listMeaning gs bindings options) := by
  rw [Reading.succeeds, Option.isNone_iff_eq_none] at h
  obtain ⟨lexemes, gs, hscan, hspell, htokens⟩ := exists_spellTemplate_of_ofText h
  refine ⟨⟨Group.listTokens gs⟩, lexemes, gs, ?_, hscan, hspell, ?_, ?_⟩
  · rw [compile_eq_ok_iff, ← htokens, ← h]
  · intro others hothers
    exact spellTemplate_unique hothers hspell
  · intro bindings options
    -- on the tokens of groups, rendering is known on the tree
    show (render (Group.listTokens gs) bindings options).value = _
    rw [value_render_listTokens, Group.text_ofGroups]

/-- One group with a wildcard whose last boost counts, a constant that ignores its other decorations and
a clause that takes the default; a second group whose only value is blank. -/
theorem render_eq_listMeaning_substitute :
    ∃ t, (Template.compile ("MUST ( title <q> WILDCARD BOOST 2 BOOST 3 " ++
        "MUSTNOT kind <a*> CONSTANT WILDCARD FUZZY 1 lang <l> ) ( note <n> )")).value = .ok t ∧
      (render t.tokens ((NameTable.empty.insert "Q" "cat**").insert "n" " ")
        ⟨2, "(any)", .substitute, true⟩).value
        = .ok "+( title:(cat^3*) -kind:(a\\*) lang:(\\(any\\)) )" := by
  obtain ⟨t, lexemes, gs, hcompile, hscan, -, hunique, hrender⟩ := render_eq_listMeaning
    ("MUST ( title <q> WILDCARD BOOST 2 BOOST 3 " ++
      "MUSTNOT kind <a*> CONSTANT WILDCARD FUZZY 1 lang <l> ) ( note <n> )") (by decide +kernel)
  refine ⟨t, hcompile, ?_⟩
  rw [hrender]
  -- the template is the text of the groups that it is meant to spell, and it spells no others
  obtain ⟨groups, hgroups⟩ : ∃ groups : List Group, groups =
      [⟨some .must, [⟨none, "title", "q", [.wildcard, .boost 2, .boost 3]⟩,
          ⟨some .mustNot, "kind", "a*", [.constant, .wildcard, .fuzzy 1]⟩, ⟨none, "lang", "l", []⟩]⟩,
        ⟨none, [⟨none, "note", "n", []⟩]⟩] := ⟨_, rfl⟩
  have hprintable : ∀ g ∈ groups, g.Printable := by
    rw [hgroups]
    decide +kernel
  have htext : Token.listText (Group.listTokens groups)
      = "MUST ( title <q> WILDCARD BOOST 2 BOOST 3 " ++
        "MUSTNOT kind <a*> CONSTANT WILDCARD FUZZY 1 lang <l> ) ( note <n> )" := by
    rw [hgroups]
    decide +kernel
  obtain ⟨lexemes', hscan', hspell⟩ :=
    exists_spellTemplate_listText (by simp [hgroups]) hprintable
  rw [htext, hscan] at hscan'
  obtain rfl := Except.ok.inj hscan'
  rw [← hunique groups hspell, hgroups]
  decide +kernel

end QueryTemplate
