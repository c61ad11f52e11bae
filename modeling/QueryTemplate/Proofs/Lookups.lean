import Mathlib.Algebra.Order.BigOperators.Group.List
import Mathlib.Algebra.Order.Ring.Nat
import QueryTemplate.Proofs.Meaning
import QueryTemplate.Settings

/-!
# The names that a query reads

`Template.lookups` walks the tokens and looks ahead for `CONSTANT`; the renderer walks the outline and
asks the bindings. Both come to the same names:

* **`firstOccurrences`** — what is left of a list when of names that fold to one form the first stands for
  all, said by positions; **`eraseDupsBy_eq_firstOccurrences`** ties it to the list that is built up name
  by name.
* **`lookupNames_listTokens`** — the look-ahead finds the clauses of the tree that are no constants.
* **`render_congr`** — enough: bindings that agree on these names give one rendering.
* **`length_listMeaning_lt`** — none too many: a clause that gains a value makes the query longer.
* **`lookups_exact`** — the headline, for every template that compiles.
-/

namespace QueryTemplate

/-! ## First occurrences -/

section FirstOccurrences

variable (fold : String → String)

/-- The names that no name before them folds to the same form as, in order. -/
def firstOccurrences (names : List String) : List String :=
  (names.zipIdx.filter fun entry =>
    (names.take entry.2).all fun earlier => fold earlier ≠ fold entry.1).map Prod.fst

/-- One more name at the end is a first occurrence if no name before it has its form, and changes nothing
for the names before it. -/
theorem firstOccurrences_concat (names : List String) (name : String) :
    firstOccurrences fold (names ++ [name])
      = firstOccurrences fold names
        ++ if names.all (fun earlier => fold earlier ≠ fold name) then [name] else [] := by
  -- the names before a position are the same with and without the last one
  have hfront : (names.zipIdx.filter fun entry =>
      ((names ++ [name]).take entry.2).all fun earlier => fold earlier ≠ fold entry.1)
      = names.zipIdx.filter fun entry =>
          (names.take entry.2).all fun earlier => fold earlier ≠ fold entry.1 := by
    apply List.filter_congr
    intro entry hentry
    have hlt : entry.2 < 0 + names.length := List.snd_lt_add_of_mem_zipIdx hentry
    rw [List.take_append_of_le_length (by omega)]
  have hlast : (names ++ [name]).take (0 + names.length) = names := by
    rw [Nat.zero_add, List.take_left]
  unfold firstOccurrences
  rw [List.zipIdx_append, List.filter_append, List.map_append, hfront, List.zipIdx_singleton,
    List.filter_singleton, hlast]
  dsimp only
  cases names.all fun earlier => fold earlier ≠ fold name <;> rfl

theorem firstOccurrences_sublist (names : List String) :
    (firstOccurrences fold names).Sublist names := by
  have hsub : (firstOccurrences fold names).Sublist (names.zipIdx.map Prod.fst) :=
    List.filter_sublist.map Prod.fst
  rwa [List.zipIdx_map_fst] at hsub

/-- One more item at the end of the loop that removes repetitions. The loop carries what it has kept, so
the induction is over the items for whatever has been kept. -/
theorem eraseDupsBy_loop_concat {α : Type} (same : α → α → Bool) (as kept : List α) (a : α) :
    List.eraseDupsBy.loop same (as ++ [a]) kept
      = if (List.eraseDupsBy.loop same as kept).any (same a) then List.eraseDupsBy.loop same as kept
        else List.eraseDupsBy.loop same as kept ++ [a] := by
  induction as generalizing kept with
  | nil =>
    rw [List.nil_append]
    cases hany : kept.any (same a) <;> simp [List.eraseDupsBy.loop, hany]
  | cons b as ih =>
    rw [List.cons_append]
    cases hany : kept.any (same b) <;> simp only [List.eraseDupsBy.loop, hany, ih]

theorem eraseDupsBy_concat {α : Type} (same : α → α → Bool) (as : List α) (a : α) :
    (as ++ [a]).eraseDupsBy same
      = if (as.eraseDupsBy same).any (same a) then as.eraseDupsBy same
        else as.eraseDupsBy same ++ [a] :=
  eraseDupsBy_loop_concat same as [] a

/-- **The names that are kept have the same forms as all names.** The induction is from the end, as the
list is built up. -/
theorem any_eraseDupsBy (names : List String) (key : String) :
    (names.eraseDupsBy fun a b => fold a = fold b).any (fun name => key = fold name)
      = names.any fun name => key = fold name := by
  induction names using List.reverseRecOn with
  | nil => rfl
  | append_singleton names name ih =>
    rw [eraseDupsBy_concat, List.any_append, ← ih]
    split
    · next hany =>
      -- the last name goes only if its form is already there
      by_cases hkey : key = fold name
      · rw [hkey, hany]
        rfl
      · simp [hkey]
    · rw [List.any_append]

/-- **Removing repetitions leaves the first occurrences.** The loop asks the names it has kept, and the
positions ask all names before; by `any_eraseDupsBy` this is the same question. -/
theorem eraseDupsBy_eq_firstOccurrences (names : List String) :
    (names.eraseDupsBy fun a b => fold a = fold b) = firstOccurrences fold names := by
  induction names using List.reverseRecOn with
  | nil => rfl
  | append_singleton names name ih =>
    -- two ways to say that the form of the last name is new
    have hnew : names.all (fun earlier => fold earlier ≠ fold name)
        = !(names.any fun earlier => fold name = fold earlier) := by
      rw [List.not_any_eq_all_not]
      simp only [ne_eq, eq_comm, decide_not]
    rw [eraseDupsBy_concat, firstOccurrences_concat, any_eraseDupsBy, ← ih, hnew]
    cases names.any fun earlier => fold name = fold earlier <;> simp

theorem pairwise_firstOccurrences (names : List String) :
    (firstOccurrences fold names).Pairwise fun a b => fold a ≠ fold b := by
  induction names using List.reverseRecOn with
  | nil => exact .nil
  | append_singleton names name ih =>
    rw [firstOccurrences_concat]
    split
    · next hnew =>
      refine List.pairwise_append.mpr ⟨ih, List.pairwise_singleton _ _, ?_⟩
      intro a ha b hb
      rw [List.mem_singleton.mp hb]
      have ha : a ∈ names := (firstOccurrences_sublist fold names).subset ha
      exact of_decide_eq_true (List.all_eq_true.mp hnew a ha)
    · rwa [List.append_nil]

end FirstOccurrences

/-! ## Look-ahead and tree -/

namespace Group

/-- The placeholders of the clauses that are no constants, in the order of the clauses. -/
def lookedUp (gs : List Group) : List String :=
  ((gs.flatMap Group.clauses).filter fun c => ¬ c.IsConstant).map Clause.placeholder

end Group

namespace Template

theorem lookupNames_decorations (ds : List Decoration) (rest : List Token) :
    lookupNames (ds.map .decoration ++ rest) = lookupNames rest := by
  induction ds with
  | nil => rfl
  | cons d ds ih => exact ih

/-- The look-ahead sees the decorations of its own clause and no others. -/
theorem constantFollows_decorations (ds : List Decoration) {rest : List Token}
    (hrest : ∀ token ∈ rest.head?, token.decoration? = none) :
    constantFollows (ds.map .decoration ++ rest) = decide (Decoration.constant ∈ ds) := by
  have hds : ∀ token ∈ ds.map Token.decoration, token.decoration?.isSome = true := by
    intro token htoken
    obtain ⟨d, -, rfl⟩ := List.mem_map.mp htoken
    rfl
  have hend : rest.takeWhile (·.decoration?.isSome) = [] := by
    cases rest with
    | nil => rfl
    | cons token rest =>
      have hnone : token.decoration? = none := hrest token rfl
      rw [List.takeWhile_cons_of_neg (by rw [hnone]; simp)]
  rw [constantFollows, List.takeWhile_append_of_pos hds, hend, List.append_nil]
  simp

/-- **One clause.** Its placeholder is listed unless a `CONSTANT` is among its decorations, if no
decoration comes behind the clause that the look-ahead would take for one of its own. -/
theorem lookupNames_clause (c : Clause) {rest : List Token}
    (hrest : ∀ token ∈ rest.head?, token.decoration? = none) :
    lookupNames (c.tokens ++ rest)
      = (if c.IsConstant then [] else [c.placeholder]) ++ lookupNames rest := by
  -- occurrence and field list no names
  have hsplit : lookupNames (c.tokens ++ rest)
      = lookupNames (.placeholder c.placeholder :: (c.decorations.map .decoration ++ rest)) := by
    cases ho : c.occurrence? <;> simp [Clause.tokens, ho, lookupNames]
  have hahead : constantFollows (c.decorations.map .decoration ++ rest) = decide c.IsConstant :=
    constantFollows_decorations c.decorations hrest
  rw [hsplit, lookupNames, hahead, lookupNames_decorations]
  by_cases hconstant : c.IsConstant <;> simp [hconstant]

/-- A clause does not begin with a decoration, so the look-ahead of the one before it ends there. -/
theorem decoration?_head_tokens (c : Clause) (rest : List Token) :
    ∀ token ∈ (c.tokens ++ rest).head?, token.decoration? = none := by
  intro token htoken
  cases ho : c.occurrence? with
  | none =>
    simp only [Clause.tokens, ho] at htoken
    obtain rfl : Token.field c.field = token := Option.some.inj htoken
    rfl
  | some o =>
    simp only [Clause.tokens, ho] at htoken
    obtain rfl : Token.fieldOccurrence o = token := Option.some.inj htoken
    rfl

/-- The clauses of a group, with the parenthesis that ends the last look-ahead. The induction is on the
clauses. -/
theorem lookupNames_clauses (cs : List Clause) (rest : List Token) :
    lookupNames (cs.flatMap Clause.tokens ++ .groupClose :: rest)
      = (cs.filter fun c => ¬ c.IsConstant).map Clause.placeholder ++ lookupNames rest := by
  induction cs with
  | nil => rfl
  | cons c cs ih =>
    -- behind a clause there is another one or the end of the group, and no decoration
    have hnext : ∀ token ∈ (cs.flatMap Clause.tokens ++ .groupClose :: rest).head?,
        token.decoration? = none := by
      cases cs with
      | nil =>
        rintro token ⟨rfl⟩
        rfl
      | cons next cs =>
        rw [List.flatMap_cons, List.append_assoc]
        exact decoration?_head_tokens next _
    rw [List.flatMap_cons, List.append_assoc, lookupNames_clause c hnext, ih]
    by_cases hconstant : c.IsConstant <;> simp [hconstant]

/-- **The look-ahead finds the clauses of the tree that are no constants.** The induction is on the
groups. -/
theorem lookupNames_listTokens (gs : List Group) :
    lookupNames (Group.listTokens gs) = Group.lookedUp gs := by
  induction gs with
  | nil => rfl
  | cons g gs ih =>
    -- nor do the occurrence of a group and its parenthesis
    have hsplit : lookupNames (Group.listTokens (g :: gs))
        = lookupNames (g.clauses.flatMap Clause.tokens ++ .groupClose :: Group.listTokens gs) := by
      cases ho : g.occurrence? <;> simp [Group.listTokens, Group.tokens, ho, lookupNames]
    rw [hsplit, lookupNames_clauses, ih]
    simp [Group.lookedUp]

/-- **The list of names is that of the tree**, with the first occurrence of each. -/
theorem lookups_listTokens (gs : List Group) :
    lookups ⟨Group.listTokens gs⟩ = firstOccurrences Text.lowercase (Group.lookedUp gs) := by
  rw [lookups, lookupNames_listTokens]
  exact eraseDupsBy_eq_firstOccurrences Text.lowercase (Group.lookedUp gs)

end Template

theorem Group.mem_lookedUp {gs : List Group} {name : String} :
    name ∈ lookedUp gs
      ↔ ∃ g ∈ gs, ∃ c ∈ g.clauses, ¬ c.IsConstant ∧ c.placeholder = name := by
  simp only [lookedUp, List.mem_map, List.mem_filter, List.mem_flatMap, decide_eq_true_eq]
  constructor
  · rintro ⟨c, ⟨⟨g, hg, hc⟩, hconstant⟩, rfl⟩
    exact ⟨g, hg, c, hc, hconstant, rfl⟩
  · rintro ⟨g, hg, c, hc, hconstant, rfl⟩
    exact ⟨c, ⟨⟨g, hg, hc⟩, hconstant⟩, rfl⟩

/-- Every name that is looked up is listed, in this or another spelling. -/
theorem exists_mem_firstOccurrences (fold : String → String) {names : List String} {name : String}
    (h : name ∈ names) : ∃ first ∈ firstOccurrences fold names, fold first = fold name := by
  have hany : names.any (fun other => fold name = fold other) = true :=
    List.any_eq_true.mpr ⟨name, h, decide_eq_true rfl⟩
  rw [← any_eraseDupsBy, eraseDupsBy_eq_firstOccurrences] at hany
  obtain ⟨first, hfirst, hsame⟩ := List.any_eq_true.mp hany
  exact ⟨first, hfirst, (of_decide_eq_true hsame).symm⟩

/-! ## What a rendering reads

A rendering asks the bindings only for the placeholders of clauses that are no constants, and the
bindings see no more of a name than its folded form. -/

theorem NameTable.get?_eq_of_fold {fold : String → String} (t : NameTable fold) {a b : String}
    (h : fold a = fold b) : t.get? a = t.get? b := by
  rw [get?, get?, h]

/-- A constant asks for no name, and any other clause for its placeholder only. -/
theorem Clause.resolve_congr {c : Clause} {bindings bindings' : Bindings}
    (h : ¬ c.IsConstant → bindings.get? c.placeholder = bindings'.get? c.placeholder) :
    c.resolve bindings = c.resolve bindings' := by
  rw [resolve_eq_ownValue?, resolve_eq_ownValue?, ownValue?, ownValue?]
  by_cases hconstant : c.IsConstant
  · rw [if_pos hconstant, if_pos hconstant]
  · rw [if_neg hconstant, if_neg hconstant, h hconstant]

/-- **The listed names are enough.** Bindings that agree on them give every clause the same value, and so
all groups the same verdicts. -/
theorem render_congr {gs : List Group} {bindings bindings' : Bindings}
    (h : ∀ name ∈ (Template.mk (Group.listTokens gs)).lookups,
      bindings.get? name = bindings'.get? name) (options : Options) :
    render (Group.listTokens gs) bindings options
      = render (Group.listTokens gs) bindings' options := by
  have hresolve : ∀ g ∈ gs, ∀ c ∈ g.clauses, c.resolve bindings = c.resolve bindings' := by
    intro g hg c hc
    apply Clause.resolve_congr
    intro hconstant
    -- the listed name may be spelt in another way, and is bound to the same values
    obtain ⟨first, hfirst, hfold⟩ := exists_mem_firstOccurrences Text.lowercase
      (Group.mem_lookedUp.mpr ⟨g, hg, c, hc, hconstant, rfl⟩)
    rw [← bindings.get?_eq_of_fold hfold, ← bindings'.get?_eq_of_fold hfold]
    apply h
    rwa [Template.lookups_listTokens]
  refine render_eq_of_judge (List.forall₂_same.mpr fun g hg => ?_)
  exact Group.judge_eq_of_clauses rfl (List.forall₂_same.mpr fun c hc => ⟨hresolve g hg c hc, rfl⟩)

/-! ## Every value shows

That a name is read is seen from the length of the query. A text of items one space apart is as long as
what each item adds to it, and a clause that gains a value adds something to its group, as the group does
to the query. -/

/-- What an item that may be missing adds to a text, with the space that sets it apart. -/
def addedLength : Option String → Nat
  | none => 0
  | some item => item.length + 1

/-- A space stands before every item but the first, which is why one is taken off. The induction is on the
items. -/
theorem length_intercalate (items : List String) :
    (" ".intercalate items).length = (items.map fun item => item.length + 1).sum - 1 := by
  induction items with
  | nil => rfl
  | cons item items ih =>
    cases items with
    | nil => simp
    | cons next items =>
      have hspace : (" " : String).length = 1 := rfl
      rw [String.intercalate_cons_cons, String.length_append, String.length_append, ih, hspace]
      simp only [List.map_cons, List.sum_cons]
      omega

/-- The same with items that may be missing. So texts of the same items can be compared item by item. -/
theorem length_intercalate_filterMap {α : Type} (f : α → Option String) (as : List α) :
    (" ".intercalate (as.filterMap f)).length = (as.map fun a => addedLength (f a)).sum - 1 := by
  have hsum : ((as.filterMap f).map fun item => item.length + 1).sum
      = (as.map fun a => addedLength (f a)).sum := by
    induction as with
    | nil => rfl
    | cons a as ih =>
      rw [List.map_cons, List.sum_cons, ← ih]
      cases hfa : f a <;> simp [hfa, addedLength]
  rw [length_intercalate, hsum]

section Longer

variable {α : Type} {f f' : α → Option String} {as : List α}
  (hle : ∀ a ∈ as, addedLength (f a) ≤ addedLength (f' a))
include hle

theorem length_intercalate_le :
    (" ".intercalate (as.filterMap f)).length ≤ (" ".intercalate (as.filterMap f')).length := by
  have hsum := List.sum_le_sum hle
  rw [length_intercalate_filterMap, length_intercalate_filterMap]
  omega

/-- The text is longer if one item is longer and not empty. -/
theorem length_intercalate_lt
    (hlt : ∃ a ∈ as, addedLength (f a) < addedLength (f' a) ∧ 1 < addedLength (f' a)) :
    (" ".intercalate (as.filterMap f)).length < (" ".intercalate (as.filterMap f')).length := by
  obtain ⟨a, ha, hlt, hone⟩ := hlt
  have hsum := List.sum_lt_sum _ _ hle ⟨a, ha, hlt⟩
  have hitem : addedLength (f' a) ≤ (as.map fun a => addedLength (f' a)).sum :=
    List.single_le_sum (by simp) _ (List.mem_map.mpr ⟨a, ha, rfl⟩)
  rw [length_intercalate_filterMap, length_intercalate_filterMap]
  omega

end Longer

/-- A clause keeps its value from `bindings` to `bindings'`. -/
def Clause.Keeps (bindings bindings' : Bindings) (c : Clause) : Prop :=
  ∀ value, c.ownValue? bindings = some value → c.ownValue? bindings' = some value

section Gain

variable {bindings bindings' : Bindings} {options : Options}

theorem Clause.meaning?_skip (c : Clause) (hskip : options.policy = .skip) :
    c.meaning? bindings options = (c.ownValue? bindings).map (c.meaningOf options.escaped) := by
  rw [meaning?, hskip]
  cases c.ownValue? bindings <;> rfl

/-- A clause that keeps its value adds no less than before, if clauses without a value are skipped. -/
theorem Clause.addedLength_le {c : Clause} (hskip : options.policy = .skip)
    (hkeep : c.Keeps bindings bindings') :
    addedLength (c.meaning? bindings options) ≤ addedLength (c.meaning? bindings' options) := by
  rw [c.meaning?_skip hskip, c.meaning?_skip hskip]
  cases hvalue : c.ownValue? bindings with
  | none => exact Nat.zero_le _
  | some value => rw [hkeep value hvalue]

theorem Clause.length_meaningOf_pos (c : Clause) (escaped : Bool) (value : String) :
    0 < (c.meaningOf escaped value).length := by
  have hclose : ")".length = 1 := rfl
  simp only [meaningOf, String.length_append]
  omega

theorem Group.ownCount_le {g : Group} (hkeep : ∀ c ∈ g.clauses, c.Keeps bindings bindings') :
    g.ownCount bindings ≤ g.ownCount bindings' := by
  rw [ownCount, ownCount, ← List.countP_eq_length_filter, ← List.countP_eq_length_filter]
  apply List.countP_mono_left
  intro c hc hsome
  obtain ⟨value, hvalue⟩ := Option.isSome_iff_exists.mp hsome
  rw [hkeep c hc value hvalue]
  rfl

theorem Group.meaning?_eq_some {g : Group} (h : 1 ≤ g.ownCount bindings)
    (hmin : options.minResolved ≤ g.ownCount bindings) :
    g.meaning? bindings options = some (Occurrence.mark g.occurrence? ++ "( "
      ++ " ".intercalate (g.clauses.filterMap (·.meaning? bindings options)) ++ " )") := by
  rw [meaning?, if_pos ⟨h, hmin⟩]

/-- **A group whose clauses keep their values adds no less than before.** It is emitted again if it was,
and has no fewer clauses to show. -/
theorem Group.addedLength_le {g : Group} (hskip : options.policy = .skip)
    (hkeep : ∀ c ∈ g.clauses, c.Keeps bindings bindings') :
    addedLength (g.meaning? bindings options) ≤ addedLength (g.meaning? bindings' options) := by
  by_cases h : 1 ≤ g.ownCount bindings ∧ options.minResolved ≤ g.ownCount bindings
  · have hcount := ownCount_le hkeep
    have hclauses : (" ".intercalate (g.clauses.filterMap (·.meaning? bindings options))).length
        ≤ (" ".intercalate (g.clauses.filterMap (·.meaning? bindings' options))).length :=
      length_intercalate_le fun c hc => Clause.addedLength_le hskip (hkeep c hc)
    rw [meaning?_eq_some h.1 h.2, meaning?_eq_some (by omega) (by omega)]
    simp only [addedLength, String.length_append]
    omega
  · rw [meaning?, if_neg h]
    exact Nat.zero_le _

/-- **A group gains from a clause that gains a value**, if one value is enough for it. Either it was not
emitted before, or it has one more clause to show. -/
theorem Group.addedLength_lt {g : Group} (hskip : options.policy = .skip)
    (hmin : options.minResolved ≤ 1) (hkeep : ∀ c ∈ g.clauses, c.Keeps bindings bindings')
    {c : Clause} (hc : c ∈ g.clauses) (hnone : c.ownValue? bindings = none) {value : String}
    (hvalue : c.ownValue? bindings' = some value) :
    addedLength (g.meaning? bindings options) < addedLength (g.meaning? bindings' options) ∧
      1 < addedLength (g.meaning? bindings' options) := by
  have hcount : 1 ≤ g.ownCount bindings' :=
    List.length_pos_of_mem (List.mem_filter.mpr ⟨hc, by rw [hvalue]; rfl⟩)
  have hclauses : (" ".intercalate (g.clauses.filterMap (·.meaning? bindings options))).length
      < (" ".intercalate (g.clauses.filterMap (·.meaning? bindings' options))).length := by
    apply length_intercalate_lt
    · intro d hd
      exact Clause.addedLength_le hskip (hkeep d hd)
    · refine ⟨c, hc, ?_⟩
      have hpos := c.length_meaningOf_pos options.escaped value
      rw [c.meaning?_skip hskip, c.meaning?_skip hskip, hnone, hvalue]
      simp only [Option.map_none, Option.map_some, addedLength]
      omega
  rw [meaning?_eq_some hcount (by omega)]
  -- was the group emitted before?
  by_cases h : 1 ≤ g.ownCount bindings ∧ options.minResolved ≤ g.ownCount bindings
  · rw [meaning?_eq_some h.1 h.2]
    simp only [addedLength, String.length_append]
    omega
  · rw [meaning?, if_neg h]
    simp only [addedLength, String.length_append]
    omega

/-- **A clause that gains a value makes the query longer**, as long as no clause loses its own. -/
theorem length_listMeaning_lt {gs : List Group} (hskip : options.policy = .skip)
    (hmin : options.minResolved ≤ 1)
    (hkeep : ∀ g ∈ gs, ∀ c ∈ g.clauses, c.Keeps bindings bindings') {g : Group} (hg : g ∈ gs)
    {c : Clause} (hc : c ∈ g.clauses) (hnone : c.ownValue? bindings = none) {value : String}
    (hvalue : c.ownValue? bindings' = some value) :
    (Group.listMeaning gs bindings options).length
      < (Group.listMeaning gs bindings' options).length := by
  apply length_intercalate_lt
  · intro d hd
    exact Group.addedLength_le hskip (hkeep d hd)
  · exact ⟨g, hg, Group.addedLength_lt hskip hmin (hkeep g hg) hc hnone hvalue⟩

end Gain

/-! ## One name bound -/

theorem Clause.ownValue?_of_unbound {c : Clause} {bindings : Bindings} (hconstant : ¬ c.IsConstant)
    (h : bindings.get? c.placeholder = none) : c.ownValue? bindings = none := by
  rw [ownValue?, if_neg hconstant, h]

/-- Whoever has a value without bindings is a constant, and keeps it under any. -/
theorem Clause.keeps_empty (c : Clause) (bindings : Bindings) : c.Keeps NameTable.empty bindings := by
  intro value hvalue
  by_cases hconstant : c.IsConstant
  · rw [ownValue?, if_pos hconstant] at hvalue ⊢
    exact hvalue
  · rw [ownValue?_of_unbound hconstant (NameTable.get?_empty _)] at hvalue
    exact absurd hvalue (by simp)

/-- The value `x` is not blank, and no star is cut from it. -/
theorem Clause.ownValue?_x {c : Clause} {name : String} (hconstant : ¬ c.IsConstant)
    (hfold : Text.lowercase name = Text.lowercase c.placeholder) :
    c.ownValue? (NameTable.empty.insert name "x") = some "x" := by
  have hget : (NameTable.empty.insert name "x" : Bindings).get? c.placeholder = some "x" := by
    rw [NameTable.get?_insert, if_pos hfold]
  -- as a wildcard or not
  have hstem : c.stem "x" = "x" := by
    unfold stem
    split <;> rfl
  rw [ownValue?, if_neg hconstant, hget]
  simp only [hstem]
  rw [if_neg (by decide)]

/-- **The listed names are exactly what a query reads.** Of a template that compiles: bindings that agree
on the listed names give the same rendering, reports included, under all options; each listed name shows,
since a value under it alone changes the query that the standard options give without any; and the list
consists of the first occurrences, up to case, among the placeholders of the clauses that are no constants,
in their order, so no two of its names are one name. -/
theorem lookups_exact (template : String) (t : Template)
    (h : (Template.compile template).value = .ok t) :
    (∀ bindings bindings' : Bindings,
        (∀ name ∈ t.lookups, bindings.get? name = bindings'.get? name) →
        ∀ options, render t.tokens bindings options = render t.tokens bindings' options) ∧
      (∀ name ∈ t.lookups, ∃ text text',
        (render t.tokens (NameTable.empty.insert name "x") Settings.standard.options).value
            = .ok text ∧
          (render t.tokens NameTable.empty Settings.standard.options).value = .ok text' ∧
          text ≠ text') ∧
      (t.lookups.Pairwise fun a b => Text.lowercase a ≠ Text.lowercase b) ∧
      ∃ lexemes gs, Lexeme.scan template = .ok lexemes ∧
        Group.SpellTemplate gs (lexemes.map Lexeme.kind) ∧
        t.lookups = firstOccurrences Text.lowercase (Group.lookedUp gs) := by
  have hread := compile_eq_ok_iff.mp h
  obtain ⟨lexemes, gs, hscan, hspell, htokens⟩ :=
    exists_spellTemplate_of_ofText (by rw [hread] : (Reading.ofText template).fault? = none)
  obtain ⟨tokens⟩ := t
  obtain rfl : tokens = Group.listTokens gs := by
    rw [hread] at htokens
    exact htokens
  have hlookups := Template.lookups_listTokens gs
  refine ⟨fun bindings bindings' hagree options => render_congr hagree options, ?_, ?_,
    lexemes, gs, hscan, hspell, hlookups⟩
  · intro name hname
    refine ⟨_, _, value_render_listTokens gs _ _, value_render_listTokens gs _ _, ?_⟩
    -- the name is the placeholder of some clause, and that clause gains the value
    rw [hlookups] at hname
    have hmem := (firstOccurrences_sublist Text.lowercase (Group.lookedUp gs)).subset hname
    obtain ⟨g, hg, c, hc, hconstant, rfl⟩ := Group.mem_lookedUp.mp hmem
    have hnone : c.ownValue? NameTable.empty = none :=
      Clause.ownValue?_of_unbound hconstant (NameTable.get?_empty _)
    have hlonger : (Group.listMeaning gs NameTable.empty Settings.standard.options).length
        < (Group.listMeaning gs (NameTable.empty.insert c.placeholder "x")
            Settings.standard.options).length :=
      length_listMeaning_lt rfl (Nat.le_refl 1) (fun g _ c _ => c.keeps_empty _) hg hc hnone
        (Clause.ownValue?_x hconstant rfl)
    rw [Group.text_ofGroups, Group.text_ofGroups]
    intro hsame
    rw [hsame] at hlonger
    exact Nat.lt_irrefl _ hlonger
  · rw [hlookups]
    exact pairwise_firstOccurrences Text.lowercase (Group.lookedUp gs)

/-- A name that is a constant in one clause and looked up in two others, in another spelling first. What is
bound beside it does not matter, and the second name shows in a group of its own. -/
theorem lookups_exact_mixed_case :
    ∃ t text text',
      (Template.compile "( a <k> CONSTANT b <K> c <k> ) MUST ( d <y> WILDCARD )").value = .ok t ∧
      t.lookups = ["K", "y"] ∧
      (∀ options, render t.tokens ((NameTable.empty.insert "k" "1").insert "z" "2") options
        = render t.tokens (NameTable.empty.insert "K" "1") options) ∧
      (render t.tokens (NameTable.empty.insert "y" "x") Settings.standard.options).value
        = .ok text ∧
      (render t.tokens NameTable.empty Settings.standard.options).value = .ok text' ∧
      text ≠ text' := by
  have hcompile : (Template.compile "( a <k> CONSTANT b <K> c <k> ) MUST ( d <y> WILDCARD )").value
      = .ok ⟨Group.listTokens
        [⟨none, [⟨none, "a", "k", [.constant]⟩, ⟨none, "b", "K", []⟩, ⟨none, "c", "k", []⟩]⟩,
          ⟨some .must, [⟨none, "d", "y", [.wildcard]⟩]⟩]⟩ :=
    compile_eq_ok_iff.mpr (by decide +kernel)
  obtain ⟨hagree, hshows, -, -⟩ := lookups_exact _ _ hcompile
  obtain ⟨text, text', htext, htext', hne⟩ := hshows "y" (by decide +kernel)
  refine ⟨_, text, text', hcompile, by decide +kernel, hagree _ _ ?_, htext, htext', hne⟩
  decide +kernel

end QueryTemplate
