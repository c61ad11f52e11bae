import Mathlib.Data.Nat.Digits.Defs
import QueryTemplate.Proofs.Dangling
import QueryTemplate.Proofs.Emission

/-!
# Numbers are kept as they are written

The number of a weight passes through three hands: the reader takes it from a word, a template is written
out with it, and a query shows it behind a mark. None of them changes how it is written.

* **`Text.Numeral.Writes`** — what it is to be the decimal numeral of a number, said by the places of the
  digits and with neither reader nor printer. There is one for each number, the one that is printed
  (`writes_iff_eq_repr`), and the reader takes those of 32 bits (`exists_writes_iff`).
* **`Place.read_eq_refused_iff`**, **`Place.read_eq_prepend_iff`**, **`Place.read_eq_dangling_iff`** — what
  the reader makes of the keyword of a weight and the word behind it,
* **`SpeltList.exists_of_append`** — to which item of a list one of its lexemes belongs. It is used three
  times to find the clause that a weight of a template belongs to (`exists_reachedBy`).
* **`Query.Clause.text_eq_of_number?`**, **`ShowsNumber`** — where the text of a query shows a number,
* **`numbers_verbatim`** — the headline: which words are taken as numbers, and that each of them is shown in
  the same digits wherever it is shown.
-/

namespace QueryTemplate

/-! ## Numerals -/

namespace Text.Numeral

/-- The word is the decimal numeral of `n`: ASCII digits and nothing else, the first of them a zero only if
it stands alone, and of the value `n` by their places. -/
structure Writes (word : String) (n : Nat) : Prop where
  nonempty : word ≠ ""
  digits : ∀ c ∈ word.toList, '0' ≤ c ∧ c ≤ '9'
  leading : word.toList.head? = some '0' → word = "0"
  value : Nat.ofDigits 10 (word.toList.reverse.map fun c => c.toNat - '0'.toNat) = n

theorem isDigit_iff {c : Char} : c.isDigit = true ↔ '0' ≤ c ∧ c ≤ '9' := by
  simp only [Char.isDigit, Bool.and_eq_true, decide_eq_true_eq, Char.le_def, ge_iff_le]

/-- What the reader asks of a numeral, without its pattern match: digits, and no zero in front of
others. -/
theorem isCanonical_iff {cs : List Char} :
    isCanonical cs = true
      ↔ cs ≠ [] ∧ (∀ c ∈ cs, c.isDigit = true) ∧ (cs.head? = some '0' → cs = ['0']) := by
  unfold isCanonical
  -- the cases of the definition: nothing, a zero alone, and a first digit
  split
  · simp
  · simp
  · next c cs hne =>
    simp only [Bool.and_eq_true, bne_iff_ne, List.all_eq_true, List.head?_cons, Option.some.injEq]
    constructor
    · rintro ⟨hc, hall⟩
      exact ⟨by simp, hall, fun hzero => absurd hzero hc⟩
    · rintro ⟨-, hall, hzero⟩
      refine ⟨fun hc => ?_, hall⟩
      obtain ⟨rfl, rfl⟩ := List.cons.inj (hzero hc)
      exact hne rfl rfl

/-- Adding up the places from the right is what reading from the left comes to. The induction is from the
end, where the places start. -/
theorem ofDigits_reverse (cs : List Char) :
    Nat.ofDigits 10 (cs.reverse.map fun c => c.toNat - '0'.toNat) = Nat.ofDigitChars 10 cs 0 := by
  induction cs using List.reverseRecOn with
  | nil => rfl
  | append_singleton cs c ih =>
    rw [List.reverse_concat, List.map_cons, Nat.ofDigits_cons, ih]
    unfold Nat.ofDigitChars
    rw [List.foldl_append, List.foldl_cons, List.foldl_nil]
    exact Nat.add_comm _ _

/-- **A number has one numeral, and it is the one that is printed.** Both are canonical and of the same
value, and this leaves only one text. -/
theorem writes_iff_eq_repr {word : String} {n : Nat} : Writes word n ↔ word = n.repr := by
  rw [← String.toList_inj, Nat.toList_repr]
  constructor
  · intro h
    have hcanonical : isCanonical word.toList = true := by
      refine isCanonical_iff.mpr ⟨?_, fun c hc => isDigit_iff.mpr (h.digits c hc), fun hzero => ?_⟩
      · exact fun hnil => h.nonempty (String.toList_eq_nil_iff.mp hnil)
      · rw [h.leading hzero]
        rfl
    rw [← h.value, ofDigits_reverse, toDigits_of_isCanonical hcanonical]
  · intro h
    have hcanonical : isCanonical word.toList = true := by
      rw [h]
      exact isCanonical_toDigits n
    obtain ⟨hne, hdigits, hzero⟩ := isCanonical_iff.mp hcanonical
    exact {
      nonempty := fun hempty => hne (String.toList_eq_nil_iff.mpr hempty)
      digits := fun c hc => isDigit_iff.mp (hdigits c hc)
      leading := fun hhead => String.toList_inj.mp (hzero hhead)
      value := by rw [ofDigits_reverse, h, Nat.ofDigitChars_toDigits (by decide) (by decide)] }

theorem Writes.eq_text {word : String} {n : Nat} (h : Writes word n) (hn : n ≤ 4294967295) :
    word = text (.ofNat n) := by
  have hlt : n < UInt32.size := Nat.lt_succ_of_le hn
  rw [text, UInt32.toNat_ofNat_of_lt' hlt]
  exact writes_iff_eq_repr.mp h

/-- **The numerals of 32 bits are the texts of numbers**, up to the last one. -/
theorem exists_writes_iff {word : String} :
    (∃ n ≤ 4294967295, Writes word n) ↔ ∃ n : UInt32, word = text n := by
  constructor
  · rintro ⟨n, hn, hword⟩
    exact ⟨.ofNat n, hword.eq_text hn⟩
  · rintro ⟨n, rfl⟩
    exact ⟨n.toNat, Nat.le_of_lt_succ n.toNat_lt, writes_iff_eq_repr.mpr rfl⟩

end Text.Numeral

/-! ## Reading -/

namespace Place

section Weights

variable {weight : Weight} {keyword word : String}
  (hkeyword : (Keyword.weight weight).SpeltBy keyword) (stop pos argPos : Nat) (rest : List Lexeme)
include hkeyword

theorem read_numeral (n : UInt32) :
    (inside true).read stop
        (⟨.word keyword, pos⟩ :: ⟨.word (Text.Numeral.text n), argPos⟩ :: rest)
      = ((inside true).read stop rest).prepend [.decoration (weight.decoration n)] := by
  rw [read_weight hkeyword]
  exact Moves.number.read_cons stop

/-- A word that is no number is refused behind the keyword, whether there is a clause or not. -/
theorem read_no_numeral (filled : Bool) (hword : ¬ ∃ n, word = Text.Numeral.text n) :
    (inside filled).read stop (⟨.word keyword, pos⟩ :: ⟨.word word, argPos⟩ :: rest)
      = ⟨[], some ⟨argPos, .integerExpected weight⟩⟩ := by
  rw [read_weight hkeyword]
  refine read_weighted_of_ne (fun n hn => hword ⟨n, ?_⟩) stop
  exact Lexeme.Kind.word.inj (Option.some.inj hn)

/-! The three outcomes exclude each other, so each of them tells what the word is. -/

/-- **A word is refused exactly if it is no numeral.** With a numeral the reading goes on, or it is
refused for another reason and elsewhere. -/
theorem read_eq_refused_iff (filled : Bool) :
    (inside filled).read stop (⟨.word keyword, pos⟩ :: ⟨.word word, argPos⟩ :: rest)
        = ⟨[], some ⟨argPos, .integerExpected weight⟩⟩
      ↔ ¬ ∃ n ≤ 4294967295, Text.Numeral.Writes word n := by
  rw [Text.Numeral.exists_writes_iff]
  constructor
  · rintro hread ⟨n, rfl⟩
    cases filled with
    | true => simp [read_numeral hkeyword, Reading.prepend] at hread
    | false => simp [read_dangling_numeral hkeyword] at hread
  · exact read_no_numeral hkeyword stop pos argPos rest filled

/-- **A word makes a decoration exactly if it is a numeral**, and then the decoration with its number. -/
theorem read_eq_prepend_iff (d : Decoration) :
    (inside true).read stop (⟨.word keyword, pos⟩ :: ⟨.word word, argPos⟩ :: rest)
        = ((inside true).read stop rest).prepend [.decoration d]
      ↔ ∃ n ≤ 4294967295, Text.Numeral.Writes word n ∧ d = weight.decoration (.ofNat n) := by
  constructor
  · intro hread
    by_cases hword : ∃ n ≤ 4294967295, Text.Numeral.Writes word n
    · obtain ⟨n, hn, hwrites⟩ := hword
      refine ⟨n, hn, hwrites, ?_⟩
      rw [hwrites.eq_text hn, read_numeral hkeyword] at hread
      simpa [Reading.prepend] using (congrArg Reading.tokens hread).symm
    · rw [(read_eq_refused_iff hkeyword stop pos argPos rest true).mpr hword] at hread
      simp [Reading.prepend] at hread
  · rintro ⟨n, hn, hwrites, rfl⟩
    rw [hwrites.eq_text hn]
    exact read_numeral hkeyword stop pos argPos rest _

/-- **In a group without a clause the decoration is refused exactly if its number is none of the
reasons.** -/
theorem read_eq_dangling_iff :
    (inside false).read stop (⟨.word keyword, pos⟩ :: ⟨.word word, argPos⟩ :: rest)
        = ⟨[], some ⟨pos, .danglingDecoration weight.keyword⟩⟩
      ↔ ∃ n ≤ 4294967295, Text.Numeral.Writes word n := by
  constructor
  · intro hread
    by_contra hword
    rw [(read_eq_refused_iff hkeyword stop pos argPos rest false).mpr hword] at hread
    simp at hread
  · intro hword
    obtain ⟨n, rfl⟩ := Text.Numeral.exists_writes_iff.mp hword
    exact read_dangling_numeral hkeyword n stop pos argPos rest

end Weights

end Place

/-! ## Where a weight stands

In the lexemes of a template, the keyword of a weight is the keyword of a decoration and nothing else: it is
no occurrence, no field name and no numeral. So it says by itself to which group, to which clause and to
which decoration it belongs. -/

/-- **One lexeme belongs to one item.** Of the others, those before it are spelt before it and those after
it behind it. The induction is on the items: the lexeme is one of the first, or of the rest. -/
theorem SpeltList.exists_of_append {α : Type} {Spelt : α → List Lexeme.Kind → Prop} {as : List α}
    {ks ks' : List Lexeme.Kind} {k : Lexeme.Kind} (h : SpeltList Spelt as (ks ++ k :: ks')) :
    ∃ before a after front own own' rest, as = before ++ a :: after ∧ ks = front ++ own ∧
      ks' = own' ++ rest ∧ SpeltList Spelt before front ∧ Spelt a (own ++ k :: own') := by
  generalize hall : ks ++ k :: ks' = all at h
  induction h generalizing ks with
  | nil => simp at hall
  | @cons a as part rest head _ ih =>
    -- the lexeme is one of those of the first item, or of the others
    rcases append_cons_cases hall.symm with ⟨own', rfl, rfl⟩ | ⟨excess, rfl, hrest⟩
    · exact ⟨[], a, as, [], ks, own', rest, rfl, rfl, rfl, .nil, head⟩
    · obtain ⟨before, b, after, front, own, own', rest', rfl, rfl, rfl, hbefore, hb⟩ := ih hrest.symm
      exact ⟨a :: before, b, after, part ++ front, own, own', rest', rfl,
        (List.append_assoc _ _ _).symm, rfl, .cons head hbefore, hb⟩

theorem Keyword.SpeltBy.kind_ne {k l : Keyword} {word word' : String} (hk : k.SpeltBy word)
    (hl : l.SpeltBy word') (hne : k ≠ l) : Lexeme.Kind.word word ≠ .word word' := by
  rintro ⟨rfl⟩
  exact hne (hk.unique hl)

section Grammar

variable {weight : Weight} {keyword : String} (hkeyword : (Keyword.weight weight).SpeltBy keyword)
  {own own' : List Lexeme.Kind}
include hkeyword

theorem Occurrence.Spelt.not_mem {o? : Option Occurrence} {os : List Lexeme.Kind}
    (h : Occurrence.Spelt o? os) : Lexeme.Kind.word keyword ∉ os := by
  cases h with
  | none => simp
  | some hword =>
    rw [List.mem_singleton]
    exact hkeyword.kind_ne hword (by simp)

/-- A decoration with the keyword of a weight is that weight, and what follows is its number. -/
theorem Decoration.Spelt.exists_number {d : Decoration}
    (h : d.Spelt (own ++ .word keyword :: own')) :
    ∃ n, own = [] ∧ d = weight.decoration n ∧ own' = [.word (Text.Numeral.text n)] := by
  generalize hks : own ++ .word keyword :: own' = ks at h
  have hmem : Lexeme.Kind.word keyword ∈ ks := hks ▸ List.mem_append_cons_self
  cases h with
  | @weight w n word hword =>
    cases own with
    | nil =>
      obtain ⟨⟨rfl⟩, rfl⟩ := List.cons.inj hks
      cases hkeyword.unique hword
      exact ⟨n, rfl, rfl, rfl⟩
    | cons k own =>
      -- the keyword would be the numeral
      obtain ⟨-, htail⟩ := List.cons.inj hks
      have hnumeral : Lexeme.Kind.word keyword ∈ [Lexeme.Kind.word (Text.Numeral.text n)] :=
        htail ▸ List.mem_append_cons_self
      have hnone := ofChars?_of_speltBy hkeyword
      rw [Lexeme.Kind.word.inj (List.mem_singleton.mp hnumeral),
        Text.Numeral.ofChars?_eq_some_iff.mpr rfl] at hnone
      cases hnone
  | wildcard hword => exact absurd (List.mem_singleton.mp hmem) (hkeyword.kind_ne hword (by simp))
  | constant hword => exact absurd (List.mem_singleton.mp hmem) (hkeyword.kind_ne hword (by simp))

/-- **The keyword of a weight stands among the decorations of its clause**, since neither the occurrence
nor the field can be that keyword. -/
theorem Clause.Spelt.exists_decorations {c : Clause} (h : c.Spelt (own ++ .word keyword :: own')) :
    ∃ os mid, Occurrence.Spelt c.occurrence? os ∧
      own = os ++ .word c.field :: .placeholder c.placeholder :: mid ∧
      SpeltList Decoration.Spelt c.decorations (mid ++ .word keyword :: own') := by
  generalize hks : own ++ .word keyword :: own' = ks at h
  cases h with
  | @intro os ds occurrence field decorations =>
    have hfield : keyword ≠ c.field := by
      rintro rfl
      exact not_speltBy_of_isFieldName field _ hkeyword
    have hsplit : (os ++ [.word c.field, .placeholder c.placeholder]) ++ ds
        = own ++ .word keyword :: own' := by
      rw [hks]
      simp
    -- the keyword stands up to the placeholder, or behind it
    rcases append_cons_cases hsplit with ⟨excess, hfront, -⟩ | ⟨mid, rfl, rfl⟩
    · have hmem : Lexeme.Kind.word keyword ∈ os ++ [.word c.field, .placeholder c.placeholder] :=
        hfront ▸ List.mem_append_cons_self
      have hos := occurrence.not_mem hkeyword
      simp [hos, hfield] at hmem
    · exact ⟨os, mid, occurrence, by simp, decorations⟩

/-- **In a group it stands among the clauses**, between the parentheses. -/
theorem Group.Spelt.exists_clauses {g : Group} (h : g.Spelt (own ++ .word keyword :: own')) :
    ∃ os mid mid', Occurrence.Spelt g.occurrence? os ∧ own = os ++ .opening :: mid ∧
      own' = mid' ++ [.closing] ∧
      SpeltList Clause.Spelt g.clauses (mid ++ .word keyword :: mid') := by
  generalize hks : own ++ .word keyword :: own' = ks at h
  cases h with
  | @intro os cs occurrence nonempty clauses =>
    have hsplit : (os ++ [.opening]) ++ (cs ++ [.closing]) = own ++ .word keyword :: own' := by
      rw [hks]
      simp
    -- the keyword stands up to the opening parenthesis, or behind it
    rcases append_cons_cases hsplit with ⟨excess, hfront, -⟩ | ⟨mid, rfl, hback⟩
    · have hmem : Lexeme.Kind.word keyword ∈ os ++ [.opening] := hfront ▸ List.mem_append_cons_self
      have hos := occurrence.not_mem hkeyword
      simp [hos] at hmem
    · rcases append_cons_cases hback with ⟨mid', rfl, rfl⟩ | ⟨excess, -, hclosing⟩
      · exact ⟨os, mid, mid', occurrence, by simp, rfl, clauses⟩
      · have hmem : Lexeme.Kind.word keyword ∈ [Lexeme.Kind.closing] :=
          hclosing ▸ List.mem_append_cons_self
        simp at hmem

end Grammar

/-- In a template that spells `gs`, lexemes of these kinds are all that stands before a decoration of the
clause `c`: the groups before its own, of which there are `i`, the `j` clauses before it in its group, and
its own beginning up to and with the decorations `ds`. -/
inductive Clause.ReachedBy : Clause → List Decoration → List Group → Nat → Nat → List Lexeme.Kind → Prop
    where
  | intro {gs gs' : List Group} {g : Group} {cs cs' : List Clause} {c : Clause} {ds : List Decoration}
      {ks os ks' os' own : List Lexeme.Kind}
      (groups : SpeltList Group.Spelt gs ks) (occurrence : Occurrence.Spelt g.occurrence? os)
      (clauses_eq : g.clauses = cs ++ c :: cs') (clauses : SpeltList Clause.Spelt cs ks')
      (clauseOccurrence : Occurrence.Spelt c.occurrence? os')
      (decorations : SpeltList Decoration.Spelt ds own) :
      ReachedBy c ds (gs ++ g :: gs') gs.length cs.length
        (ks ++ (os ++ .opening :: ks') ++
          (os' ++ .word c.field :: .placeholder c.placeholder :: own))

theorem Clause.ReachedBy.exists_group {c : Clause} {ds : List Decoration} {gs : List Group} {i j : Nat}
    {front : List Lexeme.Kind} (h : c.ReachedBy ds gs i j front) :
    ∃ g, gs[i]? = some g ∧ g.clauses[j]? = some c := by
  cases h with
  | @intro _ _ g _ _ _ _ _ _ _ _ _ _ _ hclauses => exact ⟨g, by simp, by simp [hclauses]⟩

/-- **A weight belongs to a clause.** Wherever a template has the keyword of a weight, what follows is the
numeral of its number, and the two are a decoration of the clause that the lexemes before them lead to.
The group, the clause and the decoration are found one after the other. -/
theorem exists_reachedBy {weight : Weight} {keyword word : String} {gs : List Group}
    {front rest : List Lexeme.Kind} (hkeyword : (Keyword.weight weight).SpeltBy keyword)
    (h : SpeltList Group.Spelt gs (front ++ .word keyword :: .word word :: rest)) :
    ∃ i j c ds n ds', Clause.ReachedBy c ds gs i j front ∧
      c.decorations = ds ++ weight.decoration n :: ds' ∧ word = Text.Numeral.text n := by
  obtain ⟨gs, g, gs', ks, ownGroup, ownGroup', restGroups, rfl, rfl, hrest, hgs, hg⟩ :=
    h.exists_of_append
  -- the group, then its clause, then the decoration
  obtain ⟨os, midGroup, midGroup', hos, rfl, rfl, hclauses⟩ := hg.exists_clauses hkeyword
  obtain ⟨cs, c, cs', ks', ownClause, ownClause', restClauses, hcs_eq, rfl, rfl, hcs, hc⟩ :=
    hclauses.exists_of_append
  obtain ⟨os', midClause, hos', rfl, hds⟩ := hc.exists_decorations hkeyword
  obtain ⟨ds, d, ds', own, ownWeight, ownWeight', restWeights, hds_eq, rfl, rfl, hbefore, hd⟩ :=
    hds.exists_of_append
  obtain ⟨n, rfl, rfl, rfl⟩ := hd.exists_number hkeyword
  refine ⟨gs.length, cs.length, c, ds, n, ds', ?_, hds_eq, ?_⟩
  · have hreached : c.ReachedBy ds (gs ++ g :: gs') gs.length cs.length _ :=
      .intro hgs hos hcs_eq hcs hos' hbefore
    simpa using hreached
  · -- the word is the first lexeme behind the keyword
    obtain ⟨hword, -⟩ := List.cons.inj hrest
    exact Lexeme.Kind.word.inj hword

/-- The lexemes of a template that compiles spell its groups. -/
theorem exists_speltList_of_compile {template : String} {t : Template} {lexemes : List Lexeme}
    (hcompile : (Template.compile template).value = .ok t)
    (hscan : Lexeme.scan template = .ok lexemes) :
    ∃ gs, t.tokens = Group.listTokens gs ∧ SpeltList Group.Spelt gs (lexemes.map Lexeme.kind) := by
  have hread := compile_eq_ok_iff.mp hcompile
  have hfault : (Reading.ofText template).fault? = none := by rw [hread]
  obtain ⟨found, gs, hfound, ⟨-, hspell⟩, htokens⟩ := exists_spellTemplate_of_ofText hfault
  rw [hscan] at hfound
  obtain rfl := Except.ok.inj hfound
  rw [hread] at htokens
  exact ⟨gs, htokens, hspell⟩

/-! ## Showing -/

theorem Weight.text_decoration (weight : Weight) (n : UInt32) :
    (weight.decoration n).text = weight.keyword ++ " " ++ Text.Numeral.text n := by
  cases weight <;> rfl

/-- Of several numbers of one weight, one that none follows is the last. -/
theorem Clause.lastNumber?_eq {c : Clause} {weight : Weight} {n : UInt32} {ds ds' : List Decoration}
    (h : c.decorations = ds ++ weight.decoration n :: ds')
    (hlast : ∀ d ∈ ds', Decoration.number? weight d = none) : c.lastNumber? weight = some n := by
  have hnumber : Decoration.number? weight (weight.decoration n) = some n := by
    cases weight <;> rfl
  have hrest : ds'.filterMap (Decoration.number? weight) = [] := List.filterMap_eq_nil_iff.mpr hlast
  rw [lastNumber?, h, List.filterMap_append, List.filterMap_cons, hnumber, hrest]
  simp

namespace Query.Clause

def number? (c : Clause) : Weight → Option UInt32
  | .boost => c.boost?
  | .fuzzy => c.fuzzy?

/-- The text of a clause up to the number of a weight, with the mark in front of it. -/
def untilNumber (escaped : Bool) (c : Clause) : Weight → String
  | .boost => c.sign.text ++ c.field ++ ":(" ++ (if escaped then escape c.value else c.value) ++ "^"
  | .fuzzy => c.sign.text ++ c.field ++ ":(" ++ (if escaped then escape c.value else c.value) ++
      weightText "^" c.boost? ++ "~"

/-- The text of a clause behind the number of a weight. -/
def afterNumber (c : Clause) : Weight → String
  | .boost => weightText "~" c.fuzzy? ++ (if c.wildcard then "*" else "") ++ ")"
  | .fuzzy => (if c.wildcard then "*" else "") ++ ")"

theorem text_eq_of_number? {c : Clause} {weight : Weight} {n : UInt32}
    (h : c.number? weight = some n) (escaped : Bool) :
    c.text escaped
      = c.untilNumber escaped weight ++ Text.Numeral.text n ++ c.afterNumber weight := by
  cases weight with
  | boost =>
    have hboost : c.boost? = some n := h
    simp only [text, suffix, untilNumber, afterNumber, hboost, weightText, String.append_assoc]
  | fuzzy =>
    have hfuzzy : c.fuzzy? = some n := h
    simp only [text, suffix, untilNumber, afterNumber, hfuzzy, weightText, String.append_assoc]

end Query.Clause

/-- A constant shows no fuzziness. Apart from that the last number of each weight is shown. -/
theorem Clause.number?_fill {c : Clause} {weight : Weight} {n : UInt32}
    (h : c.lastNumber? weight = some n) (hshown : weight = .fuzzy → ¬ c.IsConstant) (value : String) :
    (c.fill value).number? weight = some n := by
  cases weight with
  | boost =>
    show c.traits.boost? = some n
    rw [traits_eq]
    exact h
  | fuzzy =>
    show (if c.traits.constant then none else c.traits.fuzzy?) = some n
    rw [traits_eq, decide_eq_false (hshown rfl)]
    exact h

/-- Whatever the bindings and the options, if a query has the clause at place `j` of the group at place `i`,
then it shows `word` behind the mark of the weight. -/
def ShowsNumber (gs : List Group) (i j : Nat) (weight : Weight) (word : String) : Prop :=
  ∀ bindings options, ∀ e ∈ emission gs bindings options, e.place = i →
    ∀ c ∈ e.clauses, c.place = j →
      c.clause.text options.escaped
        = c.clause.untilNumber options.escaped weight ++ word ++ c.clause.afterNumber weight

/-- **The last number of a weight is shown in every query that has the clause.** The places lead back to
the clause of the template, and it is filled with its last number, whatever its value is. -/
theorem showsNumber_of_lastNumber? {gs : List Group} {i j : Nat} {g : Group} {c : Clause}
    {weight : Weight} {n : UInt32} (hg : gs[i]? = some g) (hc : g.clauses[j]? = some c)
    (hlast : c.lastNumber? weight = some n) (hshown : weight = .fuzzy → ¬ c.IsConstant) :
    ShowsNumber gs i j weight (Text.Numeral.text n) := by
  intro bindings options e he hi shown hmem hj
  -- the place of the group tells which one it is
  have hsource : e.source = g := by
    have hplace := (mem_emission.mp he).1
    rw [hi, hg] at hplace
    exact (Option.some.inj hplace).symm
  rw [clauses_of_mem_emission he, hsource, Group.mem_emittedClauses, hj, hc] at hmem
  obtain ⟨hclause, value, -, hfill⟩ := hmem
  obtain rfl := Option.some.inj hclause
  rw [← hfill]
  exact Query.Clause.text_eq_of_number? (Clause.number?_fill hlast hshown value) _

/-! ## The headline -/

open Place in
/-- **A number is kept as it is written.** Behind the keyword of a weight, in whatever case, exactly the
canonical decimal numerals up to 4294967295 are taken as its number, and every other word is refused where it
stands. In a group that has a clause the word makes the decoration with the number that it writes; in one that
has none it is the decoration that is refused, at its keyword. The decoration is written out with the same
word again. And so it is in a query: in a template that compiles, such a keyword and the word behind it are a
decoration of the clause that the lexemes before them lead to, and if no other number of the weight follows in
this clause, every query that has the clause shows the word behind the mark of the weight. Only the fuzziness
of a constant is not shown. -/
theorem numbers_verbatim (weight : Weight) (keyword word : String)
    (hkeyword : (Keyword.weight weight).SpeltBy keyword) :
    (∀ filled stop pos argPos rest,
      (inside filled).read stop (⟨.word keyword, pos⟩ :: ⟨.word word, argPos⟩ :: rest)
          = ⟨[], some ⟨argPos, .integerExpected weight⟩⟩
        ↔ ¬ ∃ n ≤ 4294967295, Text.Numeral.Writes word n) ∧
    (∀ stop pos argPos rest d,
      (inside true).read stop (⟨.word keyword, pos⟩ :: ⟨.word word, argPos⟩ :: rest)
          = ((inside true).read stop rest).prepend [.decoration d]
        ↔ ∃ n ≤ 4294967295, Text.Numeral.Writes word n ∧ d = weight.decoration (.ofNat n)) ∧
    (∀ stop pos argPos rest,
      (inside false).read stop (⟨.word keyword, pos⟩ :: ⟨.word word, argPos⟩ :: rest)
          = ⟨[], some ⟨pos, .danglingDecoration weight.keyword⟩⟩
        ↔ ∃ n ≤ 4294967295, Text.Numeral.Writes word n) ∧
    (∀ n ≤ 4294967295, Text.Numeral.Writes word n →
      (UInt32.ofNat n).toNat = n ∧
      (weight.decoration (.ofNat n)).text = weight.keyword ++ " " ++ word) ∧
    ∀ template t front pos argPos rest, (Template.compile template).value = .ok t →
      Lexeme.scan template = .ok (front ++ ⟨.word keyword, pos⟩ :: ⟨.word word, argPos⟩ :: rest) →
      ∃ gs i j c ds n ds', t.tokens = Group.listTokens gs ∧
        (∀ bindings options, (render t.tokens bindings options).value
          = .ok (emissionText options.escaped (emission gs bindings options))) ∧
        Clause.ReachedBy c ds gs i j (front.map Lexeme.kind) ∧
        c.decorations = ds ++ weight.decoration n :: ds' ∧ Text.Numeral.Writes word n.toNat ∧
        ((∀ d ∈ ds', Decoration.number? weight d = none) → (weight = .fuzzy → ¬ c.IsConstant) →
          ShowsNumber gs i j weight word) := by
  refine ⟨fun filled stop pos argPos rest => read_eq_refused_iff hkeyword stop pos argPos rest filled,
    read_eq_prepend_iff hkeyword, read_eq_dangling_iff hkeyword, fun n hn hword => ⟨?_, ?_⟩, ?_⟩
  · exact UInt32.toNat_ofNat_of_lt' (Nat.lt_succ_of_le hn)
  · rw [weight.text_decoration, ← hword.eq_text hn]
  · intro template t front pos argPos rest hcompile hscan
    obtain ⟨gs, htokens, hspell⟩ := exists_speltList_of_compile hcompile hscan
    rw [List.map_append, List.map_cons, List.map_cons] at hspell
    obtain ⟨i, j, c, ds, n, ds', hreached, hds, rfl⟩ := exists_reachedBy hkeyword hspell
    obtain ⟨g, hg, hc⟩ := hreached.exists_group
    refine ⟨gs, i, j, c, ds, n, ds', htokens, ?_, hreached, hds,
      Text.Numeral.writes_iff_eq_repr.mpr rfl, fun hlast hshown => ?_⟩
    · exact value_render_of_outline (by rw [htokens, outline_listTokens])
    · exact showsNumber_of_lastNumber? hg hc (Clause.lastNumber?_eq hds hlast) hshown

/-- The last number that is taken, and one word for each reason to refuse it: one more than the last number,
a zero in front, a sign, a digit that is not ASCII, and no character at all. -/
theorem numbers_verbatim_last_number :
    (∀ rest, (Place.inside true).read 60 (⟨.word "fuzZy", 7⟩ :: ⟨.word "4294967295", 13⟩ :: rest)
      = ((Place.inside true).read 60 rest).prepend [.decoration (.fuzzy 4294967295)]) ∧
    (∀ word ∈ ["4294967296", "007", "+5", "٣", ""], ∀ rest,
      (Place.inside true).read 60 (⟨.word "fuzZy", 7⟩ :: ⟨.word word, 13⟩ :: rest)
        = ⟨[], some ⟨13, .integerExpected .fuzzy⟩⟩) ∧
    (Place.inside false).read 60 [⟨.word "fuzZy", 7⟩, ⟨.word "4294967295", 13⟩]
      = ⟨[], some ⟨7, .danglingDecoration "FUZZY"⟩⟩ ∧
    (Decoration.fuzzy 4294967295).text = "FUZZY 4294967295" ∧
    ∃ t gs, (Template.compile "(a <x> fuzZy 4294967295 BOOST 0 WILDCARD)").value = .ok t ∧
      t.tokens = Group.listTokens gs ∧ ShowsNumber gs 0 0 .fuzzy "4294967295" ∧
      (render t.tokens (NameTable.empty.insert "x" "v") ⟨1, "", .skip, true⟩).value
        = .ok "( a:(v^0~4294967295*) )" := by
  have hkeyword : (Keyword.weight .fuzzy).SpeltBy "fuzZy" := by decide
  have hwrites : Text.Numeral.Writes "4294967295" 4294967295 :=
    Text.Numeral.writes_iff_eq_repr.mpr (by decide)
  obtain ⟨-, htaken, hdangling, hprinted, hshown⟩ :=
    numbers_verbatim .fuzzy "fuzZy" "4294967295" hkeyword
  refine ⟨fun rest => (htaken _ _ _ _ _).mpr ⟨_, le_refl _, hwrites, rfl⟩, ?_,
    (hdangling _ _ _ _).mpr ⟨_, le_refl _, hwrites⟩, (hprinted _ (le_refl _) hwrites).2, ?_⟩
  · intro word hword rest
    refine ((numbers_verbatim .fuzzy "fuzZy" word hkeyword).1 _ _ _ _ _).mpr ?_
    rintro ⟨n, hn, h⟩
    simp only [List.mem_cons, List.not_mem_nil, or_false] at hword
    rcases hword with rfl | rfl | rfl | rfl | rfl
    · have hvalue : 4294967296 = n := h.value
      omega
    · exact absurd (h.leading rfl) (by decide)
    · exact absurd (h.digits '+' (by decide)) (by decide)
    · exact absurd (h.digits '٣' (by decide)) (by decide)
    · exact h.nonempty rfl
  · have hcompile : (Template.compile "(a <x> fuzZy 4294967295 BOOST 0 WILDCARD)").value
        = .ok ⟨Group.listTokens
          [⟨none, [⟨none, "a", "x", [.fuzzy 4294967295, .boost 0, .wildcard]⟩]⟩]⟩ :=
      compile_eq_ok_iff.mpr (by decide +kernel)
    have hscan : Lexeme.scan "(a <x> fuzZy 4294967295 BOOST 0 WILDCARD)" = .ok ([⟨.opening, 0⟩,
        ⟨.word "a", 1⟩, ⟨.placeholder "x", 3⟩] ++ ⟨.word "fuzZy", 7⟩ :: ⟨.word "4294967295", 13⟩ ::
        [⟨.word "BOOST", 24⟩, ⟨.word "0", 30⟩, ⟨.word "WILDCARD", 32⟩, ⟨.closing, 40⟩]) := by
      decide +kernel
    obtain ⟨gs, i, j, c, ds, n, ds', hgs, hrender, hreached, hds, -, hshows⟩ :=
      hshown _ _ _ _ _ _ hcompile hscan
    obtain rfl := listTokens_injective hgs
    -- there is no other clause that the lexemes could lead to, and no other fuzziness in it
    obtain ⟨g, hg, hc⟩ := hreached.exists_group
    obtain ⟨rfl, rfl⟩ : i = 0 ∧ _ = g := by simpa [List.getElem?_singleton] using hg
    obtain ⟨rfl, rfl⟩ : j = 0 ∧ _ = c := by simpa [List.getElem?_singleton] using hc
    refine ⟨_, _, hcompile, rfl, hshows ?_ (by decide), ?_⟩
    · cases ds with
      | nil =>
        obtain ⟨-, rfl⟩ := List.cons.inj hds
        decide
      | cons d ds =>
        have hmem : Decoration.fuzzy n ∈ [Decoration.boost 0, .wildcard] :=
          (List.cons.inj hds).2 ▸ List.mem_append_cons_self
        simp at hmem
    · rw [hrender]
      exact congrArg Except.ok (by decide +kernel)

end QueryTemplate
