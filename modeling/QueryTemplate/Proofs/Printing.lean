import QueryTemplate.Proofs.Derivation
import QueryTemplate.Proofs.Scan
import QueryTemplate.Template.Basic

/-!
# Printing a template and reading it again

The printed form of a token list loses its layout and does not say whether an occurrence belongs to a
group or to a clause. Reading recovers both:

* **`scans_listText`** — printed tokens fall into the lexemes that `Token.kinds` gives for each of them,
* **`spelt_kinds`** — the lexemes of written groups spell these groups,
* **`printable_of_spelt`** — only groups that can be printed are ever spelt,
* **`reading_printing_inverse`** — so reading and printing are inverse to each other on exactly the token
  lists that a template can have.
-/

namespace QueryTemplate

/-! ## Characters of words -/

/-- Tables whose ranges do not meet have no code point in common. Whether they meet is decided by
comparing ranges, and not by trying code points. -/
theorem coversCode_of_disjoint {a b : Text.CodeRanges} (ha : a.isAscending = true)
    (hb : b.isAscending = true) (hdisjoint : ∀ r ∈ a, ∀ s ∈ b, r.2 < s.1 ∨ s.2 < r.1) {n : Nat}
    (h : a.coversCode n = true) : b.coversCode n = false := by
  obtain ⟨r, hr, hfirst, hlast⟩ := (Text.CodeRanges.coversCode_iff ha n).mp h
  cases hn : b.coversCode n with
  | false => rfl
  | true =>
    obtain ⟨s, hs, hfirst', hlast'⟩ := (Text.CodeRanges.coversCode_iff hb n).mp hn
    have hmeet := hdisjoint r hr s hs
    omega

/-- **No blank may stand in a field name.** The table of blanks meets neither the letters nor the
numbers. -/
theorem not_isFieldRest_of_isBlank {c : Char} (h : Text.isBlank c = true) :
    isFieldRest c = false := by
  have halpha : Text.isAlphabetic c = false :=
    coversCode_of_disjoint (by decide +kernel) (by decide +kernel) (by decide +kernel) h
  have hnumeric : Text.isNumeric c = false :=
    coversCode_of_disjoint (by decide +kernel) (by decide +kernel) (by decide +kernel) h
  have hmark : c ≠ '_' ∧ c ≠ '.' ∧ c ≠ '-' := by
    refine ⟨?_, ?_, ?_⟩ <;> (rintro rfl; exact absurd h (by decide))
  simp [isFieldRest, halpha, hnumeric, hmark]

/-- A field name has only characters of words, so that it is one word again after printing. -/
theorem isWordChar_of_isFieldRest {c : Char} (h : isFieldRest c = true) :
    Lexeme.isWordChar c = true := by
  refine Lexeme.isWordChar_iff.mpr ⟨?_, ?_, ?_, ?_, ?_⟩
  · cases hblank : Text.isBlank c with
    | false => rfl
    | true => exact absurd h (by simp [not_isFieldRest_of_isBlank hblank])
  all_goals rintro rfl; exact absurd h (by decide)

/-- So has a numeral. There are ten digits, and each is checked. -/
theorem isWordChar_of_isDigit {c : Char} (h : c.isDigit = true) : Lexeme.isWordChar c = true := by
  obtain ⟨hlt, hchar⟩ := Text.Numeral.digitChar_toNat_sub h
  have hall : ∀ d < 10, Lexeme.isWordChar d.digitChar = true := by decide
  rw [← hchar]
  exact hall _ hlt

/-- So has a keyword. There are seven of them, and each is checked. -/
theorem isWordChar_of_mem_spelling {k : Keyword} {c : Char} (h : c ∈ k.spelling.toList) :
    Lexeme.isWordChar c = true := by
  have hall : ∀ k ∈ Keyword.all, k.spelling.toList.all Lexeme.isWordChar = true := by decide
  exact List.all_eq_true.mp (hall k k.mem_all) c h

/-! ## The lexemes of printed tokens -/

def Decoration.kinds : Decoration → List Lexeme.Kind
  | boost n => [.word Weight.boost.keyword, .word (Text.Numeral.text n)]
  | fuzzy n => [.word Weight.fuzzy.keyword, .word (Text.Numeral.text n)]
  | wildcard => [.word Keyword.wildcard.spelling]
  | constant => [.word Keyword.constant.spelling]

/-- The kinds of the lexemes into which a printed token falls. -/
def Token.kinds : Token → List Lexeme.Kind
  | groupOpen => [.opening]
  | groupClose => [.closing]
  | groupOccurrence o => [.word o.keyword]
  | fieldOccurrence o => [.word o.keyword]
  | field name => [.word name]
  | placeholder name => [.placeholder name]
  | decoration d => d.kinds

/-- Tokens whose names survive printing. -/
def Token.Printable : Token → Prop
  | field name => isFieldName name = true
  | placeholder name => isPlaceholderName name = true
  | _ => True

instance (c : Clause) : Decidable c.Printable := inferInstanceAs (Decidable (_ ∧ _))

instance (g : Group) : Decidable g.Printable := inferInstanceAs (Decidable (_ ∧ _))

section Scanning

variable {cs : List Char} {ks : List Lexeme.Kind}

/-- Printed tokens are followed by a space or by nothing, and both end a word. -/
theorem isWordChar_head? (hend : ∀ c ∈ cs.head?, c = ' ') :
    ∀ c ∈ cs.head?, Lexeme.isWordChar c = false := by
  intro c hc
  rw [hend c hc]
  decide

theorem scans_keyword (k : Keyword) (hend : ∀ c ∈ cs.head?, c = ' ') (h : Lexeme.Scans cs ks) :
    Lexeme.Scans (k.spelling.toList ++ cs) (.word k.spelling :: ks) := by
  have hne : ∀ k ∈ Keyword.all, k.spelling.toList ≠ [] := by decide
  exact h.word (hne k k.mem_all) (fun _ hc => isWordChar_of_mem_spelling hc) (isWordChar_head? hend)

theorem scans_numeral (n : UInt32) (hend : ∀ c ∈ cs.head?, c = ' ') (h : Lexeme.Scans cs ks) :
    Lexeme.Scans ((Text.Numeral.text n).toList ++ cs) (.word (Text.Numeral.text n) :: ks) := by
  refine h.word ?_ (fun _ hc => ?_) (isWordChar_head? hend)
  · rw [Text.Numeral.text, Nat.toList_repr]
    exact Nat.toDigits_ne_nil
  · exact isWordChar_of_isDigit (Text.Numeral.isDigit_of_mem_text hc)

theorem scans_field {name : String} (hname : isFieldName name = true)
    (hend : ∀ c ∈ cs.head?, c = ' ') (h : Lexeme.Scans cs ks) :
    Lexeme.Scans (name.toList ++ cs) (.word name :: ks) := by
  obtain ⟨c, rest, hchars, -, -⟩ := isFieldName_chars hname
  refine h.word (by simp [hchars]) (fun _ hc => ?_) (isWordChar_head? hend)
  exact isWordChar_of_isFieldRest (isFieldRest_of_mem hname hc)

/-- A printed weight is two words, although it is one token. -/
theorem scans_weight (w : Weight) (n : UInt32) (hend : ∀ c ∈ cs.head?, c = ' ')
    (h : Lexeme.Scans cs ks) :
    Lexeme.Scans ((w.decoration n).text.toList ++ cs)
      (.word w.keyword :: .word (Text.Numeral.text n) :: ks) := by
  -- keyword and number are printed with a space of their own between them
  have htext : (w.decoration n).text.toList ++ cs
      = w.keyword.toList ++ ' ' :: ((Text.Numeral.text n).toList ++ cs) := by
    cases w <;> simp [Weight.decoration, Weight.keyword, Decoration.text]
  rw [htext]
  refine scans_keyword (.weight w) ?_ (scans_numeral n hend h).space
  rintro c ⟨rfl⟩
  rfl

/-- **One printed token**, in front of a space or of the end, falls into the lexemes of its kinds. Only
the names it carries have to be printable. -/
theorem scans_token {t : Token} (ht : t.Printable) (hend : ∀ c ∈ cs.head?, c = ' ')
    (h : Lexeme.Scans cs ks) : Lexeme.Scans (t.text.toList ++ cs) (t.kinds ++ ks) := by
  cases t with
  | groupOpen => exact h.opening
  | groupClose => exact h.closing
  | groupOccurrence o => exact scans_keyword (.occurrence o) hend h
  | fieldOccurrence o => exact scans_keyword (.occurrence o) hend h
  | field name => exact scans_field ht hend h
  | placeholder name =>
    have htext : (Token.placeholder name).text.toList ++ cs
        = '<' :: (name.toList ++ '>' :: cs) := by
      simp [Token.text]
    rw [htext]
    exact h.placeholder ht
  | decoration d =>
    cases d with
    | boost n => exact scans_weight .boost n hend h
    | fuzzy n => exact scans_weight .fuzzy n hend h
    | wildcard => exact scans_keyword .wildcard hend h
    | constant => exact scans_keyword .constant hend h

end Scanning

/-- **Printed tokens**, one space apart. The induction is on the tokens; the last one has no space behind
it. -/
theorem scans_listText {ts : List Token} (h : ∀ t ∈ ts, t.Printable) :
    Lexeme.Scans (Token.listText ts).toList (ts.flatMap Token.kinds) := by
  rw [Token.listText, String.toList_intercalate]
  induction ts with
  | nil => exact .nil
  | cons t ts ih =>
    have hts := ih fun u hu => h u (by simp [hu])
    cases ts with
    | nil =>
      have ht := scans_token (h t (by simp)) (by simp) Lexeme.Scans.nil
      simpa using ht
    -- a token and the space in front of the next one
    | cons u us =>
      have ht := scans_token (h t (by simp)) (by rintro c ⟨rfl⟩; rfl) hts.space
      simpa using ht

/-! ## The lexemes of written groups spell them -/

/-- A list of items is spelt by the lexemes of each of them in turn. -/
theorem speltList_flatMap {α : Type} {Spelt : α → List Lexeme.Kind → Prop}
    {f : α → List Lexeme.Kind} {as : List α} (h : ∀ a ∈ as, Spelt a (f a)) :
    SpeltList Spelt as (as.flatMap f) := by
  induction as with
  | nil => exact .nil
  | cons a as ih => exact .cons (h a (by simp)) (ih fun b hb => h b (by simp [hb]))

theorem Decoration.spelt_kinds (d : Decoration) : d.Spelt d.kinds := by
  cases d with
  | boost n => exact Decoration.Spelt.weight (w := .boost) (Keyword.speltBy_spelling _)
  | fuzzy n => exact Decoration.Spelt.weight (w := .fuzzy) (Keyword.speltBy_spelling _)
  | wildcard => exact .wildcard (Keyword.speltBy_spelling _)
  | constant => exact .constant (Keyword.speltBy_spelling _)

/-- The lexemes of a printed clause spell it, if its field has a field name. Otherwise they might spell
something else, or nothing. -/
theorem Clause.spelt_kinds {c : Clause} (hfield : isFieldName c.field = true) :
    c.Spelt (c.tokens.flatMap Token.kinds) := by
  have hds : SpeltList Decoration.Spelt c.decorations
      ((c.decorations.map Token.decoration).flatMap Token.kinds) := by
    rw [List.flatMap_map]
    exact speltList_flatMap fun d _ => d.spelt_kinds
  have ho : Occurrence.Spelt c.occurrence?
      ((c.occurrence?.map Token.fieldOccurrence).toList.flatMap Token.kinds) := by
    cases c.occurrence? with
    | none => exact .none
    | some o => exact .some (Keyword.speltBy_spelling _)
  have hspelt := Clause.Spelt.intro ho hfield hds
  simpa [Clause.tokens, Token.kinds] using hspelt

theorem Group.spelt_kinds {g : Group} (h : g.Printable) :
    g.Spelt (g.tokens.flatMap Token.kinds) := by
  obtain ⟨hne, hprintable⟩ := h
  have hcs : SpeltList Clause.Spelt g.clauses
      ((g.clauses.flatMap Clause.tokens).flatMap Token.kinds) := by
    rw [List.flatMap_assoc]
    exact speltList_flatMap fun c hc => Clause.spelt_kinds (hprintable c hc).1
  have ho : Occurrence.Spelt g.occurrence?
      ((g.occurrence?.map Token.groupOccurrence).toList.flatMap Token.kinds) := by
    cases g.occurrence? with
    | none => exact .none
    | some o => exact .some (Keyword.speltBy_spelling _)
  have hspelt := Group.Spelt.intro ho hne hcs
  simpa [Group.tokens, Token.kinds] using hspelt

theorem spelt_kinds {gs : List Group} (h : ∀ g ∈ gs, g.Printable) :
    SpeltList Group.Spelt gs ((Group.listTokens gs).flatMap Token.kinds) := by
  rw [Group.listTokens, List.flatMap_assoc]
  exact speltList_flatMap fun g hg => Group.spelt_kinds (h g hg)

theorem printable_of_mem_listTokens {gs : List Group} (h : ∀ g ∈ gs, g.Printable) {t : Token}
    (ht : t ∈ Group.listTokens gs) : t.Printable := by
  obtain ⟨g, hg, ht⟩ := List.mem_flatMap.mp ht
  simp only [Group.tokens, List.mem_append, List.mem_cons, Option.mem_toList,
    Option.map_eq_some_iff, List.mem_flatMap, List.not_mem_nil, or_false] at ht
  rcases ht with (⟨o, -, rfl⟩ | rfl | ⟨c, hc, ht⟩) | rfl
  · trivial
  · trivial
  · -- the names of a clause are the only ones that matter
    obtain ⟨hfield, hplaceholder⟩ := (h g hg).2 c hc
    simp only [Clause.tokens, List.mem_append, List.mem_cons, Option.mem_toList,
      Option.map_eq_some_iff, List.mem_map] at ht
    rcases ht with ⟨o, -, rfl⟩ | rfl | rfl | ⟨d, -, rfl⟩
    · trivial
    · exact hfield
    · exact hplaceholder
    · trivial
  · trivial

/-! ## Only printable groups are spelt -/

/-- Every item of a list is spelt by some of its lexemes. The induction is on the list. -/
theorem SpeltList.exists_of_mem {α : Type} {Spelt : α → List Lexeme.Kind → Prop} {as : List α}
    {ks : List Lexeme.Kind} (h : SpeltList Spelt as ks) {a : α} (ha : a ∈ as) :
    ∃ part, Spelt a part ∧ part ⊆ ks := by
  induction h with
  | nil => exact absurd ha (by simp)
  | @cons b bs part rest hb _ ih =>
    rcases List.mem_cons.mp ha with rfl | ha
    · exact ⟨part, hb, List.subset_append_left part rest⟩
    · obtain ⟨part', hpart', hsub⟩ := ih ha
      exact ⟨part', hpart', fun k hk => List.mem_append_right part (hsub hk)⟩

/-- **Only printable groups are spelt**, if the placeholders among the lexemes have printable names. The
rules themselves see to the field names and to the clauses. -/
theorem printable_of_spelt {gs : List Group} {ks : List Lexeme.Kind}
    (h : SpeltList Group.Spelt gs ks)
    (hnames : ∀ name, Lexeme.Kind.placeholder name ∈ ks → isPlaceholderName name = true) :
    ∀ g ∈ gs, g.Printable := by
  intro g hg
  obtain ⟨part, hpart, hsub⟩ := h.exists_of_mem hg
  cases hpart with
  | @intro os ck _ hne hcs =>
    refine ⟨hne, fun c hc => ?_⟩
    obtain ⟨cpart, hcpart, hcsub⟩ := hcs.exists_of_mem hc
    cases hcpart with
    | @intro os' dk _ hfield _ =>
      refine ⟨hfield, hnames _ (hsub ?_)⟩
      have hmem : Lexeme.Kind.placeholder c.placeholder ∈ ck := hcsub (by simp)
      simp [hmem]

/-! ## Reading and printing -/

/-- One group or more with all their clauses and decorations, where every field has a field name and
every placeholder a name that can stand between its brackets. -/
def Token.WellFormed (tokens : List Token) : Prop :=
  ∃ gs : List Group, gs ≠ [] ∧ (∀ g ∈ gs, g.Printable) ∧ tokens = Group.listTokens gs

theorem wellFormed_of_ofText {template : String} (h : (Reading.ofText template).fault? = none) :
    Token.WellFormed (Reading.ofText template).tokens := by
  obtain ⟨lexemes, gs, hscan, ⟨hne, hgs⟩, htokens⟩ := exists_spellTemplate_of_ofText h
  refine ⟨gs, hne, printable_of_spelt hgs fun name hname => ?_, htokens⟩
  exact (Lexeme.scanFrom_eq_ok_iff.mp hscan).isPlaceholderName hname

/-- **Printed groups spell themselves.** Their text is scanned, and its lexemes derive from the rules as
these groups. -/
theorem exists_spellTemplate_listText {gs : List Group} (hne : gs ≠ [])
    (hprintable : ∀ g ∈ gs, g.Printable) :
    ∃ lexemes, Lexeme.scan (Token.listText (Group.listTokens gs)) = .ok lexemes ∧
      Group.SpellTemplate gs (lexemes.map Lexeme.kind) := by
  have hscans := scans_listText fun t ht => printable_of_mem_listTokens hprintable ht
  obtain ⟨lexemes, hscan, hkinds⟩ := Lexeme.scan_of_scans hscans
  refine ⟨lexemes, hscan, hne, ?_⟩
  rw [hkinds]
  exact spelt_kinds hprintable

/-- What is well formed is read back from its text. -/
theorem ofText_listText {tokens : List Token} (h : Token.WellFormed tokens) :
    Reading.ofText (Token.listText tokens) = ⟨tokens, none⟩ := by
  obtain ⟨gs, hne, hprintable, rfl⟩ := h
  obtain ⟨lexemes, hscan, hspell⟩ := exists_spellTemplate_listText hne hprintable
  exact ofText_of_spellTemplate hscan hspell

/-- **A template compiles exactly if it is read without a fault**, and then to the tokens of the reading.
This is how statements about compiled templates become statements about readings. -/
theorem compile_eq_ok_iff {template : String} {t : Template} :
    (Template.compile template).value = .ok t ↔ Reading.ofText template = ⟨t.tokens, none⟩ := by
  have hvalue : (Template.compile template).value
      = (Reading.ofText template).result.map Template.mk := rfl
  obtain ⟨tokens⟩ := t
  rw [hvalue, Reading.result]
  generalize Reading.ofText template = reading
  obtain ⟨found, fault?⟩ := reading
  cases fault? with
  | none => simp [Except.map]
  | some fault => simp [Except.map]

theorem wellFormed_of_compile {template : String} {t : Template}
    (h : (Template.compile template).value = .ok t) : Token.WellFormed t.tokens := by
  rw [compile_eq_ok_iff] at h
  have hformed : Token.WellFormed (Reading.ofText template).tokens :=
    wellFormed_of_ofText (by rw [h])
  rw [h] at hformed
  exact hformed

/-- **Reading and printing are inverse on exactly the image of the reader.** What is read is well
formed, what is well formed is read back from its text, and so a compiled template is compiled again
from its own text. -/
theorem reading_printing_inverse :
    (∀ template, (Reading.ofText template).succeeds = true →
        Token.WellFormed (Reading.ofText template).tokens) ∧
      (∀ tokens, Token.WellFormed tokens →
        Reading.ofText (Token.listText tokens) = ⟨tokens, none⟩) ∧
      ∀ template t, (Template.compile template).value = .ok t →
        (Template.compile t.text).value = .ok t := by
  refine ⟨fun template h => ?_, fun tokens h => ofText_listText h, fun template t h => ?_⟩
  · rw [Reading.succeeds, Option.isNone_iff_eq_none] at h
    exact wellFormed_of_ofText h
  · exact compile_eq_ok_iff.mpr (ofText_listText (wellFormed_of_compile h))

/-- A template in a layout of its own: a keyword and a bracket inside a placeholder, blanks around it,
a field name with letters beyond ASCII. -/
theorem reading_printing_inverse_loose_layout :
    ∃ t, (Template.compile "must(naïve<  MUST (x >Boost 4294967295)").value = .ok t ∧
      t.text = "MUST ( naïve <MUST (x> BOOST 4294967295 )" ∧
      (Template.compile t.text).value = .ok t := by
  have hcompile : (Template.compile "must(naïve<  MUST (x >Boost 4294967295)").value
      = .ok ⟨[.groupOccurrence .must, .groupOpen, .field "naïve", .placeholder "MUST (x",
          .decoration (.boost 4294967295), .groupClose]⟩ :=
    compile_eq_ok_iff.mpr (by decide +kernel)
  exact ⟨_, hcompile, by decide, reading_printing_inverse.2.2 _ _ hcompile⟩

end QueryTemplate
