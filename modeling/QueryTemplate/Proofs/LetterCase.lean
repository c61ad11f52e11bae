import QueryTemplate.Proofs.Decorations
import QueryTemplate.Proofs.Derivation
import QueryTemplate.Proofs.Scan

/-!
# The case of ASCII letters

Names are looked up in lower case, and lower-casing is no affair of single characters: what becomes of a
capital sigma depends on its neighbours, near and far. ASCII letters may still be written in either case,
since their case is not what these neighbours are looked at for.

* **`Text.SameLetters`** — the same text up to the case of ASCII letters,
* **`Text.apply_toLower`** — what is the same for both cases of 26 letters is so for all characters. All
  tests on characters are of this kind.
* **`Text.lowercase_eq`** — one lower-case form, so the same names to the bindings (`NameTable.ofPairs_eq`),
* **`Lexeme.scan_toLower`** — the lexemes of a template in small letters,
* **`Group.Spelt.exists_sameLetters`** — lexemes in other letters spell groups in other letters,
* **`letter_case_ignored`** — the headline: the case of letters in the names of values, and in the
  placeholders of all clauses but constants.
-/

namespace QueryTemplate

/-! ## Characters -/

namespace Text

/-- The same text up to the case of ASCII letters. -/
def SameLetters (s s' : String) : Prop := s.toLower = s'.toLower

theorem toList_toLower (s : String) : s.toLower.toList = s.toList.map Char.toLower := String.toList_map

theorem sameLetters_iff {s s' : String} :
    SameLetters s s' ↔ s.toList.map Char.toLower = s'.toList.map Char.toLower := by
  rw [SameLetters, ← String.toList_inj, toList_toLower, toList_toLower]

instance (s s' : String) : Decidable (SameLetters s s') := decidable_of_iff _ sameLetters_iff.symm

theorem toLower_ofList (cs : List Char) :
    (String.ofList cs).toLower = String.ofList (cs.map Char.toLower) := by
  apply String.toList_inj.mp
  rw [toList_toLower, String.toList_ofList, String.toList_ofList]

/-- The letters that have two cases within ASCII. -/
def capitals : List Char := "ABCDEFGHIJKLMNOPQRSTUVWXYZ".toList

/-- A character is its own small letter or one of the 26 capitals. What small letters do to any text is
checked on these. -/
theorem toLower_eq_self_or_mem (c : Char) : c.toLower = c ∨ c ∈ capitals := by
  by_cases hupper : c.val ≥ 'A'.val ∧ c.val ≤ 'Z'.val
  · right
    -- the capitals are the code points from 65 to 90
    have hrange : ∀ n < 26, Char.ofNat (65 + n) ∈ capitals := by decide
    have hlow : 65 ≤ c.toNat := UInt32.le_iff_toNat_le.mp hupper.1
    have hhigh : c.toNat ≤ 90 := UInt32.le_iff_toNat_le.mp hupper.2
    have hmem := hrange (c.toNat - 65) (by omega)
    rwa [Nat.add_sub_cancel' hlow, Char.ofNat_toNat] at hmem
  · exact .inl (dif_neg hupper)

section Characters

variable {β : Type} [DecidableEq β] {f : Char → β}
  (hf : capitals.all (fun c => f c.toLower = f c) = true)
include hf

/-- **What does not tell the cases of the 26 letters apart does not tell any characters apart by case.**
All tests on characters go through this, with the 26 cases left to evaluation. -/
theorem apply_toLower (c : Char) : f c.toLower = f c := by
  rcases toLower_eq_self_or_mem c with hself | hmem
  · rw [hself]
  · exact of_decide_eq_true (List.all_eq_true.mp hf c hmem)

/-- So such a test gives the same answers along two texts with the same letters. -/
theorem map_eq_of_sameLetters {s s' : String} (h : SameLetters s s') :
    s.toList.map f = s'.toList.map f := by
  have hlower : ∀ t : String, t.toList.map f = t.toLower.toList.map f := by
    intro t
    rw [toList_toLower, List.map_map]
    exact List.map_congr_left fun c _ => (apply_toLower hf c).symm
  rw [hlower s, hlower s', h]

end Characters

theorem isBlank_toLower (c : Char) : isBlank c.toLower = isBlank c := apply_toLower (by decide +kernel) c

theorem isCased_toLower (c : Char) : isCased c.toLower = isCased c := apply_toLower (by decide +kernel) c

theorem isCaseIgnorable_toLower (c : Char) : isCaseIgnorable c.toLower = isCaseIgnorable c :=
  apply_toLower (by decide +kernel) c

theorem utf8Size_toLower (c : Char) : c.toLower.utf8Size = c.utf8Size :=
  apply_toLower (by decide +kernel) c

/-- A character without a case is not the small letter of another. Applied to `Σ`, `>` and the like. -/
theorem toLower_eq_iff {c d : Char} (hlower : d.toLower = d) (hupper : d.toUpper = d) :
    c.toLower = d ↔ c = d := by
  refine ⟨fun h => ?_, fun h => h ▸ hlower⟩
  have hback : capitals.all (fun c => c.toLower.toUpper = c) = true := by decide
  rcases toLower_eq_self_or_mem c with hself | hmem
  · rw [← hself, h]
  · rw [← of_decide_eq_true (List.all_eq_true.mp hback c hmem), h, hupper]

/-! ## One lower-case form -/

/-- The image of a character, where `sigma` is that of a capital sigma. -/
theorem image_toLower (sigma c : Char) :
    (if c.toLower = 'Σ' then [sigma] else lowerChar c.toLower)
      = if c = 'Σ' then [sigma] else lowerChar c := by
  have himage : lowerChar c.toLower = lowerChar c := apply_toLower (by decide +kernel) c
  simp only [toLower_eq_iff (d := 'Σ') (by decide) (by decide), himage]

theorem startsCased_map_toLower (cs : List Char) : startsCased (cs.map Char.toLower) = startsCased cs := by
  have hignorable : isCaseIgnorable ∘ Char.toLower = isCaseIgnorable := funext isCaseIgnorable_toLower
  rw [startsCased, startsCased, List.dropWhile_map, hignorable]
  cases cs.dropWhile isCaseIgnorable with
  | nil => rfl
  | cons c rest => exact isCased_toLower c

/-- **Small letters are as cased as capitals are, so no sigma sees the difference.** The induction is on
the text, for both values of the flag that says what is behind. -/
theorem lowerFrom_map_toLower (afterCased : Bool) (cs : List Char) :
    lowerFrom afterCased (cs.map Char.toLower) = lowerFrom afterCased cs := by
  induction cs generalizing afterCased with
  | nil => rfl
  | cons c cs ih =>
    -- a sigma looks back through the flag and ahead through `startsCased`
    rw [List.map_cons, lowerFrom, lowerFrom, lowerSigma, lowerSigma, startsCased_map_toLower]
    simp only [image_toLower, isCaseIgnorable_toLower, isCased_toLower, ih]

/-- **Texts with the same letters have one lower-case form.** -/
theorem lowercase_eq {s s' : String} (h : SameLetters s s') : lowercase s = lowercase s' := by
  have hlower : ∀ t : String, lowercase t = lowercase t.toLower := by
    intro t
    rw [lowercase, lowercase, toList_toLower, lowerFrom_map_toLower]
  rw [hlower s, hlower s', h]

/-! ## Trimming -/

/-- Cutting characters off the end and changing characters can be done in either order, with the test
moved along. The induction is on the text. -/
theorem dropEndWhile_map (p : Char → Bool) (f : Char → Char) (cs : List Char) :
    dropEndWhile p (cs.map f) = (dropEndWhile (p ∘ f) cs).map f := by
  induction cs with
  | nil => rfl
  | cons c cs ih =>
    rw [List.map_cons, dropEndWhile_cons, dropEndWhile_cons, ih, List.isEmpty_map,
      apply_ite (List.map f)]
    rfl

theorem trim_map_toLower (cs : List Char) : trim (cs.map Char.toLower) = (trim cs).map Char.toLower := by
  have hblank : isBlank ∘ Char.toLower = isBlank := funext isBlank_toLower
  rw [trim, trim, List.dropWhile_map, dropEndWhile_map, hblank]

end Text

/-! ## The names of values -/

/-- **The bindings do not see the case of letters in names.** The two tables are built side by side and
are equal at every step. -/
theorem NameTable.ofPairs_eq {pairs pairs' : List (String × String)}
    (h : List.Forall₂ (fun p p' => Text.SameLetters p.1 p'.1 ∧ p.2 = p'.2) pairs pairs') :
    (ofPairs pairs : Bindings) = ofPairs pairs' := by
  refine List.rel_foldl (P := Eq) ?_ rfl h
  rintro t _ rfl p p' ⟨hname, hvalue⟩
  show NameTable.insert t p.1 p.2 = NameTable.insert t p'.1 p'.2
  rw [insert, insert, Text.lowercase_eq hname, hvalue]

/-! ## Words -/

theorem Keyword.SpeltBy.of_sameLetters {k : Keyword} {w w' : String} (h : k.SpeltBy w)
    (hw : Text.SameLetters w w') : k.SpeltBy w' := by
  rw [SpeltBy, ← Text.map_eq_of_sameLetters (by decide) hw]
  exact h

theorem Keyword.ofWord?_eq_of_sameLetters {w w' : String} (hw : Text.SameLetters w w') :
    ofWord? w = ofWord? w' := by
  apply Option.ext
  intro k
  rw [ofWord?_eq_some_iff, ofWord?_eq_some_iff]
  exact ⟨fun h => h.of_sameLetters hw, fun h => h.of_sameLetters hw.symm⟩

/-- **A field name stays one in other letters**: no keyword, and the same kinds of characters in the same
places. -/
theorem isFieldName_of_sameLetters {w w' : String} (h : isFieldName w = true)
    (hw : Text.SameLetters w w') : isFieldName w' = true := by
  have hstart := Text.map_eq_of_sameLetters (f := isFieldStart) (by decide +kernel) hw
  have hrest := Text.map_eq_of_sameLetters (f := isFieldRest) (by decide +kernel) hw
  unfold isFieldName at h ⊢
  rw [← Keyword.ofWord?_eq_of_sameLetters hw]
  -- neither word is empty, since they are of one length
  cases hcs : w.toList with
  | nil => simp [hcs] at h
  | cons c cs =>
    cases hcs' : w'.toList with
    | nil => simp [hcs, hcs'] at hstart
    | cons c' cs' =>
      simp only [hcs, hcs', List.map_cons, List.cons.injEq] at h hstart hrest ⊢
      have hall : cs'.all isFieldRest = cs.all isFieldRest := by
        have hmap := congrArg (List.all · id) hrest.2
        simpa only [List.all_map, Function.id_comp] using hmap.symm
      rw [← hstart.1, hall]
      exact h

/-- Digits have no case. -/
theorem toLower_of_isDigit {s : String} (h : ∀ c ∈ s.toList, c.isDigit = true) : s.toLower = s := by
  have hcapitals : Text.capitals.all (fun c => !c.isDigit) = true := by decide
  apply String.toList_inj.mp
  rw [Text.toList_toLower]
  refine (List.map_congr_left fun c hc => ?_).trans (List.map_id _)
  -- no capital is a digit
  rcases Text.toLower_eq_self_or_mem c with hself | hmem
  · exact hself
  · exact absurd (h c hc) (by simpa using List.all_eq_true.mp hcapitals c hmem)

theorem eq_numeral_of_sameLetters {n : UInt32} {w : String}
    (hw : Text.SameLetters (Text.Numeral.text n) w) : w = Text.Numeral.text n := by
  -- the other word has digits in the same places, and so it has no letters
  have hdigits : ∀ c ∈ w.toList, c.isDigit = true := by
    intro c hc
    have hmap := Text.map_eq_of_sameLetters (f := Char.isDigit) (by decide) hw
    obtain ⟨d, hd, hcd⟩ := List.mem_map.mp (hmap ▸ List.mem_map_of_mem hc)
    rw [← hcd]
    exact Text.Numeral.isDigit_of_mem_text hd
  calc w = w.toLower := (toLower_of_isDigit hdigits).symm
    _ = (Text.Numeral.text n).toLower := hw.symm
    _ = Text.Numeral.text n := toLower_of_isDigit fun c hc => Text.Numeral.isDigit_of_mem_text hc

/-! ## The scan -/

namespace Lexeme

def Kind.toLower : Kind → Kind
  | placeholder name => placeholder name.toLower
  | word w => word w.toLower
  | kind => kind

def toLower (lexeme : Lexeme) : Lexeme := ⟨lexeme.kind.toLower, lexeme.position⟩

theorem isWordChar_toLower (c : Char) : isWordChar c.toLower = isWordChar c :=
  Text.apply_toLower (by decide +kernel) c

theorem not_mem_map_toLower {cs : List Char} (h : '>' ∉ cs) : '>' ∉ cs.map Char.toLower := by
  intro hmem
  obtain ⟨c, hc, hlower⟩ := List.mem_map.mp hmem
  rw [Text.toLower_eq_iff (by decide) (by decide)] at hlower
  exact h (hlower ▸ hc)

/-- Small letters take as many bytes, so all positions stay where they are. -/
theorem byteLength_map_toLower (cs : List Char) : byteLength (cs.map Char.toLower) = byteLength cs := by
  induction cs with
  | nil => rfl
  | cons c cs ih =>
    have hcons : ∀ (d : Char) (ds : List Char), byteLength (d :: ds) = d.utf8Size + byteLength ds :=
      fun _ _ => rfl
    rw [List.map_cons, hcons, hcons, Text.utf8Size_toLower, ih]

theorem Kind.Written.toLower {kind : Kind} {text : List Char} (h : kind.Written text) :
    kind.toLower.Written (text.map Char.toLower) := by
  cases h with
  | opening => exact .opening
  | closing => exact .closing
  | @placeholder body hbody hname =>
    have hwritten : (Kind.placeholder (String.ofList (Text.trim (body.map Char.toLower)))).Written
        ('<' :: (body.map Char.toLower ++ ['>'])) := by
      refine .placeholder (not_mem_map_toLower hbody) ?_
      rwa [Text.trim_map_toLower, ne_eq, List.map_eq_nil_iff]
    rw [Text.trim_map_toLower, ← Text.toLower_ofList] at hwritten
    rw [List.map_cons, List.map_append]
    exact hwritten
  | word hne hchars =>
    have hwritten : (Kind.word (String.ofList (text.map Char.toLower))).Written
        (text.map Char.toLower) := by
      refine .word (by simpa using hne) ?_
      intro c hc
      obtain ⟨d, hd, rfl⟩ := List.mem_map.mp hc
      rw [← isWordChar_iff_not_mem, isWordChar_toLower, isWordChar_iff_not_mem]
      exact hchars d hd
    rw [← Text.toLower_ofList] at hwritten
    exact hwritten

theorem Kind.EndsBefore.toLower {kind : Kind} {rest : List Char} (h : kind.EndsBefore rest) :
    kind.toLower.EndsBefore (rest.map Char.toLower) := by
  intro hword c hc
  rw [List.head?_map] at hc
  obtain ⟨d, hd, rfl⟩ := Option.map_eq_some_iff.mp hc
  rw [isWordChar_toLower]
  cases kind with
  | word w => exact h rfl d hd
  | _ => cases hword

/-- **A text in small letters falls into the same lexemes in small letters**, at the same positions. The
induction is on the lexemes and the blanks between them. -/
theorem Splits.toLower {pos : Nat} {cs : List Char} {lexemes : List Lexeme} (h : Splits pos cs lexemes) :
    Splits pos (cs.map Char.toLower) (lexemes.map Lexeme.toLower) := by
  refine h.lexemeRec (motive := fun pos cs lexemes =>
    Splits pos (cs.map Char.toLower) (lexemes.map Lexeme.toLower)) ?nil ?blank ?lexeme
  case nil => exact fun _ => .nil
  case blank =>
    intro pos c cs lexemes hblank ih
    refine .blank ((Text.isBlank_toLower c).trans hblank) ?_
    rwa [Text.utf8Size_toLower]
  case lexeme =>
    intro pos kind text cs lexemes hwritten hend _ ih
    rw [← byteLength_map_toLower text] at ih
    rw [List.map_append]
    exact .lexeme hwritten.toLower hend.toLower ih

/-- Where a text cannot be scanned on, small letters do not help. -/
theorem Stuck.toLower {cs : List Char} {cause : Fault.Cause} (h : Stuck cs cause) :
    Stuck (cs.map Char.toLower) cause := by
  cases h with
  | unterminated h => exact .unterminated (not_mem_map_toLower h)
  | @empty body cs hbody hname =>
    rw [List.map_cons, List.map_append]
    refine .empty (not_mem_map_toLower hbody) ?_
    rw [Text.trim_map_toLower, hname]
    rfl
  | unexpected => exact .unexpected

theorem StopsAt.toLower {pos : Nat} {cs : List Char} {fault : Fault} (h : StopsAt pos cs fault) :
    StopsAt pos (cs.map Char.toLower) fault := by
  obtain ⟨before, rest, lexemes, rfl, hsplits, hstuck, hpos⟩ := h
  refine ⟨_, _, _, List.map_append, hsplits.toLower, hstuck.toLower, ?_⟩
  rw [hpos, byteLength_map_toLower]

/-- **The scan does not look at the case of letters.** Both of its results are characterised by the text
alone, and both characterisations carry over. -/
theorem scan_toLower (template : String) :
    scan template.toLower = (scan template).map (List.map Lexeme.toLower) := by
  unfold scan
  rw [Text.toList_toLower]
  cases hscan : scanFrom 0 template.toList with
  | ok lexemes => exact (scanFrom_eq_ok_iff.mp hscan).toLower.scanFrom_eq
  | error fault => exact (scanFrom_eq_error_iff.mp hscan).toLower.scanFrom_eq

/-- Two lexemes that differ in the case of letters only. -/
inductive Kind.SameLetters : Kind → Kind → Prop where
  | opening : SameLetters .opening .opening
  | closing : SameLetters .closing .closing
  | placeholder {name name' : String} (letters : Text.SameLetters name name') :
      SameLetters (.placeholder name) (.placeholder name')
  | word {w w' : String} (letters : Text.SameLetters w w') : SameLetters (.word w) (.word w')

/-- Lexemes that are one in small letters are of one constructor, and their texts have the same letters.
From here on the grammar is followed by cases on `Kind.SameLetters`, and `Kind.toLower` is not opened
any more. -/
theorem Kind.sameLetters_of_toLower {kind kind' : Kind} (h : kind.toLower = kind'.toLower) :
    kind.SameLetters kind' := by
  cases kind <;> cases kind' <;>
    simp only [Kind.toLower, Kind.placeholder.injEq, Kind.word.injEq, reduceCtorEq] at h
  · exact .opening
  · exact .closing
  · exact .placeholder h
  · exact .word h

/-- Two templates with the same letters have lexemes with the same letters. -/
theorem exists_scan_of_sameLetters {template template' : String} {lexemes : List Lexeme}
    (hscan : scan template = .ok lexemes) (h : Text.SameLetters template template') :
    ∃ lexemes', scan template' = .ok lexemes' ∧
      List.Forall₂ Kind.SameLetters (lexemes.map kind) (lexemes'.map kind) := by
  have hlower : (scan template').map (List.map Lexeme.toLower) = .ok (lexemes.map Lexeme.toLower) := by
    rw [← scan_toLower, ← h, scan_toLower, hscan]
    rfl
  cases hscan' : scan template' with
  | error fault =>
    -- small letters would keep the fault
    rw [hscan'] at hlower
    cases hlower
  | ok lexemes' =>
    rw [hscan'] at hlower
    have hsame := forall₂_of_map_eq (Except.ok.inj hlower).symm
    refine ⟨lexemes', rfl, ?_⟩
    rw [List.forall₂_map_left_iff, List.forall₂_map_right_iff]
    exact hsame.imp fun l l' hl => Kind.sameLetters_of_toLower (congrArg kind hl)

end Lexeme

/-! ## The grammar -/

/-- Two clauses that differ in the case of letters only, in the field or the placeholder. -/
structure Clause.SameLetters (c c' : Clause) : Prop where
  occurrence_eq : c.occurrence? = c'.occurrence?
  field : Text.SameLetters c.field c'.field
  placeholder : Text.SameLetters c.placeholder c'.placeholder
  decorations_eq : c.decorations = c'.decorations

structure Group.SameLetters (g g' : Group) : Prop where
  occurrence_eq : g.occurrence? = g'.occurrence?
  clauses : List.Forall₂ Clause.SameLetters g.clauses g'.clauses

section Spelling

open Lexeme

variable {ks ks' : List Kind}

/-- A word alone. A keyword without a number is spelt by one. -/
theorem exists_word_of_sameLetters {w : String} (h : List.Forall₂ Kind.SameLetters [.word w] ks') :
    ∃ w', ks' = [.word w'] ∧ Text.SameLetters w w' := by
  cases h with
  | cons hkind hrest =>
    cases hkind with
    | @word _ w' hw =>
      cases hrest
      exact ⟨w', rfl, hw⟩

theorem Occurrence.Spelt.of_sameLetters {o? : Option Occurrence} (h : Occurrence.Spelt o? ks)
    (hks : List.Forall₂ Kind.SameLetters ks ks') : Occurrence.Spelt o? ks' := by
  cases h with
  | none =>
    cases hks
    exact .none
  | some hword =>
    obtain ⟨w', rfl, hw⟩ := exists_word_of_sameLetters hks
    exact .some (hword.of_sameLetters hw)

/-- The keyword of a decoration may be in another case, and its number has none. -/
theorem Decoration.Spelt.of_sameLetters {d : Decoration} (h : d.Spelt ks)
    (hks : List.Forall₂ Kind.SameLetters ks ks') : d.Spelt ks' := by
  cases h with
  | weight hword =>
    cases hks with
    | cons hkind hnumber =>
      cases hkind with
      | word hw =>
        obtain ⟨n', rfl, hn⟩ := exists_word_of_sameLetters hnumber
        obtain rfl := eq_numeral_of_sameLetters hn
        exact .weight (hword.of_sameLetters hw)
  | wildcard hword =>
    obtain ⟨w', rfl, hw⟩ := exists_word_of_sameLetters hks
    exact .wildcard (hword.of_sameLetters hw)
  | constant hword =>
    obtain ⟨w', rfl, hw⟩ := exists_word_of_sameLetters hks
    exact .constant (hword.of_sameLetters hw)

/-- If lexemes in other letters spell items in other letters, they spell lists of them. The induction is
on the list of items; the lexemes of the first one are split off. -/
theorem SpeltList.exists_of_sameLetters {α : Type} {Spelt : α → List Kind → Prop} {R : α → α → Prop}
    (hitem : ∀ {a ks ks'}, Spelt a ks → List.Forall₂ Kind.SameLetters ks ks' →
      ∃ a', R a a' ∧ Spelt a' ks') {as : List α} (h : SpeltList Spelt as ks)
    (hks : List.Forall₂ Kind.SameLetters ks ks') :
    ∃ as', List.Forall₂ R as as' ∧ SpeltList Spelt as' ks' := by
  induction h generalizing ks' with
  | nil =>
    cases hks
    exact ⟨[], .nil, .nil⟩
  | cons head _ ih =>
    obtain ⟨front, rest, rfl, hfront, hrest⟩ := exists_append_of_forall₂ hks
    obtain ⟨a', ha, hhead⟩ := hitem head hfront
    obtain ⟨as', has, htail⟩ := ih hrest
    exact ⟨a' :: as', .cons ha has, .cons hhead htail⟩

/-- **A clause in other letters.** Its occurrence and its decorations are the same, because keywords and
numbers are; its field and its placeholder may differ. -/
theorem Clause.Spelt.exists_sameLetters {c : Clause} (h : c.Spelt ks)
    (hks : List.Forall₂ Kind.SameLetters ks ks') : ∃ c', c.SameLetters c' ∧ c'.Spelt ks' := by
  obtain ⟨o?, field, name, ds⟩ := c
  cases h with
  | intro ho hfield hds =>
    -- occurrence, field, placeholder and decorations, each found again in the other lexemes
    obtain ⟨os', rest, rfl, hos, hrest⟩ := exists_append_of_forall₂ hks
    cases hrest with
    | cons hkind hrest =>
      cases hkind with
      | @word _ field' hfields =>
        cases hrest with
        | cons hkind hrest =>
          cases hkind with
          | @placeholder _ name' hnames =>
            obtain ⟨ds', hsame, hds'⟩ := hds.exists_of_sameLetters (R := Eq)
              (fun {d _ _} hd hks => ⟨d, rfl, hd.of_sameLetters hks⟩) hrest
            rw [List.forall₂_eq_eq_eq] at hsame
            subst hsame
            exact ⟨⟨o?, field', name', _⟩, ⟨rfl, hfields, hnames, rfl⟩,
              .intro (ho.of_sameLetters hos) (isFieldName_of_sameLetters hfield hfields) hds'⟩

/-- **A group in other letters**, clause by clause. It still has a clause, as a group must. -/
theorem Group.Spelt.exists_sameLetters {g : Group} (h : g.Spelt ks)
    (hks : List.Forall₂ Kind.SameLetters ks ks') : ∃ g', g.SameLetters g' ∧ g'.Spelt ks' := by
  obtain ⟨o?, clauses⟩ := g
  cases h with
  | intro ho hne hclauses =>
    -- both parentheses are split off first, and what is between them spells the clauses
    obtain ⟨front, close, rfl, hfront, _ | ⟨⟨⟩, ⟨⟩⟩⟩ := exists_append_of_forall₂ hks
    obtain ⟨os', rest, rfl, hos, _ | ⟨⟨⟩, hbody⟩⟩ := exists_append_of_forall₂ hfront
    obtain ⟨clauses', hsame, hclauses'⟩ :=
      hclauses.exists_of_sameLetters Clause.Spelt.exists_sameLetters hbody
    refine ⟨⟨o?, clauses'⟩, ⟨rfl, hsame⟩, .intro (ho.of_sameLetters hos) ?_ hclauses'⟩
    rintro rfl
    exact hne (List.forall₂_nil_right_iff.mp hsame)

end Spelling

/-- **A template in other letters is read as groups in other letters.** The lexemes are found again by the
scan, and the groups by the grammar. -/
theorem exists_compile_of_sameLetters {template template' : String} {t : Template}
    (h : (Template.compile template).value = .ok t) (hletters : Text.SameLetters template template') :
    ∃ gs gs', t.tokens = Group.listTokens gs ∧
      (Template.compile template').value = .ok ⟨Group.listTokens gs'⟩ ∧
      List.Forall₂ Group.SameLetters gs gs' := by
  rw [compile_eq_ok_iff] at h
  obtain ⟨lexemes, gs, hscan, ⟨hne, hspelt⟩, htokens⟩ :=
    exists_spellTemplate_of_ofText (congrArg Reading.fault? h)
  obtain ⟨lexemes', hscan', hkinds⟩ := Lexeme.exists_scan_of_sameLetters hscan hletters
  obtain ⟨gs', hsame, hspelt'⟩ := hspelt.exists_of_sameLetters Group.Spelt.exists_sameLetters hkinds
  -- no group is lost
  have hne' : gs' ≠ [] := by
    rintro rfl
    exact hne (List.forall₂_nil_right_iff.mp hsame)
  refine ⟨gs, gs', ?_, ?_, hsame⟩
  · rw [← htokens, h]
  · exact compile_eq_ok_iff.mpr (ofText_of_spellTemplate hscan' ⟨hne', hspelt'⟩)

/-! ## Queries -/

/-- What a query shows of a clause in other letters is the same: its field, and its placeholder if that is
the value. -/
structure Clause.KeepsShown (c c' : Clause) : Prop where
  field_eq : c.field = c'.field
  placeholder_eq : c.IsConstant → c.placeholder = c'.placeholder

namespace Clause.SameLetters

variable {c c' : Clause}

theorem effect_eq (h : c.SameLetters c') : c.effect = c'.effect := by
  unfold effect traits
  rw [h.decorations_eq]

/-- The value is looked up under the lower-case form of the placeholder. Only a constant shows the
placeholder itself. -/
theorem resolve_eq (h : c.SameLetters c') (hshown : c.KeepsShown c') (bindings : Bindings) :
    c.resolve bindings = c'.resolve bindings := by
  rw [Clause.resolve_eq, Clause.resolve_eq, ← h.effect_eq]
  -- a constant does not look anything up
  by_cases hconstant : c.IsConstant
  · rw [hshown.placeholder_eq hconstant]
  · have hlookedUp : c.effect.constant = false := by
      rw [constant_effect, constant_traits, decide_eq_false hconstant]
    rw [bindings.get?_eq_of_fold (Text.lowercase_eq h.placeholder), hlookedUp]
    rfl

/-- Of the clause itself, a query shows the occurrence, the field and the effect of the decorations. -/
theorem fill_eq (h : c.SameLetters c') (hshown : c.KeepsShown c') : c.fill = c'.fill := by
  funext value
  rw [Clause.fill_eq, Clause.fill_eq, h.effect_eq, h.occurrence_eq, hshown.field_eq]

end Clause.SameLetters

/-- Groups in other letters are judged alike if they show the same. -/
theorem Group.SameLetters.judge_eq {g g' : Group} (h : g.SameLetters g')
    (hshown : List.Forall₂ Clause.KeepsShown g.clauses g'.clauses) (bindings : Bindings)
    (options : Options) : g.judge bindings options = g'.judge bindings options := by
  refine judge_eq_of_clauses h.occurrence_eq ((forall₂_and h.clauses hshown).imp ?_)
  rintro c c' ⟨hc, hshown⟩
  exact ⟨hc.resolve_eq hshown bindings, hc.fill_eq hshown⟩

/-! ## The headline -/

/-- **The case of ASCII letters does not matter to a look-up.** Pairs whose names differ in it make the same
bindings, and the same queries with every list of tokens. A template that compiles still does when letters
are written in the other case, and gives the same groups up to this. If the fields and the placeholders of
constants are as they were, it renders, under all bindings and options, to the same query. -/
theorem letter_case_ignored :
    (∀ pairs pairs' : List (String × String),
      List.Forall₂ (fun p p' => Text.SameLetters p.1 p'.1 ∧ p.2 = p'.2) pairs pairs' →
      (NameTable.ofPairs pairs : Bindings) = NameTable.ofPairs pairs' ∧
      ∀ tokens options,
        render tokens (.ofPairs pairs) options = render tokens (.ofPairs pairs') options) ∧
    ∀ (template template' : String) (t : Template), (Template.compile template).value = .ok t →
      Text.SameLetters template template' →
      ∃ gs gs', t.tokens = Group.listTokens gs ∧
        (Template.compile template').value = .ok ⟨Group.listTokens gs'⟩ ∧
        List.Forall₂ Group.SameLetters gs gs' ∧
        (List.Forall₂ (fun g g' => List.Forall₂ Clause.KeepsShown g.clauses g'.clauses) gs gs' →
          ∀ bindings options,
            render t.tokens bindings options = render (Group.listTokens gs') bindings options) := by
  refine ⟨fun pairs pairs' hpairs => ?_, fun template template' t hcompile hletters => ?_⟩
  · have hbindings := NameTable.ofPairs_eq hpairs
    exact ⟨hbindings, fun tokens options => by rw [hbindings]⟩
  · obtain ⟨gs, gs', htokens, hcompile', hsame⟩ := exists_compile_of_sameLetters hcompile hletters
    refine ⟨gs, gs', htokens, hcompile', hsame, fun hshown bindings options => ?_⟩
    rw [htokens]
    refine render_eq_of_judge ((forall₂_and hsame hshown).imp ?_)
    rintro g g' ⟨hg, hshown⟩
    exact hg.judge_eq hshown bindings options

/-- Capital sigmas between letters in either case, in the name of a value and in a placeholder, beside a
constant that stays as it is. -/
theorem letter_case_ignored_sigma :
    (NameTable.ofPairs [("ΑaΣ", "v"), ("aΣb", "w")] : Bindings)
        = NameTable.ofPairs [("ΑAΣ", "v"), ("AΣB", "w")] ∧
      ∀ bindings options,
        render [.groupOpen, .field "f", .placeholder "aΣb", .field "g", .placeholder "K",
            .decoration .constant, .groupClose] bindings options
          = render [.groupOpen, .field "f", .placeholder "AΣb", .field "g", .placeholder "K",
            .decoration .constant, .groupClose] bindings options := by
  obtain ⟨hpairs, htemplates⟩ := letter_case_ignored
  refine ⟨(hpairs _ _ (.cons (by decide +kernel) (.cons (by decide +kernel) .nil))).1, ?_⟩
  have hcompile : (Template.compile "(f <aΣb> g <K> CONSTANT)").value
      = .ok ⟨Group.listTokens [⟨none, [⟨none, "f", "aΣb", []⟩, ⟨none, "g", "K", [.constant]⟩]⟩]⟩ :=
    compile_eq_ok_iff.mpr (by decide +kernel)
  have hcompile' : (Template.compile "(f <AΣb> g <K> constant)").value
      = .ok ⟨Group.listTokens [⟨none, [⟨none, "f", "AΣb", []⟩, ⟨none, "g", "K", [.constant]⟩]⟩]⟩ :=
    compile_eq_ok_iff.mpr (by decide +kernel)
  obtain ⟨gs, gs', htokens, hrecompile, -, hrender⟩ :=
    htemplates _ "(f <AΣb> g <K> constant)" _ hcompile (by decide +kernel)
  have htokens' := Except.ok.inj (hcompile'.symm.trans hrecompile)
  obtain rfl := listTokens_injective htokens
  obtain rfl := listTokens_injective (Template.mk.inj htokens')
  exact hrender (.cons (.cons ⟨rfl, by decide⟩ (.cons ⟨rfl, by decide⟩ .nil)) .nil)

end QueryTemplate
