import QueryTemplate.Proofs.Derivation
import QueryTemplate.Proofs.Relocation
import QueryTemplate.Proofs.Rendering

/-!
# Templates one behind the other

A template that is read without a fault ends with a group, and behind a group the reader is where it
started. So whatever is written behind such a template is read as if it stood alone, and only the
positions of its faults count the bytes in front of it.

* `Lexeme.scan_append_of_ok`, `Lexeme.scan_append_of_error` — the scan goes on behind the parenthesis
  that groups end with (`getLast?_kinds`),
* `Reading.ofText_append` — the reader goes on behind the last group,
* **`reading_appends`** — the headline: the reading of two templates written together, for every second
  template, and the query of both.
-/

namespace QueryTemplate

/-! ## The seam -/

theorem Group.Spelt.getLast?_kinds {g : Group} {ks : List Lexeme.Kind} (h : g.Spelt ks) :
    ks.getLast? = some .closing := by
  cases h
  exact List.getLast?_concat ..

/-- **Groups end with a parenthesis**, so nothing behind them can belong to their last lexeme. The
induction is on the groups; the last one decides. -/
theorem getLast?_kinds {gs : List Group} {ks : List Lexeme.Kind} (h : SpeltList Group.Spelt gs ks) :
    ∀ k ∈ ks.getLast?, k = .closing := by
  induction h with
  | nil => simp
  | @cons g gs ks rest hg _ ih =>
    intro k hk
    rw [List.getLast?_append, hg.getLast?_kinds] at hk
    cases hrest : rest.getLast? with
    -- no more groups: the last lexeme is that of this one
    | none => simpa [hrest] using hk.symm
    | some last =>
      obtain rfl : last = k := by simpa [hrest] using hk
      exact ih last hrest

namespace Lexeme

/-- Whatever stands behind groups, their last lexeme ends there. -/
theorem endsBefore_of_spelt {gs : List Group} {lexemes : List Lexeme}
    (h : SpeltList Group.Spelt gs (lexemes.map kind)) (rest : List Char) :
    ∀ l ∈ lexemes.getLast?, l.kind.EndsBefore rest := by
  intro l hl
  have hkind : l.kind = .closing :=
    getLast?_kinds h l.kind (by rw [List.getLast?_map, Option.mem_def.mp hl]; rfl)
  rw [hkind]
  exact .of_not_isWord rfl rest

variable {t₁ t₂ : String} {lexemes₁ : List Lexeme} {gs : List Group}

/-- **The scan goes on behind groups** with what it would find in the second text if that began at this
offset. -/
theorem scan_append (hscan : scan t₁ = .ok lexemes₁)
    (hspelt : SpeltList Group.Spelt gs (lexemes₁.map kind)) :
    scan (t₁ ++ t₂) = (scanFrom t₁.utf8ByteSize t₂.toList).map (lexemes₁ ++ ·) := by
  have hsplits := scanFrom_eq_ok_iff.mp hscan
  rw [scan, String.toList_append, hsplits.scanFrom_append _ (endsBefore_of_spelt hspelt _),
    byteLength_toList, Nat.zero_add]

/-- The lexemes of two texts: those of the second one move on by the size of the first. -/
theorem scan_append_of_ok {lexemes₂ : List Lexeme} (hscan₁ : scan t₁ = .ok lexemes₁)
    (hspelt : SpeltList Group.Spelt gs (lexemes₁.map kind)) (hscan₂ : scan t₂ = .ok lexemes₂) :
    scan (t₁ ++ t₂) = .ok (lexemes₁ ++ lexemes₂.map (relocate (· + t₁.utf8ByteSize))) := by
  have hshift := (scanFrom_eq_ok_iff.mp hscan₂).shift t₁.utf8ByteSize
  rw [Nat.zero_add] at hshift
  rw [scan_append hscan₁ hspelt, hshift.scanFrom_eq]
  rfl

/-- A fault of the second text moves on in the same way, and the lexemes of the first one are lost. -/
theorem scan_append_of_error {fault : Fault} (hscan₁ : scan t₁ = .ok lexemes₁)
    (hspelt : SpeltList Group.Spelt gs (lexemes₁.map kind)) (hscan₂ : scan t₂ = .error fault) :
    scan (t₁ ++ t₂) = .error (fault.relocate (· + t₁.utf8ByteSize)) := by
  have hshift := (scanFrom_eq_error_iff.mp hscan₂).shift t₁.utf8ByteSize
  rw [Nat.zero_add] at hshift
  rw [scan_append hscan₁ hspelt, hshift.scanFrom_eq]
  rfl

theorem scan_of_isBlankText {t : String} (h : Text.isBlankText t = true) : scan t = .ok [] := by
  have hsplits : Splits 0 (t.toList ++ []) [] := .blanks (List.all_eq_true.mp h) .nil
  rw [List.append_nil] at hsplits
  exact hsplits.scanFrom_eq

end Lexeme

/-! ## The reader behind the seam -/

/-- A text with a lexeme is read from outside; only a text without one is refused as empty before that. -/
theorem Reading.ofText_eq_read {t : String} {lexemes : List Lexeme}
    (hscan : Lexeme.scan t = .ok lexemes) (hne : lexemes ≠ []) :
    ofText t = Place.outside.read t.utf8ByteSize lexemes := by
  obtain ⟨l, ls, rfl⟩ := List.exists_cons_of_ne_nil hne
  rw [ofText, hscan]
  rfl

/-- **The reader goes on behind the last group.** It does there what it does with the second template
alone, at positions that count the first one. -/
theorem Reading.ofText_append {t₁ t₂ : String} {lexemes₁ lexemes₂ : List Lexeme} {gs : List Group}
    (hscan₁ : Lexeme.scan t₁ = .ok lexemes₁)
    (hspell : Group.SpellTemplate gs (lexemes₁.map Lexeme.kind))
    (hscan₂ : Lexeme.scan t₂ = .ok lexemes₂) :
    ofText (t₁ ++ t₂) = ((Place.outside.read t₂.utf8ByteSize lexemes₂).relocate
      (· + t₁.utf8ByteSize)).prepend (Group.listTokens gs) := by
  rw [← Place.read_relocate, ofText, Lexeme.scan_append_of_ok hscan₁ hspell.2 hscan₂]
  simp only
  rw [ofLexemes_append hspell, String.utf8ByteSize_append, Nat.add_comm]
  rfl

/-! ## The headline -/

/-- **What stands behind a template is read as if it stood alone.** Let the first template be read
without a fault. If the second has a lexeme, its tokens follow, and its fault moves on by the bytes in
front of it. If its scan fails, so does the scan of both. If it is blank, it changes nothing. If it is
read without a fault too, the query of both is made of the two queries. -/
theorem reading_appends (t₁ t₂ : String) (h : (Reading.ofText t₁).succeeds = true) :
    (∀ lexemes, Lexeme.scan t₂ = .ok lexemes → lexemes ≠ [] →
      (Reading.ofText (t₁ ++ t₂)).succeeds = (Reading.ofText t₂).succeeds ∧
      (Reading.ofText (t₁ ++ t₂)).tokens
        = (Reading.ofText t₁).tokens ++ (Reading.ofText t₂).tokens ∧
      (Reading.ofText (t₁ ++ t₂)).fault?
        = (Reading.ofText t₂).fault?.map (Fault.relocate (· + t₁.utf8ByteSize))) ∧
    (∀ fault, Lexeme.scan t₂ = .error fault →
      Lexeme.scan (t₁ ++ t₂) = .error (fault.relocate (· + t₁.utf8ByteSize)) ∧
      Reading.ofText (t₁ ++ t₂) = ⟨[], some (fault.relocate (· + t₁.utf8ByteSize))⟩) ∧
    (Text.isBlankText t₂ = true → Reading.ofText (t₁ ++ t₂) = Reading.ofText t₁) ∧
    ((Reading.ofText t₂).succeeds = true → ∀ bindings options, ∃ q₁ q₂,
      (render (Reading.ofText t₁).tokens bindings options).value = .ok q₁ ∧
      (render (Reading.ofText t₂).tokens bindings options).value = .ok q₂ ∧
      (render (Reading.ofText (t₁ ++ t₂)).tokens bindings options).value
        = .ok (Query.joinTexts q₁ q₂)) := by
  rw [Reading.succeeds, Option.isNone_iff_eq_none] at h
  obtain ⟨lexemes₁, gs, hscan₁, hspell, htokens⟩ := exists_spellTemplate_of_ofText h
  refine ⟨?_, ?_, ?_, ?_⟩
  · intro lexemes₂ hscan₂ hne
    rw [Reading.ofText_append hscan₁ hspell hscan₂, ← Reading.ofText_eq_read hscan₂ hne, htokens]
    exact ⟨Option.isNone_map, rfl, rfl⟩
  · intro fault hscan₂
    have hscan := Lexeme.scan_append_of_error hscan₁ hspell.2 hscan₂
    refine ⟨hscan, ?_⟩
    rw [Reading.ofText, hscan]
  · intro hblank
    have hscan₂ := Lexeme.scan_of_isBlankText hblank
    rw [Reading.ofText_append hscan₁ hspell hscan₂, ofText_of_spellTemplate hscan₁ hspell]
    simp [Reading.prepend, Reading.relocate, Place.read, Place.missing?]
  · intro hsucceeds bindings options
    rw [Reading.succeeds, Option.isNone_iff_eq_none] at hsucceeds
    obtain ⟨lexemes₂, gs', hscan₂, hspell', htokens'⟩ := exists_spellTemplate_of_ofText hsucceeds
    have hne : lexemes₂ ≠ [] := by
      rintro rfl
      exact hspell'.1 (eq_nil_of_speltList hspell'.2 rfl)
    -- two lists of groups one behind the other are read, and so the two queries are put together
    have hboth : (Reading.ofText (t₁ ++ t₂)).tokens = Group.listTokens (gs ++ gs') := by
      rw [Reading.ofText_append hscan₁ hspell hscan₂, ← Reading.ofText_eq_read hscan₂ hne]
      calc Group.listTokens gs ++ (Reading.ofText t₂).tokens
          = Group.listTokens gs ++ Group.listTokens gs' := by rw [htokens']
        _ = Group.listTokens (gs ++ gs') := List.flatMap_append.symm
    simp only [htokens, htokens', hboth, value_render_listTokens, Rendering.text_ofGroups_append]
    exact ⟨_, _, rfl, rfl, rfl⟩

/-- A template of eight bytes in front of one with a fault, one that cannot be scanned, a blank, and one
that is read without a fault. -/
theorem reading_appends_each_case :
    ((Reading.ofText ("(é <a>)" ++ "(b <c> BOOST x")).tokens
        = [.groupOpen, .field "é", .placeholder "a", .groupClose, .groupOpen, .field "b",
            .placeholder "c"] ∧
      (Reading.ofText ("(é <a>)" ++ "(b <c> BOOST x")).fault? = some ⟨21, .integerExpected .boost⟩) ∧
    Reading.ofText ("(é <a>)" ++ " <") = ⟨[], some ⟨9, .unterminatedPlaceholder⟩⟩ ∧
    Reading.ofText ("(é <a>)" ++ " ") = Reading.ofText "(é <a>)" ∧
    (render (Reading.ofText ("(é <a>)" ++ "(b <c>)")).tokens
        ((NameTable.empty.insert "a" "x").insert "c" "y") ⟨0, "", .skip, true⟩).value
      = .ok "( é:(x) ) ( b:(y) )" := by
  have hfirst : (Reading.ofText "(é <a>)").succeeds = true := by decide +kernel
  refine ⟨?_, ?_, ?_, ?_⟩
  · obtain ⟨-, htokens, hfault⟩ := (reading_appends _ "(b <c> BOOST x" hfirst).1
      [⟨.opening, 0⟩, ⟨.word "b", 1⟩, ⟨.placeholder "c", 3⟩, ⟨.word "BOOST", 7⟩, ⟨.word "x", 13⟩]
      (by decide +kernel) (by simp)
    rw [htokens, hfault]
    decide +kernel
  · exact ((reading_appends _ " <" hfirst).2.1 ⟨1, .unterminatedPlaceholder⟩ (by decide +kernel)).2
  · exact (reading_appends _ " " hfirst).2.2.1 (by decide +kernel)
  · obtain ⟨q₁, q₂, hq₁, hq₂, hboth⟩ := (reading_appends _ "(b <c>)" hfirst).2.2.2 (by decide +kernel)
      ((NameTable.empty.insert "a" "x").insert "c" "y") ⟨0, "", .skip, true⟩
    obtain rfl : "( é:(x) )" = q₁ := Except.ok.inj (.trans (by decide +kernel) hq₁)
    obtain rfl : "( b:(y) )" = q₂ := Except.ok.inj (.trans (by decide +kernel) hq₂)
    rw [hboth]
    decide +kernel

end QueryTemplate
