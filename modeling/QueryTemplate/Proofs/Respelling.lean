import QueryTemplate.Proofs.Concatenation
import QueryTemplate.Proofs.Layout
import QueryTemplate.Proofs.Lists

/-!
# Layout and the case of keywords

A template can be laid out in other ways, and its keywords can be written in another case. The reader
sees neither: of a lexeme it looks at the kind, and of a keyword at what it spells.

* **`Keyword.inCapitals`** — a keyword in the case in which it is printed, and every other word as it is;
  none of the tests on words tells the two apart (`ofWord?_inCapitals`, `isFieldName_inCapitals`,
  `ofChars?_inCapitals`),
* **`Place.step_inCapitals`**, **`Place.read_inCapitals`** — one step, and a whole reading, of lexemes with
  their keywords in capitals,
* **`Reading.ofKinds`** — the reading of lexemes that stand at their own indices. Every reading is that of
  the kinds alone, with each index replaced by a position (`Reading.ofText_eq_relocate`),
* **`reading_ignores_layout_and_case`** — the headline: templates with the same lexemes up to the case of
  keywords are read in the same way, and stop at the same lexeme.
-/

namespace QueryTemplate

/-! ## Words -/

/-- A keyword in capitals, and any other word as it is. -/
def Keyword.inCapitals (word : String) : String :=
  match ofWord? word with
  | some k => k.spelling
  | none => word

namespace Keyword

variable {word : String}

theorem inCapitals_of_none (h : ofWord? word = none) : inCapitals word = word := by
  rw [inCapitals, h]

theorem inCapitals_of_speltBy {k : Keyword} (h : k.SpeltBy word) : inCapitals word = k.spelling := by
  rw [inCapitals, ofWord?_eq_some_iff.mpr h]

/-- **Capitals do not change which keyword a word spells**, if it spells one. -/
theorem ofWord?_inCapitals (word : String) : ofWord? (inCapitals word) = ofWord? word := by
  cases h : ofWord? word with
  | none => rw [inCapitals_of_none h, h]
  | some k =>
    rw [inCapitals_of_speltBy (ofWord?_eq_some_iff.mp h), ofWord?_eq_some_iff]
    exact k.speltBy_spelling

end Keyword

theorem inCapitals_of_isFieldName {word : String} (h : isFieldName word = true) :
    Keyword.inCapitals word = word :=
  Keyword.inCapitals_of_none (ofWord?_of_isFieldName h)

/-- **Capitals do not change whether a word names a field.** Only keywords change, and they never do. -/
theorem isFieldName_inCapitals (word : String) :
    isFieldName (Keyword.inCapitals word) = isFieldName word := by
  cases h : Keyword.ofWord? word with
  | none => rw [Keyword.inCapitals_of_none h]
  | some k =>
    -- a keyword is no field name, in whatever case
    have hno : ∀ w, Keyword.ofWord? w = some k → isFieldName w = false := by
      intro w hw
      apply Bool.eq_false_iff.mpr
      intro hfield
      rw [ofWord?_of_isFieldName hfield] at hw
      cases hw
    rw [hno word h, hno _ (by rw [Keyword.ofWord?_inCapitals, h])]

/-- A digit has no other case. There are ten of them, and each is checked. -/
theorem toUpper_of_isDigit {c : Char} (h : c.isDigit = true) : c.toUpper = c := by
  obtain ⟨hlt, hchar⟩ := Text.Numeral.digitChar_toNat_sub h
  have hall : ∀ d < 10, d.digitChar.toUpper = d.digitChar := by decide
  rw [← hchar]
  exact hall _ hlt

/-- A keyword is no numeral, in whatever case, so that a number is never lost to a change of case. -/
theorem ofChars?_of_speltBy {k : Keyword} {word : String} (h : k.SpeltBy word) :
    Text.Numeral.ofChars? word.toList = none := by
  have hall : ∀ k ∈ Keyword.all, Text.Numeral.ofChars? k.spelling.toList = none := by decide
  cases hn : Text.Numeral.ofChars? word.toList with
  | none => rfl
  | some n =>
    -- the digits of a numeral have no other case, so the keyword would be one itself
    have hdigits : ∀ c ∈ word.toList, c.toUpper = c := by
      intro c hc
      rw [Text.Numeral.ofChars?_eq_some_iff.mp hn] at hc
      exact toUpper_of_isDigit (Text.Numeral.isDigit_of_mem_text hc)
    have hspelling : word.toList = k.spelling.toList := by
      rw [← h, List.map_congr_left hdigits, List.map_id']
    rw [hspelling, hall k k.mem_all] at hn
    cases hn

/-- **Capitals do not change which number a word writes**, if it writes one. -/
theorem ofChars?_inCapitals (word : String) :
    Text.Numeral.ofChars? (Keyword.inCapitals word).toList = Text.Numeral.ofChars? word.toList := by
  cases h : Keyword.ofWord? word with
  | none => rw [Keyword.inCapitals_of_none h]
  | some k =>
    have hword := Keyword.ofWord?_eq_some_iff.mp h
    rw [Keyword.inCapitals_of_speltBy hword, ofChars?_of_speltBy hword,
      ofChars?_of_speltBy k.speltBy_spelling]

/-! ## Keywords in capitals -/

def Lexeme.Kind.inCapitals : Lexeme.Kind → Lexeme.Kind
  | word w => word (Keyword.inCapitals w)
  | kind => kind

def Lexeme.inCapitals (lexeme : Lexeme) : Lexeme := ⟨lexeme.kind.inCapitals, lexeme.position⟩

/-- Some faults quote a word of the template that may be a keyword. -/
def Fault.Cause.inCapitals : Fault.Cause → Fault.Cause
  | occurrenceOutsideGroup word => occurrenceOutsideGroup (Keyword.inCapitals word)
  | decorationOutsideGroup word => decorationOutsideGroup (Keyword.inCapitals word)
  | fieldNameExpected after => fieldNameExpected (Keyword.inCapitals after)
  | invalidFieldName word => invalidFieldName (Keyword.inCapitals word)
  | cause => cause

def Fault.inCapitals (fault : Fault) : Fault := ⟨fault.position, fault.cause.inCapitals⟩

/-- No capitals make a dangling decoration of another fault, because they only change what a fault
quotes. -/
theorem Fault.isDangling_of_inCapitals {fault fault' : Fault}
    (h : fault.cause.inCapitals = fault'.cause.inCapitals) : fault.isDangling = fault'.isDangling := by
  have hcapitals : ∀ f : Fault, f.isDangling = f.inCapitals.isDangling := by
    rintro ⟨position, cause⟩
    cases cause <;> rfl
  rw [hcapitals fault, hcapitals fault', isDangling, isDangling, inCapitals, inCapitals, h]

/-- The tokens of a reading do not quote keywords. -/
def Reading.inCapitals (reading : Reading) : Reading :=
  ⟨reading.tokens, reading.fault?.map Fault.inCapitals⟩

namespace Place

/-- An occurrence is remembered as it was written, for the fault that may follow. -/
def inCapitals : Place → Place
  | modified word => modified (Keyword.inCapitals word)
  | place => place

def Step.inCapitals : Step → Step
  | .error fault => .error fault.inCapitals
  | .ok (token?, after) => .ok (token?, after.inCapitals)

/-! ## One step of the reader -/

/-- What is missing at the end may quote an occurrence, and then quotes it in capitals. -/
theorem missing?_inCapitals (place : Place) :
    place.inCapitals.missing? = place.missing?.map Fault.Cause.inCapitals := by
  cases place <;> rfl

/-- The name of a field is accepted or refused as before, and a keyword in its place is quoted. -/
theorem stepField_inCapitals (pos : Nat) (word : String) :
    stepField pos (Keyword.inCapitals word) = (stepField pos word).inCapitals := by
  unfold stepField
  rw [isFieldName_inCapitals]
  split
  · next hfield =>
    rw [inCapitals_of_isFieldName hfield]
    rfl
  · rfl

/-- A mark is not quoted at all. -/
theorem stepDecoration_inCapitals (pos : Nat) (filled : Bool) (d : Decoration) :
    stepDecoration pos filled d = (stepDecoration pos filled d).inCapitals := by
  unfold stepDecoration
  split <;> rfl

theorem stepNumber_inCapitals (pos : Nat) (weight : Weight) (dangling : Option Nat) (word : String) :
    stepNumber pos weight dangling (Keyword.inCapitals word)
      = (stepNumber pos weight dangling word).inCapitals := by
  unfold stepNumber
  rw [ofChars?_inCapitals]
  cases dangling <;> cases Text.Numeral.ofChars? word.toList <;> rfl

theorem map_inCapitals_eq_opening_iff {next : Option Lexeme.Kind} :
    next.map Lexeme.Kind.inCapitals = some .opening ↔ next = some .opening := by
  cases next with
  | none => simp
  | some kind => cases kind <;> simp [Lexeme.Kind.inCapitals]

/-- Outside a group the keyword decides, and the next lexeme only as far as it is a parenthesis. -/
theorem stepOutside_inCapitals (pos : Nat) (next : Option Lexeme.Kind) (kind : Lexeme.Kind) :
    stepOutside pos (next.map Lexeme.Kind.inCapitals) kind.inCapitals
      = (stepOutside pos next kind).inCapitals := by
  cases kind with
  | word w =>
    show stepOutside pos _ (.word (Keyword.inCapitals w)) = _
    unfold stepOutside
    simp only [Keyword.ofWord?_inCapitals, map_inCapitals_eq_opening_iff]
    split
    · split <;> rfl
    · rfl
    · next hnone =>
      rw [Keyword.inCapitals_of_none hnone]
      rfl
  | _ => rfl

/-- Inside a group the same holds. An occurrence is remembered as it was written. -/
theorem stepInside_inCapitals (pos : Nat) (next : Option Lexeme.Kind) (filled : Bool)
    (kind : Lexeme.Kind) :
    stepInside pos (next.map Lexeme.Kind.inCapitals) filled kind.inCapitals
      = (stepInside pos next filled kind).inCapitals := by
  cases kind with
  | opening => rfl
  | closing => cases filled <;> rfl
  | placeholder name => rfl
  | word w =>
    show stepInside pos _ filled (.word (Keyword.inCapitals w)) = _
    unfold stepInside
    simp only [Keyword.ofWord?_inCapitals, map_inCapitals_eq_opening_iff]
    split
    · split <;> rfl
    · rfl
    · exact stepDecoration_inCapitals pos filled _
    · exact stepDecoration_inCapitals pos filled _
    · exact stepField_inCapitals pos w

/-- **A step does not look at the case of keywords.** It takes the same branch, and what it quotes or
remembers is in capitals. -/
theorem step_inCapitals (place : Place) (lexeme : Lexeme) (next : Option Lexeme.Kind) :
    place.inCapitals.step lexeme.inCapitals (next.map Lexeme.Kind.inCapitals)
      = (place.step lexeme next).inCapitals := by
  obtain ⟨kind, pos⟩ := lexeme
  cases place with
  | outside => exact stepOutside_inCapitals pos next kind
  | inside filled => exact stepInside_inCapitals pos next filled kind
  | modified after =>
    cases kind with
    | word w => exact stepField_inCapitals pos w
    | _ => rfl
  | named field => cases kind <;> rfl
  | weighted weight dangling =>
    cases kind with
    | word w => exact stepNumber_inCapitals pos weight dangling w
    | _ => rfl

/-- **The reader does not look at the case of keywords.** The induction is on the lexemes, and each step
is `step_inCapitals`. -/
theorem read_inCapitals (place : Place) (stop : Nat) (lexemes : List Lexeme) :
    place.inCapitals.read stop (lexemes.map Lexeme.inCapitals)
      = (place.read stop lexemes).inCapitals := by
  induction lexemes generalizing place with
  | nil =>
    rw [List.map_nil, read, read, missing?_inCapitals]
    cases place.missing? <;> rfl
  | cons lexeme rest ih =>
    have hnext : (rest.map Lexeme.inCapitals).head?.map Lexeme.kind
        = (rest.head?.map Lexeme.kind).map Lexeme.Kind.inCapitals := by
      rw [List.head?_map, Option.map_map, Option.map_map]
      rfl
    rw [List.map_cons, read, read, hnext, step_inCapitals]
    cases place.step lexeme (rest.head?.map Lexeme.kind) with
    | error fault => rfl
    | ok result =>
      obtain ⟨token?, after⟩ := result
      simp only [Step.inCapitals, ih, Reading.inCapitals]

end Place

/-! ## The same lexemes up to the case of keywords -/

namespace Lexeme

/-- The same lexeme, or one keyword in two cases. -/
inductive Kind.Recased : Kind → Kind → Prop where
  | same (kind : Kind) : Recased kind kind
  | keyword {k : Keyword} {w w' : String} (h : k.SpeltBy w) (h' : k.SpeltBy w') :
      Recased (.word w) (.word w')

/-- Lexemes that differ in the case of a keyword are the same in capitals. -/
theorem Kind.Recased.inCapitals_eq {kind kind' : Kind} (h : kind.Recased kind') :
    kind.inCapitals = kind'.inCapitals := by
  cases h with
  | same => rfl
  | keyword h h' =>
    simp only [Kind.inCapitals, Keyword.inCapitals_of_speltBy h, Keyword.inCapitals_of_speltBy h']

end Lexeme

/-! ## Indices in place of positions -/

namespace Lexeme

/-- Lexemes of these kinds, each with its index for a position. -/
def numbered (kinds : List Kind) : List Lexeme := kinds.zipIdx.map fun entry => ⟨entry.1, entry.2⟩

/-- Where the lexeme with index `i` stands, or the end if there is none. -/
def positionAt (lexemes : List Lexeme) (stop i : Nat) : Nat := (lexemes[i]?.map position).getD stop

/-- **Lexemes are their kinds with their positions put back.** An index is a name for a position that does
not depend on the layout. -/
theorem map_relocate_numbered (lexemes : List Lexeme) (stop : Nat) :
    (numbered (lexemes.map kind)).map (relocate (positionAt lexemes stop)) = lexemes := by
  apply List.ext_getElem?
  intro i
  unfold numbered
  simp only [List.getElem?_map, List.getElem?_zipIdx]
  cases h : lexemes[i]? with
  | none => rfl
  | some lexeme =>
    have hposition : positionAt lexemes stop (0 + i) = lexeme.position := by
      rw [Nat.zero_add, positionAt, h]
      rfl
    simp only [Option.map_some, relocate, hposition]

theorem map_inCapitals_numbered (kinds : List Kind) :
    (numbered kinds).map inCapitals = numbered (kinds.map Kind.inCapitals) := by
  unfold numbered
  rw [List.zipIdx_map, List.map_map, List.map_map]
  rfl

/-- An index points into both of two lists of one length, or behind both. -/
theorem positionAt_cases {lexemes lexemes' : List Lexeme} (h : lexemes.length = lexemes'.length)
    (stop stop' i : Nat) :
    (∃ lexeme lexeme', lexemes[i]? = some lexeme ∧ lexemes'[i]? = some lexeme' ∧
      positionAt lexemes stop i = lexeme.position ∧
      positionAt lexemes' stop' i = lexeme'.position) ∨
    positionAt lexemes stop i = stop ∧ positionAt lexemes' stop' i = stop' := by
  by_cases hi : i < lexemes.length
  · have hget := List.getElem?_eq_getElem hi
    have hget' := List.getElem?_eq_getElem (h ▸ hi)
    refine .inl ⟨_, _, hget, hget', ?_, ?_⟩
    · rw [positionAt, hget]
      rfl
    · rw [positionAt, hget']
      rfl
  · have hget : lexemes[i]? = none := List.getElem?_eq_none (by omega)
    have hget' : lexemes'[i]? = none := List.getElem?_eq_none (by omega)
    rw [positionAt, positionAt, hget, hget']
    exact .inr ⟨rfl, rfl⟩

end Lexeme

namespace Reading

/-- The reading of lexemes that stand at their own indices. -/
def ofKinds (kinds : List Lexeme.Kind) : Reading :=
  Place.outside.read kinds.length (Lexeme.numbered kinds)

/-- The reading of kinds in capitals is the reading in capitals. -/
theorem ofKinds_inCapitals (kinds : List Lexeme.Kind) :
    ofKinds (kinds.map Lexeme.Kind.inCapitals) = (ofKinds kinds).inCapitals := by
  unfold ofKinds
  rw [← Lexeme.map_inCapitals_numbered, List.length_map]
  exact Place.read_inCapitals .outside _ _

/-- **The same kinds up to the case of keywords are read in the same way**, with faults at the same
indices. -/
theorem ofKinds_of_recased {kinds kinds' : List Lexeme.Kind}
    (h : List.Forall₂ Lexeme.Kind.Recased kinds kinds') :
    (ofKinds kinds).inCapitals = (ofKinds kinds').inCapitals := by
  have hcapitals : kinds.map Lexeme.Kind.inCapitals = kinds'.map Lexeme.Kind.inCapitals :=
    map_eq_of_forall₂ (fun _ _ hrecased => hrecased.inCapitals_eq) h
  rw [← ofKinds_inCapitals, ← ofKinds_inCapitals, hcapitals]

/-- **A reading depends on the kinds alone**, and its fault points to one of the lexemes or to the end.
The indices of `ofKinds` are turned back into the positions of the text. -/
theorem ofText_eq_relocate {template : String} {lexemes : List Lexeme}
    (hscan : Lexeme.scan template = .ok lexemes) (hne : lexemes ≠ []) :
    ofText template = (ofKinds (lexemes.map Lexeme.kind)).relocate
      (Lexeme.positionAt lexemes template.utf8ByteSize) := by
  -- the index behind the last lexeme stands for the end of the text
  have hstop : Lexeme.positionAt lexemes template.utf8ByteSize (lexemes.map Lexeme.kind).length
      = template.utf8ByteSize := by
    rw [Lexeme.positionAt, List.length_map, List.getElem?_length]
    rfl
  have hread := Place.read_relocate (Lexeme.positionAt lexemes template.utf8ByteSize) .outside
    (lexemes.map Lexeme.kind).length (Lexeme.numbered (lexemes.map Lexeme.kind))
  rw [hstop, Lexeme.map_relocate_numbered] at hread
  rw [ofText_eq_read hscan hne]
  exact hread

/-- A template without lexemes is refused as empty, at its start. -/
theorem ofText_of_scan_nil {template : String} (hscan : Lexeme.scan template = .ok []) :
    ofText template = ⟨[], some ⟨0, .emptyTemplate⟩⟩ := by
  rw [ofText, hscan]
  rfl

/-- Two readings that differ in positions and in the case of keywords succeed together, with the same
tokens. -/
theorem succeeds_relocate {reading reading' : Reading}
    (h : reading.inCapitals = reading'.inCapitals) (f f' : Nat → Nat) :
    (reading.relocate f).succeeds = (reading'.relocate f').succeeds ∧
      (reading.relocate f).tokens = (reading'.relocate f').tokens := by
  have hfault : reading.fault?.isNone = reading'.fault?.isNone := by
    have hmap := congrArg (fun r => r.fault?.isNone) h
    simpa only [inCapitals, Option.isNone_map] using hmap
  have htokens : reading.inCapitals.tokens = reading'.inCapitals.tokens := congrArg Reading.tokens h
  refine ⟨?_, htokens⟩
  simpa only [succeeds, relocate, Option.isNone_map] using hfault

/-- If they fail, their faults had one position before the positions were changed. -/
theorem exists_position_of_relocate {reading reading' : Reading}
    (h : reading.inCapitals = reading'.inCapitals) {f f' : Nat → Nat} {fault fault' : Fault}
    (hfault : (reading.relocate f).fault? = some fault)
    (hfault' : (reading'.relocate f').fault? = some fault') :
    fault.cause.inCapitals = fault'.cause.inCapitals ∧
      ∃ i, fault.position = f i ∧ fault'.position = f' i := by
  obtain ⟨found, hfound, rfl⟩ := Option.map_eq_some_iff.mp hfault
  obtain ⟨found', hfound', rfl⟩ := Option.map_eq_some_iff.mp hfault'
  have hsame : found.inCapitals = found'.inCapitals := by
    have hmap := congrArg Reading.fault? h
    simpa only [inCapitals, hfound, hfound', Option.map_some, Option.some.injEq] using hmap
  have hposition : found.inCapitals.position = found'.inCapitals.position :=
    congrArg Fault.position hsame
  exact ⟨congrArg Fault.cause hsame, found.position, rfl, congrArg f' hposition.symm⟩

end Reading

/-! ## Layouts

Blanks and padding do not show in the kinds of the lexemes. -/

namespace Lexeme

/-- The kinds of laid out lexemes are those of the pieces, whatever stands in front of them. -/
theorem Piece.map_kind_lexemes (before : List Char) (ps : List Piece) :
    (Piece.lexemes before ps).map Lexeme.kind = ps.map Piece.kind := by
  induction ps generalizing before with
  | nil => rfl
  | cons p ps ih => rw [Piece.lexemes, List.map_cons, List.map_cons, ih]

theorem Layout.scan_text (l : Layout) : scan l.text = .ok l.lexemes := by
  rw [scan, Layout.text, String.toList_ofList]
  exact (l.splits []).scanFrom_eq

end Lexeme

/-! ## The headline -/

/-- **Layout and the case of keywords do not matter.** Texts that are laid out from the same lexemes, with
other blanks and padding and with keywords in another case, have the same lexemes up to the case of
keywords. Two templates with the same lexemes up to the case of keywords are both read or both not, with
the same tokens. If they have a fault, it is the same one, a keyword that it quotes apart, and it stands at
lexemes with one index, or at the end of both, or, where there are no lexemes, at the start of both. -/
theorem reading_ignores_layout_and_case :
    (∀ l l' : Lexeme.Layout,
      List.Forall₂ Lexeme.Kind.Recased (l.pieces.map Lexeme.Piece.kind)
        (l'.pieces.map Lexeme.Piece.kind) →
      ∃ lexemes lexemes', Lexeme.scan l.text = .ok lexemes ∧ Lexeme.scan l'.text = .ok lexemes' ∧
        List.Forall₂ Lexeme.Kind.Recased (lexemes.map Lexeme.kind) (lexemes'.map Lexeme.kind)) ∧
    ∀ (template template' : String) (lexemes lexemes' : List Lexeme),
      Lexeme.scan template = .ok lexemes → Lexeme.scan template' = .ok lexemes' →
      List.Forall₂ Lexeme.Kind.Recased (lexemes.map Lexeme.kind) (lexemes'.map Lexeme.kind) →
      (Reading.ofText template).succeeds = (Reading.ofText template').succeeds ∧
      (Reading.ofText template).tokens = (Reading.ofText template').tokens ∧
      ∀ fault fault', (Reading.ofText template).fault? = some fault →
        (Reading.ofText template').fault? = some fault' →
        fault.isDangling = fault'.isDangling ∧
        fault.cause.inCapitals = fault'.cause.inCapitals ∧
        ((∃ (i : Nat) (lexeme lexeme' : Lexeme), lexemes[i]? = some lexeme ∧
            lexemes'[i]? = some lexeme' ∧ fault.position = lexeme.position ∧
            fault'.position = lexeme'.position) ∨
          (fault.position = template.utf8ByteSize ∧ fault'.position = template'.utf8ByteSize) ∨
          (lexemes = [] ∧ lexemes' = [] ∧ fault.position = 0 ∧ fault'.position = 0)) := by
  refine ⟨?_, ?_⟩
  · intro l l' hpieces
    refine ⟨_, _, l.scan_text, l'.scan_text, ?_⟩
    rwa [Lexeme.Layout.lexemes, Lexeme.Layout.lexemes, Lexeme.Piece.map_kind_lexemes,
      Lexeme.Piece.map_kind_lexemes]
  · intro template template' lexemes lexemes' hscan hscan' hkinds
    have hlength : lexemes.length = lexemes'.length := by
      simpa only [List.length_map] using hkinds.length_eq
    -- a template without lexemes has its only fault at its start
    by_cases hnil : lexemes = []
    · obtain rfl : lexemes' = [] := List.eq_nil_of_length_eq_zero (by simp [← hlength, hnil])
      subst hnil
      rw [Reading.ofText_of_scan_nil hscan, Reading.ofText_of_scan_nil hscan']
      refine ⟨rfl, rfl, ?_⟩
      rintro fault fault' ⟨rfl⟩ ⟨rfl⟩
      exact ⟨rfl, rfl, .inr (.inr ⟨rfl, rfl, rfl, rfl⟩)⟩
    · have hnil' : lexemes' ≠ [] := by
        rintro rfl
        exact hnil (List.eq_nil_of_length_eq_zero hlength)
      -- both readings come from one reading of the kinds, with two assignments of positions
      have hread := Reading.ofKinds_of_recased hkinds
      rw [Reading.ofText_eq_relocate hscan hnil, Reading.ofText_eq_relocate hscan' hnil']
      obtain ⟨hsucceeds, htokens⟩ := Reading.succeeds_relocate hread _ _
      refine ⟨hsucceeds, htokens, ?_⟩
      intro fault fault' hfault hfault'
      obtain ⟨hcause, i, hposition, hposition'⟩ :=
        Reading.exists_position_of_relocate hread hfault hfault'
      refine ⟨Fault.isDangling_of_inCapitals hcause, hcause, ?_⟩
      rw [hposition, hposition']
      rcases Lexeme.positionAt_cases hlength template.utf8ByteSize template'.utf8ByteSize i with
        ⟨lexeme, lexeme', hget, hget', hat, hat'⟩ | hends
      · exact .inl ⟨i, lexeme, lexeme', hget, hget', hat, hat'⟩
      · exact .inr (.inl hends)

/-- A group with and without blanks, and an occurrence behind it in two cases, which the fault quotes as it
is written. -/
theorem reading_ignores_layout_and_case_quoted :
    ∃ fault fault', (Reading.ofText "(é<x>)must").fault? = some fault ∧
      (Reading.ofText "( é < x >\n) MUST").fault? = some fault' ∧
      (Reading.ofText "(é<x>)must").tokens = (Reading.ofText "( é < x >\n) MUST").tokens ∧
      fault.isDangling = fault'.isDangling ∧ fault.cause.inCapitals = fault'.cause.inCapitals ∧
      fault = ⟨7, .occurrenceOutsideGroup "must"⟩ ∧ fault' = ⟨13, .occurrenceOutsideGroup "MUST"⟩ := by
  have hscan : Lexeme.scan "(é<x>)must" = .ok [⟨.opening, 0⟩, ⟨.word "é", 1⟩, ⟨.placeholder "x", 3⟩,
      ⟨.closing, 6⟩, ⟨.word "must", 7⟩] := by decide +kernel
  have hscan' : Lexeme.scan "( é < x >\n) MUST" = .ok [⟨.opening, 0⟩, ⟨.word "é", 2⟩,
      ⟨.placeholder "x", 5⟩, ⟨.closing, 11⟩, ⟨.word "MUST", 13⟩] := by decide +kernel
  have hmust : Lexeme.Kind.Recased (.word "must") (.word "MUST") :=
    .keyword (k := .occurrence .must) (by decide) (by decide)
  obtain ⟨-, htokens, hfaults⟩ := reading_ignores_layout_and_case.2 _ _ _ _ hscan hscan'
    (.cons (.same _) (.cons (.same _) (.cons (.same _) (.cons (.same _) (.cons hmust .nil)))))
  have hfault : (Reading.ofText "(é<x>)must").fault? = some ⟨7, .occurrenceOutsideGroup "must"⟩ := by
    decide +kernel
  have hfault' : (Reading.ofText "( é < x >\n) MUST").fault?
      = some ⟨13, .occurrenceOutsideGroup "MUST"⟩ := by decide +kernel
  obtain ⟨hdangling, hcause, -⟩ := hfaults _ _ hfault hfault'
  exact ⟨_, _, hfault, hfault', htokens, hdangling, hcause, rfl, rfl⟩

end QueryTemplate
