import QueryTemplate.Proofs.Respelling

/-!
# Where a reading stops

A fault names a place in the text, and the reader never looks far ahead of it. So the place can be found
again among the lexemes, and what stands behind it cannot change the fault:

* **`Lexeme.Splits.exists_before`** — a lexeme stands where a character of the text starts,
* **`Place.Behind`** — the lexemes that the reader has passed, with their tokens and the place that it has
  reached. A reading with a fault passes all lexemes or stops in front of one (`ends_or_stops`).
* **`Place.Refuses`** — what is wrong with a lexeme that does not fit. It stands where the fault is, or it is
  the number of a weight without a clause, and then the fault is at the keyword in front of it.
* **`faults_are_local`** — the headline: the position of a fault, for every template with one, and how many
  lexemes decide it.
-/

namespace QueryTemplate

/-! ## Positions in the text -/

namespace Lexeme

/-- **Every lexeme stands where a character of the text starts.** The induction is over lexemes and
blanks; what is taken off the front is put in front of `before`. -/
theorem Splits.exists_before {pos : Nat} {cs : List Char} {lexemes : List Lexeme}
    (h : Splits pos cs lexemes) :
    ∀ l ∈ lexemes, ∃ before c after, cs = before ++ c :: after ∧
      l.position = pos + byteLength before := by
  refine h.lexemeRec (motive := fun pos cs lexemes => ∀ l ∈ lexemes, ∃ before c after,
    cs = before ++ c :: after ∧ l.position = pos + byteLength before) ?nil ?blank ?lexeme
  case nil => exact fun _ l hl => absurd hl (by simp)
  case blank =>
    intro pos c cs lexemes _ ih l hl
    obtain ⟨before, d, after, rfl, hpos⟩ := ih l hl
    refine ⟨c :: before, d, after, rfl, ?_⟩
    rw [hpos, Nat.add_assoc]
    rfl
  case lexeme =>
    intro pos kind text cs lexemes hwritten _ _ ih l hl
    rcases List.mem_cons.mp hl with rfl | hl
    · obtain ⟨c, rest, rfl, -⟩ := hwritten.exists_head
      exact ⟨[], c, rest ++ cs, rfl, rfl⟩
    · obtain ⟨before, d, after, rfl, hpos⟩ := ih l hl
      refine ⟨text ++ before, d, after, by simp, ?_⟩
      rw [hpos, byteLength_append, Nat.add_assoc]

/-- The place behind some characters of a text is a boundary between characters, in the sense of the
library. -/
theorem isValid_of_append {template : String} {before after : List Char}
    (h : template.toList = before ++ after) :
    byteLength before ≤ template.utf8ByteSize ∧
      String.Pos.Raw.IsValid template ⟨byteLength before⟩ := by
  refine ⟨?_, String.Pos.Raw.isValid_iff_exists_append.mpr
    ⟨String.ofList before, String.ofList after, ?_, ?_⟩⟩
  · rw [← byteLength_toList, h, byteLength_append]
    exact Nat.le_add_right _ _
  · rw [← String.ofList_append, ← h, String.ofList_toList]
  · rw [← utf8ByteSize_ofList]
    rfl

/-- The place in front of a character is before the end of the text, since every character has a byte. -/
theorem byteLength_lt_of_cons {template : String} {before after : List Char} {c : Char}
    (h : template.toList = before ++ c :: after) : byteLength before < template.utf8ByteSize := by
  have hpos : 0 < c.utf8Size := c.utf8Size_pos
  have hcons : byteLength (c :: after) = c.utf8Size + byteLength after := rfl
  rw [← byteLength_toList, h, byteLength_append, hcons]
  omega

theorem exists_before_of_scan {template : String} {lexemes : List Lexeme}
    (hscan : scan template = .ok lexemes) {l : Lexeme} (hl : l ∈ lexemes) :
    ∃ before c after, template.toList = before ++ c :: after ∧ l.position = byteLength before := by
  obtain ⟨before, c, after, hcs, hpos⟩ := (scanFrom_eq_ok_iff.mp hscan).exists_before l hl
  exact ⟨before, c, after, hcs, by rw [hpos, Nat.zero_add]⟩

end Lexeme

/-! ## Behind some lexemes -/

namespace Place

/-- Where the first lexeme does not fit, the reading ends without a token. -/
theorem read_of_step_error {place : Place} {lexeme : Lexeme} {rest : List Lexeme} {fault : Fault}
    (h : place.step lexeme (rest.head?.map Lexeme.kind) = .error fault) (stop : Nat) :
    place.read stop (lexeme :: rest) = ⟨[], some fault⟩ := by
  rw [read, h]

/-- From the start on, the reader has passed the lexemes `seen` and made their tokens. `next` is the kind
of the lexeme that it has before it. -/
inductive Behind : List Lexeme → Option Lexeme.Kind → List Token → Place → Prop where
  | start {next : Option Lexeme.Kind} : Behind [] next [] .outside
  | step {seen : List Lexeme} {lexeme : Lexeme} {next : Option Lexeme.Kind} {ts : List Token}
      {place after : Place} {token? : Option Token}
      (before : Behind seen (some lexeme.kind) ts place)
      (move : place.Moves lexeme next token? after) :
      Behind (seen ++ [lexeme]) next (ts ++ token?.toList) after

namespace Behind

variable {seen : List Lexeme} {next : Option Lexeme.Kind} {ts : List Token} {place : Place}

/-- **What is read behind `seen` depends only on the place that was reached.** The induction is on the
steps that led there. -/
theorem read_append (h : Behind seen next ts place) (rest : List Lexeme)
    (hnext : rest.head?.map Lexeme.kind = next) (stop : Nat) :
    outside.read stop (seen ++ rest) = (place.read stop rest).prepend ts := by
  induction h generalizing rest with
  | start => rfl
  | @step seen lexeme next ts place after token? _ move ih =>
    subst hnext
    rw [List.append_assoc, List.singleton_append, ih _ rfl, move.read_cons, Reading.prepend_prepend]

/-- Behind a lexeme that does not fit, nothing matters any more, and the tokens are those made so far. -/
theorem read_of_step_error {lexeme : Lexeme} {rest : List Lexeme} {fault : Fault}
    (h : Behind seen (some lexeme.kind) ts place)
    (hstep : place.step lexeme (rest.head?.map Lexeme.kind) = .error fault) (stop : Nat) :
    outside.read stop (seen ++ lexeme :: rest) = ⟨ts, some fault⟩ := by
  rw [h.read_append _ rfl, Place.read_of_step_error hstep]
  simp [Reading.prepend]

/-- With all lexemes passed, the fault is what is missing at the place that was reached, if anything
is. -/
theorem read_of_end (h : Behind seen none ts place) (stop : Nat) :
    outside.read stop seen = ⟨ts, place.missing?.map (⟨stop, ·⟩)⟩ := by
  have hread := h.read_append [] rfl stop
  rw [List.append_nil] at hread
  rw [hread, read]
  simp [Reading.prepend]

/-- A weight without a clause was read just before, in a group that has none. So the place tells the
lexeme in front of it. -/
theorem of_dangling {w : Weight} {pos : Nat} (h : Behind seen next ts (.weighted w (some pos))) :
    ∃ before word, seen = before ++ [⟨.word word, pos⟩] ∧ (Keyword.weight w).SpeltBy word ∧
      Behind before (some (.word word)) ts (.inside false) := by
  generalize hplace : Place.weighted w (some pos) = reached at h
  cases h with
  | start => cases hplace
  | @step before lexeme _ ts _ _ token? hbefore move =>
    cases move with
    | @weight pos' _ filled w' word hword =>
      obtain ⟨rfl, hpos⟩ := Place.weighted.inj hplace
      -- only where no clause stands before it is the keyword remembered
      cases filled with
      | true => cases hpos
      | false =>
        obtain rfl : pos = pos' := Option.some.inj hpos
        exact ⟨before, word, rfl, hword, by simpa using hbefore⟩
    | _ => cases hplace

/-- From here the reader passes all lexemes that are left, or there is a first one that does not fit. The
induction is on the lexemes that are left. -/
theorem goes_on_or_stops (rest : List Lexeme)
    (h : Behind seen (rest.head?.map Lexeme.kind) ts place) :
    (∃ ts' place', Behind (seen ++ rest) none ts' place') ∨
      ∃ before lexeme after ts' place' fault, seen ++ rest = before ++ lexeme :: after ∧
        Behind before (some lexeme.kind) ts' place' ∧
        place'.step lexeme (after.head?.map Lexeme.kind) = .error fault := by
  induction rest generalizing seen ts place with
  | nil => exact .inl ⟨ts, place, by simpa using h⟩
  | cons lexeme rest ih =>
    cases hstep : place.step lexeme (rest.head?.map Lexeme.kind) with
    | error fault => exact .inr ⟨seen, lexeme, rest, ts, place, fault, rfl, h, hstep⟩
    | ok result =>
      obtain ⟨token?, after⟩ := result
      have hrest := ih (h.step (step_eq_ok_iff.mp hstep))
      rwa [List.append_assoc] at hrest

end Behind

/-- **A reading with a fault has passed all lexemes and something is missing, or it has stopped** in front
of a lexeme that does not fit. -/
theorem ends_or_stops {stop : Nat} {lexemes : List Lexeme} {tokens : List Token} {fault : Fault}
    (h : outside.read stop lexemes = ⟨tokens, some fault⟩) :
    (fault.position = stop ∧
      ∃ place, Behind lexemes none tokens place ∧ place.missing? = some fault.cause) ∨
    ∃ seen lexeme rest place, lexemes = seen ++ lexeme :: rest ∧
      Behind seen (some lexeme.kind) tokens place ∧
      place.step lexeme (rest.head?.map Lexeme.kind) = .error fault := by
  rcases Behind.goes_on_or_stops lexemes .start with
    ⟨ts, place, hbehind⟩ | ⟨seen, lexeme, rest, ts, place, found, hlexemes, hbehind, hstep⟩
  · left
    rw [List.nil_append] at hbehind
    rw [hbehind.read_of_end] at h
    obtain ⟨rfl, hfault⟩ := Reading.mk.inj h
    obtain ⟨cause, hcause, rfl⟩ := Option.map_eq_some_iff.mp hfault
    exact ⟨rfl, place, hbehind, hcause⟩
  · right
    obtain rfl : lexemes = seen ++ lexeme :: rest := hlexemes
    rw [hbehind.read_of_step_error hstep] at h
    obtain ⟨rfl, hfault⟩ := Reading.mk.inj h
    obtain rfl := Option.some.inj hfault
    exact ⟨seen, lexeme, rest, place, rfl, hbehind, hstep⟩

/-! ## Lexemes that do not fit -/

/-- What is wrong with a lexeme that does not fit. A decoration without a clause is told at its keyword,
and if that is a weight, only when its number has been read. Every other fault is told at the lexeme. -/
inductive Refuses : Place → Lexeme → Fault → Prop where
  | misfit {place : Place} {kind : Lexeme.Kind} {pos : Nat} {cause : Fault.Cause}
      (hcause : Fault.isDangling ⟨pos, cause⟩ = false) : Refuses place ⟨kind, pos⟩ ⟨pos, cause⟩
  | mark {k : Keyword} {word : String} {pos : Nat} (hmark : k ∈ [.wildcard, .constant])
      (hword : k.SpeltBy word) :
      Refuses (.inside false) ⟨.word word, pos⟩ ⟨pos, .danglingDecoration k.spelling⟩
  | number {w : Weight} {n : UInt32} {keywordPos pos : Nat} :
      Refuses (.weighted w (some keywordPos)) ⟨.word (Text.Numeral.text n), pos⟩
        ⟨keywordPos, .danglingDecoration w.keyword⟩

/-- A fault that is told at the lexeme, and that is not one of a decoration without a clause. -/
theorem refuses_of_fail {place : Place} {kind : Lexeme.Kind} {pos : Nat} {cause : Fault.Cause}
    {fault : Fault} (h : fail pos cause = .error fault)
    (hcause : Fault.isDangling ⟨pos, cause⟩ = false) : place.Refuses ⟨kind, pos⟩ fault := by
  obtain rfl := Except.error.inj h
  exact .misfit hcause

theorem refuses_of_stepField {place : Place} {pos : Nat} {word : String} {fault : Fault}
    (h : stepField pos word = .error fault) : place.Refuses ⟨.word word, pos⟩ fault := by
  unfold stepField at h
  split at h
  · cases h
  · exact refuses_of_fail h rfl

/-- Outside a group, everything that is refused is a misfit. -/
theorem refuses_of_stepOutside {kind : Lexeme.Kind} {pos : Nat} {next : Option Lexeme.Kind}
    {fault : Fault} (h : stepOutside pos next kind = .error fault) :
    outside.Refuses ⟨kind, pos⟩ fault := by
  cases kind with
  | opening => cases h
  | closing => exact refuses_of_fail h rfl
  | placeholder name => exact refuses_of_fail h rfl
  | word w =>
    simp only [stepOutside] at h
    split at h
    · split at h
      · cases h
      · exact refuses_of_fail h rfl
    · exact refuses_of_fail h rfl
    · exact refuses_of_fail h rfl

/-- A mark is refused only for want of a clause, and then it is told by its keyword. -/
theorem refuses_of_stepDecoration {k : Keyword} {d : Decoration} {word : String} {pos : Nat}
    {filled : Bool} {fault : Fault} (hmark : k ∈ [.wildcard, .constant]) (hword : k.SpeltBy word)
    (hd : d.keyword = k.spelling) (h : stepDecoration pos filled d = .error fault) :
    (inside filled).Refuses ⟨.word word, pos⟩ fault := by
  unfold stepDecoration at h
  split at h
  · cases h
  · next hfilled =>
    obtain rfl : filled = false := by simpa using hfilled
    obtain rfl := Except.error.inj h
    rw [hd]
    exact .mark hmark hword

/-- Inside a group, the two marks are the only lexemes that are refused for want of a clause; a weight is
accepted, and it is its number that will be refused. -/
theorem refuses_of_stepInside {kind : Lexeme.Kind} {pos : Nat} {next : Option Lexeme.Kind}
    {filled : Bool} {fault : Fault} (h : stepInside pos next filled kind = .error fault) :
    (inside filled).Refuses ⟨kind, pos⟩ fault := by
  cases kind with
  | opening => exact refuses_of_fail h rfl
  | closing =>
    cases filled with
    | true => cases h
    | false => exact refuses_of_fail h rfl
  | placeholder name => exact refuses_of_fail h rfl
  | word w =>
    simp only [stepInside] at h
    split at h
    · split at h
      · exact refuses_of_fail h rfl
      · cases h
    · cases h
    · next hw =>
      exact refuses_of_stepDecoration (by simp) (Keyword.ofWord?_eq_some_iff.mp hw) rfl h
    · next hw =>
      exact refuses_of_stepDecoration (by simp) (Keyword.ofWord?_eq_some_iff.mp hw) rfl h
    · exact refuses_of_stepField h

/-- **What a step cannot do.** Together with `step_eq_ok_iff`, this is all that is known about a step, and
the step function is not opened below. -/
theorem refuses_of_step {place : Place} {lexeme : Lexeme} {next : Option Lexeme.Kind} {fault : Fault}
    (h : place.step lexeme next = .error fault) : place.Refuses lexeme fault := by
  obtain ⟨kind, pos⟩ := lexeme
  cases place with
  | outside => exact refuses_of_stepOutside h
  | inside filled => exact refuses_of_stepInside h
  | modified after =>
    cases kind with
    | word w => exact refuses_of_stepField h
    | _ => exact refuses_of_fail h rfl
  | named field =>
    cases kind with
    | placeholder name => cases h
    | _ => exact refuses_of_fail h rfl
  | weighted w dangling =>
    cases kind with
    | word word =>
      simp only [step, stepNumber] at h
      split at h
      · exact refuses_of_fail h rfl
      · next n keywordPos hn =>
        obtain rfl := Except.error.inj h
        rw [String.toList_inj.mp (Text.Numeral.ofChars?_eq_some_iff.mp hn)]
        exact .number
      · cases h
    | _ => exact refuses_of_fail h rfl

/-- The number of a weight is read without a look at what follows. -/
theorem step_weighted (w : Weight) (dangling : Option Nat) (lexeme : Lexeme)
    (next next' : Option Lexeme.Kind) :
    (weighted w dangling).step lexeme next = (weighted w dangling).step lexeme next' := by
  obtain ⟨kind, pos⟩ := lexeme
  cases kind <;> rfl

end Place

/-! ## Which lexemes decide -/

/-- **A fault stands at the end, with all lexemes passed, or at a lexeme.** In the second case this
lexeme, those in front of it and one behind it are enough for the same reading. -/
theorem Place.fault_cases {stop : Nat} {lexemes : List Lexeme} {tokens : List Token} {fault : Fault}
    (h : outside.read stop lexemes = ⟨tokens, some fault⟩) :
    (fault.position = stop ∧
      ∃ place, Behind lexemes none tokens place ∧ place.missing? = some fault.cause) ∨
    ∃ i lexeme, lexemes[i]? = some lexeme ∧ fault.position = lexeme.position ∧
      ∀ stop' lexemes', lexemes'.take (i + 2) = lexemes.take (i + 2) →
        outside.read stop' lexemes' = ⟨tokens, some fault⟩ := by
  rcases ends_or_stops h with hend | ⟨seen, lexeme, rest, place, rfl, hbehind, hstep⟩
  · exact .inl hend
  · right
    -- the fault is at the lexeme in front of which the reader stopped, or at the one before
    have hhere : fault.position = lexeme.position → ∃ i l, (seen ++ lexeme :: rest)[i]? = some l ∧
        fault.position = l.position ∧ ∀ stop' lexemes',
          lexemes'.take (i + 2) = (seen ++ lexeme :: rest).take (i + 2) →
          outside.read stop' lexemes' = ⟨tokens, some fault⟩ := by
      intro hposition
      refine ⟨seen.length, lexeme, by simp, hposition, ?_⟩
      intro stop' lexemes' htake
      obtain ⟨rest', rfl, hhead⟩ := exists_of_take_eq htake
      exact hbehind.read_of_step_error (by rwa [hhead]) stop'
    cases refuses_of_step hstep with
    | misfit _ => exact hhere rfl
    | mark _ _ => exact hhere rfl
    -- a dangling weight is told at its keyword, one lexeme back, so its number is the one lexeme behind
    -- that decides
    | @number w n keywordPos pos =>
      obtain ⟨before, word, rfl, -, -⟩ := hbehind.of_dangling
      refine ⟨before.length, ⟨.word word, keywordPos⟩, by simp, rfl, ?_⟩
      intro stop' lexemes' htake
      rw [List.append_assoc] at htake
      obtain ⟨rest', rfl, hhead⟩ := exists_of_take_eq htake
      obtain ⟨after, rfl⟩ := List.head?_eq_some_iff.mp hhead
      rw [step_weighted w _ _ _ (after.head?.map Lexeme.kind)] at hstep
      have hread := hbehind.read_of_step_error hstep stop'
      rwa [List.append_assoc] at hread

/-- What is missing at the end of a template: a parenthesis, a field, a placeholder or a number. -/
theorem Place.missing?_cases {place : Place} {cause : Fault.Cause} (h : place.missing? = some cause) :
    cause = .unclosedGroup ∨ (∃ after, cause = .fieldNameExpected after) ∨
      (∃ field, cause = .placeholderExpected field) ∨ ∃ weight, cause = .integerExpected weight := by
  cases place with
  | outside => cases h
  | inside filled => exact .inl (Option.some.inj h).symm
  | modified after => exact .inr (.inl ⟨after, (Option.some.inj h).symm⟩)
  | named field => exact .inr (.inr (.inl ⟨field, (Option.some.inj h).symm⟩))
  | weighted w dangling => exact .inr (.inr (.inr ⟨w, (Option.some.inj h).symm⟩))

/-- A fault stands between two characters, or at an end. The cases are those of the scan: it fails, it
finds nothing, or its lexemes are read. -/
theorem Reading.exists_before_of_fault {template : String} {tokens : List Token} {fault : Fault}
    (h : Reading.ofText template = ⟨tokens, some fault⟩) :
    ∃ before after, template.toList = before ++ after ∧ fault.position = Lexeme.byteLength before := by
  cases hscan : Lexeme.scan template with
  | error scanFault =>
    rw [Reading.ofText, hscan] at h
    obtain rfl := Option.some.inj (Reading.mk.inj h).2
    obtain ⟨before, c, after, hcs, -, hpos, -⟩ := Lexeme.exists_angle_of_scan hscan
    exact ⟨before.toList, c :: after, hcs, by rw [hpos, Lexeme.byteLength_toList]⟩
  | ok lexemes =>
    by_cases hnil : lexemes = []
    · subst hnil
      rw [Reading.ofText_of_scan_nil hscan] at h
      obtain rfl := Option.some.inj (Reading.mk.inj h).2
      exact ⟨[], template.toList, rfl, rfl⟩
    · rw [Reading.ofText_eq_read hscan hnil] at h
      rcases Place.fault_cases h with ⟨hend, -⟩ | ⟨i, lexeme, hget, hposition, -⟩
      · exact ⟨template.toList, [], (List.append_nil _).symm, by rw [hend, Lexeme.byteLength_toList]⟩
      · obtain ⟨before, c, after, hcs, hpos⟩ :=
          Lexeme.exists_before_of_scan hscan (List.mem_of_getElem? hget)
        exact ⟨before, c :: after, hcs, hposition.trans hpos⟩

/-! ## The headline -/

/-- **A fault is found where it stands.** Its position is a boundary between characters of the template, or
one of its two ends. If the template has lexemes, then either the fault is at the end, all lexemes were
passed, and something is still missing, or it is at one of the lexemes. In the second case all templates
that have the same lexemes up to the one behind it are read in the same way, with the same tokens and the
same fault. If the scan fails, the fault is at an angle bracket, and there are no tokens. If there are no
lexemes, it is at the start. -/
theorem faults_are_local (template : String) (tokens : List Token) (fault : Fault)
    (h : Reading.ofText template = ⟨tokens, some fault⟩) :
    (fault.position ≤ template.utf8ByteSize ∧
      String.Pos.Raw.IsValid template ⟨fault.position⟩) ∧
    (∀ lexemes, Lexeme.scan template = .ok lexemes → lexemes ≠ [] →
      (fault.position = template.utf8ByteSize ∧
        (∃ place, Place.Behind lexemes none tokens place ∧ place.missing? = some fault.cause) ∧
        (fault.cause = .unclosedGroup ∨ (∃ after, fault.cause = .fieldNameExpected after) ∨
          (∃ field, fault.cause = .placeholderExpected field) ∨
          ∃ weight, fault.cause = .integerExpected weight)) ∨
      ∃ i lexeme, lexemes[i]? = some lexeme ∧ fault.position = lexeme.position ∧
        fault.position < template.utf8ByteSize ∧
        ∀ template' lexemes', Lexeme.scan template' = .ok lexemes' →
          lexemes'.take (i + 2) = lexemes.take (i + 2) →
          Reading.ofText template' = ⟨tokens, some fault⟩) ∧
    (∀ scanFault, Lexeme.scan template = .error scanFault →
      tokens = [] ∧ ∃ (before : String) (c : Char) (after : List Char),
        template.toList = before.toList ++ c :: after ∧ (c = '<' ∨ c = '>') ∧
        fault.position = before.utf8ByteSize) ∧
    (Lexeme.scan template = .ok [] → fault.position = 0) := by
  refine ⟨?_, ?_, ?_, ?_⟩
  · obtain ⟨before, after, hcs, hposition⟩ := Reading.exists_before_of_fault h
    rw [hposition]
    exact Lexeme.isValid_of_append hcs
  · intro lexemes hscan hne
    rw [Reading.ofText_eq_read hscan hne] at h
    rcases Place.fault_cases h with
      ⟨hend, place, hbehind, hmissing⟩ | ⟨i, lexeme, hget, hposition, hsame⟩
    · exact .inl ⟨hend, ⟨place, hbehind, hmissing⟩, Place.missing?_cases hmissing⟩
    · obtain ⟨before, c, after, hcs, hbefore⟩ :=
        Lexeme.exists_before_of_scan hscan (List.mem_of_getElem? hget)
      -- a lexeme stands in front of a character, so its position is not the end
      refine .inr ⟨i, lexeme, hget, hposition, ?_, ?_⟩
      · rw [hposition, hbefore]
        exact Lexeme.byteLength_lt_of_cons hcs
      · intro template' lexemes' hscan' htake
        have hne' : lexemes' ≠ [] := by
          rintro rfl
          simp [hne] at htake
        rw [Reading.ofText_eq_read hscan' hne']
        exact hsame _ _ htake
  · intro scanFault hscan
    rw [Reading.ofText, hscan] at h
    obtain ⟨rfl, hfault⟩ := Reading.mk.inj h
    obtain rfl := Option.some.inj hfault
    obtain ⟨before, c, after, hcs, hc, hpos, -⟩ := Lexeme.exists_angle_of_scan hscan
    exact ⟨rfl, before, c, after, hcs, hc, hpos⟩
  · intro hscan
    rw [Reading.ofText_of_scan_nil hscan] at h
    obtain rfl := Option.some.inj (Reading.mk.inj h).2
    rfl

/-- A weight without a clause, behind a character of two bytes. Its number decides, and nothing behind it. -/
theorem faults_are_local_dangling :
    Reading.ofText "(é<a>)(BOOST 3 b" = ⟨[.groupOpen, .field "é", .placeholder "a", .groupClose,
        .groupOpen], some ⟨8, .danglingDecoration "BOOST"⟩⟩ ∧
      String.Pos.Raw.IsValid "(é<a>)(BOOST 3 b" ⟨8⟩ ∧
      Reading.ofText "(é<a>)(BOOST 3)))" = Reading.ofText "(é<a>)(BOOST 3 b" := by
  have hread : Reading.ofText "(é<a>)(BOOST 3 b" = ⟨[.groupOpen, .field "é", .placeholder "a",
      .groupClose, .groupOpen], some ⟨8, .danglingDecoration "BOOST"⟩⟩ := by decide +kernel
  have hscan : Lexeme.scan "(é<a>)(BOOST 3 b" = .ok [⟨.opening, 0⟩, ⟨.word "é", 1⟩,
      ⟨.placeholder "a", 3⟩, ⟨.closing, 6⟩, ⟨.opening, 7⟩, ⟨.word "BOOST", 8⟩, ⟨.word "3", 14⟩,
      ⟨.word "b", 16⟩] := by decide +kernel
  have hscan' : Lexeme.scan "(é<a>)(BOOST 3)))" = .ok [⟨.opening, 0⟩, ⟨.word "é", 1⟩,
      ⟨.placeholder "a", 3⟩, ⟨.closing, 6⟩, ⟨.opening, 7⟩, ⟨.word "BOOST", 8⟩, ⟨.word "3", 14⟩,
      ⟨.closing, 15⟩, ⟨.closing, 16⟩, ⟨.closing, 17⟩] := by decide +kernel
  obtain ⟨⟨-, hvalid⟩, hlexemes, -, -⟩ := faults_are_local _ _ _ hread
  refine ⟨hread, hvalid, ?_⟩
  rw [hread]
  rcases hlexemes _ hscan (by simp) with ⟨hend, -⟩ | ⟨i, lexeme, hget, hposition, -, hsame⟩
  · exact absurd hend (by decide)
  · -- the keyword has the index 5
    obtain rfl : i = 5 := by
      have hat : ([0, 1, 3, 6, 7, 8, 14, 16] : List Nat)[i]? = some 8 := by
        have hmap := congrArg (Option.map Lexeme.position) hget
        rwa [← List.getElem?_map, Option.map_some, ← hposition] at hmap
      have hlt : i < 8 := (List.getElem?_eq_some_iff.mp hat).1
      have hindex : ∀ j < 8, ([0, 1, 3, 6, 7, 8, 14, 16] : List Nat)[j]? = some 8 → j = 5 := by decide
      exact hindex i hlt hat
    exact hsame _ _ hscan' rfl

end QueryTemplate
