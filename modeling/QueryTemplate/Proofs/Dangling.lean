import QueryTemplate.Proofs.Lookahead

/-!
# Decorations without a clause

A decoration that opens a group has no clause to belong to, and it has a fault of its own. The number of a
weight is read first, though, and a fault in it is told before the one of the decoration.

* **`Group.Opened`** — complete groups and the beginning of one more, up to its parenthesis. These are the
  lexemes behind which the reader stands in a group without a clause (`Behind.opened`, `Opened.reads`).
* **`Decoration.Dangles`** — a complete decoration behind such lexemes,
* **`dangling_iff`** — the headline: the fault is told exactly for these. A weight that has no number is
  no decoration yet, and there it is the number that is missing; **`dangling_without_number`** shows that
  the keyword alone is not enough.
-/

namespace QueryTemplate

open Place

/-! ## The beginning of a group -/

/-- Complete groups, the occurrence of one more, if it has one, and its parenthesis. -/
inductive Group.Opened : List Lexeme.Kind → Prop where
  | intro {gs : List Group} {ks os : List Lexeme.Kind} {o? : Option Occurrence}
      (groups : SpeltList Group.Spelt gs ks) (occurrence : Occurrence.Spelt o? os) :
      Opened (ks ++ os ++ [.opening])

/-- The beginning of a group is read, and leads into a group that has no clause yet. -/
theorem Group.Opened.reads {ks : List Lexeme.Kind} (h : Group.Opened ks) :
    ∃ ts, outside.Reads (inside false) ks ts := by
  cases h with
  | @intro gs ks os o? hgs ho =>
    have hopen : outside.Reads (inside false) [.opening] [.groupOpen] :=
      .token (fun _ _ _ => .opening) (.nil _)
    rw [List.append_assoc]
    cases ho with
    | none => exact ⟨_, (reads_groups hgs).append hopen⟩
    | @some o word hword =>
      have hannounced : outside.Reads (inside false) [.word word, .opening]
          [.groupOccurrence o, .groupOpen] := by
        refine .token (fun pos next hnext => ?_) hopen
        -- the parenthesis behind the keyword makes it the occurrence of a group
        rw [hnext .opening rfl]
        exact .groupOccurrence hword
      exact ⟨_, (reads_groups hgs).append hannounced⟩

/-- Behind the beginning of a group, what is wrong there is what is wrong with the template, since
everything in front of it was accepted. -/
theorem Group.Opened.fault?_ofText {template : String} {front rest : List Lexeme}
    (h : Group.Opened (front.map Lexeme.kind)) (hscan : Lexeme.scan template = .ok (front ++ rest)) :
    (Reading.ofText template).fault? = ((inside false).read template.utf8ByteSize rest).fault? := by
  obtain ⟨ts, hreads⟩ := h.reads
  -- there is at least the parenthesis
  have hne : front ++ rest ≠ [] := by
    intro hnil
    rw [(List.append_eq_nil_iff.mp hnil).1] at h
    generalize hks : List.map Lexeme.kind [] = ks at h
    cases h
    simp at hks
  rw [Reading.ofText_eq_read hscan hne, hreads _ _ _ rfl]
  rfl

namespace Place.Behind

variable {seen : List Lexeme} {next : Option Lexeme.Kind} {ts : List Token}

/-- Outside all groups, with no group announced, complete groups have been passed. This comes from the
grammar: what was read so far would be a template without a fault. -/
theorem exists_groups (h : Behind seen next ts .outside) (hnext : next ≠ some .opening) :
    ∃ gs, SpeltList Group.Spelt gs (seen.map Lexeme.kind) := by
  -- the last step did not look at what follows, so the lexemes may as well end here
  have hend : Behind seen none ts .outside := by
    cases h with
    | start => exact .start
    | step before move =>
      cases move with
      | groupOccurrence _ => exact absurd rfl hnext
      | closing => exact before.step .closing
  -- up to here the lexemes are a whole template, and it has no fault
  have hread : (outside.read 0 seen).fault? = none := by
    rw [hend.read_of_end]
    rfl
  have hcomplete := completes_of_read hread
  generalize (outside.read 0 seen).tokens = tokens at hcomplete
  cases hcomplete with
  | outside hgs => exact ⟨_, hgs⟩

/-- **In a group without a clause, its parenthesis has just been passed.** In front of it there are
groups, and an occurrence if one was announced. -/
theorem opened (h : Behind seen next ts (.inside false)) : Group.Opened (seen.map Lexeme.kind) := by
  cases h with
  | @step seen lexeme _ _ _ _ _ before move =>
    cases move with
    | opening =>
      rw [List.map_append]
      cases before with
      | start => exact .intro .nil .none
      | step before move =>
        cases move with
        | groupOccurrence hword =>
          obtain ⟨gs, hgs⟩ := before.exists_groups (by simp)
          rw [List.map_append]
          exact .intro hgs (.some hword)
        | closing =>
          have hclosed : Behind _ none _ .outside := before.step .closing
          obtain ⟨gs, hgs⟩ := hclosed.exists_groups (by simp)
          rw [← List.append_nil (List.map _ _)]
          exact .intro hgs .none

end Place.Behind

/-! ## The decoration -/

/-- The decoration `d` opens a group of `lexemes`, and its keyword stands at `position`. -/
def Decoration.Dangles (d : Decoration) (position : Nat) (lexemes : List Lexeme) : Prop :=
  ∃ front word own rest, lexemes = front ++ ⟨.word word, position⟩ :: (own ++ rest) ∧
    Group.Opened (front.map Lexeme.kind) ∧ d.Spelt (.word word :: own.map Lexeme.kind)

/-- The fault names a weight by the keyword of its decoration, whatever the number is. -/
theorem Weight.keyword_decoration (w : Weight) (n : UInt32) : (w.decoration n).keyword = w.keyword := by
  cases w <;> rfl

/-- The keyword of a weight has no token. What is wrong is seen at its number, and the place remembers
whether there is a clause. -/
theorem Place.read_weight {w : Weight} {word : String} (hword : (Keyword.weight w).SpeltBy word)
    (filled : Bool) (stop position : Nat) (rest : List Lexeme) :
    (inside filled).read stop (⟨.word word, position⟩ :: rest)
      = (weighted w (if filled then none else some position)).read stop rest := by
  rw [(Moves.weight hword).read_cons]
  rfl

/-- Without a clause it is the decoration that is refused, and not its number: the position is that of the
keyword. -/
theorem Place.read_dangling_numeral {w : Weight} {word : String}
    (hword : (Keyword.weight w).SpeltBy word) (n : UInt32) (stop position pos : Nat)
    (rest : List Lexeme) :
    (inside false).read stop
        (⟨.word word, position⟩ :: ⟨.word (Text.Numeral.text n), pos⟩ :: rest)
      = ⟨[], some ⟨position, .danglingDecoration w.keyword⟩⟩ := by
  rw [read_weight hword]
  refine read_of_step_error ?_ stop
  simp [step, stepNumber, fail, Text.Numeral.ofChars?_eq_some_iff.mpr rfl]

/-- **A complete decoration that opens a group is refused as dangling**, at its keyword. A weight takes
one lexeme more than a mark, which is why its number has to be there. -/
theorem Decoration.Spelt.fault?_read {d : Decoration} {word : String} {own : List Lexeme}
    (h : d.Spelt (.word word :: own.map Lexeme.kind)) (stop position : Nat) (rest : List Lexeme) :
    ((inside false).read stop (⟨.word word, position⟩ :: (own ++ rest))).fault?
      = some ⟨position, .danglingDecoration d.keyword⟩ := by
  -- name the kinds, so that the cases are those of the spelling
  generalize hks : Lexeme.Kind.word word :: own.map Lexeme.kind = ks at h
  cases h with
  | @weight w n _ hword =>
    obtain ⟨⟨rfl⟩, hown⟩ := List.cons.inj hks
    obtain ⟨⟨_, pos⟩, own, rfl, rfl, hnil⟩ := List.map_eq_cons_iff.mp hown
    obtain rfl := List.map_eq_nil_iff.mp hnil
    rw [Weight.keyword_decoration, List.singleton_append, read_dangling_numeral hword]
  | wildcard hword =>
    obtain ⟨⟨rfl⟩, -⟩ := List.cons.inj hks
    rw [Place.read_of_step_error]
    simp [step, stepInside, stepDecoration, fail, Keyword.ofWord?_eq_some_iff.mpr hword]
  | constant hword =>
    obtain ⟨⟨rfl⟩, -⟩ := List.cons.inj hks
    rw [Place.read_of_step_error]
    simp [step, stepInside, stepDecoration, fail, Keyword.ofWord?_eq_some_iff.mpr hword]

/-- Where the number of a weight should stand there is something else, or the template ends. Then the
number is what is missed, whether there is a clause or not. -/
theorem Place.read_weighted_of_ne {w : Weight} {dangling : Option Nat} {rest : List Lexeme}
    (h : ∀ n, rest.head?.map Lexeme.kind ≠ some (.word (Text.Numeral.text n))) (stop : Nat) :
    (weighted w dangling).read stop rest
      = ⟨[], some ⟨(rest.head?.map Lexeme.position).getD stop, .integerExpected w⟩⟩ := by
  cases rest with
  | nil => rfl
  | cons lexeme rest =>
    obtain ⟨kind, pos⟩ := lexeme
    refine Place.read_of_step_error ?_ stop
    cases kind with
    | word word =>
      -- a word that reads as a number is the text of that number
      have hnumber : Text.Numeral.ofChars? word.toList = none := by
        by_contra hsome
        obtain ⟨n, hn⟩ := Option.ne_none_iff_exists'.mp hsome
        refine h n ?_
        rw [← String.toList_inj.mp (Text.Numeral.ofChars?_eq_some_iff.mp hn)]
        rfl
      simp [step, stepNumber, fail, hnumber]
    | _ => rfl

/-- **A fault of this kind is told at a decoration that opens a group.** Nothing at the end of a template
tells it, and of the ways to refuse a lexeme only two do. -/
theorem Decoration.exists_dangles_of_read {stop position : Nat} {keyword : String}
    {lexemes : List Lexeme}
    (h : (outside.read stop lexemes).fault? = some ⟨position, .danglingDecoration keyword⟩) :
    ∃ d : Decoration, d.Dangles position lexemes ∧ keyword = d.keyword := by
  have hread : outside.read stop lexemes = ⟨(outside.read stop lexemes).tokens,
      some ⟨position, .danglingDecoration keyword⟩⟩ := by
    rw [← h]
  rcases ends_or_stops hread with
    ⟨-, place, -, hmissing⟩ | ⟨seen, lexeme, rest, place, rfl, hbehind, hstep⟩
  · -- nothing of the kind is told at the end
    rcases missing?_cases hmissing with hcause | ⟨_, hcause⟩ | ⟨_, hcause⟩ | ⟨_, hcause⟩ <;> cases hcause
  · generalize hfault : Fault.mk position (.danglingDecoration keyword) = fault at hstep
    cases refuses_of_step hstep with
    | misfit hcause =>
      rw [← hfault] at hcause
      exact absurd hcause (by simp [Fault.isDangling])
    | @mark k word pos hmark hword =>
      obtain ⟨rfl, hkeyword⟩ := Fault.mk.inj hfault
      obtain rfl := Fault.Cause.danglingDecoration.inj hkeyword
      rcases List.mem_pair.mp hmark with rfl | rfl
      · exact ⟨.wildcard, ⟨seen, word, [], rest, rfl, hbehind.opened, .wildcard hword⟩, rfl⟩
      · exact ⟨.constant, ⟨seen, word, [], rest, rfl, hbehind.opened, .constant hword⟩, rfl⟩
    -- the number of a weight whose keyword stands right before it
    | @number w n keywordPos pos =>
      obtain ⟨rfl, hkeyword⟩ := Fault.mk.inj hfault
      obtain rfl := Fault.Cause.danglingDecoration.inj hkeyword
      obtain ⟨before, word, rfl, hword, hopened⟩ := hbehind.of_dangling
      exact ⟨w.decoration n, ⟨before, word, [⟨.word (Text.Numeral.text n), pos⟩], rest, by simp,
        hopened.opened, .weight hword⟩, (w.keyword_decoration n).symm⟩

/-! ## The headline -/

/-- **A decoration without a clause is told apart.** A template that can be scanned has this fault if and
only if its lexemes begin with complete groups, perhaps an occurrence, a parenthesis and then a complete
decoration, whatever follows; the fault names the decoration, in capitals, and is at its keyword. A weight
there whose number is not one, or is missing, has the fault that a weight has everywhere. -/
theorem dangling_iff (template : String) (lexemes : List Lexeme)
    (hscan : Lexeme.scan template = .ok lexemes) :
    (∀ position keyword,
      (Reading.ofText template).fault? = some ⟨position, .danglingDecoration keyword⟩ ↔
        ∃ d : Decoration, d.Dangles position lexemes ∧ keyword = d.keyword) ∧
    ∀ front word position rest w, lexemes = front ++ ⟨.word word, position⟩ :: rest →
      Group.Opened (front.map Lexeme.kind) → (Keyword.weight w).SpeltBy word →
      (∀ n, rest.head?.map Lexeme.kind ≠ some (.word (Text.Numeral.text n))) →
      (Reading.ofText template).fault?
        = some ⟨(rest.head?.map Lexeme.position).getD template.utf8ByteSize, .integerExpected w⟩ := by
  refine ⟨fun position keyword => ⟨fun h => ?_, ?_⟩, ?_⟩
  · by_cases hnil : lexemes = []
    · subst hnil
      rw [Reading.ofText_of_scan_nil hscan] at h
      cases h
    · rw [Reading.ofText_eq_read hscan hnil] at h
      exact Decoration.exists_dangles_of_read h
  · -- the groups in front are passed, and the decoration is refused
    rintro ⟨d, ⟨front, word, own, rest, rfl, hopened, hd⟩, rfl⟩
    rw [hopened.fault?_ofText hscan]
    exact hd.fault?_read _ _ _
  · rintro front word position rest w rfl hopened hword hnumber
    rw [hopened.fault?_ofText hscan, read_weight hword, read_weighted_of_ne hnumber]

/-- A mark that opens a template, a weight with its number that opens the second group, and a weight with
no number. -/
theorem dangling_iff_each_case :
    (Reading.ofText "(wildCard )").fault? = some ⟨1, .danglingDecoration "WILDCARD"⟩ ∧
      (∃ d : Decoration, d.Dangles 14 [⟨.opening, 0⟩, ⟨.word "a", 1⟩, ⟨.placeholder "x", 3⟩,
          ⟨.closing, 6⟩, ⟨.word "Must", 8⟩, ⟨.opening, 13⟩, ⟨.word "fuzZy", 14⟩, ⟨.word "2", 20⟩,
          ⟨.word "b", 22⟩] ∧ "FUZZY" = d.keyword) ∧
      (Reading.ofText "(boost").fault? = some ⟨6, .integerExpected .boost⟩ := by
  have hmark : Lexeme.scan "(wildCard )" = .ok [⟨.opening, 0⟩, ⟨.word "wildCard", 1⟩,
      ⟨.closing, 10⟩] := by decide +kernel
  have hweight : Lexeme.scan "(a <x>) Must (fuzZy 2 b" = .ok [⟨.opening, 0⟩, ⟨.word "a", 1⟩,
      ⟨.placeholder "x", 3⟩, ⟨.closing, 6⟩, ⟨.word "Must", 8⟩, ⟨.opening, 13⟩, ⟨.word "fuzZy", 14⟩,
      ⟨.word "2", 20⟩, ⟨.word "b", 22⟩] := by decide +kernel
  have hend : Lexeme.scan "(boost" = .ok [⟨.opening, 0⟩, ⟨.word "boost", 1⟩] := by decide +kernel
  refine ⟨?_, ?_, ?_⟩
  · exact ((dangling_iff _ _ hmark).1 1 "WILDCARD").mpr ⟨.wildcard, ⟨[⟨.opening, 0⟩], "wildCard", [],
      [⟨.closing, 10⟩], rfl, .intro .nil .none, .wildcard (by decide)⟩, rfl⟩
  · exact ((dangling_iff _ _ hweight).1 14 "FUZZY").mp (by decide +kernel)
  · exact (dangling_iff _ _ hend).2 [⟨.opening, 0⟩] "boost" 1 [] .boost rfl (.intro .nil .none)
      (by decide) (by simp)

/-- **The keyword alone is not enough.** The keyword of a weight may open a group and the fault be another:
in `(BOOST x` the word `x` is no number. -/
theorem dangling_without_number :
    ¬ ∀ template lexemes, Lexeme.scan template = .ok lexemes → ∀ position keyword,
      ((Reading.ofText template).fault? = some ⟨position, .danglingDecoration keyword⟩ ↔
        ∃ (front rest : List Lexeme) (word : String) (k : Keyword),
          lexemes = front ++ ⟨.word word, position⟩ :: rest ∧
          Group.Opened (front.map Lexeme.kind) ∧ (∀ o, k ≠ .occurrence o) ∧ k.SpeltBy word ∧
          keyword = k.spelling) := by
  intro hall
  have hscan : Lexeme.scan "(BOOST x" = .ok [⟨.opening, 0⟩, ⟨.word "BOOST", 1⟩, ⟨.word "x", 7⟩] := by
    decide +kernel
  have hfault := (hall _ _ hscan 1 "BOOST").mpr ⟨[⟨.opening, 0⟩], [⟨.word "x", 7⟩], "BOOST",
    .weight .boost, rfl, .intro .nil .none, by simp, by decide, rfl⟩
  have hother : (Reading.ofText "(BOOST x").fault? = some ⟨7, .integerExpected .boost⟩ := by
    decide +kernel
  rw [hother] at hfault
  cases hfault

end QueryTemplate
