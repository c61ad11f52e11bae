import QueryTemplate.Proofs.Outline
import QueryTemplate.Proofs.Text
import QueryTemplate.Proofs.Vocabulary
import QueryTemplate.Template.Reading

/-!
# The reader accepts exactly the grammar

`Place.read` takes one lexeme after the other and remembers only its `Place`. The grammar of
`Template.Grammar` says by rules which lexemes spell which groups. The two agree:

* **`Place.Reads`** — lexemes of given kinds are read as given tokens and lead from one place to
  another, whatever follows. Every rule of the grammar gives such a stretch (`Decoration.Spelt.reads`,
  `Clause.Spelt.reads`, `Group.Spelt.reads`), so whatever is spelt is read.
* **`Place.Completes`** — what is still to come at a place before the template is complete, in terms
  of the rules. One step of the reader goes from one such demand to the one before it
  (`completes_of_moves`), so whatever is read to the end is spelt.
* **`succeeds_iff_derivation`** — the headline: success is the existence of a derivation, the tokens are
  those of the derivation, and there is only one.
-/

namespace QueryTemplate

/-! ## One step of the reader

`Moves` lists what a step can do: the place before it, the lexeme, the kind of the one after it, the
token if there is one, and the place after it. Everything about runs of the reader is derived from
this list (`step_eq_ok_iff`), and nothing below opens `Place.step` again. -/

namespace Place

inductive Moves : Place → Lexeme → Option Lexeme.Kind → Option Token → Place → Prop where
  | opening {pos : Nat} {next : Option Lexeme.Kind} :
      Moves .outside ⟨.opening, pos⟩ next (some .groupOpen) (.inside false)
  | groupOccurrence {pos : Nat} {o : Occurrence} {word : String}
      (hword : (Keyword.occurrence o).SpeltBy word) :
      Moves .outside ⟨.word word, pos⟩ (some .opening) (some (.groupOccurrence o)) .outside
  | closing {pos : Nat} {next : Option Lexeme.Kind} :
      Moves (.inside true) ⟨.closing, pos⟩ next (some .groupClose) .outside
  | fieldOccurrence {pos : Nat} {next : Option Lexeme.Kind} {filled : Bool} {o : Occurrence}
      {word : String} (hword : (Keyword.occurrence o).SpeltBy word) (hnext : next ≠ some .opening) :
      Moves (.inside filled) ⟨.word word, pos⟩ next (some (.fieldOccurrence o)) (.modified word)
  | weight {pos : Nat} {next : Option Lexeme.Kind} {filled : Bool} {w : Weight} {word : String}
      (hword : (Keyword.weight w).SpeltBy word) :
      Moves (.inside filled) ⟨.word word, pos⟩ next none
        (.weighted w (if filled then none else some pos))
  | wildcard {pos : Nat} {next : Option Lexeme.Kind} {word : String}
      (hword : Keyword.wildcard.SpeltBy word) :
      Moves (.inside true) ⟨.word word, pos⟩ next (some (.decoration .wildcard)) (.inside true)
  | constant {pos : Nat} {next : Option Lexeme.Kind} {word : String}
      (hword : Keyword.constant.SpeltBy word) :
      Moves (.inside true) ⟨.word word, pos⟩ next (some (.decoration .constant)) (.inside true)
  | field {pos : Nat} {next : Option Lexeme.Kind} {filled : Bool} {word : String}
      (hword : isFieldName word = true) :
      Moves (.inside filled) ⟨.word word, pos⟩ next (some (.field word)) (.named word)
  | modifiedField {pos : Nat} {next : Option Lexeme.Kind} {after word : String}
      (hword : isFieldName word = true) :
      Moves (.modified after) ⟨.word word, pos⟩ next (some (.field word)) (.named word)
  | placeholder {pos : Nat} {next : Option Lexeme.Kind} {field name : String} :
      Moves (.named field) ⟨.placeholder name, pos⟩ next (some (.placeholder name)) (.inside true)
  | number {pos : Nat} {next : Option Lexeme.Kind} {w : Weight} {n : UInt32} :
      Moves (.weighted w none) ⟨.word (Text.Numeral.text n), pos⟩ next
        (some (.decoration (w.decoration n))) (.inside true)

/-- Every move of the list is made by the reader. What a word is was decided by its keyword or by its
being a field name, and the reader looks at the same. -/
theorem Moves.step_eq {place after : Place} {lexeme : Lexeme} {next : Option Lexeme.Kind}
    {token? : Option Token} (h : place.Moves lexeme next token? after) :
    place.step lexeme next = .ok (token?, after) := by
  cases h with
  | opening => rfl
  | groupOccurrence hword =>
    simp [step, stepOutside, emit, Keyword.ofWord?_eq_some_iff.mpr hword]
  | closing => rfl
  | fieldOccurrence hword hnext =>
    simp [step, stepInside, emit, Keyword.ofWord?_eq_some_iff.mpr hword, hnext]
  | weight hword => simp [step, stepInside, Keyword.ofWord?_eq_some_iff.mpr hword]
  | wildcard hword =>
    simp [step, stepInside, stepDecoration, emit, Keyword.ofWord?_eq_some_iff.mpr hword]
  | constant hword =>
    simp [step, stepInside, stepDecoration, emit, Keyword.ofWord?_eq_some_iff.mpr hword]
  | field hword => simp [step, stepInside, stepField, emit, ofWord?_of_isFieldName hword, hword]
  | modifiedField hword => simp [step, stepField, emit, hword]
  | placeholder => rfl
  | number => simp [step, stepNumber, emit, Text.Numeral.ofChars?_eq_some_iff.mpr rfl]

/-- Outside a group only a parenthesis or an occurrence right before one is accepted. -/
theorem moves_of_stepOutside {kind : Lexeme.Kind} {pos : Nat} {next : Option Lexeme.Kind}
    {token? : Option Token} {after : Place}
    (h : stepOutside pos next kind = .ok (token?, after)) :
    outside.Moves ⟨kind, pos⟩ next token? after := by
  cases kind with
  | opening =>
    obtain ⟨rfl, rfl⟩ := Prod.mk.inj (Except.ok.inj h)
    exact .opening
  | closing => exact absurd h (by simp [stepOutside, fail])
  | placeholder name => exact absurd h (by simp [stepOutside, fail])
  | word w =>
    -- of the words, only an occurrence gets through, and only in front of a parenthesis
    simp only [stepOutside] at h
    split at h
    · next o ho =>
      split at h
      · next hnext =>
        obtain ⟨rfl, rfl⟩ := Prod.mk.inj (Except.ok.inj h)
        subst hnext
        exact .groupOccurrence (Keyword.ofWord?_eq_some_iff.mp ho)
      · exact absurd h (by simp [fail])
    · exact absurd h (by simp [fail])
    · exact absurd h (by simp [fail])

/-- **Inside a group.** A closing parenthesis and the two marks need a clause before them. A weight does
not, and the place remembers where it stood, so that the number behind it can be refused. -/
theorem moves_of_stepInside {kind : Lexeme.Kind} {pos : Nat} {next : Option Lexeme.Kind}
    {filled : Bool} {token? : Option Token} {after : Place}
    (h : stepInside pos next filled kind = .ok (token?, after)) :
    (inside filled).Moves ⟨kind, pos⟩ next token? after := by
  cases kind with
  | opening => exact absurd h (by simp [stepInside, fail])
  | closing =>
    cases filled with
    | false => exact absurd h (by simp [stepInside, fail])
    | true =>
      obtain ⟨rfl, rfl⟩ := Prod.mk.inj (Except.ok.inj h)
      exact .closing
  | placeholder name => exact absurd h (by simp [stepInside, fail])
  | word w =>
    -- an occurrence, a weight, one of the two marks, or else the name of a field
    simp only [stepInside, stepDecoration, stepField] at h
    split at h
    · next o ho =>
      split at h
      · exact absurd h (by simp [fail])
      · next hnext =>
        obtain ⟨rfl, rfl⟩ := Prod.mk.inj (Except.ok.inj h)
        exact .fieldOccurrence (Keyword.ofWord?_eq_some_iff.mp ho) hnext
    · next weight hw =>
      obtain ⟨rfl, rfl⟩ := Prod.mk.inj (Except.ok.inj h)
      exact .weight (Keyword.ofWord?_eq_some_iff.mp hw)
    · next hw =>
      split at h
      · next hfilled =>
        obtain ⟨rfl, rfl⟩ := Prod.mk.inj (Except.ok.inj h)
        subst hfilled
        exact .wildcard (Keyword.ofWord?_eq_some_iff.mp hw)
      · exact absurd h (by simp [fail])
    · next hw =>
      split at h
      · next hfilled =>
        obtain ⟨rfl, rfl⟩ := Prod.mk.inj (Except.ok.inj h)
        subst hfilled
        exact .constant (Keyword.ofWord?_eq_some_iff.mp hw)
      · exact absurd h (by simp [fail])
    · split at h
      · next hfield =>
        obtain ⟨rfl, rfl⟩ := Prod.mk.inj (Except.ok.inj h)
        exact .field hfield
      · exact absurd h (by simp [fail])

/-- Every step that succeeds is one of the moves. The cases are those of the place, and in each place
those of the lexeme. -/
theorem moves_of_step {place after : Place} {lexeme : Lexeme} {next : Option Lexeme.Kind}
    {token? : Option Token} (h : place.step lexeme next = .ok (token?, after)) :
    place.Moves lexeme next token? after := by
  obtain ⟨kind, pos⟩ := lexeme
  cases place with
  | outside => exact moves_of_stepOutside h
  | inside filled => exact moves_of_stepInside h
  | modified word =>
    cases kind with
    | word w =>
      simp only [step, stepField] at h
      split at h
      · next hfield =>
        obtain ⟨rfl, rfl⟩ := Prod.mk.inj (Except.ok.inj h)
        exact .modifiedField hfield
      · exact absurd h (by simp [fail])
    | _ => exact absurd h (by simp [step, fail])
  | named field =>
    cases kind with
    | placeholder name =>
      obtain ⟨rfl, rfl⟩ := Prod.mk.inj (Except.ok.inj h)
      exact .placeholder
    | _ => exact absurd h (by simp [step, fail])
  -- a weight waits for its number, and a dangling one is refused even with it
  | weighted w dangling =>
    cases kind with
    | word word =>
      simp only [step, stepNumber] at h
      split at h
      · exact absurd h (by simp [fail])
      · exact absurd h (by simp [fail])
      · next n hn =>
        obtain ⟨rfl, rfl⟩ := Prod.mk.inj (Except.ok.inj h)
        rw [String.toList_inj.mp (Text.Numeral.ofChars?_eq_some_iff.mp hn)]
        exact .number
    | _ => exact absurd h (by simp [step, fail])

/-- **What a step can do.** This is the inversion of the step function that all proofs about readings
use. -/
theorem step_eq_ok_iff {place after : Place} {lexeme : Lexeme} {next : Option Lexeme.Kind}
    {token? : Option Token} :
    place.step lexeme next = .ok (token?, after) ↔ place.Moves lexeme next token? after :=
  ⟨moves_of_step, Moves.step_eq⟩

end Place

/-! ## Stretches of a reading -/

/-- A reading with more tokens in front. -/
def Reading.prepend (tokens : List Token) (reading : Reading) : Reading :=
  ⟨tokens ++ reading.tokens, reading.fault?⟩

/-- Tokens are put in front one stretch after the other, and only the tokens grow; the fault stays. -/
@[simp]
theorem Reading.prepend_prepend (ts ts' : List Token) (reading : Reading) :
    (reading.prepend ts').prepend ts = reading.prepend (ts ++ ts') := by
  simp [prepend]

namespace Place

/-- A move at the front of a reading: its token, then the reading from the place after it. -/
theorem Moves.read_cons {place after : Place} {lexeme : Lexeme} {rest : List Lexeme}
    {token? : Option Token}
    (h : place.Moves lexeme (rest.head?.map Lexeme.kind) token? after) (stop : Nat) :
    place.read stop (lexeme :: rest) = (after.read stop rest).prepend token?.toList := by
  rw [read, h.step_eq]
  rfl

/-- From `p`, lexemes of the kinds `ks` are read as `ts` and lead to `q`, whatever follows them. -/
def Reads (p q : Place) (ks : List Lexeme.Kind) (ts : List Token) : Prop :=
  ∀ (stop : Nat) (lexemes rest : List Lexeme), lexemes.map Lexeme.kind = ks →
    p.read stop (lexemes ++ rest) = (q.read stop rest).prepend ts

theorem Reads.nil (p : Place) : p.Reads p [] [] := by
  intro stop lexemes rest hls
  rw [List.map_eq_nil_iff.mp hls]
  rfl

/-- **Stretches are put together.** The place between them is all that the second one knows of the
first. -/
theorem Reads.append {p q r : Place} {ks ks' : List Lexeme.Kind} {ts ts' : List Token}
    (h : p.Reads q ks ts) (h' : q.Reads r ks' ts') : p.Reads r (ks ++ ks') (ts ++ ts') := by
  intro stop lexemes rest hls
  obtain ⟨ls, ls', rfl, hks, hks'⟩ := List.map_eq_append_iff.mp hls
  rw [List.append_assoc, h stop ls (ls' ++ rest) hks, h' stop ls' rest hks',
    Reading.prepend_prepend]

/-- A move in front of a stretch. It may look at the next kind only as far as the stretch says which
one it is. -/
theorem Reads.cons {p q r : Place} {k : Lexeme.Kind} {ks : List Lexeme.Kind} {ts : List Token}
    {token? : Option Token}
    (hmove : ∀ pos next, (∀ k' ∈ ks.head?, next = some k') → p.Moves ⟨k, pos⟩ next token? q)
    (h : q.Reads r ks ts) : p.Reads r (k :: ks) (token?.toList ++ ts) := by
  intro stop lexemes rest hls
  obtain ⟨⟨_, pos⟩, ls, rfl, rfl, hks⟩ := List.map_eq_cons_iff.mp hls
  -- the next lexeme is the first one of the stretch, or unknown if the stretch is empty
  have hnext : ∀ k' ∈ ks.head?, (ls ++ rest).head?.map Lexeme.kind = some k' := by
    intro k' hk'
    subst hks
    cases ls with
    | nil => exact absurd hk' (by simp)
    | cons l ls => simpa using hk'
  rw [List.cons_append, (hmove pos _ hnext).read_cons, h stop ls rest hks,
    Reading.prepend_prepend]

/-- The same for a move that makes a token, which all moves but that of a weight do. -/
theorem Reads.token {p q r : Place} {k : Lexeme.Kind} {ks : List Lexeme.Kind} {t : Token}
    {ts : List Token}
    (hmove : ∀ pos next, (∀ k' ∈ ks.head?, next = some k') → p.Moves ⟨k, pos⟩ next (some t) q)
    (h : q.Reads r ks ts) : p.Reads r (k :: ks) (t :: ts) :=
  Reads.cons hmove h

/-- Items that lead back to the same place may be repeated. The induction is on the list of items: groups
lead from outside to outside, and clauses and decorations from inside to inside. -/
theorem Reads.speltList {α : Type} {Spelt : α → List Lexeme.Kind → Prop} {f : α → List Token}
    {p : Place} (hitem : ∀ a ks, Spelt a ks → p.Reads p ks (f a)) {as : List α}
    {ks : List Lexeme.Kind} (h : SpeltList Spelt as ks) : p.Reads p ks (as.flatMap f) := by
  induction h with
  | nil => exact .nil p
  | cons head _ ih => exact (hitem _ _ head).append ih

end Place

/-! ## What is spelt is read

One stretch for each rule of the grammar. -/

open Place

/-- A decoration is read inside a group that has a clause. With a number it takes two steps, and the token
is made by the second one. -/
theorem Decoration.Spelt.reads {d : Decoration} {ks : List Lexeme.Kind} (h : d.Spelt ks) :
    (inside true).Reads (inside true) ks [.decoration d] := by
  cases h with
  | @weight w n word hword =>
    have hkeyword : ∀ pos next,
        (inside true).Moves ⟨.word word, pos⟩ next none (weighted w none) := fun _ _ => .weight hword
    have hnumber : (weighted w none).Reads (inside true) [.word (Text.Numeral.text n)]
        [.decoration (w.decoration n)] := .token (fun _ _ _ => .number) (.nil _)
    exact .cons (fun pos next _ => hkeyword pos next) hnumber
  | wildcard hword => exact .token (fun _ _ _ => .wildcard hword) (.nil _)
  | constant hword => exact .token (fun _ _ _ => .constant hword) (.nil _)

theorem reads_decorations {ds : List Decoration} {ks : List Lexeme.Kind}
    (h : SpeltList Decoration.Spelt ds ks) :
    (inside true).Reads (inside true) ks (ds.map .decoration) := by
  rw [List.map_eq_flatMap]
  exact .speltList (fun _ _ hd => hd.reads) h

/-- From the name of a field on, a clause has its placeholder and its decorations. -/
theorem reads_placeholder (field name : String) {ds : List Decoration} {ks : List Lexeme.Kind}
    (hds : SpeltList Decoration.Spelt ds ks) :
    (named field).Reads (inside true) (.placeholder name :: ks)
      (.placeholder name :: ds.map .decoration) :=
  .token (fun _ _ _ => .placeholder) (reads_decorations hds)

/-- **A clause is read**, whether it is the first one of its group or not. An occurrence looks ahead to
the field, which tells it apart from the occurrence of a group. -/
theorem Clause.Spelt.reads {c : Clause} {ks : List Lexeme.Kind} (h : c.Spelt ks) (filled : Bool) :
    (inside filled).Reads (inside true) ks c.tokens := by
  obtain ⟨o?, field, name, ds⟩ := c
  cases h with
  | intro occurrence hfield hds =>
    simp only [Clause.tokens] at occurrence hfield hds ⊢
    cases occurrence with
    | none => exact .token (fun _ _ _ => .field hfield) (reads_placeholder field name hds)
    | some hword =>
      refine .token (fun pos next hnext => .fieldOccurrence hword ?_)
        (.token (fun _ _ _ => .modifiedField hfield) (reads_placeholder field name hds))
      -- the field behind the keyword shows that no group opens here
      rw [hnext (.word field) rfl]
      simp

/-- The clauses of a group and its end. The first clause fills the group, and only then may it be
closed. -/
theorem reads_body {cs : List Clause} {ks : List Lexeme.Kind} (hne : cs ≠ [])
    (h : SpeltList Clause.Spelt cs ks) :
    (inside false).Reads outside (ks ++ [.closing])
      (cs.flatMap Clause.tokens ++ [.groupClose]) := by
  have hclose : (inside true).Reads outside [.closing] [.groupClose] :=
    .token (fun _ _ _ => .closing) (.nil _)
  refine Reads.append ?_ hclose
  cases h with
  | nil => exact absurd rfl hne
  | cons head tail =>
    exact (head.reads false).append (.speltList (fun _ _ hc => hc.reads true) tail)

/-- **A group is read**, from outside to outside. -/
theorem Group.Spelt.reads {g : Group} {ks : List Lexeme.Kind} (h : g.Spelt ks) :
    outside.Reads outside ks g.tokens := by
  obtain ⟨o?, clauses⟩ := g
  cases h with
  | @intro os cs occurrence hne hclauses =>
    simp only at occurrence hne hclauses
    have hopen : outside.Reads outside (.opening :: (cs ++ [.closing]))
        (.groupOpen :: (clauses.flatMap Clause.tokens ++ [.groupClose])) :=
      .token (fun _ _ _ => .opening) (reads_body hne hclauses)
    simp only [Group.tokens, List.cons_append, List.append_assoc]
    cases occurrence with
    | none => exact hopen
    | some hword =>
      refine .token (fun pos next hnext => ?_) hopen
      -- the parenthesis behind the keyword makes it the occurrence of a group
      rw [hnext .opening rfl]
      exact .groupOccurrence hword

theorem reads_groups {gs : List Group} {ks : List Lexeme.Kind} (h : SpeltList Group.Spelt gs ks) :
    outside.Reads outside ks (Group.listTokens gs) :=
  .speltList (fun _ _ hg => hg.reads) h

/-- No group is spelt by no lexemes: a group has at least its two parentheses. -/
theorem eq_nil_of_speltList {gs : List Group} {ks : List Lexeme.Kind}
    (h : SpeltList Group.Spelt gs ks) (hks : ks = []) : gs = [] := by
  cases h with
  | nil => rfl
  | cons head _ =>
    cases head
    exact absurd hks (by simp)

/-- The reader goes on behind some groups as it would at the start. -/
theorem Reading.ofLexemes_append {gs : List Group} {lexemes : List Lexeme}
    (h : Group.SpellTemplate gs (lexemes.map Lexeme.kind)) (stop : Nat) (rest : List Lexeme) :
    ofLexemes stop (lexemes ++ rest)
      = (outside.read stop rest).prepend (Group.listTokens gs) := by
  obtain ⟨hne, hgs⟩ := h
  cases lexemes with
  | nil => exact absurd (eq_nil_of_speltList hgs rfl) hne
  | cons l ls => exact reads_groups hgs stop (l :: ls) rest rfl

/-- The whole template: nothing is left over and nothing is missing. -/
theorem ofLexemes_of_spellTemplate {gs : List Group} {lexemes : List Lexeme}
    (h : Group.SpellTemplate gs (lexemes.map Lexeme.kind)) (stop : Nat) :
    Reading.ofLexemes stop lexemes = ⟨Group.listTokens gs, none⟩ := by
  have hread := Reading.ofLexemes_append h stop []
  rw [List.append_nil] at hread
  rw [hread]
  simp [Reading.prepend, Place.read, missing?]

/-! ## What is read is spelt

`Completes place ks ts`: at `place`, lexemes of the kinds `ks` complete a template, and they add the
tokens `ts`. Inside a group the decorations of the clause before are to come first, then more clauses,
then the end of the group and further groups. -/

inductive Place.Completes : Place → List Lexeme.Kind → List Token → Prop where
  | outside {gs : List Group} {ks : List Lexeme.Kind} (groups : SpeltList Group.Spelt gs ks) :
      Completes .outside ks (Group.listTokens gs)
  | empty {cs : List Clause} {gs : List Group} {ck gk : List Lexeme.Kind} (nonempty : cs ≠ [])
      (clauses : SpeltList Clause.Spelt cs ck) (groups : SpeltList Group.Spelt gs gk) :
      Completes (.inside false) (ck ++ .closing :: gk)
        (cs.flatMap Clause.tokens ++ .groupClose :: Group.listTokens gs)
  | filled {ds : List Decoration} {cs : List Clause} {gs : List Group}
      {dk ck gk : List Lexeme.Kind} (decorations : SpeltList Decoration.Spelt ds dk)
      (clauses : SpeltList Clause.Spelt cs ck) (groups : SpeltList Group.Spelt gs gk) :
      Completes (.inside true) (dk ++ (ck ++ .closing :: gk))
        (ds.map .decoration ++ (cs.flatMap Clause.tokens ++ .groupClose :: Group.listTokens gs))
  | modified {word field name : String} {ks : List Lexeme.Kind} {ts : List Token}
      (hfield : isFieldName field = true) (rest : Completes (.inside true) ks ts) :
      Completes (.modified word) (.word field :: .placeholder name :: ks)
        (.field field :: .placeholder name :: ts)
  | named {field name : String} {ks : List Lexeme.Kind} {ts : List Token}
      (rest : Completes (.inside true) ks ts) :
      Completes (.named field) (.placeholder name :: ks) (.placeholder name :: ts)
  | weighted {w : Weight} {n : UInt32} {ks : List Lexeme.Kind} {ts : List Token}
      (rest : Completes (.inside true) ks ts) :
      Completes (.weighted w none) (.word (Text.Numeral.text n) :: ks)
        (.decoration (w.decoration n) :: ts)

namespace Place.Completes

/-- A clause in front: what completes the group behind it completes the group with it. -/
theorem clause {o? : Option Occurrence} {os ks : List Lexeme.Kind} {field name : String}
    {ts : List Token} (ho : Occurrence.Spelt o? os) (hfield : isFieldName field = true)
    (h : Completes (.inside true) ks ts) (filled : Bool) :
    Completes (.inside filled) (os ++ .word field :: .placeholder name :: ks)
      ((o?.map Token.fieldOccurrence).toList ++ .field field :: .placeholder name :: ts) := by
  cases h with
  | @filled ds cs gs dk ck gk hds hcs hgs =>
    -- the decorations to come belong to the clause in front
    have hc : Clause.Spelt ⟨o?, field, name, ds⟩ (os ++ .word field :: .placeholder name :: dk) :=
      .intro ho hfield hds
    cases filled with
    | false => simpa [Clause.tokens] using Completes.empty (by simp) (.cons hc hcs) hgs
    | true => simpa [Clause.tokens] using Completes.filled .nil (.cons hc hcs) hgs

/-- A decoration in front belongs to the clause before it, like those that are still to come. -/
theorem decoration {d : Decoration} {dk ks : List Lexeme.Kind} {ts : List Token} (hd : d.Spelt dk)
    (h : Completes (.inside true) ks ts) :
    Completes (.inside true) (dk ++ ks) (.decoration d :: ts) := by
  cases h with
  | filled hds hcs hgs => simpa using Completes.filled (.cons hd hds) hcs hgs

theorem closing {ks : List Lexeme.Kind} {ts : List Token} (h : Completes .outside ks ts) :
    Completes (.inside true) (.closing :: ks) (.groupClose :: ts) := by
  cases h with
  | outside hgs => exact .filled .nil .nil hgs

theorem opening {ks : List Lexeme.Kind} {ts : List Token} (h : Completes (.inside false) ks ts) :
    Completes .outside (.opening :: ks) (.groupOpen :: ts) := by
  cases h with
  | @empty cs gs ck gk hne hcs hgs =>
    have hg : Group.Spelt ⟨none, cs⟩ ([] ++ .opening :: ck ++ [.closing]) := .intro .none hne hcs
    simpa [Group.listTokens, Group.tokens] using Completes.outside (.cons hg hgs)

/-- The occurrence of a group, in front of its parenthesis. That the next lexeme is the parenthesis
excludes a group that has an occurrence already. -/
theorem announce {o : Occurrence} {word : String} {ks : List Lexeme.Kind} {ts : List Token}
    (hw : (Keyword.occurrence o).SpeltBy word) (h : Completes .outside ks ts)
    (hopen : ks.head? = some .opening) :
    Completes .outside (.word word :: ks) (.groupOccurrence o :: ts) := by
  cases h with
  | outside hgs =>
    cases hgs with
    | nil => exact absurd hopen (by simp)
    | @cons g gs gk rest hg hgs =>
      obtain ⟨o?, cs⟩ := g
      cases hg with
      | @intro os ck ho hne hcs =>
        cases ho with
        | none =>
          have hg : Group.Spelt ⟨some o, cs⟩ ([.word word] ++ .opening :: ck ++ [.closing]) :=
            .intro (.some hw) hne hcs
          simpa [Group.listTokens, Group.tokens] using Completes.outside (.cons hg hgs)
        | some _ =>
          -- a group that starts with its occurrence does not start with a parenthesis
          exact absurd hopen (by simp)

end Place.Completes

/-- **A step back.** If a move leads to a place where `ks` complete the template, then at the place
before it they complete it with the lexeme of the move in front. -/
theorem completes_of_moves {place after : Place} {lexeme : Lexeme} {ks : List Lexeme.Kind}
    {token? : Option Token} {ts : List Token} (hmove : place.Moves lexeme ks.head? token? after)
    (h : after.Completes ks ts) : place.Completes (lexeme.kind :: ks) (token?.toList ++ ts) := by
  generalize hnext : ks.head? = next at hmove
  cases hmove with
  | opening => exact h.opening
  | groupOccurrence hword => exact h.announce hword hnext
  | closing => exact h.closing
  | fieldOccurrence hword _ =>
    cases h with
    | modified hfield h => exact h.clause (.some hword) hfield _
  | @weight _ _ filled _ _ hword =>
    -- a weight that has no clause in front cannot be completed
    cases filled with
    | false => cases h
    | true =>
      cases h with
      | weighted h => exact h.decoration (.weight hword)
  | wildcard hword => exact h.decoration (.wildcard hword)
  | constant hword => exact h.decoration (.constant hword)
  | field hword =>
    cases h with
    | named h => exact h.clause .none hword _
  | modifiedField hword =>
    cases h with
    | named h => exact .modified hword h
  | placeholder => exact .named h
  | number => exact .weighted h

/-- **A reading without a fault completes the template** at the place where it starts. The induction is on
the lexemes, for all places, and each step is taken back by `completes_of_moves`. -/
theorem completes_of_read {stop : Nat} {place : Place} {lexemes : List Lexeme}
    (h : (place.read stop lexemes).fault? = none) :
    place.Completes (lexemes.map Lexeme.kind) (place.read stop lexemes).tokens := by
  induction lexemes generalizing place with
  | nil =>
    -- only outside a group nothing is missing
    cases place with
    | outside => exact .outside .nil
    | _ => exact absurd h (by simp [Place.read, missing?])
  | cons lexeme rest ih =>
    rw [Place.read] at h ⊢
    cases hstep : place.step lexeme (rest.head?.map Lexeme.kind) with
    | error fault => exact absurd h (by simp [hstep])
    | ok result =>
      obtain ⟨token?, after⟩ := result
      rw [hstep] at h
      simp only at h ⊢
      refine completes_of_moves ?_ (ih h)
      rw [List.head?_map]
      exact step_eq_ok_iff.mp hstep

/-- A template that is read without a fault has a derivation, and its tokens are those of the
derivation. -/
theorem exists_spellTemplate_of_ofLexemes {stop : Nat} {lexemes : List Lexeme}
    (h : (Reading.ofLexemes stop lexemes).fault? = none) :
    ∃ gs, Group.SpellTemplate gs (lexemes.map Lexeme.kind) ∧
      (Reading.ofLexemes stop lexemes).tokens = Group.listTokens gs := by
  cases lexemes with
  | nil => exact absurd h (by simp [Reading.ofLexemes])
  | cons l ls =>
    have hcomplete : outside.Completes ((l :: ls).map Lexeme.kind)
        (Reading.ofLexemes stop (l :: ls)).tokens := completes_of_read h
    -- forget where kinds and tokens come from, so that the cases of `Completes` apply
    generalize hks : (l :: ls).map Lexeme.kind = ks at hcomplete ⊢
    generalize (Reading.ofLexemes stop (l :: ls)).tokens = ts at hcomplete ⊢
    cases hcomplete with
    | @outside gs _ hgs =>
      refine ⟨gs, ⟨?_, hgs⟩, rfl⟩
      rintro rfl
      cases hgs
      exact absurd hks (by simp)

/-! ## The grammar of a template -/

/-- A sequence of lexemes has at most one derivation: the reader turns it into the tokens of each of
them, and the tokens determine the groups. -/
theorem spellTemplate_unique {gs gs' : List Group} {ks : List Lexeme.Kind}
    (h : Group.SpellTemplate gs ks) (h' : Group.SpellTemplate gs' ks) : gs = gs' := by
  -- lexemes of these kinds, all at offset zero, are as good as any
  have hks : (ks.map fun k => (⟨k, 0⟩ : Lexeme)).map Lexeme.kind = ks := by
    simp [Function.comp_def]
  rw [← hks] at h h'
  have hread := ofLexemes_of_spellTemplate h 0
  rw [ofLexemes_of_spellTemplate h' 0] at hread
  exact (listTokens_injective (congrArg Reading.tokens hread)).symm

/-- A template whose lexemes derive from the rules is read as the tokens of the derivation, without a
fault. -/
theorem ofText_of_spellTemplate {template : String} {lexemes : List Lexeme} {gs : List Group}
    (hscan : Lexeme.scan template = .ok lexemes)
    (h : Group.SpellTemplate gs (lexemes.map Lexeme.kind)) :
    Reading.ofText template = ⟨Group.listTokens gs, none⟩ := by
  rw [Reading.ofText, hscan]
  exact ofLexemes_of_spellTemplate h _

/-- A template that is read without a fault is scanned without one, and its lexemes derive from the
rules. -/
theorem exists_spellTemplate_of_ofText {template : String}
    (h : (Reading.ofText template).fault? = none) :
    ∃ lexemes gs, Lexeme.scan template = .ok lexemes ∧
      Group.SpellTemplate gs (lexemes.map Lexeme.kind) ∧
      (Reading.ofText template).tokens = Group.listTokens gs := by
  rw [Reading.ofText] at h ⊢
  cases hscan : Lexeme.scan template with
  | error fault => exact absurd h (by simp [hscan])
  | ok lexemes =>
    rw [hscan] at h
    obtain ⟨gs, hgs, htokens⟩ := exists_spellTemplate_of_ofLexemes h
    exact ⟨lexemes, gs, rfl, hgs, htokens⟩

/-- **The reader accepts exactly the grammar.** A template is read without a fault if and only if it
has lexemes and these derive from the rules. The tokens are then those of the derivation, where an
occurrence is that of the group before a parenthesis and that of the clause before a field, and no
other derivation exists. The words that name fields are never keywords. -/
theorem succeeds_iff_derivation (template : String) :
    ((Reading.ofText template).succeeds = true ↔
        ∃ lexemes gs, Lexeme.scan template = .ok lexemes ∧
          Group.SpellTemplate gs (lexemes.map Lexeme.kind)) ∧
      (∀ lexemes gs, Lexeme.scan template = .ok lexemes →
        Group.SpellTemplate gs (lexemes.map Lexeme.kind) →
          (Reading.ofText template).tokens = Group.listTokens gs ∧
            ∀ gs', Group.SpellTemplate gs' (lexemes.map Lexeme.kind) → gs' = gs) ∧
      ∀ word, isFieldName word = true → ∀ k : Keyword, ¬ k.SpeltBy word := by
  refine ⟨⟨fun h => ?_, ?_⟩, ?_, ?_⟩
  · rw [Reading.succeeds, Option.isNone_iff_eq_none] at h
    obtain ⟨lexemes, gs, hscan, hgs, -⟩ := exists_spellTemplate_of_ofText h
    exact ⟨lexemes, gs, hscan, hgs⟩
  · rintro ⟨lexemes, gs, hscan, hgs⟩
    rw [ofText_of_spellTemplate hscan hgs]
    rfl
  · intro lexemes gs hscan hgs
    refine ⟨?_, fun gs' hgs' => spellTemplate_unique hgs' hgs⟩
    rw [ofText_of_spellTemplate hscan hgs]
  · intro word hword k
    exact not_speltBy_of_isFieldName hword k

/-- A template with both kinds of occurrence, keywords in mixed case and no blanks where none are
needed. -/
theorem derivation_of_mixed_case :
    ∃ lexemes gs, Lexeme.scan "Must(shOuld a<b>boost 2)" = .ok lexemes ∧
      Group.SpellTemplate gs (lexemes.map Lexeme.kind) ∧
      Group.listTokens gs = [.groupOccurrence .must, .groupOpen, .fieldOccurrence .should, .field "a",
        .placeholder "b", .decoration (.boost 2), .groupClose] ∧
      ∀ gs', Group.SpellTemplate gs' (lexemes.map Lexeme.kind) → gs' = gs := by
  obtain ⟨hiff, hderivation, -⟩ := succeeds_iff_derivation "Must(shOuld a<b>boost 2)"
  obtain ⟨lexemes, gs, hscan, hgs⟩ := hiff.mp (by decide +kernel)
  obtain ⟨htokens, hunique⟩ := hderivation lexemes gs hscan hgs
  refine ⟨lexemes, gs, hscan, hgs, ?_, hunique⟩
  rw [← htokens]
  decide +kernel

end QueryTemplate
