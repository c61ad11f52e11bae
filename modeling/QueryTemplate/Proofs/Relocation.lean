import QueryTemplate.Proofs.Scan
import QueryTemplate.Template.Reading

/-!
# Positions are only reported

The positions of lexemes go into faults and nowhere else. So the scan and the reader do the same for the
same text wherever it stands, and only their faults move with it.

* `Place.step_relocate`, **`Place.read_relocate`** — the reader, for any new positions of the lexemes,
* `Lexeme.Splits.shift`, `Lexeme.StopsAt.shift` — the scan, for a text that starts further on.
-/

namespace QueryTemplate

/-! ## New positions -/

def Fault.relocate (f : Nat → Nat) (fault : Fault) : Fault := ⟨f fault.position, fault.cause⟩

def Lexeme.relocate (f : Nat → Nat) (lexeme : Lexeme) : Lexeme := ⟨lexeme.kind, f lexeme.position⟩

def Reading.relocate (f : Nat → Nat) (reading : Reading) : Reading :=
  ⟨reading.tokens, reading.fault?.map (Fault.relocate f)⟩

namespace Place

/-- Only the keyword of a weight is remembered by its position. -/
def relocate (f : Nat → Nat) : Place → Place
  | outside => outside
  | inside filled => inside filled
  | modified word => modified word
  | named name => named name
  | weighted weight dangling => weighted weight (dangling.map f)

def Step.relocate (f : Nat → Nat) : Step → Step
  | .error fault => .error (fault.relocate f)
  | .ok (token?, after) => .ok (token?, after.relocate f)

/-! ## One step of the reader -/

variable (f : Nat → Nat)

/-- What is missing at the end of a template depends on the place, and not on a position in it. -/
theorem missing?_relocate (place : Place) : (place.relocate f).missing? = place.missing? := by
  cases place <;> rfl

theorem stepField_relocate (pos : Nat) (word : String) :
    stepField (f pos) word = (stepField pos word).relocate f := by
  unfold stepField
  split <;> rfl

theorem stepDecoration_relocate (pos : Nat) (filled : Bool) (d : Decoration) :
    stepDecoration (f pos) filled d = (stepDecoration pos filled d).relocate f := by
  unfold stepDecoration
  split <;> rfl

/-- A number is judged by its digits. If the weight before it has no clause, then the position of the
weight is the one that is reported, and it moves along. -/
theorem stepNumber_relocate (pos : Nat) (weight : Weight) (dangling : Option Nat) (word : String) :
    stepNumber (f pos) weight (dangling.map f) word
      = (stepNumber pos weight dangling word).relocate f := by
  unfold stepNumber
  cases dangling <;> cases Text.Numeral.ofChars? word.toList <;> rfl

/-- Outside a group the lexeme and the kind of the next one decide. -/
theorem stepOutside_relocate (pos : Nat) (next : Option Lexeme.Kind) (kind : Lexeme.Kind) :
    stepOutside (f pos) next kind = (stepOutside pos next kind).relocate f := by
  cases kind with
  | word w =>
    unfold stepOutside
    simp only
    split
    · split <;> rfl
    · rfl
    · rfl
  | _ => rfl

/-- Inside a group the same holds. A weight without a clause keeps its own position for later. -/
theorem stepInside_relocate (pos : Nat) (next : Option Lexeme.Kind) (filled : Bool)
    (kind : Lexeme.Kind) :
    stepInside (f pos) next filled kind = (stepInside pos next filled kind).relocate f := by
  cases kind with
  | opening => rfl
  | closing => cases filled <;> rfl
  | placeholder name => rfl
  | word w =>
    -- the branches are those of the keyword that the word spells, if it spells one
    unfold stepInside
    simp only
    split
    · split <;> rfl
    · cases filled <;> rfl
    · exact stepDecoration_relocate f pos filled _
    · exact stepDecoration_relocate f pos filled _
    · exact stepField_relocate f pos w

/-- **A step does not look at positions.** It takes the same branch wherever the lexeme stands; if it
fails, its fault is at the new position. -/
theorem step_relocate (place : Place) (lexeme : Lexeme) (next : Option Lexeme.Kind) :
    (place.relocate f).step (lexeme.relocate f) next = (place.step lexeme next).relocate f := by
  obtain ⟨kind, pos⟩ := lexeme
  cases place with
  | outside => exact stepOutside_relocate f pos next kind
  | inside filled => exact stepInside_relocate f pos next filled kind
  | modified after =>
    cases kind with
    | word w => exact stepField_relocate f pos w
    | _ => rfl
  | named field => cases kind <;> rfl
  | weighted weight dangling =>
    cases kind with
    | word w => exact stepNumber_relocate f pos weight dangling w
    | _ => rfl

/-- **The reader does not look at positions.** The induction is on the lexemes, and each step is
`step_relocate`. The function need not be monotone: the positions could be any names. -/
theorem read_relocate (place : Place) (stop : Nat) (lexemes : List Lexeme) :
    (place.relocate f).read (f stop) (lexemes.map (Lexeme.relocate f))
      = (place.read stop lexemes).relocate f := by
  induction lexemes generalizing place with
  | nil =>
    rw [List.map_nil, read, read, missing?_relocate]
    cases place.missing? <;> rfl
  | cons lexeme rest ih =>
    -- the next kind, which a step looks at, is not changed by a new position
    have hnext : (rest.map (Lexeme.relocate f)).head?.map Lexeme.kind = rest.head?.map Lexeme.kind := by
      rw [List.head?_map, Option.map_map]
      rfl
    rw [List.map_cons, read, read, hnext, step_relocate]
    cases place.step lexeme (rest.head?.map Lexeme.kind) with
    | error fault => rfl
    | ok result =>
      obtain ⟨token?, after⟩ := result
      simp only [Step.relocate, ih, Reading.relocate]

end Place

/-! ## The scan -/

namespace Lexeme

variable {pos : Nat} {cs : List Char}

/-- A text that starts further on falls into the same lexemes, further on. -/
theorem Splits.shift {lexemes : List Lexeme} (h : Splits pos cs lexemes) (k : Nat) :
    Splits (pos + k) cs (lexemes.map (relocate (· + k))) := by
  refine h.lexemeRec (motive := fun pos cs lexemes =>
    Splits (pos + k) cs (lexemes.map (relocate (· + k)))) ?nil ?blank ?lexeme
  case nil => exact fun pos => .nil
  case blank =>
    intro pos c cs lexemes hblank ih
    rw [Nat.add_right_comm] at ih
    exact .blank hblank ih
  case lexeme =>
    intro pos kind text cs lexemes hwritten hend _ ih
    rw [Nat.add_right_comm] at ih
    exact .lexeme hwritten hend ih

theorem StopsAt.shift {fault : Fault} (h : StopsAt pos cs fault) (k : Nat) :
    StopsAt (pos + k) cs (fault.relocate (· + k)) := by
  obtain ⟨before, rest, lexemes, rfl, hsplits, hstuck, hpos⟩ := h
  refine ⟨before, rest, _, rfl, hsplits.shift k, hstuck, ?_⟩
  simp only [Fault.relocate, hpos]
  omega

end Lexeme

end QueryTemplate
