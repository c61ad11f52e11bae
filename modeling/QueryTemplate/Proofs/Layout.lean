import Mathlib.Data.List.Chain
import QueryTemplate.Proofs.Scan

/-!
# Texts laid out as lexemes and blanks

Which texts have lexemes at all, and which, said without a scan: a text is laid out as the texts of
lexemes with blanks between them, and only two words next to each other need a blank.

* **`Lexeme.Layout`** — such a layout. It carries the proofs that its gaps are blank, that every lexeme
  is written as its kind is, and that neighbouring words are apart.
* **`splits_iff_layout`** — a text falls into lexemes by the rules of `Lexeme.Splits` exactly if it has
  a layout with these lexemes.
* **`scan_finds_layout`** — the headline: the scan finds the lexemes of a layout, with the offsets of
  their first characters, and it fails only on texts that have none.
-/

namespace QueryTemplate.Lexeme

/-! ## Layouts -/

/-- A lexeme in a text, with the blanks in front of it. -/
structure Piece where
  gap : List Char
  kind : Kind
  text : List Char
  blank : ∀ c ∈ gap, Text.isBlank c = true
  written : kind.Written text

namespace Piece

def chars (p : Piece) : List Char := p.gap ++ p.text

/-- Two words next to each other have a blank between them. -/
def Apart (p q : Piece) : Prop := p.kind.isWord = true → q.kind.isWord = true → q.gap ≠ []

/-- The lexemes of some pieces behind the text `before`. The position of a lexeme is the number of UTF-8
bytes in front of its first character. -/
def lexemes (before : List Char) : List Piece → List Lexeme
  | [] => []
  | p :: ps =>
    ⟨p.kind, (String.ofList (before ++ p.gap)).utf8ByteSize⟩ :: lexemes (before ++ p.chars) ps

end Piece

/-- Lexemes and blanks in alternation. -/
structure Layout where
  pieces : List Piece
  trailing : List Char
  apart : pieces.IsChain Piece.Apart
  blank : ∀ c ∈ trailing, Text.isBlank c = true

namespace Layout

def chars (l : Layout) : List Char := l.pieces.flatMap Piece.chars ++ l.trailing

def text (l : Layout) : String := String.ofList l.chars

def lexemes (l : Layout) : List Lexeme := Piece.lexemes [] l.pieces

/-- Texts are compared as lists of characters, which is what the rules are about. -/
theorem text_eq_iff {l : Layout} {s : String} : l.text = s ↔ l.chars = s.toList := by
  rw [text, ← String.toList_inj, String.toList_ofList]

/-- No lexemes and no blanks. -/
def empty : Layout := ⟨[], [], .nil, by simp⟩

/-- A layout with one more lexeme in front. -/
def cons (p : Piece) (l : Layout) (h : ∀ q ∈ l.pieces.head?, p.Apart q) : Layout where
  pieces := p :: l.pieces
  trailing := l.trailing
  apart := List.isChain_cons.mpr ⟨h, l.apart⟩
  blank := l.blank

/-- A blank in front goes to the gap of the first lexeme, or to the end if there is none. Every lexeme
moves on by this blank. -/
theorem exists_indent {c : Char} (hc : Text.isBlank c = true) (l : Layout) :
    ∃ l' : Layout, l'.chars = c :: l.chars ∧
      ∀ before, Piece.lexemes before l'.pieces = Piece.lexemes (before ++ [c]) l.pieces := by
  obtain ⟨pieces, trailing, hapart, hblank⟩ := l
  cases pieces with
  | nil =>
    have hblank' : ∀ d ∈ c :: trailing, Text.isBlank d = true := by simpa [hc] using hblank
    exact ⟨⟨[], c :: trailing, .nil, hblank'⟩, by simp [chars], fun _ => rfl⟩
  | cons p ps =>
    have hgap : ∀ d ∈ c :: p.gap, Text.isBlank d = true := by simpa [hc] using p.blank
    -- the new gap stands in front of the first lexeme, where no word is
    obtain ⟨hhead, htail⟩ := List.isChain_cons.mp hapart
    have hapart' : List.IsChain Piece.Apart (⟨c :: p.gap, p.kind, p.text, hgap, p.written⟩ :: ps) :=
      List.isChain_cons.mpr ⟨fun q hq => hhead q hq, htail⟩
    refine ⟨⟨_, trailing, hapart', hblank⟩, by simp [chars, Piece.chars], fun before => ?_⟩
    simp [Piece.lexemes, Piece.chars]

end Layout

/-! ## A layout falls into its lexemes -/

/-- **A lexeme ends in front of a layout that it is apart from.** What comes next is a blank, the end of
the text, or a lexeme; and a word right behind a word is excluded. -/
theorem Layout.endsBefore_chars {p : Piece} {l : Layout}
    (hapart : ∀ q ∈ l.pieces.head?, p.Apart q) : p.kind.EndsBefore l.chars := by
  intro hp c hc
  obtain ⟨pieces, trailing, hchain, hblank⟩ := l
  cases pieces with
  | nil =>
    have hmem : c ∈ trailing := List.mem_of_mem_head? (by simpa [chars] using hc)
    exact not_isWordChar_of_isBlank (hblank c hmem)
  | cons q qs =>
    cases hgap : q.gap with
    | cons d gap =>
      obtain rfl : d = c := by simpa [chars, Piece.chars, hgap] using hc
      exact not_isWordChar_of_isBlank (q.blank d (by simp [hgap]))
    | nil =>
      -- without a gap the next lexeme is no word, and its first character tells it
      obtain ⟨d, cs, htext, hd⟩ := q.written.exists_head
      obtain rfl : d = c := by simpa [chars, Piece.chars, hgap, htext] using hc
      rw [hd]
      cases hq : q.kind.isWord with
      | false => rfl
      | true => exact absurd hgap (hapart q rfl hp hq)

/-- **A layout falls into its lexemes.** The induction is on the pieces; each one is its blanks and then
its lexeme, with the text in front of it giving the offset. -/
theorem Layout.splits (l : Layout) (before : List Char) :
    Splits (byteLength before) l.chars (Piece.lexemes before l.pieces) := by
  obtain ⟨pieces, trailing, hapart, hblank⟩ := l
  induction pieces generalizing before with
  | nil =>
    have hsplits : Splits (byteLength before) (trailing ++ []) [] := .blanks hblank .nil
    simpa [chars, Piece.lexemes] using hsplits
  | cons p ps ih =>
    obtain ⟨hhead, htail⟩ := List.isChain_cons.mp hapart
    have hrest := ih (before ++ p.chars) htail
    have hend := Layout.endsBefore_chars (l := ⟨ps, trailing, htail, hblank⟩) hhead
    rw [byteLength_append, Piece.chars, byteLength_append, ← Nat.add_assoc] at hrest
    have hsplits := Splits.blanks p.blank (.lexeme p.written hend hrest)
    simpa [chars, Piece.chars, Piece.lexemes, utf8ByteSize_ofList, byteLength_append] using hsplits

/-! ## What falls into lexemes has a layout -/

/-- A lexeme in front of a layout, without a blank between them. It may stand there because it may end
there. -/
theorem Layout.exists_cons {kind : Kind} {text : List Char} (hwritten : kind.Written text)
    (l : Layout) (hend : kind.EndsBefore l.chars) :
    ∃ l' : Layout, l'.chars = text ++ l.chars ∧ ∀ before, Piece.lexemes before l'.pieces
      = ⟨kind, byteLength before⟩ :: Piece.lexemes (before ++ text) l.pieces := by
  have hapart : ∀ q ∈ l.pieces.head?, Piece.Apart ⟨[], kind, text, by simp, hwritten⟩ q := by
    intro q hq hkind hword hgap
    -- a word right behind a word would begin with a character of a word
    obtain ⟨c, cs, htext, hc⟩ := q.written.exists_head
    obtain ⟨qs, hpieces⟩ := List.head?_eq_some_iff.mp hq
    have hhead := hend hkind c (by simp [chars, hpieces, Piece.chars, hgap, htext])
    rw [hc, hword] at hhead
    exact absurd hhead (by simp)
  refine ⟨l.cons _ hapart, by simp [cons, chars, Piece.chars], fun before => ?_⟩
  simp [cons, Piece.lexemes, Piece.chars, utf8ByteSize_ofList]

/-- **What falls into lexemes has a layout.** The induction is over lexemes and blanks, and every step
puts one of them in front. -/
theorem Splits.exists_layout {pos : Nat} {cs : List Char} {lexemes : List Lexeme}
    (h : Splits pos cs lexemes) :
    ∀ before, pos = byteLength before →
      ∃ l : Layout, l.chars = cs ∧ Piece.lexemes before l.pieces = lexemes := by
  refine h.lexemeRec (motive := fun pos cs lexemes => ∀ before, pos = byteLength before →
    ∃ l : Layout, l.chars = cs ∧ Piece.lexemes before l.pieces = lexemes) ?nil ?blank ?lexeme
  case nil => exact fun _ _ _ => ⟨.empty, rfl, rfl⟩
  case blank =>
    rintro pos c cs lexemes hblank ih before rfl
    obtain ⟨l, rfl, rfl⟩ := ih (before ++ [c]) (by rw [byteLength_append]; rfl)
    obtain ⟨l', hchars, hlexemes⟩ := l.exists_indent hblank
    exact ⟨l', hchars, hlexemes before⟩
  case lexeme =>
    rintro pos kind text cs lexemes hwritten hend - ih before rfl
    obtain ⟨l, rfl, rfl⟩ := ih (before ++ text) (by rw [byteLength_append])
    obtain ⟨l', hchars, hlexemes⟩ := l.exists_cons hwritten hend
    exact ⟨l', hchars, hlexemes before⟩

/-- **A text falls into lexemes exactly if it has a layout with these lexemes.** The rules and the layouts
are two descriptions of the same texts. -/
theorem splits_iff_layout {cs : List Char} {lexemes : List Lexeme} :
    Splits 0 cs lexemes ↔ ∃ l : Layout, l.chars = cs ∧ l.lexemes = lexemes := by
  refine ⟨fun h => h.exists_layout [] rfl, ?_⟩
  rintro ⟨l, rfl, rfl⟩
  exact l.splits []

/-! ## The headline -/

/-- **The scan finds the layout of a text.** It returns the lexemes of the text's layout, each with the
offset of its first character, and it fails on exactly the texts that have none. A fault stands at an
angle bracket, and the scan of the text in front of that bracket succeeds. -/
theorem scan_finds_layout (template : String) :
    (∀ lexemes, scan template = .ok lexemes ↔
      ∃ l : Layout, l.text = template ∧ l.lexemes = lexemes) ∧
    ((∃ fault, scan template = .error fault) ↔ ¬ ∃ l : Layout, l.text = template) ∧
    ∀ fault, scan template = .error fault → ∃ (before : String) (c : Char) (after : List Char),
      template.toList = before.toList ++ c :: after ∧ (c = '<' ∨ c = '>') ∧
      fault.position = before.utf8ByteSize ∧ ∃ lexemes, scan before = .ok lexemes := by
  have hok : ∀ lexemes, scan template = .ok lexemes ↔
      ∃ l : Layout, l.text = template ∧ l.lexemes = lexemes := by
    intro lexemes
    rw [scan, scanFrom_eq_ok_iff, splits_iff_layout]
    simp only [Layout.text_eq_iff]
  refine ⟨hok, ⟨?_, ?_⟩, fun _ => exists_angle_of_scan⟩
  · rintro ⟨fault, hfault⟩ ⟨l, htext⟩
    rw [(hok l.lexemes).mpr ⟨l, htext, rfl⟩] at hfault
    exact absurd hfault (by simp)
  · intro hnone
    cases hscan : scan template with
    | error fault => exact ⟨fault, rfl⟩
    | ok lexemes =>
      obtain ⟨l, htext, -⟩ := (hok lexemes).mp hscan
      exact absurd ⟨l, htext⟩ hnone

/-- A bracket behind characters of one and of two bytes. -/
theorem scan_finds_layout_behind_word :
    scan "é <a> >b" = .error ⟨7, .unexpectedAngle⟩ ∧ (¬ ∃ l : Layout, l.text = "é <a> >b") ∧
    ∃ (before : String) (c : Char) (after : List Char),
      "é <a> >b".toList = before.toList ++ c :: after ∧ (c = '<' ∨ c = '>') ∧
      7 = before.utf8ByteSize ∧ ∃ lexemes, scan before = .ok lexemes := by
  have hscan : scan "é <a> >b" = .error ⟨7, .unexpectedAngle⟩ := by decide +kernel
  obtain ⟨-, hnone, hfault⟩ := scan_finds_layout "é <a> >b"
  exact ⟨hscan, hnone.mp ⟨_, hscan⟩, hfault _ hscan⟩

end QueryTemplate.Lexeme
