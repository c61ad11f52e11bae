import QueryTemplate.Proofs.Text
import QueryTemplate.Template.Grammar

/-!
# How text falls into lexemes

`Lexeme.scanFrom` cuts a text with three nested loops. `Lexeme.Splits` says by rules how a text that
starts at a given offset falls into lexemes, and `Lexeme.StopsAt` where a text does not:

* `Lexeme.Kind.Written`: how a lexeme of each kind is written. All kinds are scanned in the same way
  (`scanFrom_lexeme`), and a scan goes on behind a text as if it had started there (`scanFrom_append`).
* `text_cases`: a text begins with a blank, with a lexeme, or with an angle bracket out of place. So it
  falls into lexemes or stops (`splits_or_stopsAt`).
* `scanFrom_eq_ok_iff`, `scanFrom_eq_error_iff`: the scan finds exactly these lexemes and these faults.

From the rules:

* `Lexeme.Splits.isPlaceholderName`: the placeholders that are found have names that can be printed,
* `Lexeme.Scans`: which kinds of lexemes a text has, wherever it stands. The text of a template is put
  together from such pieces when it is printed.
-/

namespace QueryTemplate.Lexeme

/-! ## The rules -/

/-- The characters `cs`, the first of which has the offset `pos`, fall into `lexemes`. A word ends only
where no character of a word follows. -/
inductive Splits : Nat → List Char → List Lexeme → Prop where
  | nil {pos : Nat} : Splits pos [] []
  | blank {pos : Nat} {c : Char} {cs : List Char} {lexemes : List Lexeme}
      (hblank : Text.isBlank c = true) (rest : Splits (pos + c.utf8Size) cs lexemes) :
      Splits pos (c :: cs) lexemes
  | opening {pos : Nat} {cs : List Char} {lexemes : List Lexeme}
      (rest : Splits (pos + 1) cs lexemes) : Splits pos ('(' :: cs) (⟨.opening, pos⟩ :: lexemes)
  | closing {pos : Nat} {cs : List Char} {lexemes : List Lexeme}
      (rest : Splits (pos + 1) cs lexemes) : Splits pos (')' :: cs) (⟨.closing, pos⟩ :: lexemes)
  | placeholder {pos : Nat} {inner cs : List Char} {lexemes : List Lexeme}
      (hinner : ∀ c ∈ inner, isInnerChar c = true) (hname : Text.trim inner ≠ [])
      (rest : Splits (pos + 1 + byteLength inner + 1) cs lexemes) :
      Splits pos ('<' :: (inner ++ '>' :: cs))
        (⟨.placeholder (String.ofList (Text.trim inner)), pos⟩ :: lexemes)
  | word {pos : Nat} {word cs : List Char} {lexemes : List Lexeme} (hne : word ≠ [])
      (hword : ∀ c ∈ word, isWordChar c = true) (hend : ∀ c ∈ cs.head?, isWordChar c = false)
      (rest : Splits (pos + byteLength word) cs lexemes) :
      Splits pos (word ++ cs) (⟨.word (String.ofList word), pos⟩ :: lexemes)

/-! ## Characters and offsets -/

/-- The characters of words are named by what they are not. The five conditions are the five tests that
the scan makes before it takes a word. -/
theorem isWordChar_iff {c : Char} :
    isWordChar c = true ↔ Text.isBlank c = false ∧ c ≠ '(' ∧ c ≠ ')' ∧ c ≠ '<' ∧ c ≠ '>' := by
  simp [isWordChar, and_assoc]

/-- The same as one list of excluded characters, the form in which `Kind.Written` states it. -/
theorem isWordChar_iff_not_mem {c : Char} :
    isWordChar c = true ↔ Text.isBlank c = false ∧ c ∉ ['(', ')', '<', '>'] := by
  rw [isWordChar_iff]
  simp

theorem not_isWordChar_of_isBlank {c : Char} (h : Text.isBlank c = true) : isWordChar c = false := by
  simp [isWordChar, h]

/-- The body of a placeholder is a run of inner characters, that is, one without a closing bracket. -/
theorem forall_isInnerChar_iff {cs : List Char} :
    (∀ c ∈ cs, isInnerChar c = true) ↔ '>' ∉ cs := by
  simp only [isInnerChar, bne_iff_ne]
  exact ⟨fun h hmem => h '>' hmem rfl, fun h c hc heq => h (heq ▸ hc)⟩

theorem head?_right (cs : List Char) : ∀ c ∈ ('>' :: cs).head?, isInnerChar c = false := by
  rintro c ⟨rfl⟩
  decide

/-- What is left behind a run of characters does not begin with one of them. Both the end of a word and
the end of a placeholder are found in this way. -/
theorem head?_dropWhile (p : Char → Bool) (cs : List Char) :
    ∀ c ∈ (cs.dropWhile p).head?, p c = false := by
  intro c hc
  have h := List.head?_dropWhile_not p cs
  rw [Option.mem_def.mp hc] at h
  exact h

/-- Offsets add up: the place behind two texts is the place behind the second one, counted from the end of
the first. -/
theorem byteLength_append (cs cs' : List Char) :
    byteLength (cs ++ cs') = byteLength cs + byteLength cs' := by
  induction cs with
  | nil => simp [byteLength]
  | cons c cs ih =>
    simp only [byteLength, List.cons_append, List.foldr_cons] at ih ⊢
    omega

/-- The scan counts one byte for each bracket. This is the length of the whole lexeme. -/
theorem byteLength_placeholder (body : List Char) :
    byteLength ('<' :: (body ++ ['>'])) = 1 + byteLength body + 1 := by
  have happend := byteLength_append body ['>']
  have hbrackets : byteLength ['>'] = 1 ∧ '<'.utf8Size = 1 := by decide
  simp only [byteLength, List.foldr_cons] at happend hbrackets ⊢
  omega

/-- The offset that the scan counts is the size of the string in front of it, in the sense of the
library. -/
theorem utf8ByteSize_ofList (cs : List Char) : (String.ofList cs).utf8ByteSize = byteLength cs := by
  induction cs with
  | nil => rfl
  | cons c cs ih =>
    rw [String.ofList_cons, String.utf8ByteSize_append, String.utf8ByteSize_singleton, ih]
    rfl

theorem byteLength_toList (s : String) : byteLength s.toList = s.utf8ByteSize := by
  rw [← utf8ByteSize_ofList, String.ofList_toList]

/-! ## Lexemes of any kind -/

namespace Kind

def isWord : Kind → Bool
  | word _ => true
  | _ => false

/-- How a lexeme of each kind is written. -/
inductive Written : Kind → List Char → Prop where
  | opening : Written .opening ['(']
  | closing : Written .closing [')']
  | placeholder {body : List Char} (hbody : '>' ∉ body) (hname : Text.trim body ≠ []) :
      Written (.placeholder (String.ofList (Text.trim body))) ('<' :: (body ++ ['>']))
  | word {word : List Char} (hne : word ≠ [])
      (hchars : ∀ c ∈ word, Text.isBlank c = false ∧ c ∉ ['(', ')', '<', '>']) :
      Written (.word (String.ofList word)) word

/-- A lexeme of this kind may end in front of `rest`: a word goes on as long as it can. -/
def EndsBefore (kind : Kind) (rest : List Char) : Prop :=
  kind.isWord = true → ∀ c ∈ rest.head?, isWordChar c = false

/-- Parentheses and placeholders say themselves where they end. -/
theorem EndsBefore.of_not_isWord {kind : Kind} (h : kind.isWord = false) (rest : List Char) :
    kind.EndsBefore rest :=
  fun hword => absurd (h.symm.trans hword) (by simp)

/-- A lexeme that may end in front of a text may end in front of the beginning of that text: the next
character is the same one, or there is none. -/
theorem EndsBefore.of_append {kind : Kind} {rest rest' : List Char}
    (h : kind.EndsBefore (rest ++ rest')) : kind.EndsBefore rest := by
  intro hkind c hc
  exact h hkind c (by rw [List.head?_append, Option.mem_def.mp hc]; rfl)

/-- The first character of a lexeme belongs to a word exactly if the lexeme is one. -/
theorem Written.exists_head {kind : Kind} {text : List Char} (h : kind.Written text) :
    ∃ c cs, text = c :: cs ∧ isWordChar c = kind.isWord := by
  cases h with
  | opening => exact ⟨_, _, rfl, by decide⟩
  | closing => exact ⟨_, _, rfl, by decide⟩
  | placeholder => exact ⟨_, _, rfl, by simp only [isWord]; decide⟩
  | @word word hne hchars =>
    obtain ⟨c, cs, rfl⟩ := List.exists_cons_of_ne_nil hne
    exact ⟨c, cs, rfl, isWordChar_iff_not_mem.mpr (hchars c (by simp))⟩

end Kind

namespace Splits

/-- **One rule for all kinds.** The four rules of `Splits` for lexemes are this one, with the text of the
lexeme in front of the rest. -/
theorem lexeme {kind : Kind} {text cs : List Char} {pos : Nat} {lexemes : List Lexeme}
    (hwritten : kind.Written text) (hend : kind.EndsBefore cs)
    (h : Splits (pos + byteLength text) cs lexemes) :
    Splits pos (text ++ cs) (⟨kind, pos⟩ :: lexemes) := by
  cases hwritten with
  | opening => exact .opening h
  | closing => exact .closing h
  -- the brackets are counted one by one in the rule and as a text here
  | @placeholder body hbody hname =>
    rw [byteLength_placeholder, ← Nat.add_assoc, ← Nat.add_assoc] at h
    simpa using Splits.placeholder (forall_isInnerChar_iff.mpr hbody) hname h
  | word hne hchars =>
    exact .word hne (fun c hc => isWordChar_iff_not_mem.mpr (hchars c hc)) (hend rfl) h

/-- Any number of blanks may stand in front of a text. The induction is on the blanks. -/
theorem blanks {gap cs : List Char} {pos : Nat} {lexemes : List Lexeme}
    (hgap : ∀ c ∈ gap, Text.isBlank c = true) (h : Splits (pos + byteLength gap) cs lexemes) :
    Splits pos (gap ++ cs) lexemes := by
  induction gap generalizing pos with
  | nil => exact h
  | cons c gap ih =>
    refine .blank (hgap c (by simp)) (ih (fun d hd => hgap d (by simp [hd])) ?_)
    rwa [Nat.add_assoc]

/-- **Induction over lexemes of any kind and the blanks between them.** It is the induction over `Splits`
with its four cases for lexemes put into one, so that no later proof goes through the kinds by itself. -/
theorem lexemeRec {motive : Nat → List Char → List Lexeme → Prop}
    (nil : ∀ pos, motive pos [] [])
    (blank : ∀ pos c cs lexemes, Text.isBlank c = true →
      motive (pos + c.utf8Size) cs lexemes → motive pos (c :: cs) lexemes)
    (lexeme : ∀ pos kind text cs lexemes, kind.Written text → kind.EndsBefore cs →
      Splits (pos + byteLength text) cs lexemes → motive (pos + byteLength text) cs lexemes →
      motive pos (text ++ cs) (⟨kind, pos⟩ :: lexemes))
    {pos : Nat} {cs : List Char} {lexemes : List Lexeme} (h : Splits pos cs lexemes) :
    motive pos cs lexemes := by
  induction h with
  | nil => exact nil _
  | blank hblank _ ih => exact blank _ _ _ _ hblank ih
  | opening rest ih => exact lexeme _ _ _ _ _ .opening (.of_not_isWord rfl _) rest ih
  | closing rest ih => exact lexeme _ _ _ _ _ .closing (.of_not_isWord rfl _) rest ih
  -- the offset behind a placeholder has two forms, which are equal
  | @placeholder pos inner cs lexemes hinner hname rest ih =>
    have hmotive := lexeme pos _ _ cs lexemes (.placeholder (forall_isInnerChar_iff.mp hinner) hname)
      (.of_not_isWord rfl _)
    rw [byteLength_placeholder, ← Nat.add_assoc, ← Nat.add_assoc] at hmotive
    simpa using hmotive rest ih
  | @word pos word cs lexemes hne hword hend rest ih =>
    exact lexeme pos _ _ cs lexemes (.word hne fun c hc => isWordChar_iff_not_mem.mp (hword c hc))
      (fun _ => hend) rest ih

end Splits

/-! ## The scan follows the rules -/

theorem scanFrom_blank {c : Char} (hblank : Text.isBlank c = true) (pos : Nat) (cs : List Char) :
    scanFrom pos (c :: cs) = scanFrom (pos + c.utf8Size) cs := by
  rw [scanFrom, if_pos hblank]

/-- **A placeholder that is closed.** The scan takes everything up to the first closing bracket for its
name. Whether that is a name is left open here, since the same step finds an empty placeholder. -/
theorem scanFrom_placeholder {inner : List Char} (hinner : '>' ∉ inner) (pos : Nat)
    (cs : List Char) :
    scanFrom pos ('<' :: (inner ++ '>' :: cs))
      = placeholderName pos inner >>= fun name =>
          (scanFrom (pos + 1 + byteLength inner + 1) cs).map (⟨.placeholder name, pos⟩ :: ·) := by
  obtain ⟨htake, hdrop⟩ :=
    takeWhile_dropWhile_append (forall_isInnerChar_iff.mpr hinner) (head?_right cs)
  rw [scanFrom, if_neg (by decide), if_neg (by decide), if_neg (by decide), if_pos rfl]
  simp only [htake]
  -- the scan splits on what is left behind the name; the closing bracket is there
  split
  · next hnone => exact absurd (hdrop.symm.trans hnone) (by simp)
  · next d after hsome =>
    obtain ⟨-, rfl⟩ := List.cons.inj (hsome.symm.trans hdrop)
    rfl

/-- **A word.** The scan takes as many characters as it can, and the hypothesis on `cs` says that these
are the characters of `word` and no more. -/
theorem scanFrom_word {word cs : List Char} (hne : word ≠ [])
    (hword : ∀ c ∈ word, isWordChar c = true) (hend : ∀ c ∈ cs.head?, isWordChar c = false)
    (pos : Nat) :
    scanFrom pos (word ++ cs)
      = (scanFrom (pos + byteLength word) cs).map (⟨.word (String.ofList word), pos⟩ :: ·) := by
  obtain ⟨c, word, rfl⟩ := List.exists_cons_of_ne_nil hne
  -- the first character of the word passes all five tests
  obtain ⟨hblank, hopen, hclose, hleft, hright⟩ := isWordChar_iff.mp (hword c (by simp))
  have htail : ∀ d ∈ word, isWordChar d = true := fun d hd => hword d (by simp [hd])
  obtain ⟨htake, hdrop⟩ := takeWhile_dropWhile_append htail hend
  rw [List.cons_append, scanFrom, if_neg (by simp [hblank]), if_neg hopen, if_neg hclose,
    if_neg hleft, if_neg hright]
  simp only [htake, hdrop]
  rfl

/-- What the scan makes of a lexeme, whatever it makes of the text behind it. A fault behind the lexeme is
passed on. -/
theorem scanFrom_lexeme {kind : Kind} {text cs : List Char} (hwritten : kind.Written text)
    (hend : kind.EndsBefore cs) (pos : Nat) :
    scanFrom pos (text ++ cs) = (scanFrom (pos + byteLength text) cs).map (⟨kind, pos⟩ :: ·) := by
  cases hwritten with
  | opening =>
    rw [List.singleton_append, scanFrom, if_neg (by decide), if_pos rfl]
    rfl
  | closing =>
    rw [List.singleton_append, scanFrom, if_neg (by decide), if_neg (by decide), if_pos rfl]
    rfl
  | @placeholder body hbody hname =>
    have hscan := scanFrom_placeholder hbody pos cs
    -- the name is not empty, so it is accepted
    have hok : placeholderName pos body = .ok (String.ofList (Text.trim body)) := by
      unfold placeholderName
      split
      · next heq => exact absurd heq hname
      · rfl
    rw [hok] at hscan
    rw [byteLength_placeholder, ← Nat.add_assoc, ← Nat.add_assoc]
    simpa [bind, Except.bind] using hscan
  | word hne hchars =>
    exact scanFrom_word hne (fun c hc => isWordChar_iff_not_mem.mpr (hchars c hc)) (hend rfl) pos

namespace Splits

/-- **What falls into lexemes is scanned into these lexemes.** The other direction needs to know what
happens to all other texts, and comes after `splits_or_stopsAt`. -/
theorem scanFrom_eq {pos : Nat} {cs : List Char} {lexemes : List Lexeme}
    (h : Splits pos cs lexemes) : scanFrom pos cs = .ok lexemes := by
  refine h.lexemeRec (motive := fun pos cs lexemes => scanFrom pos cs = .ok lexemes)
    ?nil ?blank ?lexeme
  case nil =>
    intro pos
    rw [scanFrom]
  case blank =>
    intro pos c cs lexemes hblank ih
    rw [scanFrom_blank hblank, ih]
  case lexeme =>
    intro pos kind text cs lexemes hwritten hend _ ih
    rw [scanFrom_lexeme hwritten hend, ih]
    rfl

theorem eq_nil {pos : Nat} {lexemes : List Lexeme} (h : Splits pos [] lexemes) : lexemes = [] := by
  have hscan := h.scanFrom_eq
  rw [scanFrom] at hscan
  exact (Except.ok.inj hscan).symm

/-- **A scan goes on.** Behind a text whose last lexeme may end there, it does what it would have done
if it had started there. The condition is needed at the seam only: inside the text the lexemes end as
before. -/
theorem scanFrom_append {pos : Nat} {cs : List Char} {lexemes : List Lexeme}
    (h : Splits pos cs lexemes) :
    ∀ rest, (∀ l ∈ lexemes.getLast?, l.kind.EndsBefore rest) →
      scanFrom pos (cs ++ rest) = (scanFrom (pos + byteLength cs) rest).map (lexemes ++ ·) := by
  refine h.lexemeRec (motive := fun pos cs lexemes =>
    ∀ rest, (∀ l ∈ lexemes.getLast?, l.kind.EndsBefore rest) →
      scanFrom pos (cs ++ rest) = (scanFrom (pos + byteLength cs) rest).map (lexemes ++ ·))
    ?nil ?blank ?lexeme
  case nil =>
    intro pos rest _
    cases h : scanFrom pos rest <;> simp [byteLength, Except.map, h]
  case blank =>
    intro pos c cs lexemes hblank ih rest hseam
    rw [List.cons_append, scanFrom_blank hblank, ih rest hseam, Nat.add_assoc]
    rfl
  case lexeme =>
    intro pos kind text cs lexemes hwritten hend hsplits ih rest hseam
    have hend' : kind.EndsBefore (cs ++ rest) := by
      cases cs with
      | nil =>
        -- nothing stands between this lexeme and the rest
        obtain rfl := hsplits.eq_nil
        exact hseam _ rfl
      | cons c cs => exact hend
    have hseam' : ∀ l ∈ lexemes.getLast?, l.kind.EndsBefore rest := by
      intro l hl
      refine hseam l ?_
      rw [List.getLast?_cons, Option.mem_def.mp hl]
      rfl
    rw [List.append_assoc, scanFrom_lexeme hwritten hend', ih rest hseam', byteLength_append,
      ← Nat.add_assoc]
    cases scanFrom (pos + byteLength text + byteLength cs) rest <;> simp [Except.map]

end Splits

/-! ## Where a text does not fall into lexemes -/

/-- A text that begins with an angle bracket out of place. -/
inductive Stuck : List Char → Fault.Cause → Prop where
  | unterminated {cs : List Char} (h : '>' ∉ cs) : Stuck ('<' :: cs) .unterminatedPlaceholder
  | empty {body cs : List Char} (hbody : '>' ∉ body) (hname : Text.trim body = []) :
      Stuck ('<' :: (body ++ '>' :: cs)) .emptyPlaceholder
  | unexpected {cs : List Char} : Stuck ('>' :: cs) .unexpectedAngle

/-- The text falls into lexemes up to an angle bracket out of place. -/
def StopsAt (pos : Nat) (cs : List Char) (fault : Fault) : Prop :=
  ∃ before rest lexemes, cs = before ++ rest ∧ Splits pos before lexemes ∧
    Stuck rest fault.cause ∧ fault.position = pos + byteLength before

namespace Stuck

variable {cs : List Char} {cause : Fault.Cause}

/-- A text is stuck at an angle bracket and at nothing else. -/
theorem exists_head (h : Stuck cs cause) : ∃ c rest, cs = c :: rest ∧ (c = '<' ∨ c = '>') := by
  cases h with
  | unterminated _ => exact ⟨_, _, rfl, .inl rfl⟩
  | empty _ _ => exact ⟨_, _, rfl, .inl rfl⟩
  | unexpected => exact ⟨_, _, rfl, .inr rfl⟩

/-- Every lexeme may end in front of an angle bracket, also a word. -/
theorem endsBefore (h : Stuck cs cause) (kind : Kind) : kind.EndsBefore cs := by
  obtain ⟨c, rest, rfl, hc⟩ := h.exists_head
  rintro - d ⟨rfl⟩
  rcases hc with rfl | rfl <;> decide

/-- **A stuck text is refused where it begins**, with the cause that belongs to its bracket. -/
theorem scanFrom_eq (h : Stuck cs cause) (pos : Nat) : scanFrom pos cs = .error ⟨pos, cause⟩ := by
  cases h with
  | @unterminated cs h =>
    -- without a closing bracket the name would run to the end of the text
    have hdrop : cs.dropWhile isInnerChar = [] :=
      List.dropWhile_eq_nil_iff.mpr (forall_isInnerChar_iff.mpr h)
    rw [scanFrom, if_neg (by decide), if_neg (by decide), if_neg (by decide), if_pos rfl]
    simp only
    split
    · rfl
    · next hsome => exact absurd (hsome.symm.trans hdrop) (by simp)
  | empty hbody hname =>
    rw [scanFrom_placeholder hbody, placeholderName, hname]
    rfl
  | unexpected =>
    rw [scanFrom, if_neg (by decide), if_neg (by decide), if_neg (by decide), if_neg (by decide),
      if_pos rfl]

end Stuck

namespace StopsAt

variable {pos : Nat} {cs : List Char} {fault : Fault}

/-- **A text that stops is refused where it stops.** The lexemes in front of the bracket are scanned and
then dropped. -/
theorem scanFrom_eq (h : StopsAt pos cs fault) : scanFrom pos cs = .error fault := by
  obtain ⟨before, rest, lexemes, rfl, hsplits, hstuck, hpos⟩ := h
  rw [hsplits.scanFrom_append rest fun l _ => hstuck.endsBefore l.kind, hstuck.scanFrom_eq, ← hpos]
  rfl

/-- A blank in front of a text that stops moves the fault by its length. -/
theorem blank {c : Char} (hblank : Text.isBlank c = true)
    (h : StopsAt (pos + c.utf8Size) cs fault) : StopsAt pos (c :: cs) fault := by
  obtain ⟨before, rest, lexemes, rfl, hsplits, hstuck, hpos⟩ := h
  refine ⟨c :: before, rest, lexemes, rfl, .blank hblank hsplits, hstuck, ?_⟩
  rw [hpos, Nat.add_assoc]
  rfl

/-- A lexeme in front of a text that stops moves the fault by its length. -/
theorem lexeme {kind : Kind} {text : List Char} (hwritten : kind.Written text)
    (hend : kind.EndsBefore cs) (h : StopsAt (pos + byteLength text) cs fault) :
    StopsAt pos (text ++ cs) fault := by
  obtain ⟨before, rest, lexemes, rfl, hsplits, hstuck, hpos⟩ := h
  refine ⟨text ++ before, rest, _, by simp, .lexeme hwritten hend.of_append hsplits, hstuck, ?_⟩
  rw [hpos, byteLength_append, Nat.add_assoc]

end StopsAt

/-- **How a text can begin:** with a blank, with a lexeme that ends where it can, or with an angle bracket
out of place. The tests are made in the order of the scan. -/
theorem text_cases (c : Char) (cs : List Char) :
    Text.isBlank c = true ∨
      (∃ kind text rest, c :: cs = text ++ rest ∧ Kind.Written kind text ∧ kind.EndsBefore rest) ∨
      ∃ cause, Stuck (c :: cs) cause := by
  by_cases hblank : Text.isBlank c = true
  · exact .inl hblank
  right
  by_cases hopen : c = '('
  · subst hopen
    exact .inl ⟨.opening, ['('], cs, rfl, .opening, .of_not_isWord rfl _⟩
  by_cases hclose : c = ')'
  · subst hclose
    exact .inl ⟨.closing, [')'], cs, rfl, .closing, .of_not_isWord rfl _⟩
  by_cases hleft : c = '<'
  · subst hleft
    -- the placeholder runs to the first closing bracket, if there is one
    have hbody : '>' ∉ cs.takeWhile isInnerChar :=
      forall_isInnerChar_iff.mp fun d hd => List.mem_takeWhile_imp hd
    have hcs := List.takeWhile_append_dropWhile (p := isInnerChar) (l := cs)
    cases hdrop : cs.dropWhile isInnerChar with
    | nil =>
      rw [hdrop, List.append_nil] at hcs
      rw [hcs] at hbody
      exact .inr ⟨_, .unterminated hbody⟩
    | cons d after =>
      obtain rfl : d = '>' := by
        have hd : isInnerChar d = false := head?_dropWhile isInnerChar cs d (by simp [hdrop])
        simpa [isInnerChar] using hd
      rw [hdrop] at hcs
      rw [← hcs]
      by_cases hname : Text.trim (cs.takeWhile isInnerChar) = []
      · exact .inr ⟨_, .empty hbody hname⟩
      · exact .inl ⟨_, _, after, by simp, .placeholder hbody hname, .of_not_isWord rfl _⟩
  by_cases hright : c = '>'
  · subst hright
    exact .inr ⟨_, .unexpected⟩
  · -- what is left is a word, and it takes all characters of words
    have hc : isWordChar c = true :=
      isWordChar_iff.mpr ⟨by simpa using hblank, hopen, hclose, hleft, hright⟩
    have hword : ∀ d ∈ c :: cs.takeWhile isWordChar, isWordChar d = true := by
      intro d hd
      rcases List.mem_cons.mp hd with rfl | hd
      · exact hc
      · exact List.mem_takeWhile_imp hd
    refine .inl ⟨_, c :: cs.takeWhile isWordChar, cs.dropWhile isWordChar, ?_,
      .word (by simp) fun d hd => isWordChar_iff_not_mem.mp (hword d hd),
      fun _ => head?_dropWhile isWordChar cs⟩
    rw [List.cons_append, List.takeWhile_append_dropWhile]

/-- **Every text falls into lexemes or stops.** One of the two is found by taking blanks and lexemes off
the front for as long as there are any. -/
theorem splits_or_stopsAt (pos : Nat) (cs : List Char) :
    (∃ lexemes, Splits pos cs lexemes) ∨ ∃ fault, StopsAt pos cs fault := by
  -- on the length of the text, since a lexeme may take many characters
  generalize hn : cs.length = n
  induction n using Nat.strongRecOn generalizing pos cs with
  | ind n ih =>
    cases cs with
    | nil => exact .inl ⟨[], .nil⟩
    | cons c cs =>
      rcases text_cases c cs with hblank | ⟨kind, text, rest, hcs, hwritten, hend⟩ | ⟨cause, hstuck⟩
      · rcases ih cs.length (by simp [← hn]) (pos + c.utf8Size) cs rfl with ⟨ls, h⟩ | ⟨fault, h⟩
        · exact .inl ⟨ls, .blank hblank h⟩
        · exact .inr ⟨fault, .blank hblank h⟩
      · -- a lexeme has at least one character, so that what is behind it is shorter
        have hlt : rest.length < n := by
          obtain ⟨d, ds, rfl, -⟩ := hwritten.exists_head
          rw [← hn, hcs, List.length_append, List.length_cons]
          omega
        rw [hcs]
        rcases ih rest.length hlt (pos + byteLength text) rest rfl with ⟨ls, h⟩ | ⟨fault, h⟩
        · exact .inl ⟨_, .lexeme hwritten hend h⟩
        · exact .inr ⟨fault, .lexeme hwritten hend h⟩
      · exact .inr ⟨⟨pos, cause⟩, [], c :: cs, [], rfl, .nil, hstuck, rfl⟩

/-- **The scan finds exactly the lexemes that the text falls into.** A text that stops instead would have
been refused. -/
theorem scanFrom_eq_ok_iff {pos : Nat} {cs : List Char} {lexemes : List Lexeme} :
    scanFrom pos cs = .ok lexemes ↔ Splits pos cs lexemes := by
  refine ⟨fun h => ?_, Splits.scanFrom_eq⟩
  rcases splits_or_stopsAt pos cs with ⟨ls, hsplits⟩ | ⟨fault, hstops⟩
  · obtain rfl := Except.ok.inj (h.symm.trans hsplits.scanFrom_eq)
    exact hsplits
  · rw [hstops.scanFrom_eq] at h
    exact absurd h (by simp)

/-- **The scan has a fault exactly where the text stops.** A text that falls into lexemes would have been
scanned. -/
theorem scanFrom_eq_error_iff {pos : Nat} {cs : List Char} {fault : Fault} :
    scanFrom pos cs = .error fault ↔ StopsAt pos cs fault := by
  refine ⟨fun h => ?_, StopsAt.scanFrom_eq⟩
  rcases splits_or_stopsAt pos cs with ⟨ls, hsplits⟩ | ⟨found, hstops⟩
  · rw [hsplits.scanFrom_eq] at h
    exact absurd h (by simp)
  · obtain rfl := Except.error.inj (h.symm.trans hstops.scanFrom_eq)
    exact hstops

/-- **A scan that fails stops at an angle bracket.** The offset of the fault is the length of the text in
front of the bracket, and that text by itself is scanned without a fault. -/
theorem exists_angle_of_scan {template : String} {fault : Fault}
    (hscan : scan template = .error fault) :
    ∃ (before : String) (c : Char) (after : List Char),
      template.toList = before.toList ++ c :: after ∧ (c = '<' ∨ c = '>') ∧
      fault.position = before.utf8ByteSize ∧ ∃ lexemes, scan before = .ok lexemes := by
  obtain ⟨before, rest, lexemes, hcs, hsplits, hstuck, hpos⟩ := scanFrom_eq_error_iff.mp hscan
  obtain ⟨c, after, rfl, hc⟩ := hstuck.exists_head
  refine ⟨String.ofList before, c, after, by simpa using hcs, hc, ?_, lexemes, ?_⟩
  · rw [hpos, utf8ByteSize_ofList, Nat.zero_add]
  · rw [scan, String.toList_ofList, hsplits.scanFrom_eq]

/-! ## The names of placeholders -/

/-- A name that can be printed between brackets: there is one, no bracket ends it early, and no blanks are
cut off it. -/
theorem isPlaceholderName_iff {name : String} :
    isPlaceholderName name = true ↔
      name.toList ≠ [] ∧ '>' ∉ name.toList ∧ Text.trim name.toList = name.toList := by
  simp [isPlaceholderName, and_assoc]

/-- The name of a placeholder that was written can be printed again, because trimming twice is trimming
once. -/
theorem Kind.Written.isPlaceholderName {name : String} {text : List Char}
    (h : Written (.placeholder name) text) : isPlaceholderName name = true := by
  cases h with
  | placeholder hbody hname =>
    rw [isPlaceholderName_iff, String.toList_ofList]
    exact ⟨hname, fun hmem => hbody (Text.mem_of_mem_trim hmem), Text.trim_trim _⟩

/-- Every lexeme that is found has a text that it could have been written as. -/
theorem Splits.exists_written {pos : Nat} {cs : List Char} {lexemes : List Lexeme}
    (h : Splits pos cs lexemes) : ∀ l ∈ lexemes, ∃ text, l.kind.Written text := by
  refine h.lexemeRec (motive := fun _ _ lexemes => ∀ l ∈ lexemes, ∃ text, l.kind.Written text)
    ?nil ?blank ?lexeme
  case nil => exact fun _ l hl => absurd hl (by simp)
  case blank => exact fun _ _ _ _ _ ih => ih
  case lexeme =>
    intro pos kind text cs lexemes hwritten _ _ ih
    exact List.forall_mem_cons.mpr ⟨⟨text, hwritten⟩, ih⟩

theorem Splits.isPlaceholderName {pos : Nat} {cs : List Char} {lexemes : List Lexeme}
    (h : Splits pos cs lexemes) {name : String}
    (hmem : Kind.placeholder name ∈ lexemes.map Lexeme.kind) : isPlaceholderName name = true := by
  obtain ⟨l, hl, hkind⟩ := List.mem_map.mp hmem
  obtain ⟨text, hwritten⟩ := h.exists_written l hl
  rw [hkind] at hwritten
  exact hwritten.isPlaceholderName

/-! ## Texts wherever they stand

The kinds of the lexemes do not depend on the offset at which a text starts. -/

/-- From any offset on, `cs` falls into lexemes of the kinds `ks`. -/
def Scans (cs : List Char) (ks : List Kind) : Prop :=
  ∀ pos, ∃ lexemes, Splits pos cs lexemes ∧ lexemes.map Lexeme.kind = ks

namespace Scans

variable {cs : List Char} {ks : List Kind}

theorem nil : Scans [] [] := fun _ => ⟨[], .nil, rfl⟩

theorem space (h : Scans cs ks) : Scans (' ' :: cs) ks := by
  intro pos
  obtain ⟨lexemes, hsplits, hks⟩ := h (pos + ' '.utf8Size)
  exact ⟨lexemes, .blank (by decide) hsplits, hks⟩

/-- A lexeme may stand in front of a text if it may end there. The four lemmas after this one are its
cases, in the form in which tokens are printed. -/
theorem lexeme {kind : Kind} {text : List Char} (hwritten : kind.Written text)
    (hend : kind.EndsBefore cs) (h : Scans cs ks) : Scans (text ++ cs) (kind :: ks) := by
  intro pos
  obtain ⟨lexemes, hsplits, rfl⟩ := h (pos + byteLength text)
  exact ⟨_, .lexeme hwritten hend hsplits, rfl⟩

theorem opening (h : Scans cs ks) : Scans ('(' :: cs) (.opening :: ks) :=
  h.lexeme .opening (.of_not_isWord rfl _)

theorem closing (h : Scans cs ks) : Scans (')' :: cs) (.closing :: ks) :=
  h.lexeme .closing (.of_not_isWord rfl _)

theorem placeholder {name : String} (hname : isPlaceholderName name = true) (h : Scans cs ks) :
    Scans ('<' :: (name.toList ++ '>' :: cs)) (.placeholder name :: ks) := by
  obtain ⟨hne, hbracket, htrim⟩ := isPlaceholderName_iff.mp hname
  -- a name that can be printed is its own trimmed body
  have hwritten := Kind.Written.placeholder hbracket (by rwa [htrim])
  rw [htrim, String.ofList_toList] at hwritten
  simpa using h.lexeme hwritten (.of_not_isWord rfl _)

/-- A word may stand in front of a text that does not begin with a character of a word. -/
theorem word {w : String} (hne : w.toList ≠ []) (hword : ∀ c ∈ w.toList, isWordChar c = true)
    (hend : ∀ c ∈ cs.head?, isWordChar c = false) (h : Scans cs ks) :
    Scans (w.toList ++ cs) (.word w :: ks) := by
  have hwritten := Kind.Written.word hne fun c hc => isWordChar_iff_not_mem.mp (hword c hc)
  rw [String.ofList_toList] at hwritten
  exact h.lexeme hwritten fun _ => hend

end Scans

/-- A template begins at offset zero, which is as good as any. -/
theorem scan_of_scans {template : String} {ks : List Kind} (h : Scans template.toList ks) :
    ∃ lexemes, scan template = .ok lexemes ∧ lexemes.map Lexeme.kind = ks := by
  obtain ⟨lexemes, hsplits, hks⟩ := h 0
  exact ⟨lexemes, scanFrom_eq_ok_iff.mpr hsplits, hks⟩

end QueryTemplate.Lexeme
