import QueryTemplate.Proofs.Printing
import QueryTemplate.Proofs.Rendering

/-!
# Escaped queries can be decoded

Values come from outside and may hold anything that the query language gives a meaning. Once they are
escaped, the first special character without a backslash is the end of a value, and from there on the
text is read back one piece at a time:

* **`Query.decode?`** — the decoder, on the text alone,
* **`unescape_append`**, **`decodeWeight_append`**, **`Clause.decode?_append`**, **`Group.decode?_append`** —
  each piece is read back in front of whatever follows it,
* **`decodeSpaced_append`** — and so is a list of pieces with a space behind each,
* **`Query.readable_of_rendering`** — a rendered query has what the decoder relies on: field names, and a
  clause in every group,
* **`decode?_render`** — the headline: every rendered query with escaped values is decoded to the groups
  that were emitted, so two runs with one text emitted the same groups.
-/

namespace QueryTemplate

namespace Query

/-! ## The decoder -/

def decodeSign : List Char → Sign × List Char
  | '+' :: cs => (.plus, cs)
  | '-' :: cs => (.minus, cs)
  | cs => (.bare, cs)

/-- Reads a value up to the first special character that has no backslash before it. -/
def unescape : List Char → List Char × List Char
  | '\\' :: c :: cs => (unescape cs).map (c :: ·) id
  | c :: cs => if c ∈ specialChars then ([], c :: cs) else (unescape cs).map (c :: ·) id
  | [] => ([], [])

def decodeWeight (mark : Char) (cs : List Char) : Option UInt32 × List Char :=
  if cs.head? = some mark then
    (Text.Numeral.ofChars? (cs.tail.takeWhile Char.isDigit), cs.tail.dropWhile Char.isDigit)
  else (none, cs)

def decodeStar : List Char → Bool × List Char
  | '*' :: cs => (true, cs)
  | cs => (false, cs)

def Clause.decode? (cs : List Char) : Option (Clause × List Char) :=
  let (sign, cs) := decodeSign cs
  let field := cs.takeWhile (· ≠ ':')
  match cs.dropWhile (· ≠ ':') with
  | ':' :: '(' :: cs =>
    let (value, cs) := unescape cs
    let (boost?, cs) := decodeWeight '^' cs
    let (fuzzy?, cs) := decodeWeight '~' cs
    let (wildcard, cs) := decodeStar cs
    match cs with
    | ')' :: cs =>
      some (⟨sign, String.ofList field, String.ofList value, boost?, fuzzy?, wildcard⟩, cs)
    | _ => none
  | _ => none

/-- Reads items with a space behind each of them, up to where `done` holds. -/
def decodeSpaced {α : Type} (item : List Char → Option (α × List Char)) (done : List Char → Bool)
    (cs : List Char) : Option (List α × List Char) :=
  if done cs then some ([], cs)
  else
    match item cs with
    | some (a, ' ' :: rest) =>
      if rest.length < cs.length then
        (decodeSpaced item done rest).map fun (as, rest) => (a :: as, rest)
      else none
    | _ => none
termination_by cs.length

/-- The clauses of a group end at a closing parenthesis in the place of a clause. -/
def Group.decode? (cs : List Char) : Option (Group × List Char) :=
  let (sign, cs) := decodeSign cs
  match cs with
  | '(' :: ' ' :: cs =>
    (decodeSpaced Clause.decode? (·.head? = some ')') cs).map fun (clauses, rest) =>
      (⟨sign, clauses⟩, rest.tail)
  | _ => none

/-- Reads a query. There is no space behind its last group, so one is put there first. -/
def decode? (text : String) : Option Query :=
  if text.isEmpty then some []
  else (decodeSpaced Group.decode? List.isEmpty (text.toList ++ [' '])).map Prod.fst

/-! ## Lists of items -/

/-- Text that stands between items, put behind the last one too, stands behind each of them. So the
decoder has one case and not two. The induction is on the items. -/
theorem toList_intercalate_space {α : Type} (text : α → String) {as : List α} (h : as ≠ []) :
    (" ".intercalate (as.map text)).toList ++ [' '] = as.flatMap fun a => (text a).toList ++ [' '] := by
  induction as with
  | nil => exact absurd rfl h
  | cons a as ih =>
    cases as with
    | nil => simp
    | cons b as =>
      rw [List.flatMap_cons, ← ih (by simp), List.map_cons, List.map_cons,
        String.intercalate_cons_cons]
      simp

/-- **Lists of items.** If one item is read back in front of anything and does not look like the end, any
number of them is read back. The induction is on the items. -/
theorem decodeSpaced_append {α : Type} {item : List Char → Option (α × List Char)}
    {done : List Char → Bool} {write : α → List Char} {as : List α} {rest : List Char}
    (hitem : ∀ a ∈ as, ∀ cs, item (write a ++ cs) = some (a, cs))
    (hstart : ∀ a ∈ as, ∀ cs, done (write a ++ cs) = false) (hdone : done rest = true) :
    decodeSpaced item done ((as.flatMap fun a => write a ++ [' ']) ++ rest) = some (as, rest) := by
  induction as with
  | nil =>
    unfold decodeSpaced
    simp [hdone]
  | cons a as ih =>
    have htail := ih (fun b hb => hitem b (by simp [hb])) (fun b hb => hstart b (by simp [hb]))
    rw [List.flatMap_cons, List.append_assoc, List.append_assoc]
    generalize (as.flatMap fun a => write a ++ [' ']) ++ rest = tail at htail ⊢
    -- the space behind the item makes the rest shorter, whatever the item is
    have hshorter : tail.length < (write a ++ ([' '] ++ tail)).length := by
      simp only [List.length_append, List.length_singleton]
      omega
    unfold decodeSpaced
    rw [hstart a (by simp), hitem a (by simp), if_neg Bool.false_ne_true]
    show (if tail.length < _ then (decodeSpaced item done tail).map _ else none) = some (a :: as, rest)
    rw [if_pos hshorter, htail]
    rfl

/-! ## The pieces of a clause

Each piece is read back as long as what follows cannot be taken for more of it. -/

/-- A sign is read back if no sign follows, because a clause without an occurrence has none. -/
theorem decodeSign_append (sign : Sign) {rest : List Char}
    (h : ∀ c ∈ rest.head?, c ≠ '+' ∧ c ≠ '-') :
    decodeSign (sign.text.toList ++ rest) = (sign, rest) := by
  cases sign with
  | plus => rfl
  | minus => rfl
  -- the text begins with what follows the sign
  | bare =>
    show decodeSign rest = (.bare, rest)
    cases rest with
    | nil => rfl
    | cons c rest =>
      obtain ⟨hplus, hminus⟩ := h c rfl
      unfold decodeSign
      split
      · next heq => exact absurd (List.cons.inj heq).1 hplus
      · next heq => exact absurd (List.cons.inj heq).1 hminus
      · rfl

/-- **A value is read back, whatever is in it**, if a special character other than a backslash follows.
The induction is on the value: a special character takes two steps of the text, and any other one. -/
theorem unescape_append (value : List Char) {rest : List Char}
    (h : ∀ c ∈ rest.head?, c ∈ specialChars ∧ c ≠ '\\') :
    unescape (escapeChars value ++ rest) = (value, rest) := by
  induction value with
  -- what follows ends the value
  | nil =>
    show unescape rest = ([], rest)
    cases rest with
    | nil => rfl
    | cons c rest =>
      obtain ⟨hspecial, hbackslash⟩ := h c rfl
      rw [unescape, if_pos hspecial]
      intro d cs hd _
      exact hbackslash hd
  | cons c value ih =>
    have hcons : escapeChars (c :: value)
        = (if c ∈ specialChars then ['\\', c] else [c]) ++ escapeChars value := rfl
    rw [hcons, List.append_assoc]
    -- the backslash of an escaped character is dropped again
    by_cases hc : c ∈ specialChars
    · rw [if_pos hc]
      show unescape ('\\' :: c :: (escapeChars value ++ rest)) = _
      rw [unescape, ih]
      rfl
    · rw [if_neg hc]
      show unescape (c :: (escapeChars value ++ rest)) = _
      rw [unescape, if_neg hc, ih]
      · rfl
      · -- a backslash would have been escaped itself
        intro d cs hd _
        rw [hd] at hc
        exact hc (by decide)

section Weights

variable {mark : Char} {markText : String} (hmark : markText.toList = [mark]) {rest : List Char}
include hmark

theorem toList_weightText_append (n : UInt32) :
    (weightText markText (some n)).toList ++ rest
      = mark :: ((Text.Numeral.text n).toList ++ rest) := by
  simp [weightText, hmark]

/-- A weight, or none, is read back if neither its mark nor a digit follows. -/
theorem decodeWeight_append (n? : Option UInt32)
    (h : ∀ c ∈ rest.head?, c ≠ mark ∧ c.isDigit = false) :
    decodeWeight mark ((weightText markText n?).toList ++ rest) = (n?, rest) := by
  cases n? with
  | none =>
    show decodeWeight mark rest = (none, rest)
    rw [decodeWeight, if_neg]
    intro hhead
    exact (h mark hhead).1 rfl
  | some n =>
    have hdigits : ∀ c ∈ (Text.Numeral.text n).toList, c.isDigit = true :=
      fun c hc => Text.Numeral.isDigit_of_mem_text hc
    obtain ⟨htake, hdrop⟩ :=
      takeWhile_dropWhile_append hdigits fun c hc => (h c hc).2
    rw [toList_weightText_append hmark, decodeWeight, if_pos List.head?_cons, List.tail_cons, htake,
      hdrop, Text.Numeral.ofChars?_eq_some_iff.mpr rfl]

/-- A weight that may be missing adds its mark to the ways in which a text can begin. -/
theorem head?_weightText_append (n? : Option UInt32) {marks : List Char}
    (h : ∀ c ∈ rest.head?, c ∈ marks) :
    ∀ c ∈ ((weightText markText n?).toList ++ rest).head?, c ∈ mark :: marks := by
  intro c hc
  cases n? with
  | none => exact List.mem_cons_of_mem mark (h c hc)
  | some n =>
    rw [toList_weightText_append hmark] at hc
    obtain rfl : mark = c := Option.some.inj hc
    exact List.mem_cons_self

end Weights

theorem of_mem_marks {marks : List Char} (p : Char → Prop) [DecidablePred p]
    (hall : marks.all (p ·) = true) {c : Char} (hc : c ∈ marks) : p c :=
  of_decide_eq_true (List.all_eq_true.mp hall c hc)

theorem decodeStar_append (wildcard : Bool) (rest : List Char) :
    decodeStar ((if wildcard then "*" else "").toList ++ ')' :: rest) = (wildcard, ')' :: rest) := by
  cases wildcard <;> rfl

/-! ## Clauses -/

/-- The text of a clause, in the order in which the decoder reads it. -/
theorem Clause.toList_text_append (c : Clause) (rest : List Char) :
    (c.text true).toList ++ rest
      = c.sign.text.toList ++ (c.field.toList ++ ':' :: '(' :: (escapeChars c.value.toList ++
          ((weightText "^" c.boost?).toList ++ ((weightText "~" c.fuzzy?).toList ++
            ((if c.wildcard then "*" else "").toList ++ ')' :: rest))))) := by
  simp [text, suffix, escape]

/-- A field name begins with none of the marks of the query language. -/
theorem head?_field {field : String} (h : isFieldName field = true) (rest : List Char) :
    ∀ c ∈ (field.toList ++ rest).head?, c ∉ ['+', '-', ')'] := by
  obtain ⟨start, cs, hfield, hstart, -⟩ := isFieldName_chars h
  rw [hfield]
  rintro c hc hmark
  obtain rfl : start = c := Option.some.inj hc
  simp only [List.mem_cons, List.not_mem_nil, or_false] at hmark
  rcases hmark with rfl | rfl | rfl
  all_goals exact absurd hstart (by decide)

theorem decodeSign_field (sign : Sign) {field : String} (h : isFieldName field = true)
    (rest : List Char) :
    decodeSign (sign.text.toList ++ (field.toList ++ rest)) = (sign, field.toList ++ rest) := by
  apply decodeSign_append
  intro c hc
  have hmark := head?_field h rest c hc
  simp only [List.mem_cons, not_or] at hmark
  exact ⟨hmark.1, hmark.2.1⟩

/-- The field of a clause ends at the first colon, since a field name has none. -/
theorem cut_field {field : String} (h : isFieldName field = true) (rest : List Char) :
    (field.toList ++ ':' :: rest).takeWhile (· ≠ ':') = field.toList ∧
      (field.toList ++ ':' :: rest).dropWhile (· ≠ ':') = ':' :: rest := by
  apply takeWhile_dropWhile_append
  · intro c hc
    rw [decide_eq_true_eq]
    rintro rfl
    exact absurd (isFieldRest_of_mem h hc) (by decide)
  · rintro c ⟨rfl⟩
    rfl

/-- A clause is never taken for the end of its group. -/
theorem Clause.head?_text_ne {c : Clause} (h : isFieldName c.field = true) (rest : List Char) :
    ((c.text true).toList ++ rest).head? ≠ some ')' := by
  rw [Clause.toList_text_append]
  intro hhead
  cases hsign : c.sign with
  | plus => simp [hsign, Sign.text] at hhead
  | minus => simp [hsign, Sign.text] at hhead
  | bare =>
    rw [hsign] at hhead
    exact head?_field h _ ')' hhead (by simp)

/-- **A clause is read back in front of anything.** Each piece needs to know how what is behind it can
begin, so these facts are collected from the end of the clause. -/
theorem Clause.decode?_append {c : Clause} (h : isFieldName c.field = true) (rest : List Char) :
    Clause.decode? ((c.text true).toList ++ rest) = some (c, rest) := by
  have hcaret : "^".toList = ['^'] := rfl
  have htilde : "~".toList = ['~'] := rfl
  -- from the end of the clause to its start: how the text behind each piece can begin
  have hafterFuzzy : ∀ d ∈ ((if c.wildcard then "*" else "").toList ++ ')' :: rest).head?,
      d ∈ ['*', ')'] := by
    cases c.wildcard <;> simp
  have hafterBoost := head?_weightText_append htilde c.fuzzy? hafterFuzzy
  have hafterValue := head?_weightText_append hcaret c.boost? hafterBoost
  -- so each piece ends where it should
  have hvalue := unescape_append c.value.toList fun d hd =>
    of_mem_marks (fun d => d ∈ specialChars ∧ d ≠ '\\') (by decide) (hafterValue d hd)
  have hboost := decodeWeight_append hcaret c.boost? fun d hd =>
    of_mem_marks (fun d => d ≠ '^' ∧ d.isDigit = false) (by decide) (hafterBoost d hd)
  have hfuzzy := decodeWeight_append htilde c.fuzzy? fun d hd =>
    of_mem_marks (fun d => d ≠ '~' ∧ d.isDigit = false) (by decide) (hafterFuzzy d hd)
  rw [Clause.toList_text_append]
  unfold Clause.decode?
  rw [decodeSign_field c.sign h]
  simp only [cut_field h, hvalue, hboost, hfuzzy, decodeStar_append, String.ofList_toList]

/-! ## Groups and queries -/

/-- What the decoder relies on. -/
def Readable (query : Query) : Prop :=
  ∀ g ∈ query, g.clauses ≠ [] ∧ ∀ c ∈ g.clauses, isFieldName c.field = true

theorem Group.toList_text_append {g : Group} (h : g.clauses ≠ []) (rest : List Char) :
    (g.text true).toList ++ rest
      = g.sign.text.toList ++ ('(' :: ' ' ::
          ((g.clauses.flatMap fun c => (c.text true).toList ++ [' ']) ++ ')' :: rest)) := by
  rw [← toList_intercalate_space _ h]
  simp [text]

/-- **A group is read back in front of anything**, if it has clauses and their fields have field names. -/
theorem Group.decode?_append {g : Group} (hne : g.clauses ≠ [])
    (hfields : ∀ c ∈ g.clauses, isFieldName c.field = true) (rest : List Char) :
    Group.decode? ((g.text true).toList ++ rest) = some (g, rest) := by
  -- the closing parenthesis stands where a clause would
  have hclauses : decodeSpaced Clause.decode? (·.head? = some ')')
      ((g.clauses.flatMap fun c => (c.text true).toList ++ [' ']) ++ ')' :: rest)
      = some (g.clauses, ')' :: rest) := by
    apply decodeSpaced_append
    · intro c hc cs
      exact Clause.decode?_append (hfields c hc) cs
    · intro c hc cs
      exact decide_eq_false (Clause.head?_text_ne (hfields c hc) cs)
    · rfl
  rw [Group.toList_text_append hne]
  unfold Group.decode?
  rw [decodeSign_append g.sign (by simp)]
  simp only [hclauses]
  rfl

/-- **A query is read back from its text.** The empty query has no text, and no other one has the empty
text. -/
theorem decode?_text {query : Query} (h : query.Readable) : decode? (query.text true) = some query := by
  by_cases hquery : query = []
  · rw [hquery]
    rfl
  · have hgroups : decodeSpaced Group.decode? List.isEmpty ((query.text true).toList ++ [' '])
        = some (query, []) := by
      rw [Query.text, toList_intercalate_space _ hquery, ← List.append_nil (List.flatMap _ query)]
      apply decodeSpaced_append
      · intro g hg cs
        exact Group.decode?_append (h g hg).1 (h g hg).2 cs
      · intro g hg cs
        simp [Group.text]
      · rfl
    have hnonempty : ¬ (query.text true).isEmpty = true := by
      rw [String.isEmpty_iff]
      exact text_ne_empty true hquery
    rw [decode?, if_neg hnonempty, hgroups]
    rfl

/-- What is rendered can be read: a group is emitted only if a clause has a value, and the fields come
from the template. -/
theorem readable_of_rendering {gs : List QueryTemplate.Group} (h : ∀ g ∈ gs, g.Printable)
    (bindings : Bindings) (options : Options) :
    (Rendering.ofGroups gs bindings options).query.Readable := by
  intro q hq
  obtain ⟨g, hg, hresolved, -, rfl⟩ := Rendering.mem_query.mp hq
  refine ⟨Group.filled_ne_nil hresolved options.fallback?, ?_⟩
  intro clause hclause
  obtain ⟨c, hc, value, -, rfl⟩ := Group.mem_filled.mp hclause
  exact ((h g hg).2 c hc).1

end Query

/-! ## Rendered queries -/

/-- The groups of a template that go into its query. -/
def Template.emitted (t : Template) (bindings : Bindings) (options : Options) : Query :=
  match outline t.tokens with
  | .ok gs => (Rendering.ofGroups gs bindings options).query
  | .error _ => []

/-- Every compiled template renders to a text that is decoded to the groups it emitted. -/
theorem decode?_of_compile {template : String} {t : Template}
    (h : (Template.compile template).value = .ok t) (bindings : Bindings) {options : Options}
    (hescaped : options.escaped = true) :
    ∃ text, (render t.tokens bindings options).value = .ok text ∧
      Query.decode? text = some (t.emitted bindings options) := by
  obtain ⟨gs, -, hprintable, htokens⟩ := wellFormed_of_compile h
  refine ⟨(Rendering.ofGroups gs bindings options).text, ?_, ?_⟩
  · rw [htokens, value_render_listTokens]
  · have htext : (Rendering.ofGroups gs bindings options).text
        = (Rendering.ofGroups gs bindings options).query.text true := by
      rw [← hescaped]
      rfl
    rw [htext, Query.decode?_text (Query.readable_of_rendering hprintable bindings options),
      Template.emitted, htokens, outline_listTokens]

/-- **No value changes the structure of an escaped query.** Its text is decoded to the groups that were
emitted, by one decoder for all templates, bindings and options that escape values; so when two runs
give the same text, they emitted the same groups. -/
theorem decode?_render :
    (∀ template t bindings options, (Template.compile template).value = .ok t →
        options.escaped = true →
        ∃ text, (render t.tokens bindings options).value = .ok text ∧
          Query.decode? text = some (t.emitted bindings options)) ∧
      ∀ template template' t t' bindings bindings' options options',
        (Template.compile template).value = .ok t → (Template.compile template').value = .ok t' →
        options.escaped = true → options'.escaped = true →
        (render t.tokens bindings options).value = (render t'.tokens bindings' options').value →
        t.emitted bindings options = t'.emitted bindings' options' := by
  refine ⟨fun template t bindings options h hescaped => decode?_of_compile h bindings hescaped, ?_⟩
  intro template template' t t' bindings bindings' options options' h h' hescaped hescaped' hsame
  obtain ⟨text, hrender, hdecode⟩ := decode?_of_compile h bindings hescaped
  obtain ⟨text', hrender', hdecode'⟩ := decode?_of_compile h' bindings' hescaped'
  rw [hrender, hrender'] at hsame
  obtain rfl := Except.ok.inj hsame
  rw [hdecode] at hdecode'
  exact Option.some.inj hdecode'

/-- A value that tries to close its clause and to open another and ends in a backslash and stars, from two
templates that write their decorations in another order. -/
theorem decode?_render_hostile_value :
    ∃ t t' text, (Template.compile "( a <x> BOOST 3 WILDCARD )").value = .ok t ∧
      (Template.compile "( a <y> WILDCARD BOOST 3 )").value = .ok t' ∧
      (render t.tokens (NameTable.empty.insert "x" "*) +c:(\\**") ⟨1, "", .skip, true⟩).value
        = .ok text ∧
      Query.decode? text = some [⟨.bare, [⟨.bare, "a", "*) +c:(\\", some 3, none, true⟩]⟩] ∧
      t.emitted (NameTable.empty.insert "x" "*) +c:(\\**") ⟨1, "", .skip, true⟩
        = t'.emitted (NameTable.empty.insert "Y" "*) +c:(\\*") ⟨0, "z", .substitute, true⟩ := by
  have hcompile : (Template.compile "( a <x> BOOST 3 WILDCARD )").value
      = .ok ⟨Group.listTokens [⟨none, [⟨none, "a", "x", [.boost 3, .wildcard]⟩]⟩]⟩ :=
    compile_eq_ok_iff.mpr (by decide +kernel)
  have hcompile' : (Template.compile "( a <y> WILDCARD BOOST 3 )").value
      = .ok ⟨Group.listTokens [⟨none, [⟨none, "a", "y", [.wildcard, .boost 3]⟩]⟩]⟩ :=
    compile_eq_ok_iff.mpr (by decide +kernel)
  obtain ⟨text, hrender, hdecode⟩ := decode?_render.1 _ _
    (NameTable.empty.insert "x" "*) +c:(\\**") ⟨1, "", .skip, true⟩ hcompile rfl
  refine ⟨_, _, text, hcompile, hcompile', hrender, ?_, ?_⟩
  · rw [hdecode]
    decide +kernel
  · refine decode?_render.2 _ _ _ _ _ _ _ _ hcompile hcompile' rfl rfl ?_
    rw [value_render_listTokens, value_render_listTokens]
    exact congrArg Except.ok (by decide +kernel)

end QueryTemplate
