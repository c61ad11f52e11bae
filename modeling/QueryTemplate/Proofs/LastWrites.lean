import Mathlib.Data.List.Dedup
import Mathlib.Data.List.Induction
import QueryTemplate.Query.Rendering

/-!
# The last write wins

A table of names is built from a list of pairs and then edited. What it holds can be said from the writes
alone, without a table: under each form of a name, the value of the last write there.

* **`NameTable.lastValue?`** — this value, found in the list of all writes (`NameTable.history`),
* **`NameTable.Records`** — a table holds these values and nothing else. One edit keeps it so
  (`Records.apply`), and so does any number of them (`records_built`).
* `Records.size_eq`, `Records.eq_of_get?` — the size of such a table, and when two of them are equal,
* `NameTable.ofPairs_eq_of_perm` — pairs whose names are all different may come in any order,
* **`last_write_wins`** — the headline, for every way of folding names.
-/

namespace QueryTemplate

namespace NameTable

/-! ## The writes -/

/-- A value put under a name or, without a value, the removal of the name. -/
structure Write where
  name : String
  value? : Option String

def Write.ofPair (pair : String × String) : Write := ⟨pair.1, some pair.2⟩

/-- All writes after one more edit. A question writes nothing, and another table brings its own writes. -/
def Edit.record (writes : List Write) : Edit → List Write
  | .insert name value => writes ++ [⟨name, some value⟩]
  | .bind name value => writes ++ [⟨name, some value⟩]
  | .erase name => writes ++ [⟨name, none⟩]
  | .replace pairs => pairs.map .ofPair
  | .get _ => writes
  | .contains _ => writes
  | .equals _ => writes

def history (pairs : List (String × String)) (edits : List Edit) : List Write :=
  edits.foldl Edit.record (pairs.map .ofPair)

section LastValue

variable (fold : String → String)

/-- The value of the last write under a name of the form `key`, unless that was a removal. -/
def lastValue? (writes : List Write) (key : String) : Option String :=
  (writes.filter fun w => fold w.name = key).getLast?.bind Write.value?

/-- One more write decides about its own form and about no other. -/
theorem lastValue?_concat (writes : List Write) (w : Write) (key : String) :
    lastValue? fold (writes ++ [w]) key
      = if fold w.name = key then w.value? else lastValue? fold writes key := by
  unfold lastValue?
  rw [List.filter_append, List.filter_singleton]
  by_cases hkey : fold w.name = key <;> simp [hkey]

theorem lastValue?_eq_none {writes : List Write} {key : String} (h : ∀ w ∈ writes, fold w.name ≠ key) :
    lastValue? fold writes key = none := by
  have hnone : (writes.filter fun w => fold w.name = key) = [] :=
    List.filter_eq_nil_iff.mpr fun w hw => by simpa using h w hw
  rw [lastValue?, hnone]
  rfl

end LastValue

/-! ## What a table holds -/

variable {fold : String → String}

/-- The table of some pairs after some edits. -/
def built (pairs : List (String × String)) (edits : List Edit) : NameTable fold :=
  edits.foldl (fun t e => (t.apply e).1) (ofPairs pairs)

/-- The table holds, under each key, the value of the last write there. -/
def Records (t : NameTable fold) (writes : List Write) : Prop :=
  ∀ key, t.entries[key]? = lastValue? fold writes key

theorem records_empty : (empty : NameTable fold).Records [] := by
  intro key
  simp [empty, lastValue?]

namespace Records

variable {t t' : NameTable fold} {writes writes' : List Write}

theorem insert (h : t.Records writes) (name value : String) :
    (t.insert name value).Records (writes ++ [⟨name, some value⟩]) := by
  intro key
  rw [lastValue?_concat, ← h key]
  simp [NameTable.insert, Std.ExtTreeMap.getElem?_insert]

theorem erase (h : t.Records writes) (name : String) :
    (t.erase name).Records (writes ++ [⟨name, none⟩]) := by
  intro key
  rw [lastValue?_concat, ← h key]
  simp [NameTable.erase, Std.ExtTreeMap.getElem?_erase]

end Records

theorem ofPairs_concat (pairs : List (String × String)) (pair : String × String) :
    (ofPairs (pairs ++ [pair]) : NameTable fold) = (ofPairs pairs).insert pair.1 pair.2 := by
  simp [ofPairs]

/-- A table of pairs records one write for each pair. The induction is from the end, where the last write
is. -/
theorem records_ofPairs (pairs : List (String × String)) :
    (ofPairs pairs : NameTable fold).Records (pairs.map .ofPair) := by
  induction pairs using List.reverseRecOn with
  | nil => exact records_empty
  | append_singleton pairs pair ih =>
    rw [ofPairs_concat, List.map_append]
    exact ih.insert pair.1 pair.2

/-- **One edit.** The cases are the edits: questions leave the table and the writes alone, and another
table starts from its own pairs. -/
theorem Records.apply {t : NameTable fold} {writes : List Write} (h : t.Records writes) (e : Edit) :
    (t.apply e).1.Records (e.record writes) := by
  cases e with
  | insert name value => exact h.insert name value
  | bind name value => exact h.insert name value
  | erase name => exact h.erase name
  | get name => exact h
  | contains name => exact h
  | replace pairs => exact records_ofPairs pairs
  | equals pairs => exact h

/-- **Any number of edits.** The induction is from the end again, so that one more edit meets the table of
all edits before it. -/
theorem records_built (pairs : List (String × String)) (edits : List Edit) :
    (built pairs edits : NameTable fold).Records (history pairs edits) := by
  induction edits using List.reverseRecOn with
  | nil => exact records_ofPairs pairs
  | append_singleton edits e ih =>
    rw [built, history, List.foldl_concat, List.foldl_concat]
    exact ih.apply e

/-! ## What can be seen of it -/

namespace Records

variable {t t' : NameTable fold} {writes writes' : List Write}

theorem contains_eq (h : t.Records writes) (name : String) :
    t.contains name = (lastValue? fold writes (fold name)).isSome := by
  rw [contains, Std.ExtTreeMap.contains_eq_isSome_getElem?, h]

/-- **The size is the number of the different forms of names under which a value is left.** The keys of
the table and these forms are two lists without repetitions, with the same elements. -/
theorem size_eq (h : t.Records writes) :
    t.size = ((writes.map fun w => fold w.name).dedup.filter fun key =>
      (lastValue? fold writes key).isSome).length := by
  rw [size, ← Std.ExtTreeMap.length_keys]
  refine List.Perm.length_eq ((List.perm_ext_iff_of_nodup Std.ExtTreeMap.nodup_keys
    ((List.nodup_dedup _).filter _)).mpr fun key => ?_)
  rw [Std.ExtTreeMap.mem_keys, Std.ExtTreeMap.mem_iff_isSome_getElem?, h, List.mem_filter, List.mem_dedup]
  refine ⟨fun hlive => ⟨?_, hlive⟩, And.right⟩
  -- a key with a value was written
  by_contra hnew
  rw [lastValue?_eq_none] at hlive
  · exact absurd hlive (by simp)
  · rintro w hw rfl
    exact hnew (List.mem_map_of_mem hw)

/-- **All keys of such a table are forms of names**, so whoever asks for all names sees all of it. A table
with other keys could hide an entry. -/
theorem eq_of_get? (h : t.Records writes) (h' : t'.Records writes')
    (hget : ∀ name, t.get? name = t'.get? name) : t = t' := by
  have hentries : t.entries = t'.entries := by
    refine Std.ExtTreeMap.ext_getElem? fun key => ?_
    -- what is no form of a name was never written, and both tables have nothing there
    by_cases hkey : ∃ name, fold name = key
    · obtain ⟨name, rfl⟩ := hkey
      exact hget name
    · rw [h key, h' key, lastValue?_eq_none, lastValue?_eq_none]
      · exact fun w _ hw => hkey ⟨w.name, hw⟩
      · exact fun w _ hw => hkey ⟨w.name, hw⟩
  cases t
  cases t'
  exact congrArg NameTable.mk hentries

end Records

/-! ## The order of the pairs -/

theorem insert_comm (t : NameTable fold) {a b : String} (hne : fold a ≠ fold b) (x y : String) :
    (t.insert a x).insert b y = (t.insert b y).insert a x := by
  refine congrArg NameTable.mk (Std.ExtTreeMap.ext_getElem? fun key => ?_)
  simp only [insert, Std.ExtTreeMap.getElem?_insert]
  grind

/-- **Pairs whose names have different forms may come in any order**, since any two of them may be
swapped. -/
theorem ofPairs_eq_of_perm {pairs pairs' : List (String × String)} (hperm : pairs.Perm pairs')
    (hnodup : (pairs.map fun pair => fold pair.1).Nodup) :
    (ofPairs pairs : NameTable fold) = ofPairs pairs' := by
  refine hperm.foldl_eq' (fun p hp q hq t => ?_) empty
  -- two pairs of one form would be the same pair
  by_cases hkey : fold p.1 = fold q.1
  · rw [List.inj_on_of_nodup_map hnodup hp hq hkey]
  · exact t.insert_comm hkey p.2 q.2

end NameTable

/-! ## The headline -/

open NameTable

/-- **The last write wins.** Let names be folded in any way, and let tables be built from pairs and edited.
Under each name such a table has the value of the last write under a name of the same form, or none if that
write was a removal or there was none. A name that is bound or unbound answers with this value, and the size
is the number of forms that have one. Two such tables are equal if and only if they have the same value under
every name. Pairs whose names have different forms may come in any order, and the queries are the same. -/
theorem last_write_wins (fold : String → String) :
    (∀ pairs edits,
      let t : NameTable fold := built pairs edits
      let last := lastValue? fold (history pairs edits)
      (∀ name,
        t.get? name = last (fold name) ∧
        t.contains name = (last (fold name)).isSome ∧
        (∀ value, (t.apply (.insert name value)).2 = .value (last (fold name))) ∧
        (t.apply (.erase name)).2 = .value (last (fold name))) ∧
      t.size = (((history pairs edits).map fun w => fold w.name).dedup.filter fun key =>
        (last key).isSome).length ∧
      ∀ pairs' edits', t = built pairs' edits' ↔
        ∀ name, t.get? name = (built pairs' edits' : NameTable fold).get? name) ∧
    (∀ pairs pairs' : List (String × String), pairs.Perm pairs' →
      (pairs.map fun pair => fold pair.1).Nodup →
      (ofPairs pairs : NameTable fold) = ofPairs pairs') ∧
    ∀ pairs pairs' : List (String × String), pairs.Perm pairs' →
      (pairs.map fun pair => Text.lowercase pair.1).Nodup →
      ∀ tokens options,
        render tokens (.ofPairs pairs) options = render tokens (.ofPairs pairs') options := by
  refine ⟨?_, fun pairs pairs' => ofPairs_eq_of_perm, ?_⟩
  · intro pairs edits t last
    have hrecords : t.Records (history pairs edits) := records_built pairs edits
    have hget : ∀ name, t.get? name = last (fold name) := fun name => hrecords (fold name)
    refine ⟨fun name => ⟨hget name, hrecords.contains_eq name, fun value => ?_, ?_⟩,
      hrecords.size_eq, fun pairs' edits' => ⟨fun h name => by rw [h], fun h => ?_⟩⟩
    · exact congrArg Answer.value (hget name)
    · exact congrArg Answer.value (hget name)
    · exact hrecords.eq_of_get? (records_built pairs' edits') h
  · intro pairs pairs' hperm hnodup tokens options
    rw [ofPairs_eq_of_perm hperm hnodup]

/-- A name bound again in capitals and another one removed, and two pairs in both orders. -/
theorem last_write_wins_reordered :
    (built [("é", "1"), ("id", "1")] [.bind "ID" "2", .erase "É"] : Bindings).get? "Id" = some "2" ∧
      (built [("é", "1"), ("id", "1")] [.bind "ID" "2", .erase "É"] : Bindings).size = 1 ∧
      (ofPairs [("B", "1"), ("a", "2")] : Bindings) = ofPairs [("a", "2"), ("B", "1")] ∧
      ∀ tokens options,
        render tokens (.ofPairs [("B", "1"), ("a", "2")]) options
          = render tokens (.ofPairs [("a", "2"), ("B", "1")]) options := by
  obtain ⟨hbuilt, hperm, hrender⟩ := last_write_wins Text.lowercase
  obtain ⟨hname, hsize, -⟩ := hbuilt [("é", "1"), ("id", "1")] [.bind "ID" "2", .erase "É"]
  refine ⟨(hname "Id").1.trans (by decide +kernel), hsize.trans (by decide +kernel), ?_, ?_⟩
  · exact hperm _ _ (.swap _ _ _) (by decide +kernel)
  · exact hrender _ _ (.swap _ _ _) (by decide +kernel)

end QueryTemplate
