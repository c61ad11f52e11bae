import QueryTemplate.Proofs.Lists
import QueryTemplate.Proofs.Transparency

/-!
# First in, first out

A store keeps its templates in a map and the order in which they came in a list, and every call updates
the two apart. They stay in step, and the list is never anything but the end of the record of all that came
in:

* **`Call.record`** — the templates that came in since the store was last cleared, one call at a time;
  **`Store.incoming`** — the same over a run,
* **`Store.InStep`** — the joint invariant of map, list and record,
* **`InStep.exists_makeRoom`** — how room is made in such a store: nothing leaves, or the oldest template
  does, and the list is not used up,
* **`inStep_of_moves`**, **`inStep_after`** — every call keeps the invariant, and so does every run,
* **`arrivals_first_in_first_out`** — the headline, for every run from an empty store.
-/

namespace QueryTemplate.Store

/-! ## The record of what came in -/

/-- The record after a call. A template comes in if it is fetched, is not there and compiles; clearing the
store starts a new record. -/
def Call.record (s : Store) (record : List String) : Call → List String
  | .fetch template =>
    if template ∉ s.templates ∧ (Template.compile template).value.isOk = true then
      record ++ [template]
    else record
  | .find _ => record
  | .clear => []

/-- The record after some calls. -/
def incoming (s : Store) (record : List String) : List Call → List String
  | [] => record
  | call :: calls => (s.perform call).value.2.incoming (call.record s record) calls

/-! ## Map, list and record -/

/-- Below its capacity a store has room, and nothing is let go. -/
theorem makeRoom_of_lt {capacity : Nat} {templates : Std.ExtTreeMap String Template}
    (h : templates.size < capacity) (arrivals : List String) :
    makeRoom capacity templates arrivals = (templates, arrivals, 0) := by
  cases arrivals with
  | nil => rfl
  | cons oldest arrivals => rw [makeRoom, if_pos h]

/-- A store of the given capacity whose list has the texts of its map, each once, and is the end of what
came in. -/
structure InStep (capacity : Nat) (record : List String) (s : Store) : Prop where
  capacity_eq : s.capacity = max capacity 1
  nodup : s.arrivals.Nodup
  mem_iff : ∀ template, template ∈ s.arrivals ↔ template ∈ s.templates
  arrivals_eq : s.arrivals = record.rtake s.capacity

namespace InStep

variable {capacity : Nat} {record : List String} {s : Store}

/-- **Map and list have the same size.** The list is a permutation of the keys of the map: neither of the
two has a text twice, and they have the same texts. -/
theorem size_eq (h : InStep capacity record s) : s.templates.size = s.arrivals.length := by
  have hperm : s.arrivals.Perm s.templates.keys := by
    rw [List.perm_ext_iff_of_nodup h.nodup Std.ExtTreeMap.nodup_keys]
    intro template
    rw [h.mem_iff, Std.ExtTreeMap.mem_keys]
  rw [hperm.length_eq, Std.ExtTreeMap.length_keys]

/-- The list is an end of the record that is no longer than the capacity, and so the map is not larger. -/
theorem size_le (h : InStep capacity record s) : s.templates.size ≤ s.capacity := by
  rw [h.size_eq, h.arrivals_eq, length_rtake]
  omega

/-- With the oldest template gone from both sides, list and map still have the same texts. The list had it
only once, so that it is not among the rest. -/
theorem mem_erase_iff (h : InStep capacity record s) {oldest : String} {rest : List String}
    (harrivals : s.arrivals = oldest :: rest) (template : String) :
    template ∈ rest ↔ template ∈ s.templates.erase oldest := by
  have hnodup := h.nodup
  have hmem := h.mem_iff template
  rw [harrivals, List.nodup_cons] at hnodup
  rw [harrivals, List.mem_cons] at hmem
  rw [Std.ExtTreeMap.mem_erase, ← hmem, ne_eq, Std.compare_eq_iff_eq]
  constructor
  · intro hrest
    refine ⟨?_, Or.inr hrest⟩
    rintro rfl
    exact hnodup.1 hrest
  · rintro ⟨hne, rfl | hrest⟩
    · exact absurd rfl hne
    · exact hrest

/-- **How room is made.** Below its capacity a store loses nothing. At its capacity it has an oldest
template, since the capacity is at least one, and with that one gone there is room. What stays is in step
again, and one shorter than the capacity at most. -/
theorem exists_makeRoom (h : InStep capacity record s) :
    ∃ evicted templates rest,
      makeRoom s.capacity s.templates s.arrivals = (templates, rest, evicted.length) ∧
        evicted.length ≤ 1 ∧ s.arrivals = evicted ++ rest ∧ templates.size < s.capacity ∧
        (∀ template, template ∈ rest ↔ template ∈ templates) ∧
        rest = record.rtake (s.capacity - 1) := by
  have hcapacity := h.capacity_eq
  have hle := h.size_le
  have hsize := h.size_eq
  have hrecord : s.arrivals.length = min s.capacity record.length := by
    rw [h.arrivals_eq, length_rtake]
  rcases Nat.lt_or_ge s.templates.size s.capacity with hlt | hge
  · refine ⟨[], s.templates, s.arrivals, makeRoom_of_lt hlt _, by simp, rfl, hlt, h.mem_iff, ?_⟩
    -- all that came in is still there
    rw [h.arrivals_eq, rtake_of_length_le (by omega), rtake_of_length_le (by omega)]
  · cases harrivals : s.arrivals with
    -- at its capacity, which is at least one, the store has a template
    | nil =>
      rw [harrivals, List.length_nil] at hsize
      omega
    -- the oldest one is in the map, so that one place becomes free with it
    | cons oldest rest =>
      have hthere : s.templates.contains oldest = true := by
        rw [← Std.ExtTreeMap.mem_iff_contains, ← h.mem_iff, harrivals]
        exact List.mem_cons_self
      have herase : (s.templates.erase oldest).size < s.capacity := by
        rw [Std.ExtTreeMap.size_erase, if_pos hthere]
        omega
      refine ⟨[oldest], s.templates.erase oldest, rest, ?_, Nat.le_refl 1, rfl, herase,
        h.mem_erase_iff harrivals, ?_⟩
      · rw [makeRoom, if_neg (by omega), makeRoom_of_lt herase]
        rfl
      · have htail : rest = (record.rtake s.capacity).tail := by
          rw [← h.arrivals_eq, harrivals, List.tail_cons]
        rw [htail, tail_rtake (by omega) (by omega)]

end InStep

/-! ## Every call keeps them in step -/

theorem inStep_empty (capacity : Nat) : InStep capacity [] (empty capacity) where
  capacity_eq := rfl
  nodup := List.nodup_nil
  mem_iff := by simp [empty]
  arrivals_eq := by simp [empty]

/-- **Keeping a new template.** It goes into the map and to the end of the list and of the record. That it
is new keeps the list free of repetitions. -/
theorem InStep.keep {capacity : Nat} {record : List String} {s : Store}
    (h : InStep capacity record s) {template : String} (hnew : template ∉ s.templates)
    (t : Template) : InStep capacity (record ++ [template]) (s.keep template t).value := by
  obtain ⟨evicted, templates, rest, hroom, -, harrivals, -, hmem, hrest⟩ := h.exists_makeRoom
  have hnodup := h.nodup
  rw [harrivals] at hnodup
  -- what is left after making room was there before, and the new template was not
  have hfresh : template ∉ rest := by
    intro hold
    apply hnew
    rw [← h.mem_iff, harrivals]
    exact List.mem_append_right evicted hold
  rw [keep_of_not_mem hnew t hroom]
  refine ⟨h.capacity_eq, ?_, ?_, ?_⟩
  · show (rest ++ [template]).Nodup
    refine List.nodup_append.mpr ⟨(List.nodup_append.mp hnodup).2.1, by simp, ?_⟩
    rintro old hold new hnew rfl
    rw [List.mem_singleton.mp hnew] at hold
    exact hfresh hold
  · intro other
    show other ∈ rest ++ [template] ↔ other ∈ templates.insert template t
    rw [List.mem_append, List.mem_singleton, Std.ExtTreeMap.mem_insert, hmem,
      Std.compare_eq_iff_eq, or_comm, eq_comm]
  · show rest ++ [template] = (record ++ [template]).rtake s.capacity
    have hcapacity := h.capacity_eq
    rw [hrest, rtake_concat (by omega)]

section Moves

variable {capacity : Nat} {record : List String} {s : Store}

/-- A hit changes a counter only. -/
theorem InStep.countHit (h : InStep capacity record s) : InStep capacity record s.countHit :=
  ⟨h.capacity_eq, h.nodup, h.mem_iff, h.arrivals_eq⟩

theorem InStep.countMiss (h : InStep capacity record s) : InStep capacity record s.countMiss :=
  ⟨h.capacity_eq, h.nodup, h.mem_iff, h.arrivals_eq⟩

/-- A text is in the map exactly if it is found there. `Call.record` speaks of the one and `Moves` of the
other. -/
theorem mem_templates_iff {template : String} :
    template ∈ s.templates ↔ ∃ t, s.templates[template]? = some t := by
  rw [Std.ExtTreeMap.mem_iff_isSome_getElem?, Option.isSome_iff_exists]

/-- **One call.** The record grows exactly if a template comes in. Whatever brings nothing in and does not
clear the store changes neither map nor list. -/
theorem inStep_of_moves {call : Call} {out : Logged (Reply × Store)} (hmove : s.Moves call out)
    (h : InStep capacity record s) : InStep capacity (call.record s record) out.value.2 := by
  cases hmove with
  | hit there =>
    -- what is there does not come in
    rw [Call.record, if_neg fun hin => hin.1 (mem_templates_iff.mpr ⟨_, there⟩)]
    exact h.countHit
  | @refused template fault missing faulty =>
    have hfault : ¬ (Template.compile template).value.isOk = true := by
      rw [faulty]
      exact Bool.false_ne_true
    -- what has a fault does not come in
    rw [Call.record, if_neg fun hin => hfault hin.2]
    exact h.countMiss
  | @kept template t missing compiled =>
    have hnew : template ∉ s.templates := by
      rw [mem_templates_iff, missing]
      simp
    have hok : (Template.compile template).value.isOk = true := by
      rw [compiled]
      rfl
    rw [Call.record, if_pos ⟨hnew, hok⟩]
    exact h.countMiss.keep hnew t
  | found => exact h.countHit
  | missed => exact h.countMiss
  | cleared => exact ⟨h.capacity_eq, List.nodup_nil, by simp, by simp [Call.record]⟩

/-- **Any number of calls.** The induction is on the calls, with the store and its record going along. -/
theorem inStep_after (h : InStep capacity record s) (calls : List Call) :
    InStep capacity (s.incoming record calls) (s.after calls) := by
  induction calls generalizing s record with
  | nil => exact h
  | cons call calls ih =>
    rw [after_cons, incoming]
    exact ih (inStep_of_moves (moves_perform s call) h)

end Moves

/-- A lookup does not move a template to the end: the order is that of arrival, not that of use. -/
theorem arrivals_find (s : Store) (template : String) :
    (s.find template).value.2.arrivals = s.arrivals := by
  cases hlookup : s.templates[template]? with
  | none => rw [find_of_none hlookup, countMiss]
  | some t => rw [find_of_some hlookup, countHit]

/-- **First in, first out.** After any calls on an empty store its list holds the texts of its map, each
once, and no more than the capacity, where none counts as one; it is the end of the record of what came in
since the store was last cleared. From there on:

* a lookup leaves the order alone, and so does fetching a template that is there;
* a template with a fault is not in the list and does not enter it;
* when a template comes in, the loop that makes room ends because there is room and not because the list
  is used up, at most one template leaves, it is the oldest, and the new one goes to the end. -/
theorem arrivals_first_in_first_out (capacity : Nat) (calls : List Call) (s : Store)
    (record : List String) (hs : (empty capacity).after calls = s)
    (hrecord : (empty capacity).incoming [] calls = record) :
    s.arrivals.Nodup ∧ (∀ template, template ∈ s.arrivals ↔ template ∈ s.templates) ∧
      s.size ≤ max capacity 1 ∧
      s.arrivals = record.rtake (min (max capacity 1) record.length) ∧
      (∀ template, (s.find template).value.2.arrivals = s.arrivals) ∧
      (∀ template ∈ s.templates, (s.fetch template).value.2.arrivals = s.arrivals) ∧
      (∀ template fault, (Template.compile template).value = .error fault →
        template ∉ s.arrivals ∧ (s.fetch template).value.2.arrivals = s.arrivals) ∧
      ∀ template t, template ∉ s.templates → (Template.compile template).value = .ok t →
        (makeRoom s.capacity s.templates s.arrivals).1.size < s.capacity ∧
          ∃ evicted, evicted.length ≤ 1 ∧
            s.arrivals ++ [template] = evicted ++ (s.fetch template).value.2.arrivals ∧
            (s.fetch template).value.2.evictions = s.evictions + UInt64.ofNat evicted.length := by
  have h : InStep capacity record s := by
    rw [← hs, ← hrecord]
    exact inStep_after (inStep_empty capacity) calls
  -- a template with a fault is not in the store, because what is kept was compiled
  have hfaithful : s.Faithful := by
    rw [← hs]
    exact run_preserves (P := Faithful) (fun _ _ _ => faithful_of_moves) (faithful_empty capacity)
      calls
  refine ⟨h.nodup, h.mem_iff, ?_, ?_, arrivals_find s, ?_, ?_, ?_⟩
  · rw [← h.capacity_eq]
    exact h.size_le
  · rw [h.arrivals_eq, h.capacity_eq]
    -- as long as less than the capacity came in, the list is the whole record
    rcases Nat.le_total (max capacity 1) record.length with hle | hle
    · rw [Nat.min_eq_left hle]
    · rw [Nat.min_eq_right hle, rtake_of_length_le hle, rtake_of_length_le (Nat.le_refl _)]
  · intro template hmem
    obtain ⟨t, there⟩ := mem_templates_iff.mp hmem
    rw [fetch_of_some there, countHit]
  · intro template fault hfault
    have hmissing := hfaithful.getElem?_eq_none hfault
    refine ⟨?_, ?_⟩
    · rw [h.mem_iff, mem_templates_iff, hmissing]
      simp
    · rw [fetch_of_error hmissing hfault, countMiss]
  · intro template t hnew hcompile
    have hmissing : s.templates[template]? = none := Std.ExtTreeMap.getElem?_eq_none hnew
    obtain ⟨evicted, templates, rest, hroom, hone, harrivals, hlt, -, -⟩ := h.exists_makeRoom
    have hnew' : template ∉ s.countMiss.templates := hnew
    rw [fetch_of_ok hmissing hcompile, keep_of_not_mem hnew' t hroom, hroom]
    refine ⟨hlt, evicted, hone, ?_, rfl⟩
    show s.arrivals ++ [template] = evicted ++ (rest ++ [template])
    rw [harrivals, List.append_assoc]

/-- Room for two: the first template is let go for the third one, although it was asked for a second time
before, and comes back in the place of the second one. A template with a fault changes nothing. The second
one would now take the place of the third. -/
theorem arrivals_first_in_first_out_returning :
    ∃ s evicted, (empty 2).after [.fetch "(a <x>)", .fetch "(b <y>)", .fetch "(a <x>)", .fetch "(",
        .fetch "(c <z>)", .find "(b <y>)", .fetch "(a <x>)"] = s ∧
      s.arrivals = ["(c <z>)", "(a <x>)"] ∧ s.size ≤ 2 ∧ evicted.length ≤ 1 ∧
      s.arrivals ++ ["(b <y>)"] = evicted ++ (s.fetch "(b <y>)").value.2.arrivals := by
  obtain ⟨s, hs⟩ : ∃ s, (empty 2).after [.fetch "(a <x>)", .fetch "(b <y>)", .fetch "(a <x>)",
      .fetch "(", .fetch "(c <z>)", .find "(b <y>)", .fetch "(a <x>)"] = s := ⟨_, rfl⟩
  have hrecord : (empty 2).incoming [] [.fetch "(a <x>)", .fetch "(b <y>)", .fetch "(a <x>)",
      .fetch "(", .fetch "(c <z>)", .find "(b <y>)", .fetch "(a <x>)"]
      = ["(a <x>)", "(b <y>)", "(c <z>)", "(a <x>)"] := by
    decide +kernel
  have hnew : "(b <y>)" ∉ s.templates := by
    rw [← hs]
    decide +kernel
  have hcompile : (Template.compile "(b <y>)").value
      = .ok ⟨[.groupOpen, .field "b", .placeholder "y", .groupClose]⟩ := by
    decide +kernel
  obtain ⟨-, -, hsize, harrivals, -, -, -, hkeep⟩ :=
    arrivals_first_in_first_out 2 _ s _ hs hrecord
  obtain ⟨-, evicted, hone, hmoved, -⟩ := hkeep "(b <y>)" _ hnew hcompile
  refine ⟨s, evicted, hs, ?_, hsize, hone, hmoved⟩
  rw [harrivals]
  decide

end QueryTemplate.Store
