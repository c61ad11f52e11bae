import QueryTemplate.Proofs.Arrivals
import QueryTemplate.Proofs.Shape

/-!
# The books of a store balance

A store counts what it does, and reports it as well. Both are compared here with what an onlooker counts
who sees only the calls, and before each call which templates are in the store:

* **`Store.tally`** — the onlooker's counts over a run,
* **`Store.Report`** — the signals of a run, summed up,
* **`Store.Balances`** — counters, report and tallies agree on what happened between two stores;
  `balances_of_moves` says it of one call, and `balances_run` of every run,
* **`books_balance`** — the headline, for every run that the counters are wide enough for.
-/

namespace QueryTemplate

namespace Store

/-! ## What an onlooker counts -/

namespace Call

/-- One for a fetch of a template that is not there. -/
def fetchMisses (s : Store) : Call → Nat
  | .fetch template => if template ∈ s.templates then 0 else 1
  | _ => 0

/-- One for a fetch of a template that is not there and compiles. -/
def kept (s : Store) : Call → Nat
  | .fetch template =>
    if template ∉ s.templates ∧ (Template.compile template).value.isOk = true then 1 else 0
  | _ => 0

/-- How many templates the call clears away. -/
def cleared (s : Store) : Call → Nat
  | .clear => s.size
  | _ => 0

/-- One for a call that has to report how many templates there are now. -/
def resized (s : Store) : Call → Nat
  | .clear => 1
  | call => call.kept s

end Call

/-- The sum of what is counted at each call, given the store that the call is made to. -/
def tally (count : Store → Call → Nat) (s : Store) : List Call → Nat
  | [] => 0
  | call :: calls => count s call + (s.perform call).value.2.tally count calls

/-- What is counted at most once for each call is not counted more often than there are calls. -/
theorem tally_le_length {count : Store → Call → Nat} (hone : ∀ s call, count s call ≤ 1) (s : Store)
    (calls : List Call) : s.tally count calls ≤ calls.length := by
  induction calls generalizing s with
  | nil => exact Nat.le_refl 0
  | cons call calls ih =>
    have hfirst := hone s call
    have hrest := ih (s.perform call).value.2
    rw [tally, List.length_cons]
    omega

/-- A fetch is counted at most once as a miss and at most once as a template that came in. -/
theorem Call.counts_le_one (s : Store) (call : Call) : call.fetchMisses s ≤ 1 ∧ call.kept s ≤ 1 := by
  cases call with
  | fetch template =>
    rw [fetchMisses, kept]
    constructor <;> split <;> omega
  | find => exact ⟨Nat.zero_le 1, Nat.zero_le 1⟩
  | clear => exact ⟨Nat.zero_le 1, Nat.zero_le 1⟩

/-! ## The balance -/

/-- What signals say about a store: how often a template was found and how often not, how many templates
were let go, how many were read, and how many there were, each time it was said. -/
structure Report where
  hits : Nat
  misses : Nat
  evicted : Nat
  parsed : Nat
  sizes : List Nat

namespace Report

def ofSignals (signals : List Signal) : Report where
  hits := (Series.lookups true).sumIn signals
  misses := (Series.lookups false).sumIn signals
  evicted := Series.evictions.sumIn signals
  parsed := (Series.parses "ok").sumIn signals + (Series.parses "error").sumIn signals
  sizes := Series.entries.samplesIn signals

def append (r r' : Report) : Report :=
  ⟨r.hits + r'.hits, r.misses + r'.misses, r.evicted + r'.evicted, r.parsed + r'.parsed,
    r.sizes ++ r'.sizes⟩

/-- The report on more signals is the sum of the two reports; sizes are listed one after the other. -/
theorem ofSignals_append (signals signals' : List Signal) :
    ofSignals (signals ++ signals') = (ofSignals signals).append (ofSignals signals') := by
  unfold ofSignals append
  simp only [Series.sumIn_append, Series.samplesIn_append, mk.injEq, true_and, and_true]
  omega

end Report

/-- The counters, a report and the onlooker agree on what happened between two stores. -/
structure Balances (before : Store) (calls : List Call) (report : Report) (after : Store) : Prop where
  hits : after.hits = before.hits + UInt64.ofNat report.hits
  misses : after.misses = before.misses + UInt64.ofNat report.misses
  evictions : after.evictions = before.evictions + UInt64.ofNat report.evicted
  lookups : report.hits + report.misses = calls.countP (· ≠ .clear)
  parsed : report.parsed = before.tally Call.fetchMisses calls
  /-- A template that came in is still there, or was let go, or was cleared away. -/
  entries : before.size + before.tally Call.kept calls
    = after.size + report.evicted + before.tally Call.cleared calls
  gauge : report.sizes.getLast?
    = if before.tally Call.resized calls = 0 then none else some after.size
  unchanged : before.tally Call.resized calls = 0 → after.size = before.size

theorem balances_nil (s : Store) : Balances s [] (.ofSignals []) s where
  hits := (UInt64.add_zero s.hits).symm
  misses := (UInt64.add_zero s.misses).symm
  evictions := (UInt64.add_zero s.evictions).symm
  lookups := rfl
  parsed := rfl
  entries := rfl
  gauge := rfl
  unchanged := fun _ => rfl

/-- **The balance of one call and the balance of what follows make up the balance of all.** Counters and
reports are added up. The gauge is the only entry that looks at the order: the last report stands. -/
theorem Balances.cons {s after : Store} {call : Call} {calls : List Call} {report report' : Report}
    (hfirst : Balances s [call] report (s.perform call).value.2)
    (hrest : Balances (s.perform call).value.2 calls report' after) :
    Balances s (call :: calls) (report.append report') after := by
  have htally : ∀ count : Store → Call → Nat, s.tally count (call :: calls)
      = s.tally count [call] + (s.perform call).value.2.tally count calls := fun _ => rfl
  constructor
  · rw [hrest.hits, hfirst.hits, Report.append, UInt64.ofNat_add, UInt64.add_assoc]
  · rw [hrest.misses, hfirst.misses, Report.append, UInt64.ofNat_add, UInt64.add_assoc]
  · rw [hrest.evictions, hfirst.evictions, Report.append, UInt64.ofNat_add, UInt64.add_assoc]
  · have hcount : (call :: calls).countP (· ≠ .clear)
        = [call].countP (· ≠ .clear) + calls.countP (· ≠ .clear) := by
      rw [← List.countP_append]
      rfl
    rw [hcount, ← hfirst.lookups, ← hrest.lookups]
    show report.hits + report'.hits + (report.misses + report'.misses) = _
    omega
  · rw [htally, ← hfirst.parsed, ← hrest.parsed, Report.append]
  · have hin := hfirst.entries
    have hout := hrest.entries
    rw [htally, htally]
    show _ = after.size + (report.evicted + report'.evicted) + _
    omega
  · rw [htally, Report.append, List.getLast?_append, hrest.gauge, hfirst.gauge]
    by_cases hzero : (s.perform call).value.2.tally Call.resized calls = 0
    · -- nothing is reported any more, and the last report is still true
      rw [if_pos hzero, hrest.unchanged hzero, hzero]
      rfl
    · have hsum : s.tally Call.resized [call] + (s.perform call).value.2.tally Call.resized calls
          ≠ 0 := by omega
      rw [if_neg hzero, if_neg hsum]
      rfl
  · intro hzero
    rw [htally] at hzero
    rw [hrest.unchanged (by omega), hfirst.unchanged (by omega)]

/-! ## One call -/

/-- The signals of a reading that fails: an event with the fault, and one more reading counted as an
error. -/
theorem signals_compile_error {template : String} {fault : Fault}
    (h : (Template.compile template).value = .error fault) :
    (Template.compile template).signals
      = [.event (.parseFailed fault.position fault.message), .measurement (.parse "error")] := by
  have hsignals : (Template.compile template).signals = (Reading.ofText template).signals ++ [] := rfl
  have hresult : (Reading.ofText template).result.map Template.mk = .error fault := h
  -- the result of a reading is an error exactly if the reading has a fault
  have hfault : (Reading.ofText template).fault? = some fault := by
    unfold Reading.result at hresult
    cases hfound : (Reading.ofText template).fault? with
    | none =>
      rw [hfound] at hresult
      cases hresult
    | some found =>
      rw [hfound] at hresult
      exact congrArg some (Except.error.inj hresult)
  rw [hsignals, Reading.signals, hfault]
  rfl

/-- **What the report of a template that comes in says:** how many were let go for it, and how many there
are now. The sizes add up because the list of arrivals has the size of the map before and after. -/
theorem InStep.exists_evicted {capacity : Nat} {record : List String} {s : Store}
    (h : InStep capacity record s) {template : String} (hnew : template ∉ s.templates) (t : Template) :
    ∃ evicted, (s.keep template t).value.evictions = s.evictions + UInt64.ofNat evicted ∧
      s.size + 1 = (s.keep template t).value.size + evicted ∧
      (s.keep template t).signals = evictionSignals evicted s.capacity
        ++ [.measurement (.entries (s.keep template t).value.size)] := by
  have hsize := h.size_eq
  have hsize' := (h.keep hnew t).size_eq
  obtain ⟨evicted, templates, rest, hroom, -, harrivals, -⟩ := h.exists_makeRoom
  have hkeep := keep_of_not_mem hnew t hroom
  refine ⟨evicted.length, ?_, ?_, ?_⟩
  · rw [hkeep]
  · -- the oldest ones leave the list at its front, and the new one comes at its end
    have harrivals' : (s.keep template t).value.arrivals = rest ++ [template] := by rw [hkeep]
    rw [harrivals, List.length_append] at hsize
    rw [harrivals', List.length_append, List.length_singleton] at hsize'
    unfold size
    omega
  · rw [hkeep]
    rfl

/-- Nothing is reported when nothing was let go, which is a report of zero. -/
theorem ofSignals_evictionSignals (evicted capacity : Nat) :
    Report.ofSignals (evictionSignals evicted capacity) = ⟨0, 0, evicted, 0, []⟩ := by
  unfold evictionSignals
  by_cases h : evicted = 0
  · rw [if_pos h, h]
    rfl
  · rw [if_neg h]
    rfl

/-- The report of a fetch that brings a template in, put together from its lookup, its reading and its
keeping. -/
theorem ofSignals_kept (e : Event) (evicted capacity size : Nat) :
    Report.ofSignals (.measurement (.lookup false) :: ([.event e, .measurement (.parse "ok")] ++
        (evictionSignals evicted capacity ++ [.measurement (.entries size)])))
      = ⟨0, 1, evicted, 1, [size]⟩ := by
  rw [← List.cons_append, Report.ofSignals_append, Report.ofSignals_append,
    ofSignals_evictionSignals]
  have hbefore : Report.ofSignals [.measurement (.lookup false), .event e, .measurement (.parse "ok")]
      = ⟨0, 1, 0, 1, []⟩ := rfl
  have hafter : Report.ofSignals [.measurement (.entries size)] = ⟨0, 0, 0, 0, [size]⟩ := rfl
  rw [hbefore, hafter]
  simp [Report.append]

/-- A call that looks a template up and brings nothing in, whether it is a hit or a miss, a fetch or only
a lookup. -/
theorem balances_lookup (s : Store) (hit : Bool) {call : Call} (hcall : call ≠ .clear)
    (hkept : call.kept s = 0) :
    Balances s [call] ⟨hit.toNat, (!hit).toNat, 0, call.fetchMisses s, []⟩
      (if hit then s.countHit else s.countMiss) := by
  have hcleared : call.cleared s = 0 := by
    cases call with
    | clear => exact absurd rfl hcall
    | _ => rfl
  have hresized : call.resized s = 0 := by
    cases call with
    | clear => exact absurd rfl hcall
    | _ => exact hkept
  cases hit <;> constructor <;>
    simp [tally, hcall, hkept, hcleared, hresized, countHit, countMiss, size]

/-- **A call that brings a template in.** The miss, the reading, the evictions and the new size are each
reported once. -/
theorem balances_kept {capacity : Nat} {record : List String} {s : Store}
    (h : InStep capacity record s) {template : String} {t : Template}
    (hnew : template ∉ s.templates) (compiled : (Template.compile template).value = .ok t) :
    Balances s [.fetch template]
      (.ofSignals (.measurement (.lookup false) ::
        ((Template.compile template).signals ++ (s.countMiss.keep template t).signals)))
      (s.countMiss.keep template t).value := by
  have hmisses : (Call.fetch template).fetchMisses s = 1 := if_neg hnew
  have hkept : (Call.fetch template).kept s = 1 := by
    rw [Call.kept, if_pos]
    rw [compiled]
    exact ⟨hnew, rfl⟩
  obtain ⟨evicted, hevictions, hsize, hsignals⟩ := h.countMiss.exists_evicted hnew t
  obtain ⟨hhits, hlookups⟩ := lookups_keep s.countMiss template t
  rw [signals_compile compiled, hsignals, ofSignals_kept]
  constructor
  · rw [hhits]
    exact (UInt64.add_zero s.hits).symm
  · rw [hlookups]
    rfl
  · exact hevictions
  · rfl
  · exact hmisses.symm
  · show s.size + (Call.fetch template).kept s = _ + evicted + 0
    rw [hkept]
    exact hsize
  · show _ = if (Call.fetch template).kept s = 0 then none else _
    rw [hkept]
    rfl
  · intro hzero
    have hnone : (Call.fetch template).kept s = 0 := hzero
    omega

/-- Clearing the store is reported as a size of zero, and all that was there counts as cleared away. -/
theorem balances_cleared (s : Store) :
    Balances s [.clear] (.ofSignals [.measurement (.entries 0)])
      { s with templates := ∅, arrivals := [] } := by
  constructor
  · exact (UInt64.add_zero s.hits).symm
  · exact (UInt64.add_zero s.misses).symm
  · exact (UInt64.add_zero s.evictions).symm
  · rfl
  · rfl
  · show s.size + 0 = 0 + 0 + s.size
    omega
  · rfl
  · intro hzero
    exact absurd hzero Nat.one_ne_zero

/-- **One call.** The counters go up by what is reported, and the onlooker counts the same. -/
theorem balances_of_moves {capacity : Nat} {record : List String} {s : Store} {call : Call}
    {out : Logged (Reply × Store)} (hmove : s.Moves call out) (h : InStep capacity record s) :
    Balances s [call] (.ofSignals out.signals) out.value.2 := by
  cases hmove with
  | @hit template t there =>
    have hmem : template ∈ s.templates := mem_templates_iff.mpr ⟨t, there⟩
    have hmisses : (Call.fetch template).fetchMisses s = 0 := if_pos hmem
    have hkept : (Call.fetch template).kept s = 0 := if_neg fun hin => hin.1 hmem
    have hbalances := balances_lookup s true (by simp) hkept
    rw [hmisses] at hbalances
    exact hbalances
  | @refused template fault missing faulty =>
    have hnew : template ∉ s.templates := (getElem?_eq_none_iff _ _).mp missing
    have hmisses : (Call.fetch template).fetchMisses s = 1 := if_neg hnew
    have hkept : (Call.fetch template).kept s = 0 := by
      -- a template with a fault is not kept, although it was not there
      rw [Call.kept, if_neg]
      rintro ⟨-, hok⟩
      rw [faulty] at hok
      exact Bool.false_ne_true hok
    have hbalances := balances_lookup s false (by simp) hkept
    rw [hmisses] at hbalances
    simp only [signals_compile_error faulty]
    exact hbalances
  | kept missing compiled => exact balances_kept h ((getElem?_eq_none_iff _ _).mp missing) compiled
  | found there => exact balances_lookup s true (by simp) rfl
  | missed missing => exact balances_lookup s false (by simp) rfl
  | cleared => exact balances_cleared s

/-- **Any number of calls.** The induction is on the calls; the store stays in step with the record on the
way. -/
theorem balances_run {capacity : Nat} {record : List String} {s : Store}
    (h : InStep capacity record s) (calls : List Call) :
    Balances s calls (.ofSignals (s.run calls).signals) (s.after calls) := by
  induction calls generalizing s record with
  | nil => exact balances_nil s
  | cons call calls ih =>
    have hmove := moves_perform s call
    have hsignals : (s.run (call :: calls)).signals
        = (s.perform call).signals ++ ((s.perform call).value.2.run calls).signals := by
      show _ ++ (_ ++ []) = _
      rw [List.append_nil]
    rw [hsignals, Report.ofSignals_append, after_cons]
    exact (balances_of_moves hmove h).cons (ih (inStep_of_moves hmove h))

/-! ## The headline -/

/-- A fetch that answers with a fault was a miss, since a hit is answered with a template, and it changes
the count of misses only. -/
theorem fetch_of_value_error {s : Store} {template : String} {fault : Fault}
    (h : (s.fetch template).value.1 = .error fault) : (s.fetch template).value.2 = s.countMiss := by
  cases hlookup : s.templates[template]? with
  | some t =>
    rw [fetch_of_some hlookup] at h
    exact absurd h (by simp)
  | none =>
    cases hcompile : (Template.compile template).value with
    | error fault' => rw [fetch_of_error hlookup hcompile]
    | ok t =>
      rw [fetch_of_ok hlookup hcompile] at h
      exact absurd h (by simp)

/-- **The books of a store balance.** After fewer than 2⁶⁴ calls on an empty store:

* hits and misses add up to the lookups;
* the templates that came in are those that are there, those that were let go and those that were cleared
  away;
* a template with a fault changes nothing but the misses, and clearing the store changes no counter;
* the metrics show the hits, misses and evictions of the store;
* the gauge shows how many templates there are, in double precision and so exactly up to 53 bits, from the
  first call on that brings one in or clears the store;
* every fetch that missed was reported as read with or without a fault. -/
theorem books_balance (capacity : Nat) (calls : List Call) (hlt : calls.length < UInt64.size)
    (replies : List Reply) (s : Store) (signals : List Signal)
    (hrun : (empty capacity).run calls = ⟨(replies, s), signals⟩) :
    s.stats.hits.toNat + s.stats.misses.toNat = calls.countP (· ≠ .clear) ∧
      (empty capacity).tally Call.kept calls
        = s.stats.size + s.stats.evictions.toNat + (empty capacity).tally Call.cleared calls ∧
      (∀ template fault, (s.fetch template).value.1 = .error fault →
        (s.fetch template).value.2 = { s with misses := s.misses + 1 }) ∧
      s.clear.value.stats = { s.stats with size := 0 } ∧
      (Series.lookups true).countIn signals = s.stats.hits ∧
      (Series.lookups false).countIn signals = s.stats.misses ∧
      Series.evictions.countIn signals = s.stats.evictions ∧
      (Series.entries.gaugeIn? signals
        = if (empty capacity).tally Call.resized calls = 0 then none
          else some (heldValue s.stats.size)) ∧
      (s.stats.size < Nat.pow 2 53 → heldValue s.stats.size = s.stats.size) ∧
      ((Series.parses "ok").countIn signals).toNat + ((Series.parses "error").countIn signals).toNat
        = (empty capacity).tally Call.fetchMisses calls := by
  -- the whole run from the empty store, where all counters stand at zero
  have hbalances : Balances (empty capacity) calls (.ofSignals signals) s := by
    have hall := balances_run (inStep_empty capacity) calls
    rwa [after, hrun] at hall
  have hhits : s.hits = UInt64.ofNat ((Series.lookups true).sumIn signals) :=
    hbalances.hits.trans (UInt64.zero_add _)
  have hmisses : s.misses = UInt64.ofNat ((Series.lookups false).sumIn signals) :=
    hbalances.misses.trans (UInt64.zero_add _)
  have hevictions : s.evictions = UInt64.ofNat (Series.evictions.sumIn signals) :=
    hbalances.evictions.trans (UInt64.zero_add _)
  have hlookups : (Series.lookups true).sumIn signals + (Series.lookups false).sumIn signals
      = calls.countP (· ≠ .clear) := hbalances.lookups
  have hparsed : (Series.parses "ok").sumIn signals + (Series.parses "error").sumIn signals
      = (empty capacity).tally Call.fetchMisses calls := hbalances.parsed
  have hentries : 0 + (empty capacity).tally Call.kept calls
      = s.size + Series.evictions.sumIn signals + (empty capacity).tally Call.cleared calls :=
    hbalances.entries
  -- no count exceeds the number of calls, so no counter has wrapped
  have hcalls : calls.countP (· ≠ .clear) ≤ calls.length := List.countP_le_length
  have hkept := tally_le_length (fun s call => (Call.counts_le_one s call).2) (empty capacity) calls
  have hfetches := tally_le_length (fun s call => (Call.counts_le_one s call).1) (empty capacity) calls
  refine ⟨?_, ?_, ?_, rfl, ?_, ?_, ?_, ?_, heldValue_of_lt, ?_⟩
  · show s.hits.toNat + s.misses.toNat = _
    rw [hhits, hmisses, UInt64.toNat_ofNat_of_lt' (by omega), UInt64.toNat_ofNat_of_lt' (by omega)]
    exact hlookups
  · show _ = s.size + s.evictions.toNat + _
    rw [hevictions, UInt64.toNat_ofNat_of_lt' (by omega)]
    omega
  · intro template fault hfault
    exact fetch_of_value_error hfault
  · exact (Series.countIn_eq rfl signals).trans hhits.symm
  · exact (Series.countIn_eq rfl signals).trans hmisses.symm
  · exact (Series.countIn_eq rfl signals).trans hevictions.symm
  · have hgauge : (Series.entries.samplesIn signals).getLast? = _ := hbalances.gauge
    rw [Series.gaugeIn?_eq rfl, hgauge]
    split <;> rfl
  · rw [Series.countIn_eq rfl, Series.countIn_eq rfl, UInt64.toNat_ofNat_of_lt' (by omega),
      UInt64.toNat_ofNat_of_lt' (by omega)]
    exact hparsed

/-- Room for two: one template is found again, one has a fault, the third that comes in pushes the first
one out, two are cleared away and one comes back. -/
theorem books_balance_each_move :
    ∃ replies s signals, (empty 2).run [.fetch "(a <x>)", .fetch "(a <x>)", .fetch "(",
        .fetch "(b <y>)", .fetch "(c <z>)", .find "(a <x>)", .clear, .fetch "(a <x>)"]
        = ⟨(replies, s), signals⟩ ∧
      s.stats.hits.toNat + s.stats.misses.toNat = 7 ∧
      4 = s.stats.size + s.stats.evictions.toNat + 2 ∧
      (s.fetch "(").value.2 = { s with misses := s.misses + 1 } ∧
      Series.evictions.countIn signals = s.stats.evictions ∧ s.stats.evictions = 1 ∧
      Series.entries.gaugeIn? signals = some (heldValue 1) ∧
      ((Series.parses "ok").countIn signals).toNat + ((Series.parses "error").countIn signals).toNat
        = 5 := by
  obtain ⟨calls, hcalls⟩ : ∃ calls : List Call, calls = [.fetch "(a <x>)", .fetch "(a <x>)",
      .fetch "(", .fetch "(b <y>)", .fetch "(c <z>)", .find "(a <x>)", .clear, .fetch "(a <x>)"] :=
    ⟨_, rfl⟩
  rw [← hcalls]
  obtain ⟨⟨⟨replies, s⟩, signals⟩, hrun⟩ : ∃ out, (empty 2).run calls = out := ⟨_, rfl⟩
  have hs : s = (empty 2).after calls := by rw [after, hrun]
  have hlength : calls.length < UInt64.size := by
    rw [hcalls]
    decide
  obtain ⟨hlookups, hentries, hfault, -, -, -, hevictions, hgauge, -, hparsed⟩ :=
    books_balance 2 calls hlength replies s signals hrun
  have hcount : calls.countP (· ≠ .clear) = 7 := by
    rw [hcalls]
    decide
  have hkept : (empty 2).tally Call.kept calls = 4 := by
    rw [hcalls]
    decide +kernel
  have hcleared : (empty 2).tally Call.cleared calls = 2 := by
    rw [hcalls]
    decide +kernel
  have hresized : (empty 2).tally Call.resized calls = 5 := by
    rw [hcalls]
    decide +kernel
  have hfetches : (empty 2).tally Call.fetchMisses calls = 5 := by
    rw [hcalls]
    decide +kernel
  have hstats : s.stats = ⟨1, 6, 1, 1⟩ := by
    rw [hs, hcalls]
    decide +kernel
  refine ⟨replies, s, signals, hrun, ?_, ?_, ?_, hevictions, ?_, ?_, ?_⟩
  · rw [hlookups, hcount]
  · omega
  · cases hresult : (s.fetch "(").value.1 with
    | error fault => exact hfault "(" fault hresult
    | ok t =>
      have hrefused : (s.fetch "(").value.1.isOk = false := by
        rw [hs, hcalls]
        decide +kernel
      rw [hresult] at hrefused
      cases hrefused
  · rw [hstats]
  · rw [hgauge, hresized, hstats]
    rfl
  · rw [hparsed, hfetches]

end Store

end QueryTemplate
