import Mathlib.Data.List.DropRight
import Mathlib.Data.List.Flatten
import Mathlib.Data.List.Forall2
import Mathlib.Data.List.TakeWhile

/-!
# Lists

What several parts of the theory need to know about lists, and what has nothing to do with templates.

* **`map_eq_of_forall₂`**, **`forall₂_of_map_eq`** — lists that are related item by item, and lists with
  the same images,
* **`exists_append_of_forall₂`** — what is related to a list in two parts has two parts,
* **`append_cons_cases`** — of a list in two parts, an item is in the first part or in the second,
* **`exists_of_take_eq`** — a list is known up to one item behind a given one,
* **`takeWhile_dropWhile_append`** — where a run of characters ends,
* **`tail_rtake`**, **`rtake_concat`** — the end of a list, when its first item goes and when one more comes.
-/

namespace QueryTemplate

variable {α β γ : Type}

/-! ## Lists that are related item by item -/

section Related

variable {as : List α} {bs : List β}

/-- Lists that are related item by item have the same image under functions that do not tell related
items apart. -/
theorem map_eq_of_forall₂ {R : α → β → Prop} {f : α → γ} {g : β → γ} (hR : ∀ a b, R a b → f a = g b)
    (h : List.Forall₂ R as bs) : as.map f = bs.map g := by
  have hmap : List.Forall₂ Eq (as.map f) (bs.map g) := List.rel_map (fun a b hab => hR a b hab) h
  rwa [List.forall₂_eq_eq_eq] at hmap

/-- The other way round: lists with the same image are related item by item, by having the same image. -/
theorem forall₂_of_map_eq {f : α → γ} {g : β → γ} (h : as.map f = bs.map g) :
    List.Forall₂ (fun a b => f a = g b) as bs := by
  rw [← List.forall₂_eq_eq_eq, List.forall₂_map_left_iff, List.forall₂_map_right_iff] at h
  exact h

/-- Two relations between the same lists hold together. The induction is on the first of them; the second
one has the same shape. -/
theorem forall₂_and {R S : α → β → Prop} (hR : List.Forall₂ R as bs) (hS : List.Forall₂ S as bs) :
    List.Forall₂ (fun a b => R a b ∧ S a b) as bs := by
  induction hR with
  | nil => exact .nil
  | cons head _ ih =>
    cases hS with
    | cons head' tail' => exact .cons ⟨head, head'⟩ (ih tail')

/-- What is related to a list in two parts has two parts, each related to its own. -/
theorem exists_append_of_forall₂ {R : α → β → Prop} {as' : List α}
    (h : List.Forall₂ R (as ++ as') bs) :
    ∃ front rest, bs = front ++ rest ∧ List.Forall₂ R as front ∧ List.Forall₂ R as' rest := by
  induction as generalizing bs with
  | nil => exact ⟨[], bs, rfl, .nil, h⟩
  | cons a as ih =>
    cases h with
    | @cons _ b _ bs head tail =>
      obtain ⟨front, rest, rfl, hfront, hrest⟩ := ih tail
      exact ⟨b :: front, rest, rfl, .cons head hfront, hrest⟩

end Related

/-! ## Parts of a list -/

/-- An item of a list in two parts is in the first part, with the rest of that part behind it, or in the
second part, with something of that part in front of it. -/
theorem append_cons_cases {front back as as' : List α} {a : α} (h : front ++ back = as ++ a :: as') :
    (∃ own, front = as ++ a :: own ∧ as' = own ++ back) ∨
      ∃ excess, as = front ++ excess ∧ back = excess ++ a :: as' := by
  rcases List.append_eq_append_iff.mp h with ⟨excess, has, hback⟩ | ⟨own, hfront, has'⟩
  · exact .inr ⟨excess, has, hback⟩
  · cases own with
    | nil =>
      -- the parts meet right before the item, which is then the first one of the second part
      exact .inr ⟨[], by rw [hfront, List.append_nil, List.append_nil], has'.symm⟩
    | cons a' own =>
      obtain ⟨rfl, rfl⟩ := List.cons.inj has'
      exact .inl ⟨own, hfront, rfl⟩

/-- A list that begins as another one does, up to one item behind `a`, has `a` in the same place and the
same item behind it. The induction is on the items in front of `a`. -/
theorem exists_of_take_eq {front rest as : List α} {a : α}
    (h : as.take (front.length + 2) = (front ++ a :: rest).take (front.length + 2)) :
    ∃ rest', as = front ++ a :: rest' ∧ rest'.head? = rest.head? := by
  induction front generalizing as with
  | nil =>
    cases as with
    | nil => simp at h
    | cons b as => cases as <;> cases rest <;> simp_all
  | cons c front ih =>
    cases as with
    | nil => simp at h
    | cons b as =>
      obtain ⟨rfl, htail⟩ := List.cons.inj h
      obtain ⟨rest', rfl, hhead⟩ := ih htail
      exact ⟨rest', rfl, hhead⟩

/-- A run of items in `p` ends where the next item is not in `p`, or at the end of the list. -/
theorem takeWhile_dropWhile_append {p : α → Bool} {front as : List α}
    (hfront : ∀ a ∈ front, p a = true) (hend : ∀ a ∈ as.head?, p a = false) :
    (front ++ as).takeWhile p = front ∧ (front ++ as).dropWhile p = as := by
  rw [List.takeWhile_append_of_pos hfront, List.dropWhile_append_of_pos hfront]
  cases as with
  | nil => simp
  | cons a as =>
    have ha : p a = false := hend a rfl
    simp [ha]

/-- A partial function that is defined wherever another one is, with the same values, keeps all that the
other one keeps, in the same order. -/
theorem filterMap_sublist_filterMap {f f' : α → Option β} {as : List α}
    (h : ∀ a ∈ as, ∀ b, f a = some b → f' a = some b) :
    (as.filterMap f).Sublist (as.filterMap f') := by
  rw [List.filterMap_eq_flatMap_toList, List.filterMap_eq_flatMap_toList]
  apply List.Sublist.flatMap_right
  intro a ha
  cases hfa : f a with
  | none => exact List.nil_sublist _
  | some b => rw [h a ha b hfa]

/-- Looking up in the table of a function finds the value of the function at every item of the table. -/
theorem lookup_map_pair [DecidableEq α] (f : α → β) (as : List α) (a : α) :
    (as.map fun a => (a, f a)).lookup a = if a ∈ as then some (f a) else none := by
  induction as with
  | nil => rfl
  | cons first as ih =>
    by_cases h : a = first
    · subst h
      simp
    · have hne : (a == first) = false := beq_false_of_ne h
      simp [List.lookup_cons, hne, ih, h]

/-! ## The end of a list -/

theorem rtake_of_length_le {n : Nat} {as : List α} (h : as.length ≤ n) : as.rtake n = as := by
  rw [List.rtake, Nat.sub_eq_zero_of_le h, List.drop_zero]

theorem tail_rtake {n : Nat} {as : List α} (hpos : 0 < n) (h : n ≤ as.length) :
    (as.rtake n).tail = as.rtake (n - 1) := by
  have hstart : as.length - n + 1 = as.length - (n - 1) := by omega
  rw [List.rtake, List.rtake, List.tail_drop, hstart]

/-- One more item takes up one of the `n` places at the end of a list. -/
theorem rtake_concat {n : Nat} (hpos : 0 < n) (as : List α) (last : α) :
    (as ++ [last]).rtake n = as.rtake (n - 1) ++ [last] := by
  have hpred : n - 1 + 1 = n := by omega
  rw [← List.rtake_concat_succ, hpred]

theorem length_rtake (n : Nat) (as : List α) : (as.rtake n).length = min n as.length := by
  rw [List.rtake, List.length_drop]
  omega

end QueryTemplate
