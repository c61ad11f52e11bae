import Std.Data.ExtTreeMap
import QueryTemplate.Text.Lowercase

/-!
# Bindings

The values that a query is filled with, each under the name of a placeholder. Names that fold to the
same form are one name; a later value replaces an earlier one.

* `NameTable fold` is the table for any way of folding names.
* `NameTable.Edit` is a change or a question as data, `NameTable.apply` its effect and its answer.
* `Bindings` folds names to lower case.
-/

namespace QueryTemplate

/-- Values under names, where `fold` says which names are the same. -/
structure NameTable (fold : String → String) where
  entries : Std.ExtTreeMap String String
  deriving DecidableEq

namespace NameTable

variable {fold : String → String}

def empty : NameTable fold := ⟨∅⟩

def get? (t : NameTable fold) (name : String) : Option String := t.entries[fold name]?

def contains (t : NameTable fold) (name : String) : Bool := t.entries.contains (fold name)

def insert (t : NameTable fold) (name value : String) : NameTable fold :=
  ⟨t.entries.insert (fold name) value⟩

def erase (t : NameTable fold) (name : String) : NameTable fold := ⟨t.entries.erase (fold name)⟩

/-- How many names have a value. -/
def size (t : NameTable fold) : Nat := t.entries.size

/-- The table of a list of names and values; the last value of a name stays. -/
def ofPairs (pairs : List (String × String)) : NameTable fold :=
  pairs.foldl (fun t (name, value) => t.insert name value) empty

@[simp]
theorem get?_empty (name : String) : (empty : NameTable fold).get? name = none := by
  simp [get?, empty]

/-- A name finds what was put under a name of the same form. -/
theorem get?_insert (t : NameTable fold) (a b value : String) :
    (t.insert a value).get? b = if fold a = fold b then some value else t.get? b := by
  simp [get?, insert, Std.ExtTreeMap.getElem?_insert]

/-- A change to the table, or a question about it. -/
inductive Edit where
  /-- Binds a name and answers with the value that was replaced. -/
  | insert (name value : String)
  /-- Binds a name and answers nothing. -/
  | bind (name value : String)
  /-- Unbinds a name and answers with the value that was removed. -/
  | erase (name : String)
  | get (name : String)
  | contains (name : String)
  /-- Takes another table in place of this one. -/
  | replace (pairs : List (String × String))
  /-- Is this table the same as another? -/
  | equals (pairs : List (String × String))

inductive Answer where
  | nothing
  | value (value? : Option String)
  | truth (b : Bool)
  deriving DecidableEq, Repr

/-- The effect of one edit, and its answer. -/
def apply (t : NameTable fold) : Edit → NameTable fold × Answer
  | .insert name value => (t.insert name value, .value (t.get? name))
  | .bind name value => (t.insert name value, .nothing)
  | .erase name => (t.erase name, .value (t.get? name))
  | .get name => (t, .value (t.get? name))
  | .contains name => (t, .truth (t.contains name))
  | .replace pairs => (.ofPairs pairs, .nothing)
  | .equals pairs => (t, .truth (t = .ofPairs pairs))

end NameTable

/-- The values of one query. Upper and lower case in a name do not matter. -/
abbrev Bindings := NameTable Text.lowercase

abbrev Bindings.Edit := NameTable.Edit

abbrev Bindings.Answer := NameTable.Answer

end QueryTemplate
