import Lettermill.Dict
import Lettermill.Toml.Value
/-! Tables under construction. A table is defined once: by its header, by the headers of tables in
it, or by dotted keys, and each of these ways forbids the others to add to it later. A list of
tables grows at its end, and paths that lead through it mean its last table. -/
namespace Lettermill.Toml
set_option autoImplicit false

inductive Definition where
  /-- By a header of its own, or as a table between braces. -/
  | headed
  /-- By a header of a table inside it. -/
  | implied
  /-- By a dotted key. -/
  | dotted
  deriving DecidableEq, Repr

/-- What a key of a table under construction is bound to. -/
inductive Item where
  | value (v : Value)
  | table (definition : Definition) (entries : List (String × Item))
  | tables (elements : List (List (String × Item)))

abbrev Items := List (String × Item)

namespace Items

/-- Changes the table that a path leads to, with the tables on the way made when they are missing.
For a `dotted` path, tables with a header of their own are closed. -/
def update (dotted : Bool) (change : Definition → Items → Option Items) (definition : Definition)
    (items : Items) : List String → Option Items
  | [] => change definition items
  | key :: path =>
    match Dict.find key items with
    | none => do
      let made := if dotted then Definition.dotted else .implied
      let inner ← update dotted change made [] path
      some (Dict.put key (.table made inner) items)
    | some (.value _) => none
    | some (.table found inner) =>
      if dotted ∧ found = .headed then none
      else do
        let inner ← update dotted change found inner path
        some (Dict.put key (.table found inner) items)
    | some (.tables elements) =>
      match elements.getLast? with
      | none => none
      | some last => do
        let last ← update dotted change .headed last path
        some (Dict.put key (.tables (elements.dropLast ++ [last])) items)

/-- A key with the keys in front of it, and its value. -/
structure Binding where
  path : List String
  key : String
  value : Value

/-- Binds a key of a table. Only tables made by dotted keys are open to dotted keys, and no key is
bound twice. -/
def bind (items : Items) (b : Binding) : Option Items :=
  update true (fun definition inner =>
    if (definition = .dotted) = b.path.isEmpty ∨ (Dict.find b.key inner).isSome then none
    else some (Dict.put b.key (.value b.value) inner)) .headed items b.path

def bindAll : Items → List Binding → Option Items
  | items, [] => some items
  | items, b :: bs => (items.bind b).bind fun next => bindAll next bs

structure Section where
  path : List String
  key : String
  /-- Does the header add a table to a list of them? -/
  listed : Bool
  bindings : List Binding

/-- Adds the table of a section. A table that was implied before moves to the end. -/
def add (items : Items) (s : Section) : Option Items :=
  update false (fun _ inner =>
    match Dict.find s.key inner, s.listed with
    | none, true => (bindAll [] s.bindings).map fun t => Dict.put s.key (.tables [t]) inner
    | some (.tables elements), true =>
      (bindAll [] s.bindings).map fun t => Dict.put s.key (.tables (elements ++ [t])) inner
    | none, false => (bindAll [] s.bindings).map fun t => Dict.put s.key (.table .headed t) inner
    | some (.table .implied found), false =>
      (bindAll found s.bindings).map fun t =>
        inner.filter (fun entry => entry.1 ≠ s.key) ++ [(s.key, .table .headed t)]
    | _, _ => none) .headed items s.path

def addAll : Items → List Section → Option Items
  | items, [] => some items
  | items, s :: ss => (items.add s).bind fun next => addAll next ss

end Items

/-! ## Finished tables -/

mutual

def Item.finish : Item → Value
  | .value v => v
  | .table _ items => .table (finishItems items)
  | .tables elements => .list (finishElements elements)

def finishItems : List (String × Item) → List (String × Value)
  | [] => []
  | (key, item) :: rest => (key, item.finish) :: finishItems rest

def finishElements : List (List (String × Item)) → List Value
  | [] => []
  | items :: rest => .table (finishItems items) :: finishElements rest

end

end Lettermill.Toml
