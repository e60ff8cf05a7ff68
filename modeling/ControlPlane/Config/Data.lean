import ControlPlane.KeyMap

/-! # Structured data

Settings reach the program as data: scalars, lists, and tables of named entries.  This module reads
the values that settings have out of data, and refuses those of another type or out of range.

A record of settings may be given as a table, or as a list of its values in order.  Entries that a
record does not know are left alone by `Data.fields?`; `Data.isWithin` tells whether there are
any. -/

namespace ControlPlane

inductive Data where
  | null
  | boolean (b : Bool)
  | integer (n : Int)
  | real (x : Float)
  | text (s : String)
  /-- A date or a time, which no setting is. -/
  | moment
  | list (items : List Data)
  | table (entries : List (String × Data))
  deriving Inhabited

namespace Data

/-- The entry of a table. -/
def lookup? (entries : List (String × Data)) (name : String) : Option Data :=
  (entries.find? fun e => e.1 == name).map Prod.snd

/-- The entries of a record with the given names. -/
def fields? (names : List String) : Data → Option (List (String × Data))
  | table entries => some entries
  | list items => if items.length ≤ names.length then some (names.zip items) else none
  | moment => some []
  | _ => none

/-- Whether all entries have one of the given names. -/
def isWithin (names : List String) (entries : List (String × Data)) : Bool :=
  entries.all fun e => names.contains e.1

/-! ### Scalars -/

def boolean? : Data → Option Bool
  | boolean b => some b
  | _ => none

def text? : Data → Option String
  | text s => some s
  | _ => none

/-- A natural number below a limit. -/
def natural? (limit : Nat) : Data → Option Nat
  | integer n => if 0 ≤ n ∧ n < limit then some n.toNat else none
  | _ => none

/-- A number, whole or not. -/
def real? : Data → Option Float
  | real x => some x
  | integer n => some (if n < 0 then -(Float.ofNat n.natAbs) else Float.ofNat n.natAbs)
  | _ => none

def isNull : Data → Bool
  | null => true
  | _ => false

/-- Whether this is a list or a table with nothing in it. -/
def isEmpty : Data → Bool
  | list items => items.isEmpty
  | table entries => entries.isEmpty
  | _ => false

/-- One of several names.  A name may also be given as the only entry of a table, with nothing in
it; `isNothing` tells what counts as that. -/
def choice? (isNothing : Data → Bool) : Data → Option String
  | text s => some s
  | table [(s, inner)] => if isNothing inner then some s else none
  | _ => none

/-! ### Records with defaults -/

/-- The entry of a record, read by `read?`, or a default where there is none. -/
def orDefault {α : Type} (entries : List (String × Data)) (name : String) (default : α)
    (read? : Data → Option α) : Option α :=
  match lookup? entries name with
  | none => some default
  | some d => read? d

end Data

end ControlPlane
