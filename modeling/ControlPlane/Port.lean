import ControlPlane.KeyMap
import ControlPlane.Text.Blank
import ControlPlane.Text.Numeral

/-! # Front-panel ports

The switch has 52 front-panel ports, numbered from 1.  A `PortId` carries the proof that its
number is one of them.  The kernel names the interface of a port by a stem followed by the port's
number; `PortId.ofIfname?` reads such a name and `PortId.ifname` writes it. -/

namespace ControlPlane

/-- The number of front-panel ports. -/
def portCount : Nat := 52

structure PortId where
  num : Nat
  one_le : 1 ≤ num
  le_count : num ≤ portCount
  deriving DecidableEq

/-- Why something names no port. -/
inductive PortError where
  | outOfRange (n : Nat)
  | invalid (text : String)
  deriving DecidableEq

namespace PortError

def message : PortError → String
  | outOfRange n => s!"Port {n} is out of range"
  | invalid text => s!"Invalid port: {text}"

end PortError

namespace PortId

theorem num_inj {p q : PortId} (h : p.num = q.num) : p = q := by
  cases p
  cases q
  simp_all

instance : Key PortId where
  rank p := p.num
  rank_inj := num_inj

instance : Inhabited PortId := ⟨⟨1, by decide, by decide⟩⟩

/-- The port numbered `n`. -/
def ofNat? (n : Nat) : Option PortId :=
  if h : 1 ≤ n ∧ n ≤ portCount then some ⟨n, h.1, h.2⟩ else none

/-- The port numbered `n`, or the error that there is none. -/
def ofNat (n : Nat) : Except PortError PortId :=
  match ofNat? n with
  | some p => .ok p
  | none => .error (.outOfRange n)

theorem ofNat?_num (p : PortId) : ofNat? p.num = some p := by
  simp [ofNat?, p.one_le, p.le_count]

/-- The number of the port's MAC, counted from zero. -/
def macIndex (p : PortId) : Nat := p.num - 1

/-- The first `count` ports. -/
def first (count : Nat) : List PortId :=
  (List.range' 1 (min count portCount)).filterMap ofNat?

/-- Reads a port's number, which may stand between blanks and have a plus sign. -/
def parse (s : String) : Except PortError PortId :=
  match Text.numeral? 10 256 (Text.trim s.toList) with
  | some n => ofNat n
  | none => .error (.invalid s)

/-- What follows the stem of a name. -/
def afterStem? : List Char → List Char → Option (List Char)
  | [], name => some name
  | _ :: _, [] => none
  | s :: stem, c :: name => if s = c then afterStem? stem name else none

/-- The port that an interface name stands for: the stem, then the port's number without leading
zeros. -/
def ofIfname? (stem name : String) : Option PortId :=
  match afterStem? stem.toList name.toList with
  | none => none
  | some digits =>
    if digits.head? = some '0' then
      none
    else
      match Text.unsigned? 10 digits with
      | none => none
      | some n => ofNat? n

/-- The name of the port's interface. -/
def ifname (p : PortId) (stem : String) : String := stem ++ toString p.num

end PortId

/-- The speeds a port may be configured for. -/
inductive PortSpeed where
  | gigabit1
  | gigabit10
  | gigabit40
  deriving DecidableEq

namespace PortSpeed

def text : PortSpeed → String
  | gigabit1 => "1G"
  | gigabit10 => "10G"
  | gigabit40 => "40G"

def all : List PortSpeed := [gigabit1, gigabit10, gigabit40]

/-- Reads a speed; blanks around it and the case of its letter do not count. -/
def parse (s : String) : Except PortError PortSpeed :=
  let wanted := (Text.trim s.toList).map Char.toUpper
  match all.find? fun speed => speed.text.toList == wanted with
  | some speed => .ok speed
  | none => .error (.invalid s)

end PortSpeed

end ControlPlane
