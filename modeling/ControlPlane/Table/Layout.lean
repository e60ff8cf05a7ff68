/-! # The forwarding tables

The chip forwards by ten tables in its memory.  Entry `i` of a table begins at byte address
`base + i * stride` and has `words` words; a table has `depth` entries. -/

namespace ControlPlane

inductive Table where
  /-- Hash table from MAC address and VLAN to port. -/
  | station
  /-- Masked matches that take priority over the hash table. -/
  | trap
  /-- Source addressing of routed packets. -/
  | interface
  /-- Output port of a next hop. -/
  | ingressHop
  /-- Interface and destination MAC of a next hop. -/
  | egressHop
  /-- Routes, matched by longest prefix. -/
  | route
  /-- VLAN membership on the way in. -/
  | vlan
  /-- VLAN membership on the way out. -/
  | egressVlan
  /-- Members of the multipath groups, one next hop each. -/
  | member
  /-- Descriptors of the multipath groups. -/
  | group
  deriving DecidableEq

/-- Where a table lies and what shape it has. -/
structure Layout where
  name : String
  base : Nat
  words : Nat
  stride : Nat
  depth : Nat

namespace Table

def layout : Table → Layout
  | station => ⟨"l2_entry", 0x07120000, 4, 16, 131072⟩
  | trap => ⟨"l2_user_entry", 0x07140000, 5, 32, 512⟩
  | interface => ⟨"egr_l3_intf", 0x01264000, 4, 16, 4096⟩
  | ingressHop => ⟨"ing_l3_next_hop", 0x0e17c000, 2, 8, 16384⟩
  | egressHop => ⟨"egr_l3_next_hop", 0x0c260000, 4, 16, 16384⟩
  | route => ⟨"l3_defip", 0x0a170000, 8, 32, 8192⟩
  | vlan => ⟨"vlan", 0x12168000, 10, 40, 4096⟩
  | egressVlan => ⟨"egr_vlan", 0x0d260000, 8, 32, 4096⟩
  | member => ⟨"l3_ecmp", 0x0e176000, 1, 4, 4096⟩
  | group => ⟨"l3_ecmp_group", 0x0e174000, 7, 32, 1024⟩

def all : List Table :=
  [station, trap, interface, ingressHop, egressHop, route, vlan, egressVlan, member, group]

def name (t : Table) : String := t.layout.name

def words (t : Table) : Nat := t.layout.words

def depth (t : Table) : Nat := t.layout.depth

def ofName? (s : String) : Option Table := all.find? (·.name == s)

/-- The address of entry `index`. -/
def address (t : Table) (index : Nat) : Nat := t.layout.base + index * t.layout.stride

/-- The address of entry `index`, if addresses reach that far. -/
def address? (t : Table) (index : Nat) : Option Nat :=
  if t.address index < 2 ^ 32 then some (t.address index) else none

/-- The byte range from a table's first entry to the end of its last. -/
def span (t : Table) : Nat × Nat :=
  (t.layout.base, t.address (t.depth - 1) + 4 * t.words)

/-- Every entry of a table has an address of 32 bits, with room for its words. -/
theorem address_lt (t : Table) {index : Nat} (h : index < t.depth) :
    t.address index + 4 * t.words < 2 ^ 32 := by
  cases t <;> simp only [depth, address, words, layout] at * <;> omega

end Table

end ControlPlane
