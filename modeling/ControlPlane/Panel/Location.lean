import ControlPlane.Counter
import ControlPlane.Port

/-! # Where ports lie in the chip

Each port is a lane of one of sixteen blocks.  Ports 1 to 48 share blocks by four, and each of the
last four ports has a block of its own.  In two blocks neighbouring lanes are swapped on the board.

`locate_inj` says that no two ports lie in the same lane. -/

namespace ControlPlane

structure Location where
  block : Nat
  /-- Address of the block's registers. -/
  base : Nat
  lane : Nat
  deriving DecidableEq

namespace Location

/-- The addresses of the blocks, in front-panel order. -/
def blockBases : List Nat := [
  0x40a00000, 0x40b00000, 0x00b00000, 0x00c00000, 0x00d00000, 0x00e00000, 0x00f00000,
  0x40000000, 0x40100000, 0x40200000, 0x40300000, 0x40400000, 0x40600000, 0x40500000,
  0x40900000, 0x40800000]

/-- Whether a block's neighbouring lanes are swapped. -/
def isSwapped (block : Nat) : Bool := block == 5 || block == 6

/-- The lane beside a lane. -/
def neighbour (lane : Nat) : Nat := if lane % 2 = 0 then lane + 1 else lane - 1

def ofBlock (block lane : Nat) : Location := ⟨block, blockBases[block]?.getD 0, lane⟩

/-- The number that the chip gives to a block. -/
def blockId (l : Location) : Nat := l.base / 2 ^ 20

/-- The address of a register of the lane. -/
def laneRegister (l : Location) (offset : Nat) : Nat := l.base + l.lane * 0x1000 + offset

/-- The address of the block's word of enabled lanes. -/
def enableWord (l : Location) : Nat := l.base + 0x8022a

/-- The address of the register with the lane's link state. -/
def modeRegister (l : Location) : Nat := l.laneRegister 0x511

/-- The bit of the mode register that tells that the link is up. -/
def linkBit : Nat := 5

/-- The address of a counter's two words. -/
def counterWords (l : Location) (c : Counter) : Nat := l.laneRegister c.register

end Location

namespace PortId

/-- The index of a port's block. -/
def block (p : PortId) : Nat := if p.macIndex < 48 then p.macIndex / 4 else p.macIndex - 36

/-- The lane of its block that a port is wired to. -/
def lane (p : PortId) : Nat :=
  if p.macIndex < 48 then
    if Location.isSwapped p.block then Location.neighbour (p.macIndex % 4) else p.macIndex % 4
  else
    0

def locate (p : PortId) : Location := Location.ofBlock p.block p.lane

theorem locate_inj {p q : PortId} (hb : p.locate.block = q.locate.block)
    (hl : p.locate.lane = q.locate.lane) : p = q := by
  apply num_inj
  have hp := p.one_le
  have hq := q.one_le
  have hp' : p.num ≤ 52 := p.le_count
  have hq' : q.num ≤ 52 := q.le_count
  change p.block = q.block at hb
  change p.lane = q.lane at hl
  unfold lane at hl
  rw [hb] at hl
  unfold block macIndex at hb
  unfold macIndex at hl
  by_cases h1 : p.num - 1 < 48 <;> by_cases h2 : q.num - 1 < 48 <;>
    simp only [h1, h2, if_true, if_false] at hb hl
  · cases hs : Location.isSwapped q.block
    · simp only [hs, Bool.false_eq_true, if_false] at hl
      omega
    · simp only [hs, if_true, Location.neighbour] at hl
      split at hl <;> split at hl <;> omega
  · omega
  · omega
  · omega

end PortId

end ControlPlane
