/-! # Port counters

The counters that each port's MAC keeps, with their names and their place among the registers of
the port's lane. -/

namespace ControlPlane

inductive Counter where
  | rxPackets
  | rxBytes
  | txPackets
  | txBytes
  deriving DecidableEq

namespace Counter

def all : List Counter := [rxPackets, rxBytes, txPackets, txBytes]

def name : Counter → String
  | rxPackets => "rx_packets"
  | rxBytes => "rx_bytes"
  | txPackets => "tx_packets"
  | txBytes => "tx_bytes"

def ofName? (s : String) : Option Counter := all.find? (·.name == s)

/-- The counter's offset among the registers of a lane. -/
def register : Counter → Nat
  | rxPackets => 0x0b
  | rxBytes => 0x34
  | txPackets => 0x45
  | txBytes => 0x64

end Counter

end ControlPlane
