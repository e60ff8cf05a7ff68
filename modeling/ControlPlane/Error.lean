import ControlPlane.Counter
import ControlPlane.Ipv6
import ControlPlane.MacAddr
import ControlPlane.Port
import ControlPlane.Routing.Target
import ControlPlane.Table.Layout

/-! # Failures

What may go wrong, as causes.  `DeviceError` is what a device answers instead of doing what it
was told; `Error` is the failure of an operation of the control plane, of which a failing device
is one cause.  Each type has a `message`, which is the only place where its wording is.

`Error.ofDevice` says how a device's failure is passed on: misuse becomes an invalid argument,
a missing ability becomes an unsupported operation, and all else stays a failure of the device. -/

namespace ControlPlane

/-- A failure of the operating system. -/
inductive OsError where
  | noEntry
  | isDirectory
  | notTerminal
  | described (text : String)
  /-- A failure in the course of something. -/
  | during (activity : String) (cause : OsError)
  deriving DecidableEq

namespace OsError

/-- The system's number and word for a failure, and its description. -/
def facts? : OsError → Option (Nat × String × String)
  | noEntry => some (2, "NotFound", "No such file or directory")
  | isDirectory => some (21, "IsADirectory", "Is a directory")
  | notTerminal => some (25, "Uncategorized", "Inappropriate ioctl for device")
  | described _ => none
  | during _ cause => cause.facts?

/-- The system's word for a failure. -/
def kind (e : OsError) : String :=
  match e.facts? with
  | some (_, kind, _) => kind
  | none => "Other"

/-- The description, with the number. -/
def message (e : OsError) : String :=
  match e, e.facts? with
  | described text, _ => text
  | during activity cause, _ => activity ++ ": " ++ cause.message
  | _, some (code, _, text) => s!"{text} (os error {code})"
  | _, none => ""

/-- All facts, field by field. -/
def details (e : OsError) : String :=
  match e, e.facts? with
  | described text, _ => Text.quoted text
  | during _ _, _ =>
    "Custom \x7b kind: " ++ e.kind ++ ", error: " ++ Text.quoted e.message ++ " \x7d"
  | _, some (code, kind, text) =>
    "Os \x7b code: " ++ toString code ++ ", kind: " ++ kind ++ ", message: "
      ++ Text.quoted text ++ " \x7d"
  | _, none => ""

end OsError

/-! ### Devices -/

/-- A request that a device rightly refuses. -/
inductive Misuse where
  /-- `len` bytes from `offset` reach past a region of `size` bytes. -/
  | access (offset len size : Nat)
  | commandLength (words : Nat)
  | payloadLength (words : Nat)
  /-- An exchange of more words than the transport can carry. -/
  | exchangeLength
  /-- A bus address that belongs to no byte of the pool. -/
  | outsidePool (bus : Nat)
  | path (path : String)
  | described (text : String)
  deriving DecidableEq

/-- The number of command words and of payload words that one exchange can carry. -/
def commandWordsMax : Nat := 8

def payloadWordsMax : Nat := 16

namespace Misuse

def message : Misuse → String
  | access offset len size =>
    "dma access " ++ Text.hex offset ++ "+" ++ Text.hex len ++ " exceeds region of "
      ++ Text.hex size ++ " bytes"
  | commandLength words => s!"command must be 1..={commandWordsMax} words, got {words}"
  | payloadLength words => s!"payload must be at most {payloadWordsMax} words, got {words}"
  | exchangeLength => s!"schan payload limited to {payloadWordsMax} words"
  | outsidePool bus => "bus address " ++ Text.hex bus ++ " outside the dma pool"
  | path text => s!"bad path: {text}"
  | described text => text

end Misuse

inductive DeviceError where
  | misuse (why : Misuse)
  | uninitialized (text : String)
  | unsupported
  | internal (text : String)
  | missing
  | io (context : String) (cause : OsError)
  /-- A fault injected into the named operation. -/
  | synthetic (operation : String)
  | registerOutOfRange (offset : Nat)
  /-- Completion was not seen in time; what the command did is unknown. -/
  | timeout (operation : String) (afterMs : Nat)
  | commandFailed (status : Nat)
  deriving DecidableEq

namespace DeviceError

def message : DeviceError → String
  | misuse why => "Invalid argument: " ++ why.message
  | uninitialized text => s!"ASIC layer uninitialized: {text}"
  | unsupported => "Operation unsupported by the ASIC"
  | internal text => s!"Internal error: {text}"
  | missing => "ASIC not found"
  | io context cause => "IO error: " ++ context ++ ": " ++ cause.message
  | synthetic operation => s!"Synthetic ASIC error: {operation}"
  | registerOutOfRange offset => "Register offset " ++ Text.hex offset ++ " out of range"
  | timeout operation afterMs => s!"{operation} timed out after {afterMs}ms"
  | commandFailed status => "Command failed with status " ++ Text.hex status

end DeviceError

/-! ### The control plane -/

/-- Something that cannot go while others use it, and how many do. -/
inductive Busy where
  | interface (id : InterfaceId) (users : Nat)
  | egress (id : EgressId) (users : Nat)
  | group (id : GroupId) (users : Nat)
  deriving DecidableEq

namespace Busy

def message : Busy → String
  | interface id users => s!"interface {id} is used by {users} egress objects"
  | egress id users => s!"egress {id} is used by {users} routes or groups"
  | group id users => s!"ecmp group {id} is used by {users} routes"

end Busy

/-- Something that was asked for and is not there. -/
inductive Missing where
  | station (mac : MacAddr) (vlan : Nat)
  | trap (slot : Nat)
  | interface (id : InterfaceId)
  | egress (id : EgressId)
  | group (id : GroupId)
  | route (subnet : Subnet)
  | vlan (vlan : Nat)
  | vlanPort (port : PortId) (vlan : Nat)
  /-- The index was never handed out. -/
  | index (pool : String) (id : Nat)
  deriving DecidableEq

namespace Missing

def message : Missing → String
  | station mac n => "no l2 entry for " ++ mac.text ++ "/" ++ toString n
  | trap slot => s!"l2 user slot {slot} is empty"
  | interface id => s!"no such interface: {id}"
  | egress id => s!"no such egress: {id}"
  | group id => s!"no such ecmp group: {id}"
  | route subnet => "no route for " ++ subnet.text
  | vlan n => s!"no such vlan: {n}"
  | vlanPort p n => "port " ++ toString p.num ++ s!" is not in vlan {n}"
  | index pool id => s!"{pool} {id} is not allocated"

end Missing

/-- What is wrong with a line of a bring-up script. -/
inductive ScriptFault where
  | badNumber (word : String)
  | wrongArity (command : String)
  | unknownCommand (word : String)
  deriving DecidableEq

namespace ScriptFault

def message : ScriptFault → String
  | badNumber word => "bad number " ++ Text.quoted word
  | wrongArity command => s!"wrong number of arguments to {command}"
  | unknownCommand word => "unknown command " ++ Text.quoted word

end ScriptFault

/-- What is wrong with a line of a file of port speeds. -/
inductive SpeedsFault where
  | noEquals
  | badPort (cause : PortError)
  | badSpeed (cause : PortError)
  deriving DecidableEq

namespace SpeedsFault

def message : SpeedsFault → String
  | noEquals => "expected <port>=<speed>"
  | badPort cause => cause.message
  | badSpeed cause => cause.message

end SpeedsFault

/-- Settings that cannot be used together, or at all. -/
inductive SettingsFault where
  | portCount (n : Nat)
  | emptyStem
  | tapsWithoutPackets
  | zeroInterval
  /-- The file is no list of known settings. -/
  | malformed (path : String)
  deriving DecidableEq

namespace SettingsFault

def message : SettingsFault → String
  | portCount n => "num_ports must be 1 to " ++ toString ControlPlane.portCount ++ s!", not {n}"
  | emptyStem => "port_prefix may not be empty"
  | tapsWithoutPackets => "tap interfaces need pktio enabled"
  | zeroInterval => "timeouts and poll intervals must be non-zero"
  | malformed path => s!"{path}: malformed settings"

end SettingsFault

/-- The number of members a multipath group may have. -/
def groupMembersMax : Nat := 1023

/-- The longest frame that can be sent. -/
def frameBytesMax : Nat := 2048

/-- An argument that cannot be acted on. -/
inductive Invalid where
  | vlanTag (n : Nat)
  | port (cause : PortError)
  /-- The board has fewer ports. -/
  | beyondPorts (port : PortId) (count : Nat)
  | entryIndex (table : Table) (index : Nat)
  | entryWidth (table : Table) (words : Nat)
  | indexRange (pool : String) (id : Nat)
  | spanCount (pool : String) (count : Nat)
  | spanOutside (pool : String) (base count : Nat)
  | spanFree (pool : String) (base count : Nat)
  | trapSlot (slot : Nat)
  | interface (id : InterfaceId)
  | egress (id : EgressId)
  | group (id : GroupId)
  | target (target : RouteTarget)
  | groupSize (members : Nat)
  | prefixLength (len : Nat)
  /-- A route leaves by a port without an interface. -/
  | unaddressed (port : PortId) (subnet : Subnet)
  | frameLength (bytes : Nat)
  /-- A buffer that 32-bit descriptors cannot name. -/
  | unreachable (bus : Nat)
  | ifname (name : String)
  | script (line : Nat) (fault : ScriptFault)
  | speeds (line : Nat) (fault : SpeedsFault)
  | settings (fault : SettingsFault)
  | device (why : Misuse)
  deriving DecidableEq

namespace Invalid

def message : Invalid → String
  | vlanTag n => s!"Invalid VLAN tag: {n}"
  | port cause => cause.message
  | beyondPorts p count =>
    "port " ++ toString p.num ++ s!" is beyond the {count} ports on this switch"
  | entryIndex table index => s!"index {index} out of range for " ++ table.name
  | entryWidth table words =>
    table.name ++ " entries are " ++ toString table.words ++ s!" words, not {words}"
  | indexRange pool id => s!"{pool} {id} is out of range"
  | spanCount pool count => s!"cannot allocate {count} slots from {pool}"
  | spanOutside pool base count => s!"span {base}+{count} is outside {pool}"
  | spanFree pool base count => s!"span {base}+{count} in {pool} is already free"
  | trapSlot slot => s!"l2 user slot {slot} is out of range"
  | interface id => s!"no such interface: {id}"
  | egress id => s!"no such egress: {id}"
  | group id => s!"no such ecmp group: {id}"
  | target goal => "no such " ++ goal.text
  | groupSize members => s!"ecmp groups must have 1 to {groupMembersMax} members, not {members}"
  | prefixLength len => s!"invalid prefix length: {len}"
  | unaddressed p subnet =>
    "port " ++ toString p.num ++ " has no l3 interface for route " ++ subnet.text
  | frameLength bytes => s!"frame length must be 1 to {frameBytesMax} bytes, not {bytes}"
  | unreachable bus => "dma address " ++ Text.hex bus ++ " is not reachable by the asic"
  | ifname name => "bad interface name: " ++ Text.quoted name
  | script line fault => s!"line {line}: " ++ fault.message
  | speeds line fault => s!"line {line}: " ++ fault.message
  | settings fault => fault.message
  | device why => why.message

end Invalid

/-- A table or pool without room. -/
inductive Full where
  | table (name : String)
  | dmaPool (requested available : Nat)
  deriving DecidableEq

namespace Full

def message : Full → String
  | table name => name
  | dmaPool requested available => s!"dma pool ({requested} bytes requested, {available} available)"

end Full

/-- Something this switch cannot do. -/
inductive Unsupported where
  | device
  /-- The board's chip cannot be read. -/
  | counter (counter : Counter) (port : PortId)
  | speed (port : PortId) (speed : PortSpeed)
  | packets
  | ipv6Host (addr : Ipv6)
  deriving DecidableEq

namespace Unsupported

def message : Unsupported → String
  | device => "operation unsupported by the asic"
  | counter c p =>
    "cannot read " ++ c.name ++ " on port " ++ toString p.num
      ++ ": asic reads are disabled"
  | speed p wanted => "port " ++ toString p.num ++ " cannot run at " ++ wanted.text
  | packets => "packet I/O is disabled"
  | ipv6Host addr => "cannot add IPv6 host route to " ++ addr.text

end Unsupported

/-- Failures that belong to no other kind. -/
inductive Other where
  | pollerRunning
  | receiverRunning
  | receiverClosed
  | shortCounter (counter : Counter) (port : PortId)
  /-- A file of faults that is no list of known faults. -/
  | malformedFaults (path : String)
  | described (text : String)
  deriving DecidableEq

namespace Other

def message : Other → String
  | pollerRunning => "the link poller can only be run once"
  | receiverRunning => "the rx task can only be run once"
  | receiverClosed => "rx channel closed"
  | shortCounter c p =>
    "short counter read for " ++ c.name ++ " on port " ++ toString p.num
  | malformedFaults path => s!"{path}: malformed faults"
  | described text => text

/-- A text with the contexts it was passed through, innermost first. -/
def inContexts (text : String) (contexts : List String) : Other :=
  described (contexts.foldl (fun inner context => context ++ ": " ++ inner) text)

end Other

inductive Error where
  | busy (what : Busy)
  | missing (what : Missing)
  | invalid (why : Invalid)
  | full (what : Full)
  | unsupported (what : Unsupported)
  | unresolved (neighbor : String)
  | other (what : Other)
  | io (cause : OsError)
  | device (cause : DeviceError)
  /-- A computed address or size has more than 64 bits, and no operation can go on from there. -/
  | overflow
  deriving DecidableEq

namespace Error

def message : Error → String
  | busy what => "Resource is busy: " ++ what.message
  | missing what => "Resource is missing: " ++ what.message
  | invalid why => "Invalid argument: " ++ why.message
  | full what => "Table " ++ what.message ++ " is full"
  | unsupported what => "Unsupported: " ++ what.message
  | unresolved neighbor => s!"Neighbor {neighbor} is unresolved"
  | other what => "Error: " ++ what.message
  | io cause => "I/O error: " ++ cause.details
  | device cause => "ASIC error: " ++ cause.message
  | overflow => "Arithmetic overflow"

/-- How a device's failure is passed on. -/
def ofDevice : DeviceError → Error
  | .misuse why => .invalid (.device why)
  | .unsupported => .unsupported .device
  | cause => .device cause

/-- Whether the transport gave up waiting. -/
def isTimeout : Error → Bool
  | device (.timeout _ _) => true
  | _ => false

end Error

end ControlPlane
