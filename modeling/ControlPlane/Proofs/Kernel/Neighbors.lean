import ControlPlane.Proofs.Forwarding.StationKeys
import ControlPlane.Proofs.Kernel.Effects

/-! # What becomes of the news of a neighbour

`Added` says what becomes of the news that there is a neighbour, and `Gone` of the news that it is gone.
Neighbours have stations besides their routes: `Stationed` and `Destationed` say which stations there are
afterwards, and that the ports are as before. -/

namespace ControlPlane.Follower

open Operation (Ends)

variable {δ : Type} [Bus δ] {refused : δ → Prop} {m m' : Follower δ}

theorem addStation_ends (ht : Bus.Tells refused) (m : Follower δ) (station : Station) :
    Ends (onSwitch (Switch.addStation station)) m
      (fun _ m' => (m.Elsewhere m' ∧ m'.switch.ports = m.switch.ports) ∧
        ¬ m.switch.stations.Crowded station.mac station.vlan ∧
        ∃ slot, m.switch.stations.newSlot? m.switch.board station = some slot ∧
          m'.switch.stations.slots = m.switch.stations.slots.insert slot station)
      fun _ m' => (m.Elsewhere m' ∧ m'.switch.ports = m.switch.ports) ∧
        (refused m'.switch.bus ∨ ¬ VlanTag.IsTag station.vlan ∨ ¬ m.switch.board.Has station.port ∨
          m.switch.stations.Crowded station.mac station.vlan) ∧
        m'.switch.stations.slots = m.switch.stations.slots := by
  have hadd : Ends (Stations.add m.switch.board station) (m.switch.stations, m.switch.bus) _ _ :=
    (Stations.add_ends ht m.switch.board station).and (Stations.add_commands m.switch.board station)
  refine Ends.focus ?_
  change Ends (Switch.onStations (Stations.add m.switch.board station)) m.switch _ _
  refine Ends.focus (hadd.mono ?_ ?_)
  · rintro _ t ⟨hroom, slot, hnew, -, hslots⟩
    exact ⟨⟨rfl, rfl⟩, hroom, slot, hnew, hslots⟩
  · rintro _ t ⟨hwhy, hslots, -⟩
    exact ⟨⟨rfl, rfl⟩, hwhy, hslots⟩

theorem removeStation_ends (m : Follower δ) (mac : MacAddr) :
    Ends (onSwitch (Switch.removeStation mac 0)) m
      (fun _ m' => (m.Elsewhere m' ∧ m'.switch.ports = m.switch.ports) ∧
        m'.switch.stations.slots = m.switch.stations.without mac)
      fun e m' => (∃ what, e = .missing what) ∧
        (m.Elsewhere m' ∧ m'.switch.ports = m.switch.ports) ∧
        m'.switch.stations.slots = m.switch.stations.without mac :=
  Ends.focus (Ends.focus ((Stations.remove_slots m.switch.stations mac m.switch.bus).mono
    (fun _ _ hslots => ⟨⟨rfl, rfl⟩, hslots⟩) fun _ _ he => ⟨he.1, ⟨rfl, rfl⟩, he.2⟩))

/-- What a neighbour's address makes possible: its host route, and routes through it. -/
def settle (n : Neighbor) (rp : RoutedPort) (mac : MacAddr) (subnets : List Subnet) :
    Operation (Follower δ) Unit := do
  tryTo (installHost n rp mac)
  Operation.forAll (fun subnet => tryTo (install subnet ⟨n.ip, n.ifindex⟩ rp mac)) subnets

/-- Whether a neighbour has had another address so far. -/
def hasMoved (m : Follower δ) (n : Neighbor) (mac : MacAddr) : Bool :=
  ((m.neighbors.get? n).filter fun old => old != mac).isSome

omit [Bus δ] in
theorem hasMac_iff {mac : MacAddr} : m.hasMac mac = true ↔ ∃ n, m.neighbors.get? n = some mac := by
  rw [hasMac, List.contains_iff_mem, KeyMap.mem_values_iff]

omit [Bus δ] in
theorem hasMoved_iff {n : Neighbor} {mac : MacAddr} :
    m.hasMoved n mac = true ↔ ∃ old, m.neighbors.get? n = some old ∧ old ≠ mac := by
  cases hn : m.neighbors.get? n <;> simp [hasMoved, hn, Option.filter]

omit [Bus δ] in
theorem mem_waitingFor_iff {n : Neighbor} {moved : Bool} {s : Subnet} :
    s ∈ m.waitingFor n moved ↔ m.pending.get? s = some ⟨n.ip, n.ifindex⟩ ∨
      moved = true ∧ ∃ r, m.installed.get? s = some r ∧ r.hop = ⟨n.ip, n.ifindex⟩ := by
  cases moved <;> simp [waitingFor, KeyMap.mem_toList_iff]

/-- The slots of stations once a neighbour is at a port: its station is in the slot given, and that of
the address it had so far is gone, unless another neighbour has that address. -/
def restationed (m : Follower δ) (n : Neighbor) (mac : MacAddr) (port : PortId) (slot : Nat) :
    KeyMap Nat Station :=
  let stations : Stations := { m.switch.stations with
    slots := m.switch.stations.slots.insert slot ⟨mac, 0, port, true⟩ }
  match (m.neighbors.get? n).filter fun old => old != mac with
  | some old =>
    if hasMac { m with neighbors := m.neighbors.insert n mac } old then stations.slots
    else stations.without old
  | none => stations.slots

/-- `m'` has the ports and stations of `m`, but for those of a neighbour that is at a port now. -/
structure Stationed (m : Follower δ) (n : Neighbor) (mac : MacAddr) (port : PortId)
    (m' : Follower δ) : Prop where
  ports : m'.switch.ports = m.switch.ports
  slots : ∃ slot, m.switch.stations.newSlot? m.switch.board ⟨mac, 0, port, true⟩ = some slot ∧
    m'.switch.stations.slots = m.restationed n mac port slot

/-- What becomes of the news of a neighbour, unless it fails. -/
inductive Added (m : Follower δ) (n : Neighbor) (mac? : Option MacAddr) : Follower δ → Prop where
  | ignored (h : mac? = none ∨ m.ports.get? n.ifindex = none) : Added m n mac? m
  /-- Its address is learnt; nothing more can be done without an interface. -/
  | noted {port mac m'} (hmac : mac? = some mac) (hport : m.ports.get? n.ifindex = some port)
      (hroom : ¬ m.switch.stations.Crowded mac 0) (hid : m.interfaces.get? port = none)
      (h : Elsewhere { m with neighbors := m.neighbors.insert n mac } m')
      (hst : m.Stationed n mac port m') : Added m n mac? m'
  | settled {port mac id m₁ m'} (hmac : mac? = some mac)
      (hport : m.ports.get? n.ifindex = some port) (hroom : ¬ m.switch.stations.Crowded mac 0)
      (hid : m.interfaces.get? port = some id)
      (h : Elsewhere { m with neighbors := m.neighbors.insert n mac } m₁)
      (hs : settle n ⟨port, id⟩ mac (m.waitingFor n (m.hasMoved n mac)) m₁ = .ok () m')
      (hst : m.Stationed n mac port m₁) : Added m n mac? m'

theorem neighborAdded_ends (ht : Bus.Tells refused) (n : Neighbor) (mac? : Option MacAddr) :
    Ends (neighborAdded n mac?) m (fun _ m' => m.Added n mac? m')
      fun _ m' => (m.Elsewhere m' ∧ m'.switch.ports = m.switch.ports) ∧
        m'.switch.stations.slots = m.switch.stations.slots ∧ ∃ port mac, mac? = some mac ∧
        m.ports.get? n.ifindex = some port ∧
        (refused m'.switch.bus ∨ ¬ m.switch.board.Has port ∨ m.switch.stations.Crowded mac 0) := by
  unfold neighborAdded
  refine Ends.bind (Operation.ends_get ?_)
  cases hport : m.ports.get? n.ifindex with
  | none => exact Operation.ends_pure (.ignored (.inr hport))
  | some port =>
  cases mac? with
  | none => exact Operation.ends_pure (.ignored (.inl rfl))
  | some mac =>
  dsimp -zeta only
  refine Ends.bind ((addStation_ends ht m ⟨mac, 0, port, true⟩).mono ?_ ?_)
  · rintro _ m₀ ⟨⟨h0, hports⟩, hroom, slot, hnew, hslots⟩
    obtain ⟨sw, hboard, hrouting, rfl⟩ : ∃ sw, sw.board = m.switch.board ∧
        sw.routing = m.switch.routing ∧ m₀ = { m with switch := sw } :=
      ⟨m₀.switch, congrArg (·.switch.board) h0, congrArg (·.switch.routing) h0, by
        rw [h0]⟩
    refine Ends.bind (Operation.ends_modify (Ends.bind (Operation.ends_get ?_)))
    extract_lets waiting rest
    have hrest (r : PUnit) (m₁ : Follower δ)
        (h1 : Elsewhere { m with neighbors := m.neighbors.insert n mac } m₁)
        (hst : m.Stationed n mac port m₁) :
        Ends (rest r) m₁ (fun _ m' => m.Added n (some mac) m')
          fun _ m' => (m.Elsewhere m' ∧ m'.switch.ports = m.switch.ports) ∧
            m'.switch.stations.slots = m.switch.stations.slots ∧ ∃ port' mac', some mac = some mac' ∧
            some port = some port' ∧ (refused m'.switch.bus ∨ ¬ m.switch.board.Has port' ∨
              m.switch.stations.Crowded mac' 0) := by
      unfold rest
      dsimp only
      cases hid : m.interfaces.get? port with
      | none => exact Operation.ends_pure (.noted rfl hport hroom hid h1 hst)
      | some id =>
          obtain ⟨m₂, h2⟩ := tryTo_answers (installHost n ⟨port, id⟩ mac) m₁
          obtain ⟨m₃, h3⟩ := forAll_tryTo_answers
            (fun subnet => install subnet ⟨n.ip, n.ifindex⟩ ⟨port, id⟩ mac) waiting m₂
          have hs : settle n ⟨port, id⟩ mac waiting m₁ = .ok () m₃ := by
            rw [settle, Operation.bind_ok h2, h3]
          refine Operation.ends_ok (t := m₃) (a := EventOutcome.applied) ?_
            (.settled rfl hport hroom hid h1 hs hst)
          dsimp only
          rw [Operation.bind_ok h2]
          exact Operation.bind_ok h3
    have hsw : { sw with board := m.switch.board, routing := m.switch.routing } = sw := by
      rw [← hboard, ← hrouting]
    have helse : Elsewhere { m with neighbors := m.neighbors.insert n mac }
        { m with neighbors := m.neighbors.insert n mac, switch := sw } := by
      rw [Elsewhere, hsw]
    cases hold : (m.neighbors.get? n).filter fun old => old != mac with
    | none =>
        refine hrest () _ helse ⟨hports, slot, hnew, hslots.trans ?_⟩
        rw [restationed, hold]
    | some old =>
        dsimp only
        by_cases hmac : hasMac { m with neighbors := m.neighbors.insert n mac } old = true
        · -- Another neighbour still has the old address, and its station stays.
          rw [if_neg (by simpa [hasMac] using hmac)]
          refine hrest () _ helse ⟨hports, slot, hnew, hslots.trans ?_⟩
          rw [restationed, hold]
          exact (if_pos hmac).symm
        · have hremoved (m₁ : Follower δ)
              (h : (Elsewhere { m with neighbors := m.neighbors.insert n mac, switch := sw } m₁ ∧
                m₁.switch.ports = sw.ports) ∧ m₁.switch.stations.slots = sw.stations.without old) :
              m.Stationed n mac port m₁ := by
            refine ⟨h.1.2.trans hports, slot, hnew, h.2.trans ?_⟩
            rw [restationed, hold]
            dsimp only
            rw [if_neg hmac]
            exact Stations.without_congr hslots old
          rw [if_pos (by simpa [hasMac] using hmac)]
          exact Ends.bind (tryTo_ends ((removeStation_ends _ _).mono
            (fun _ _ h => hrest () _ (helse.trans h.1.1) (hremoved _ h))
            fun _ _ he => hrest () _ (helse.trans he.2.1.1) (hremoved _ he.2)))
  · rintro e m' ⟨helse, hwhy, hslots⟩
    refine ⟨helse, hslots, port, mac, rfl, rfl, ?_⟩
    rcases hwhy with hr | htag | hp | hc
    · exact .inl hr
    · have hzero : VlanTag.IsTag 0 := by decide
      exact absurd hzero htag
    · exact .inr (.inl hp)
    · exact .inr (.inr hc)

/-- What becomes of a neighbour that goes. -/
inductive Gone (refused : δ → Prop) (m : Follower δ) (n : Neighbor) : Follower δ → Prop where
  /-- Its interface names no port any more; it is forgotten and nothing else. -/
  | unnamed (h : m.ports.get? n.ifindex = none) :
      Gone refused m n { m with neighbors := m.neighbors.erase n }
  /-- The host route of its address, if there is one, leads to another interface. -/
  | elsewhere {m' : Follower δ} (hport : m.ports.get? n.ifindex ≠ none) (hvia : m.hostVia n = false)
      (h : Elsewhere { m with neighbors := m.neighbors.erase n } m') : Gone refused m n m'
  | unhosted {m₁ m' : Follower δ} (hport : m.ports.get? n.ifindex ≠ none)
      (hvia : m.hostVia n = true)
      (h : Rerouted refused
        { m with neighbors := m.neighbors.erase n, hosts := m.hosts.erase n.ip }
        ((m.view.setRoute (.host n.ip) none).drop? (m.record (.neighbor n.ip))) m₁)
      (he : m₁.Elsewhere m') : Gone refused m n m'

omit [Bus δ] in
theorem hostVia_iff {n : Neighbor} :
    m.hostVia n = true ↔ ∃ h, m.hosts.get? n.ip = some h ∧ h.ifindex = n.ifindex := by
  unfold hostVia
  cases m.hosts.get? n.ip <;> simp

omit [Bus δ] in
/-- A neighbour that goes is forgotten, and of the routes only its host route may go. -/
theorem Gone.rest {n : Neighbor} (h : m.Gone refused n m') :
    Still { m with neighbors := m.neighbors.erase n } m' ∧ m'.pending = m.pending ∧
      m'.installed = m.installed := by
  cases h with
  | unnamed => exact ⟨.refl _, rfl, rfl⟩
  | elsewhere hport hvia he => exact ⟨he.still, he.pending, he.installed⟩
  | @unhosted m₁ _ hport hvia h he =>
      have hstill : Still { m with neighbors := m.neighbors.erase n } m₁ :=
        ⟨h.ports, h.interfaces, h.neighbors⟩
      exact ⟨hstill.trans he.still, he.pending.trans h.pending, he.installed.trans h.installed⟩

omit [Bus δ] in
/-- The host route that goes is the one that leads to the neighbour's interface. -/
theorem Gone.hosts_get? {n : Neighbor} (h : m.Gone refused n m') (ip : Ipv4) :
    m'.hosts.get? ip =
      if n.ip = ip ∧ m.ports.get? n.ifindex ≠ none ∧ m.hostVia n = true then none
      else m.hosts.get? ip := by
  cases h with
  | unnamed hport => simp [hport]
  | elsewhere hport hvia he =>
      rw [he.hosts]
      simp [hvia]
  | unhosted hport hvia h he =>
      rw [he.hosts, h.hosts, KeyMap.get?_erase]
      simp only [hport, hvia, ne_eq, not_false_eq_true, and_true]

/-- The slots of stations once a neighbour at a port is gone: the station of the address given, or of the
address that it had, is gone, unless another neighbour has that address. -/
def destationed (m : Follower δ) (n : Neighbor) (mac? : Option MacAddr) : KeyMap Nat Station :=
  match m.ports.get? n.ifindex, mac?.or (m.neighbors.get? n) with
  | some _, some mac =>
    if hasMac { m with neighbors := m.neighbors.erase n } mac then m.switch.stations.slots
    else m.switch.stations.without mac
  | _, _ => m.switch.stations.slots

/-- `m'` has the ports and stations of `m`, but for the station of a neighbour that is gone. -/
structure Destationed (m : Follower δ) (n : Neighbor) (mac? : Option MacAddr) (m' : Follower δ) :
    Prop where
  ports : m'.switch.ports = m.switch.ports
  slots : m'.switch.stations.slots = m.destationed n mac?

/-- It never fails: what is to be removed may be missing, and nothing else goes wrong. -/
theorem neighborRemoved_ends (ht : Bus.Tells refused) (h : m.Owned) (n : Neighbor)
    (mac? : Option MacAddr) :
    Ends (neighborRemoved n mac?) m
      (fun _ m' => m.Gone refused n m' ∧ m.Destationed n mac? m') fun _ _ => False := by
  unfold neighborRemoved
  refine Ends.bind (Operation.ends_get (Ends.bind (Operation.ends_set ?_)))
  cases hport : m.ports.get? n.ifindex with
  | none => exact Operation.ends_pure ⟨.unnamed hport, rfl, by rw [destationed, hport]⟩
  | some port =>
      have hsome : m.ports.get? n.ifindex ≠ none := by simp [hport]
      rw [if_neg (by simp)]
      extract_lets rest
      have hrest (withdrawn : Bool) (m₁ : Follower δ)
          (hgone : ∀ m', m₁.Elsewhere m' → m.Gone refused n m')
          (hneighbors : m₁.neighbors = m.neighbors.erase n)
          (hports : m₁.switch.ports = m.switch.ports)
          (hslots : m₁.switch.stations.slots = m.switch.stations.slots) :
          Ends (rest withdrawn) m₁
            (fun _ m' => m.Gone refused n m' ∧ m.Destationed n mac? m') fun _ _ => False := by
        unfold rest
        cases hmac : mac?.or (m.neighbors.get? n) with
        | none =>
            refine Operation.ends_pure ⟨hgone _ (.refl m₁), hports, ?_⟩
            rw [hslots, destationed, hport, hmac]
        | some mac =>
            have hhas : m₁.hasMac mac = hasMac { m with neighbors := m.neighbors.erase n } mac := by
              rw [hasMac, hasMac, hneighbors]
            refine Ends.bind (Operation.ends_get ?_)
            rw [hhas]
            split
            · rename_i hother
              refine Operation.ends_pure ⟨hgone _ (.refl m₁), hports, ?_⟩
              rw [hslots, destationed, hport, hmac]
              exact (if_pos hother).symm
            · rename_i hother
              have hremoved (m' : Follower δ)
                  (he : (m₁.Elsewhere m' ∧ m'.switch.ports = m₁.switch.ports) ∧
                    m'.switch.stations.slots = m₁.switch.stations.without mac) :
                  m.Gone refused n m' ∧ m.Destationed n mac? m' := by
                refine ⟨hgone _ he.1.1, he.1.2.trans hports, ?_⟩
                rw [he.2, Stations.without_congr hslots, destationed, hport, hmac]
                exact (if_neg hother).symm
              exact Ends.bind (ifThere_ends ((removeStation_ends m₁ mac).mono
                (fun _ m' he => Operation.ends_pure (hremoved m' he))
                fun _ m' he => ⟨he.1, Operation.ends_pure (hremoved m' he.2)⟩))
      by_cases hvia : m.hostVia n = true
      · rw [if_pos hvia]
        obtain ⟨host, hhost, -⟩ := hostVia_iff.mp hvia
        have howned : ({ m with neighbors := m.neighbors.erase n } : Follower δ).Owned :=
          ⟨h.plain, h.owns⟩
        refine Ends.bind ((withdrawHost_ends ht howned n.ip).mono ?_ fun _ _ he => he.elim)
        rintro there m₁ (⟨-, hnone, -⟩ | ⟨-, -, hr⟩)
        · rw [show m.hosts.get? n.ip = none from hnone] at hhost
          cases hhost
        · have hswitch := congrArg (·.switch) hr.rest
          exact hrest _ _ (fun _ he => .unhosted hsome hvia hr he) hr.neighbors
            (congrArg (·.ports) hswitch) (congrArg (·.stations.slots) hswitch)
      · rw [if_neg hvia]
        exact Ends.bind (Operation.ends_pure (hrest _ _ (fun _ he =>
          .elsewhere hsome ((Bool.not_eq_true _).mp hvia) he) rfl rfl rfl))

end ControlPlane.Follower
