import ControlPlane.Proofs.Kernel.Picture
import ControlPlane.Proofs.Kernel.Stations
import ControlPlane.Proofs.Panel.Enables

/-! # Events that come twice

An event that comes again meets the state that it has left.  What each kind of event leaves is enough for
it to do nothing the second time: `Linked` says it of links, `Arrived` and `Departed` of neighbours; of
addresses and routes the effects that are known say it.

There is one exception.  The word that the route of a single address is gone removes whatever route the
address has, and when that was the kernel's it brings back the neighbour's host route.  The same word again
removes that one, and does not bring it back.  `Revives m event` says when an event does so, and
`redelivery_harmless_iff` that every other event can come twice. -/

namespace ControlPlane

open Operation (Ends)

namespace Follower

variable {δ : Type} {refused : δ → Prop} {m m' m'' : Follower δ}

theorem named?_congr (h : m'.switch.board = m.switch.board) (name : String) :
    m'.named? name = m.named? name := by
  rw [named?, named?, h]

/-- What a link event leaves: the index names the port that the name stands for, if it stands for one,
and that port is watched and enabled as told. -/
structure Linked (m : Follower δ) (i : IfIndex) (name : String) (up : Bool) : Prop where
  ports : m.ports.get? i = m.named? name
  watched : ∀ port, m.named? name = some port → m.switch.ports.watched.get? port = some ()
  enabled : ∀ port, m.named? name = some port →
    (m.switch.ports.enabling port up).enables.read = m.switch.ports.enables.read

section link

variable [Bus δ] {i : IfIndex} {name : String} {up : Bool}

theorem setPortEnabled_ends (ht : Bus.Tells refused) (m : Follower δ) {port : PortId}
    (hp : m.switch.board.Has port) (up : Bool) :
    Ends (onSwitch (Switch.setPortEnabled port up)) m
      (fun _ m' => m' = { m with switch := { m.switch with
        ports := m.switch.ports.enabling port up, bus := m'.switch.bus } })
      fun _ m' => refused m'.switch.bus := by
  refine Ends.focus ?_
  change Ends (Switch.onPorts (Ports.setEnabled m.switch.board port up)) m.switch _ _
  refine Ends.focus ((Ports.setEnabled_ends ht hp up m.switch.ports m.switch.bus).mono ?_
    fun _ _ hr => hr)
  rintro _ ⟨ports, bus⟩ rfl
  rfl

theorem setLink_ends (ht : Bus.Tells refused) (m : Follower δ) {port : PortId}
    (hp : m.switch.board.Has port) (up : Bool) :
    Ends (setLink port up) m
      (fun _ m' => m' = { m with switch := { m.switch with
        ports := (m.switch.ports.watch port true).enabling port up, bus := m'.switch.bus } })
      fun _ m' => refused m'.switch.bus := by
  refine Ends.bind (Operation.ends_modify (Ends.bind ?_))
  refine (setPortEnabled_ends ht { m with switch := m.switch.watchPort port true } hp up).mono ?_
    fun _ _ hr => hr
  exact fun _ _ hm' => Operation.ends_pure hm'

theorem link_linked (ht : Bus.Tells refused) :
    Ends (link i name up) m (fun _ m' => m'.Linked i name up) fun _ m' => refused m'.switch.bus := by
  have hrenamed := m.renamed_relinked i name
  have hports : (m.relinked i name).ports.get? i = m.named? name :=
    (hrenamed.ports i).trans (if_pos rfl)
  have hboard : (m.relinked i name).switch.board = m.switch.board :=
    congrArg (·.switch.board) hrenamed.rest
  have heq := m.link_eq i name up
  cases hnamed : m.named? name with
  | none =>
      rw [hnamed] at heq hports
      have hname := (named?_congr hboard name).trans hnamed
      exact Operation.ends_ok heq ⟨hports.trans hname.symm, by simp [hname], by simp [hname]⟩
  | some port =>
      rw [hnamed] at heq hports
      have hport : (m.relinked i name).switch.board.Has port := by
        rw [hboard]
        exact has_of_named? hnamed
      refine Ends.of_eq ((setLink_ends ht _ hport up).mono ?_ fun _ _ hr => hr) heq
      intro _ m' hm'
      have hname : m'.named? name = some port := by
        rw [hm']
        exact (named?_congr hboard name).trans hnamed
      refine ⟨?_, ?_, ?_⟩
      · rw [hname, hm']
        exact hports
      · intro port' hport'
        rw [hname] at hport'
        cases hport'
        rw [hm']
        exact KeyMap.get?_insert_self _ port ()
      · intro port' hport'
        rw [hname] at hport'
        cases hport'
        rw [hm']
        exact Ports.enabling_enabling _ port up

omit [Bus δ] in
/-- An index that names what the name stands for is left to do so. -/
theorem Linked.relinked_eq (h : m.Linked i name up) :
    m.relinked i name = m.naming i (m.named? name) ∧
      (m.naming i (m.named? name)).ports.get? = m.ports.get? := by
  have hports := h.ports
  cases hnamed : m.named? name with
  | none =>
      rw [hnamed] at hports
      refine ⟨?_, KeyMap.get?_erase_eq_self hports⟩
      rw [relinked, hports, hnamed]
  | some port =>
      rw [hnamed] at hports
      refine ⟨?_, KeyMap.get?_insert_eq_self hports⟩
      rw [relinked, hports, hnamed]
      exact if_pos rfl

theorem link_again (ht : Bus.Tells refused) (h : m.Linked i name up) :
    Ends (link i name up) m (fun _ m' => m'.picture = m.picture) fun _ m' => refused m'.switch.bus := by
  obtain ⟨hrelinked, hports⟩ := h.relinked_eq
  have heq := m.link_eq i name up
  rw [hrelinked] at heq
  cases hnamed : m.named? name with
  | none =>
      rw [hnamed] at heq hports
      exact Operation.ends_ok heq (Picture.ext hports rfl rfl rfl rfl rfl rfl rfl rfl rfl)
  | some port =>
      rw [hnamed] at heq hports
      have hwatched := KeyMap.get?_insert_eq_self (h.watched port hnamed)
      have hport : (m.naming i (some port)).switch.board.Has port := has_of_named? hnamed
      refine Ends.of_eq ((setLink_ends ht _ hport up).mono ?_ fun _ _ hr => hr) heq
      intro _ m' hm'
      rw [hm']
      exact Picture.ext hports rfl rfl rfl rfl rfl rfl rfl hwatched (h.enabled port hnamed)

end link

/-! ### Events that do nothing -/

/-- An operation does nothing to a follower, whether it answers or fails. -/
def Idle {α : Type} (op : Operation (Follower δ) α) (m : Follower δ) : Prop :=
  Ends op m (fun _ m' => m' = m) fun _ m' => m' = m

section idle

variable [Bus δ]

omit [Bus δ] in
theorem linkRemoved_idle {i : IfIndex} (h : m.ports.get? i = none) :
    Idle (linkRemoved i) m := by
  refine Ends.bind (Operation.ends_get ?_)
  rw [h]
  exact Operation.ends_pure rfl

theorem addressAdded_idle {i : IfIndex}
    (h : ∀ port, m.ports.get? i = some port → m.interfaces.get? port ≠ none) :
    Idle (addressAdded i) m := by
  refine Ends.bind (Operation.ends_get ?_)
  cases hport : m.ports.get? i with
  | none => exact Operation.ends_pure rfl
  | some port =>
      have hin : m.interfaces.contains port = true :=
        Option.isSome_iff_ne_none.mpr (h port hport)
      dsimp only
      rw [if_pos hin]
      exact Operation.ends_pure rfl

theorem addressRemoved_idle {i : IfIndex} (h : m.routedPort? i = none) :
    Idle (addressRemoved i) m := by
  refine Ends.bind (Operation.ends_get ?_)
  rw [h]
  exact Operation.ends_pure rfl

theorem routeAdded_idle {subnet : Subnet} {gateway : Option Ipv4} {via : Option IfIndex}
    (h : gateway = none ∨ via.bind m.routedPort? = none) :
    Idle (routeAdded subnet gateway via) m := by
  refine Ends.bind (Operation.ends_get ?_)
  cases gateway with
  | none => exact Operation.ends_pure rfl
  | some gateway =>
  cases via with
  | none => exact Operation.ends_pure rfl
  | some via =>
  dsimp only
  cases hport : m.ports.get? via with
  | none => exact Operation.ends_pure rfl
  | some port =>
  dsimp only
  cases hid : m.interfaces.get? port with
  | none => exact Operation.ends_throw rfl
  | some id => simp [routedPort?, hport, hid] at h

theorem neighborAdded_idle {n : Neighbor} {mac? : Option MacAddr}
    (h : mac? = none ∨ m.ports.get? n.ifindex = none) :
    Idle (neighborAdded n mac?) m := by
  refine Ends.bind (Operation.ends_get ?_)
  cases hport : m.ports.get? n.ifindex with
  | none => exact Operation.ends_pure rfl
  | some port =>
  cases mac? with
  | none => exact Operation.ends_pure rfl
  | some mac => simp [hport] at h

theorem handle_idle {event : Event} (h : Idle (apply event) m) : (handle event m).2 = m :=
  handle_ends (P := fun _ m' => m' = m) h

theorem idle_repeats {event : Event} (hm' : (handle event m).2 = m')
    (hm'' : (handle event m').2 = m'') (h : Idle (apply event) m) : m'' = m' := by
  rw [← hm'', ← hm', handle_idle h, handle_idle h]

end idle

/-! ### Links, addresses and routes that are announced again -/

section again

variable [Bus δ] (ht : Bus.Tells refused)

include ht

theorem link_repeats {i : IfIndex} {name : String} {up : Bool}
    (hm' : (handle (.link i name up) m).2 = m') (hm'' : (handle (.link i name up) m').2 = m'')
    (hr' : ¬ refused m'.switch.bus) (hr'' : ¬ refused m''.switch.bus) : m''.picture = m'.picture := by
  have hlinked : m'.Linked i name up := handle_reaches hm' (link_linked ht) hr'
  exact handle_reaches hm'' (link_again ht hlinked) hr''

omit ht in
theorem linkRemoved_repeats {i : IfIndex} (hm' : (handle (.linkRemoved i) m).2 = m')
    (hm'' : (handle (.linkRemoved i) m').2 = m'') : m'' = m' := by
  have hrenamed : m.Renamed i none m' := handle_reaches hm' (linkRemoved_ends i) id
  have hports : m'.ports.get? i = none := (hrenamed.ports i).trans (if_pos rfl)
  rw [← hm'']
  exact handle_idle (linkRemoved_idle hports)

/-- A port that has an address keeps its interface. -/
theorem addressAdded_repeats {i : IfIndex} (hs : m.Sound)
    (hm' : (handle (.address i .added) m).2 = m') (hm'' : (handle (.address i .added) m').2 = m'')
    (hr' : ¬ refused m'.switch.bus) (hroom : ¬ m'.view.InterfacesFull) : m'' = m' := by
  have hends : Ends (addressAdded i) m (fun _ m' => m.Addressed refused i m')
      fun _ m' => refused m'.switch.bus ∨ m'.view.InterfacesFull := by
    refine (addressAdded_ends ht hs.toOwned i).mono (fun _ _ ha => ha) ?_
    rintro _ m' ⟨hr, hwhy⟩
    rwa [hr.view_eq]
  have haddressed : m.Addressed refused i m' :=
    handle_reaches hm' hends (not_or.mpr ⟨hr', hroom⟩)
  rw [← hm'']
  refine handle_idle (addressAdded_idle fun port hport => ?_)
  cases haddressed with
  | ignored h => exact h port hport
  | @made port' id face m₁ _ hport' hnone hid hr hlodge =>
      obtain ⟨hsupplied, -⟩ := lodged_ends ht hs hport' hr hlodge
      rw [hsupplied.still.ports, hr.ports, hport'] at hport
      cases hport
      rw [hsupplied.still.interfaces, hr.interfaces, KeyMap.get?_insert_self]
      exact Option.some_ne_none id

theorem addressRemoved_repeats {i : IfIndex} (hs : m.Sound)
    (hm' : (handle (.address i .removed) m).2 = m')
    (hm'' : (handle (.address i .removed) m').2 = m'') : m'' = m' := by
  have hends : Ends (addressRemoved i) m (fun _ m' => m.Unaddressed refused i m') fun _ _ => False := by
    refine (addressRemoved_ends (.address i .removed) ht hs.toOwned i).mono (fun _ _ hu => hu.2) ?_
    rintro _ _ ⟨-, rp, hrp, hnone⟩
    exact (hs.ready hrp).has_interface hnone
  have hunaddressed : m.Unaddressed refused i m' := handle_reaches hm' hends id
  rw [← hm'']
  refine handle_idle (addressRemoved_idle ?_)
  cases hunaddressed with
  | ignored h => exact h
  | @cleared port id m₁ _ hrp hc hr =>
      have hport : m'.ports.get? i = some port := by
        rw [hr.ports, hc.still.ports]
        exact (routedPort?_eq_some_iff.mp hrp).1
      rw [routedPort?, hport, hr.interfaces]
      simp

theorem routeAdded_repeats {subnet : Subnet} {gateway : Option Ipv4} {via : Option IfIndex}
    (hs : m.Sound) (hm' : (handle (.route subnet .added gateway via) m).2 = m')
    (hm'' : (handle (.route subnet .added gateway via) m').2 = m'')
    (hroom' : ¬ m'.Exhausted refused) (hroom'' : ¬ m''.Exhausted refused) :
    m''.picture = m'.picture := by
  by_cases hnone : gateway = none ∨ via.bind m.routedPort? = none
  · exact congrArg picture (idle_repeats hm' hm'' (routeAdded_idle hnone))
  · obtain ⟨hgateway, hvia⟩ := not_or.mp hnone
    obtain ⟨gateway, rfl⟩ := Option.ne_none_iff_exists'.mp hgateway
    obtain ⟨rp, hrp⟩ := Option.ne_none_iff_exists'.mp hvia
    obtain ⟨via, rfl, hrp⟩ := Option.bind_eq_some_iff.mp hrp
    obtain ⟨hbeside, hpicture⟩ :=
      handle_reaches hm' (routeAdded_picture ht hs ⟨gateway, via⟩ hrp subnet) hroom'
    have hs' : m'.Sound := hm' ▸ handle_sound hs _
    have hrp' : m'.routedPort? via = some rp := (hbeside.routedPort?_eq via).trans hrp
    obtain ⟨-, hpicture'⟩ :=
      handle_reaches hm'' (routeAdded_picture ht hs' ⟨gateway, via⟩ hrp' subnet) hroom''
    rw [hpicture', hpicture, Picture.announce_announce]

end again

/-! ### Routes that are removed again -/

/-- The word that the route of a single address is gone revives the host route of the address: there is
something to remove, and the host route of the neighbour with the address is wanted then.  The books have
none, or one that leads elsewhere. -/
def Revives (m : Follower δ) : Event → Prop
  | .route subnet .removed _ _ =>
      subnet.len = 32 ∧
        (m.view.route? subnet.canon ≠ none ∨ m.installed.get? subnet ≠ none) ∧
        ∃ n mac rp, m.resolved? subnet.addr = some (n, mac, rp) ∧
          ∀ h, m.hosts.get? subnet.addr = some h → ¬ (h.ifindex = n.ifindex ∧ h.mac = mac)
  | _ => False

section removed

variable {subnet : Subnet} {gateway : Option Ipv4} {via : Option IfIndex}

/-- A removed route leaves its address without one, unless a host route is revived; and that is not
revived a second time, as the books have it then. -/
theorem Removed.unrouted_or_revived (h : m.Removed refused subnet m') (hs : m.Sound)
    (hroom : ¬ m'.Exhausted refused) :
    m'.view.route? subnet.canon = none ∧ ¬ m.Revives (.route subnet .removed gateway via) ∨
      m'.view.route? subnet.canon ≠ none ∧ m.Revives (.route subnet .removed gateway via) ∧
        ¬ m'.Revives (.route subnet .removed gateway via) := by
  cases h with
  | nothing hv hi h =>
      refine .inl ⟨by rw [h.view_eq, hv], ?_⟩
      rintro ⟨-, hfound, -⟩
      exact hfound.elim (absurd hv) (absurd hi)
  | @route m₁ _ hfound h hrest =>
      have hnone : m₁.view.route? subnet.canon = none := by
        rw [h.view_eq]
        simp
      by_cases hlen : subnet.len = 32
      · rw [if_pos hlen] at hrest
        have hsubnet := subnet.eq_host_of_len hlen
        have hstill : m.Still m₁ := ⟨h.ports, h.interfaces, h.neighbors⟩
        have hstill' : m.Still m' := hstill.trans hrest.still
        have hwants {n : Neighbor} {mac : MacAddr} (hip : n.ip = subnet.addr) :
            m₁.wantsHost n mac = true ↔
              ∀ h, m.hosts.get? subnet.addr = some h → ¬ (h.ifindex = n.ifindex ∧ h.mac = mac) := by
          rw [wantsHost_iff, h.installed, h.pending, h.hosts, hip, ← hsubnet]
          simp
        cases hrest with
        | unresolved hr =>
            rw [hstill.resolved?_eq] at hr
            refine .inl ⟨hnone, ?_⟩
            rintro ⟨-, -, n, mac, rp, hr', -⟩
            rw [hr] at hr'
            cases hr'
        | unwanted hr hw =>
            have hip := (resolved?_some hr).1
            rw [hstill.resolved?_eq] at hr
            refine .inl ⟨hnone, ?_⟩
            rintro ⟨-, -, n, mac, rp, hr', hleads⟩
            rw [hr] at hr'
            cases hr'
            exact Bool.eq_false_iff.mp hw ((hwants hip).mpr hleads)
        | @hosted n mac rp id slot _ hr hw hf hr' =>
            have hip := (resolved?_some hr).1
            rw [hstill.resolved?_eq] at hr
            refine .inr ⟨?_, ⟨hlen, hfound, n, mac, rp, hr, (hwants hip).mp hw⟩, ?_⟩
            · have hkey : subnet.canon = .host n.ip := by
                rw [hip]
                exact (subnet.canon_eq_host_iff subnet.addr).mpr hsubnet
              rw [hr'.view_eq, viewHosting, Routing.View.drop?_route?, Routing.View.provide_route?,
                if_pos hkey]
              exact Option.some_ne_none _
            · rintro ⟨-, -, n', mac', rp', hr'', hleads⟩
              -- the same neighbour is found again, and now the books have a host route that leads to it
              rw [hstill'.resolved?_eq, hr] at hr''
              cases hr''
              refine hleads ⟨n.ifindex, mac, id⟩ ?_ ⟨rfl, rfl⟩
              rw [hr'.hosts, ← hip]
              exact KeyMap.get?_insert_self _ n.ip _
        | failed hr hw hr' ho =>
            obtain ⟨-, -, hrp⟩ := resolved?_some hr
            rw [hstill.routedPort?_eq] at hrp
            have hready := (hs.ready hrp).congr h.board (by rw [h.view_eq]; simp)
            exact absurd (hready.exhausted hr'.view_eq ho) hroom
      · rw [if_neg hlen] at hrest
        subst hrest
        exact .inl ⟨hnone, fun hrevives => hlen hrevives.1⟩

theorem Removed.picture_eq (h : m.Removed refused subnet m')
    (hv : m.view.route? subnet.canon = none) (hi : m.installed.get? subnet = none)
    (hp : m.pending.get? subnet = none) : m'.picture = m.picture := by
  cases h with
  | nothing hv hi h =>
      rw [h.picture_eq]
      exact Picture.ext rfl rfl rfl (KeyMap.get?_erase_eq_self hp) rfl rfl rfl rfl rfl rfl
  | route hfound => exact absurd hfound (not_or.mpr ⟨not_not_intro hv, not_not_intro hi⟩)

theorem routeRemoved_repeats_iff [Bus δ] (ht : Bus.Tells refused) (hs : m.Sound)
    (hm' : (handle (.route subnet .removed gateway via) m).2 = m')
    (hm'' : (handle (.route subnet .removed gateway via) m').2 = m'')
    (hroom' : ¬ m'.Exhausted refused) (hroom'' : ¬ m''.Exhausted refused) :
    m''.picture = m'.picture ↔ ¬ m.Revives (.route subnet .removed gateway via) := by
  have hs' : m'.Sound := hm' ▸ handle_sound hs _
  have hremoved : m.Removed refused subnet m' :=
    handle_reaches hm' (routeRemoved_ends ht hs.toOwned subnet) id
  have hremoved' : m'.Removed refused subnet m'' :=
    handle_reaches hm'' (routeRemoved_ends ht hs'.toOwned subnet) id
  rcases hremoved.unrouted_or_revived hs hroom' with ⟨hnone, hnot⟩ | ⟨hrouted, hrevives, hnot'⟩
  · refine iff_of_true (hremoved'.picture_eq hnone ?_ ?_) hnot
    · rw [hremoved.rest.2.2, KeyMap.get?_erase_self]
    · rw [hremoved.rest.2.1, KeyMap.get?_erase_self]
  · -- the host route that the first removal has brought back is gone after the second
    refine iff_of_false (fun hsame => hrouted ?_) (not_not_intro hrevives)
    have hnone : m''.view.route? subnet.canon = none :=
      (hremoved'.unrouted_or_revived hs' hroom'').elim And.left fun h => absurd h.2.1 hnot'
    have hroutes : m'.picture.routes subnet.canon = none := by
      rw [← hsame]
      simp [picture, shown, hnone]
    exact Option.map_eq_none_iff.mp hroutes

end removed

/-! ### Neighbours that are announced again -/

/-- What the news of a neighbour at a port leaves: its station is there, its address is learnt, and behind
an interface its host route is not wanted any more and no route waits for it. -/
structure Arrived (m : Follower δ) (n : Neighbor) (mac : MacAddr) (port : PortId) : Prop where
  at_port : m.ports.get? n.ifindex = some port
  learnt : m.neighbors.get? n = some mac
  station : ∃ slot, m.switch.stations.slots.get? slot = some ⟨mac, 0, port, true⟩
  settled : ∀ id, m.interfaces.get? port = some id →
    ¬ m.picture.Wants n mac ∧ ∀ s, m.picture.pending s ≠ some ⟨n.ip, n.ifindex⟩

section news

variable [Bus δ] {n : Neighbor} {mac : MacAddr} {port : PortId}

theorem Added.arrived (h : m.Added n (some mac) m') (ht : Bus.Tells refused) (hs : m.Sound)
    (hd : m.switch.stations.Distinct) (hport : m.ports.get? n.ifindex = some port)
    (hroom : ¬ m'.Exhausted refused) : m'.Arrived n mac port := by
  obtain ⟨slot, hnew, hpicture⟩ := h.picture ht hs hport
  have hself := restationed_get?_self (n := n) hd hnew
  cases hid : m.interfaces.get? port with
  | none =>
      rw [hid] at hpicture
      refine ⟨?_, ?_, ⟨slot, ?_⟩, ?_⟩
      · exact (congrFun (congrArg (·.ports) hpicture) n.ifindex).trans hport
      · exact (congrFun (congrArg (·.neighbors) hpicture) n).trans (Function.update_self ..)
      · exact (congrFun (congrArg (·.stations) hpicture) slot).trans hself
      · intro id hid'
        have hnone := (congrFun (congrArg (·.interfaces) hpicture) port).trans hid
        exact absurd (hnone.symm.trans hid') nofun
  | some id =>
      rw [hid] at hpicture
      have hsettled := hpicture.resolve_left hroom
      have hrest := hsettled
      rw [Picture.house_eq] at hrest
      refine ⟨?_, ?_, ⟨slot, ?_⟩, fun _ _ => ⟨?_, fun s => ?_⟩⟩
      · exact (congrFun (congrArg (·.ports) hrest) n.ifindex).trans hport
      · exact (congrFun (congrArg (·.neighbors) hrest) n).trans (Function.update_self ..)
      · exact (congrFun (congrArg (·.stations) hrest) slot).trans hself
      · rw [hsettled]
        exact Picture.not_wants_lead_house _ n ⟨mac, port, id⟩ _ _
      · rw [hrest]
        dsimp only [Picture.lead, Picture.learn]
        split
        · exact nofun
        · rename_i hnot
          exact fun hs => hnot (mem_waitingFor_iff.mpr (.inl hs))

/-- A neighbour that has arrived changes nothing when it comes again. -/
theorem Arrived.again (h : m.Arrived n mac port) (ht : Bus.Tells refused) (hs : m.Sound)
    (hd : m.switch.stations.Distinct) (ha : m.Added n (some mac) m')
    (hroom : ¬ m'.Exhausted refused) : m'.picture = m.picture := by
  obtain ⟨slot, hnew, hpicture⟩ := ha.picture ht hs h.at_port
  obtain ⟨k, hk⟩ := h.station
  -- its station goes where it is already
  cases Stations.slot_of_newSlot? hd hnew hk rfl rfl
  have hsame : (m.neighbors.get? n).filter (fun old => old != mac) = none := by
    simp [h.learnt, Option.filter_some]
  have hlearn : m.picture.learn n mac (m.restationed n mac port slot) = m.picture := by
    refine Picture.ext rfl rfl ?_ rfl rfl rfl rfl ?_ rfl rfl
    · exact Function.update_eq_self_iff.mpr h.learnt.symm
    · dsimp only [Picture.learn]
      rw [restationed, hsame]
      exact KeyMap.get?_insert_eq_self hk
  rw [hlearn] at hpicture
  cases hid : m.interfaces.get? port with
  | none =>
      rw [hid] at hpicture
      exact hpicture
  | some id =>
      rw [hid] at hpicture
      obtain ⟨hwants, hpending⟩ := h.settled id hid
      have hmoved : m.hasMoved n mac = false := by rw [hasMoved, hsame, Option.isSome_none]
      have hwaiting : m.waitingFor n (m.hasMoved n mac) = [] := by
        refine List.eq_nil_iff_forall_not_mem.mpr fun s hmem => ?_
        rw [hmoved, mem_waitingFor_picture_iff] at hmem
        exact hmem.elim (hpending s) fun hstale => Bool.false_ne_true hstale.1
      refine (hpicture.resolve_left hroom).trans ?_
      rw [hwaiting, Picture.lead_nil, Picture.house_of_not_wants _ hwants]

theorem neighborAdded_repeats {mac? : Option MacAddr} (ht : Bus.Tells refused) (hs : m.Sound)
    (hd : m.switch.stations.Distinct)
    (hm' : (handle (.neighbor n.ip n.ifindex mac? .added) m).2 = m')
    (hm'' : (handle (.neighbor n.ip n.ifindex mac? .added) m').2 = m'')
    (hroom' : ¬ m'.Exhausted refused) (hroom'' : ¬ m''.Exhausted refused) :
    m''.picture = m'.picture := by
  by_cases hnone : mac? = none ∨ m.ports.get? n.ifindex = none
  · exact congrArg picture (idle_repeats hm' hm'' (neighborAdded_idle hnone))
  obtain ⟨hmac, hport⟩ := not_or.mp hnone
  obtain ⟨mac, rfl⟩ := Option.ne_none_iff_exists'.mp hmac
  obtain ⟨port, hport⟩ := Option.ne_none_iff_exists'.mp hport
  have hs' : m'.Sound := hm' ▸ handle_sound hs _
  have hd' : m'.switch.stations.Distinct := hm' ▸ handle_distinct hd _
  -- a station that has no place the first time has none the second time
  rcases handle_news ht hs hport hm' (mt Or.inl hroom') with hadded | ⟨hsame, -, hcrowded⟩
  · have harrived := hadded.arrived ht hs hd hport hroom'
    rcases handle_news ht hs' harrived.at_port hm'' (mt Or.inl hroom'') with hadded' | ⟨hsame', -⟩
    · exact harrived.again ht hs' hd' hadded' hroom''
    · exact hsame'
  · have hport' : m'.ports.get? n.ifindex = some port :=
      (congrFun (congrArg (·.ports) hsame) n.ifindex).trans hport
    rcases handle_news ht hs' hport' hm'' (mt Or.inl hroom'') with hadded' | ⟨hsame', -⟩
    · obtain ⟨slot, hnew, -⟩ := hadded'.picture ht hs' hport'
      rw [Stations.newSlot?_of_crowded _ ⟨mac, 0, port, true⟩ hcrowded] at hnew
      cases hnew
    · exact hsame'

end news

/-! ### Neighbours that go again -/

/-- The address given with the news that a neighbour is gone, if one is, has no station, unless a neighbour
still has it. -/
def Unstationed (m : Follower δ) (mac? : Option MacAddr) : Prop :=
  ∀ mac, mac? = some mac → m.hasMac mac = true ∨ m.switch.stations.find? mac 0 = none

/-- What a neighbour that goes leaves: it is forgotten, and at a port no host route leads to it and the
address that was given has no station. -/
structure Departed (m : Follower δ) (n : Neighbor) (mac? : Option MacAddr) : Prop where
  forgotten : m.neighbors.get? n = none
  unhosted : m.ports.get? n.ifindex ≠ none → m.hostVia n = false
  unstationed : m.ports.get? n.ifindex ≠ none → m.Unstationed mac?

theorem hasMac_congr (h : m'.neighbors.get? = m.neighbors.get?) (mac : MacAddr) :
    m'.hasMac mac = m.hasMac mac := by
  rw [Bool.eq_iff_iff, hasMac_iff, hasMac_iff, h]

section gone

variable {n : Neighbor} {mac? : Option MacAddr}

theorem Destationed.unstationed (h : m.Destationed n mac? m') (hd : m.switch.stations.Distinct)
    (hport : m.ports.get? n.ifindex ≠ none) (hneighbors : m'.neighbors = m.neighbors.erase n) :
    m'.Unstationed mac? := by
  rintro mac rfl
  obtain ⟨port, hport⟩ := Option.ne_none_iff_exists'.mp hport
  have hslots := h.slots
  rw [destationed, hport, Option.some_or] at hslots
  dsimp only at hslots
  split at hslots
  · rename_i hother
    exact .inl (by rwa [hasMac, hneighbors])
  · exact .inr (hd.find?_of_without hslots)

theorem Gone.departed (h : m.Gone refused n m') (hst : m.Destationed n mac? m')
    (hd : m.switch.stations.Distinct) : m'.Departed n mac? := by
  have hports : m'.ports = m.ports := h.rest.1.ports
  have hneighbors : m'.neighbors = m.neighbors.erase n := h.rest.1.neighbors
  refine ⟨?_, fun hport => ?_, fun hport => ?_⟩
  · rw [hneighbors, KeyMap.get?_erase_self]
  · rw [hports] at hport
    refine Bool.eq_false_iff.mpr fun hvia => ?_
    obtain ⟨host, hhost, hifindex⟩ := hostVia_iff.mp hvia
    rw [h.hosts_get?] at hhost
    split at hhost
    · cases hhost
    · rename_i hkept
      exact hkept ⟨rfl, hport, hostVia_iff.mpr ⟨host, hhost, hifindex⟩⟩
  · rw [hports] at hport
    exact hst.unstationed hd hport hneighbors

theorem Departed.destationed_eq (h : m.Departed n mac?) :
    m.destationed n mac? = m.switch.stations.slots := by
  unfold destationed
  rw [h.forgotten, Option.or_none]
  split
  · rename_i port mac hport
    have hmac : hasMac { m with neighbors := m.neighbors.erase n } mac = m.hasMac mac :=
      hasMac_congr (KeyMap.get?_erase_eq_self h.forgotten) mac
    rw [hmac]
    split
    · rfl
    · rename_i hnot
      have hfind := (h.unstationed (by simp [hport]) mac rfl).resolve_left hnot
      rw [Stations.without, hfind]
  · rfl

/-- A neighbour that has departed changes nothing when it goes again. -/
theorem Departed.again (h : m.Departed n mac?) (hg : m.Gone refused n m')
    (hst : m.Destationed n mac? m') : m'.picture = m.picture := by
  have hforgotten : picture { m with neighbors := m.neighbors.erase n } = m.picture :=
    Picture.ext rfl rfl (KeyMap.get?_erase_eq_self h.forgotten) rfl rfl rfl rfl rfl rfl rfl
  cases hg with
  | unnamed => exact hforgotten
  | elsewhere hport hvia he =>
      rw [he.picture_eq hst.ports, hst.slots, h.destationed_eq, hforgotten]
      rfl
  | unhosted hport hvia =>
      rw [h.unhosted hport] at hvia
      cases hvia

theorem neighborRemoved_repeats [Bus δ] (ht : Bus.Tells refused) (hs : m.Sound)
    (hd : m.switch.stations.Distinct)
    (hm' : (handle (.neighbor n.ip n.ifindex mac? .removed) m).2 = m')
    (hm'' : (handle (.neighbor n.ip n.ifindex mac? .removed) m').2 = m'') :
    m''.picture = m'.picture := by
  have hgone (m m' : Follower δ) (hs : m.Sound)
      (hm' : (handle (.neighbor n.ip n.ifindex mac? .removed) m).2 = m') :
      m.Gone refused n m' ∧ m.Destationed n mac? m' := by
    rw [← hm']
    exact handle_ends (P := fun _ m' => m.Gone refused n m' ∧ m.Destationed n mac? m')
      ((neighborRemoved_ends ht hs.toOwned n mac?).mono (fun _ _ h => h) fun _ _ he => he.elim)
  obtain ⟨hg, hst⟩ := hgone m m' hs hm'
  obtain ⟨hg', hst'⟩ := hgone m' m'' (hm' ▸ handle_sound hs _) hm''
  exact (hg.departed hst hd).again hg' hst'

end gone

/-! ### Every event -/

section events

variable [Bus δ]

/-- An event that comes twice looks as if it had come once, unless it revives a host route. -/
theorem Sound.repeats_iff (ht : Bus.Tells refused) (hs : m.Sound) (hd : m.switch.stations.Distinct)
    {event : Event} (hm' : (handle event m).2 = m') (hm'' : (handle event m').2 = m'')
    (hroom' : ¬ m'.Exhausted refused) (hroom'' : ¬ m''.Exhausted refused)
    (hfaces : ¬ m'.view.InterfacesFull) : m''.picture = m'.picture ↔ ¬ m.Revives event := by
  cases event with
  | link i name up =>
      exact iff_of_true (link_repeats ht hm' hm'' (mt Or.inl hroom') (mt Or.inl hroom'')) not_false
  | linkRemoved i =>
      exact iff_of_true (congrArg picture (linkRemoved_repeats hm' hm'')) not_false
  | address i change =>
      refine iff_of_true (congrArg picture ?_) not_false
      cases change with
      | added => exact addressAdded_repeats ht hs hm' hm'' (mt Or.inl hroom') hfaces
      | removed => exact addressRemoved_repeats ht hs hm' hm''
  | route subnet change gateway via =>
      cases change with
      | added =>
          exact iff_of_true (routeAdded_repeats ht hs hm' hm'' hroom' hroom'') not_false
      | removed => exact routeRemoved_repeats_iff ht hs hm' hm'' hroom' hroom''
  | neighbor ip i mac? change =>
      refine iff_of_true ?_ not_false
      cases change with
      | added => exact neighborAdded_repeats (n := ⟨ip, i⟩) ht hs hd hm' hm'' hroom' hroom''
      | removed => exact neighborRemoved_repeats (n := ⟨ip, i⟩) ht hs hd hm' hm''

/-- After any run on a fresh switch, an event that comes twice leaves the same picture as if it had come
once exactly if it does not revive a host route, as long as nothing is refused and there is room. -/
theorem redelivery_harmless_iff (board : Board) (bus : δ) (events : List Event) (event : Event) :
    let m := ((fresh (.fresh board bus)).run events).watched
    (m.run [event]).Roomy → ¬ (m.run [event]).view.InterfacesFull → (m.run [event, event]).Roomy →
      ((m.run [event, event]).picture = (m.run [event]).picture ↔ ¬ m.Revives event) := by
  intro m honce hfaces htwice
  have hs : m.Sound := (run_sound (sound_fresh board bus) events).watched
  have hd : m.switch.stations.Distinct := stations_distinct board bus events
  exact hs.repeats_iff Watched.tells_refused hd rfl rfl honce.not_exhausted htwice.not_exhausted hfaces

/-- A neighbour is heard of with another address, and a route through it is installed anew.  When the news
comes again there is nothing left to do. -/
theorem redelivery_harmless_moved :
    let m := watching (arrival ++ [.route remoteNet .added (some ⟨0x0a000001⟩) (some 5)])
    let event := Event.neighbor ⟨0x0a000001⟩ 5 (some ⟨0x52, 0x54, 0, 0, 0, 2⟩) .added
    (m.run [event]).Spare ∧ (m.run [event, event]).Spare ∧
      (m.run [event]).installed.get? remoteNet ≠ m.installed.get? remoteNet ∧
      (m.run [event, event]).picture = (m.run [event]).picture := by
  intro m event
  have honce : (m.run [event]).Spare := by decide +kernel
  have htwice : (m.run [event, event]).Spare := by decide +kernel
  exact ⟨honce, htwice, by decide +kernel,
    (redelivery_harmless_iff _ _ _ event honce.roomy honce.not_interfacesFull htwice.roomy).mpr
      not_false⟩

/-- The kernel has had a route of its own for the address of a neighbour. -/
def shadowed : List Event :=
  arrival ++ [.neighbor ⟨0x0a000009⟩ 5 (some ⟨0x52, 0x54, 0, 0, 0, 9⟩) .added,
    .route (.host ⟨0x0a000001⟩) .added (some ⟨0x0a000009⟩) (some 5)]

/-- The word that the route is gone brings back the neighbour's host route, and when it comes again it
takes that from the tables and leaves it in the books. -/
theorem redelivery_unroutes_host :
    let m := watching shadowed
    let event := Event.route (.host ⟨0x0a000001⟩) .removed none none
    let host : Egress := ⟨⟨0x52, 0x54, 0, 0, 0, 1⟩, ⟨12, by decide, by decide⟩, 1⟩
    (m.run [event]).Spare ∧ (m.run [event, event]).Spare ∧
      (m.run [event]).picture.routes (.host ⟨0x0a000001⟩) = some (some host) ∧
      (m.run [event, event]).picture.routes (.host ⟨0x0a000001⟩) = none ∧
      (m.run [event, event]).picture.hosts ⟨0x0a000001⟩ = some ⟨5, host.mac, some host⟩ ∧
      (m.run [event, event]).picture ≠ (m.run [event]).picture := by
  intro m event host
  have honce : (m.run [event]).picture.routes (.host ⟨0x0a000001⟩) = some (some host) := by
    decide +kernel
  have htwice : (m.run [event, event]).picture.routes (.host ⟨0x0a000001⟩) = none := by
    decide +kernel
  refine ⟨by decide +kernel, by decide +kernel, honce, htwice, by decide +kernel, fun hsame => ?_⟩
  rw [hsame, honce] at htwice
  cases htwice

end events

end Follower

end ControlPlane
