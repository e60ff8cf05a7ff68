import ControlPlane.Proofs.Kernel.Picture

/-! # A neighbour and a route in either order

A route may be announced before its gateway has an address or after it has.  If before, it waits and is
installed with the neighbour's other routes; if after, it is installed at once.  Either way the follower
looks the same, and the route leads to the neighbour (`news_commutes_with_route`).

What the word of a route changes is what the picture has of its subnet (`AgreeOff`).  That is decided
again when the neighbour settles, or else it is by then as it should be (`Led`), so it does not matter
that the word came before. -/

namespace ControlPlane.Follower

open Operation (Ends)

namespace Picture

variable {subnet : Subnet} {hop : NextHop} {n : Neighbor} {e e' : Egress} {P Q R : Picture}

/-- Two pictures agree but for what they have of a subnet: its routes, and the host route that they take
the place of. -/
structure AgreeOff (subnet : Subnet) (P Q : Picture) : Prop where
  rest : Q = { P with
    pending := Q.pending, installed := Q.installed, hosts := Q.hosts, routes := Q.routes }
  pending : ∀ s, s ≠ subnet → Q.pending s = P.pending s
  installed : ∀ s, s ≠ subnet → Q.installed s = P.installed s
  hosts : ∀ ip, .host ip ≠ subnet → Q.hosts ip = P.hosts ip
  routes : ∀ k, k ≠ subnet.canon → Q.routes k = P.routes k

namespace AgreeOff

theorem symm (h : AgreeOff subnet P Q) : AgreeOff subnet Q P where
  rest := by rw [h.rest]
  pending s hs := (h.pending s hs).symm
  installed s hs := (h.installed s hs).symm
  hosts ip hip := (h.hosts ip hip).symm
  routes k hk := (h.routes k hk).symm

theorem trans (h : AgreeOff subnet P Q) (h' : AgreeOff subnet Q R) : AgreeOff subnet P R where
  rest := h'.rest.trans (by rw [h.rest])
  pending s hs := (h'.pending s hs).trans (h.pending s hs)
  installed s hs := (h'.installed s hs).trans (h.installed s hs)
  hosts ip hip := (h'.hosts ip hip).trans (h.hosts ip hip)
  routes k hk := (h'.routes k hk).trans (h.routes k hk)

theorem of_await (P : Picture) (subnet : Subnet) (hop : NextHop) :
    AgreeOff subnet P (P.await subnet hop) where
  rest := rfl
  pending _ hs := Function.update_of_ne hs _ _
  installed _ hs := Function.update_of_ne hs _ _
  hosts _ _ := rfl
  routes k hk := by
    unfold await
    dsimp only
    split
    · rfl
    · exact Function.update_of_ne hk _ _

theorem of_lead (P : Picture) (subnet : Subnet) (hop : NextHop) (e : Egress) :
    AgreeOff subnet P (P.lead hop e [subnet]) where
  rest := rfl
  pending _ hs := if_neg (mt List.mem_singleton.mp hs)
  installed _ hs := if_neg (mt List.mem_singleton.mp hs)
  hosts _ hip := if_neg (mt List.mem_singleton.mp hip)
  routes _ hk := if_neg (mt List.mem_singleton.mp hk)

/-- The host route of a single address is what a picture has of that address. -/
theorem of_house (P : Picture) (n : Neighbor) (e : Egress) :
    AgreeOff (.host n.ip) P (P.house n e) := by
  unfold house
  split
  · refine ⟨rfl, fun _ _ => rfl, fun _ _ => rfl, fun ip hip => ?_, fun k hk => ?_⟩
    · exact Function.update_of_ne (fun he => hip (congrArg Subnet.host he)) _ _
    · rw [Subnet.canon_host] at hk
      exact Function.update_of_ne hk _ _
  · exact ⟨rfl, fun _ _ => rfl, fun _ _ => rfl, fun _ _ => rfl, fun _ _ => rfl⟩

theorem learn (h : AgreeOff subnet P Q) (n : Neighbor) (mac : MacAddr) (slots : KeyMap Nat Station) :
    AgreeOff subnet (P.learn n mac slots) (Q.learn n mac slots) :=
  { h with rest := congrArg (Picture.learn · n mac slots) h.rest }

/-- Whether a host route is wanted has to do with the routes of its address alone. -/
theorem wants_iff (h : AgreeOff subnet P Q) {mac : MacAddr} (hn : .host n.ip ≠ subnet) :
    Q.Wants n mac ↔ P.Wants n mac := by
  rw [Wants, Wants, h.installed _ hn, h.pending _ hn, h.hosts _ hn]

theorem house (h : AgreeOff subnet P Q) (n : Neighbor) (e : Egress) :
    AgreeOff subnet (P.house n e) (Q.house n e) := by
  by_cases hn : .host n.ip = subnet
  · subst hn
    exact (of_house P n e).symm.trans (h.trans (of_house Q n e))
  · have hwants : Q.Wants n e.mac ↔ P.Wants n e.mac := h.wants_iff hn
    unfold Picture.house
    by_cases hw : P.Wants n e.mac
    · rw [if_pos hw, if_pos (hwants.mpr hw)]
      refine ⟨?_, h.pending, h.installed, fun ip hip => ?_, fun k hk => ?_⟩
      · rw [h.rest]
      · simp only [Function.update_apply, h.hosts ip hip]
      · simp only [Function.update_apply, h.routes k hk]
    · rw [if_neg hw, if_neg (mt hwants.mp hw)]
      exact h

end AgreeOff

/-- The routes of a subnet are those that leading it installs. -/
structure Led (subnet : Subnet) (hop : NextHop) (e : Egress) (P : Picture) : Prop where
  pending : P.pending subnet = none
  installed : P.installed subnet = some ⟨hop, some e⟩
  hosts : ∀ ip, .host ip = subnet → P.hosts ip = none
  routes : P.routes subnet.canon = some (some e)

namespace Led

theorem of_lead (P : Picture) (subnet : Subnet) (hop : NextHop) (e : Egress) :
    Led subnet hop e (P.lead hop e [subnet]) where
  pending := if_pos List.mem_cons_self
  installed := if_pos List.mem_cons_self
  hosts _ hip := if_pos (List.mem_singleton.mpr hip)
  routes := if_pos List.mem_cons_self

theorem learn (h : Led subnet hop e P) (n : Neighbor) (mac : MacAddr) (slots : KeyMap Nat Station) :
    Led subnet hop e (P.learn n mac slots) := { h with }

/-- No host route is wanted for an address that has a route of the kernel's. -/
theorem house (h : Led subnet hop e P) (n : Neighbor) (e' : Egress) :
    Led subnet hop e (P.house n e') := by
  unfold Picture.house
  split
  · rename_i hw
    have hn : .host n.ip ≠ subnet := by
      rintro rfl
      exact Option.some_ne_none _ (h.installed.symm.trans hw.1)
    refine ⟨h.pending, h.installed, fun ip hip => ?_, ?_⟩
    · have hne : ip ≠ n.ip := fun he => hn (he ▸ hip)
      exact (Function.update_of_ne hne _ _).trans (h.hosts ip hip)
    · have hne : subnet.canon ≠ .host n.ip :=
        fun he => hn ((subnet.canon_eq_host_iff n.ip).mp he).symm
      exact (Function.update_of_ne hne _ _).trans h.routes
  · exact h

end Led

/-- What leading a subnet decides need not have been so before. -/
theorem AgreeOff.lead_eq (h : AgreeOff subnet P Q) {subnets subnets' : List Subnet}
    (hrest : ∀ s, s ≠ subnet → (s ∈ subnets' ↔ s ∈ subnets))
    (hsubnet : subnet ∈ subnets' ∨ Led subnet hop e Q) :
    P.lead hop e (subnets ++ [subnet]) = Q.lead hop e subnets' := by
  have hmem (s : Subnet) (hs : s ≠ subnet) : s ∈ subnets ++ [subnet] ↔ s ∈ subnets' := by
    simp [hs, hrest s hs]
  refine Picture.ext (congrArg (·.ports) h.rest).symm (congrArg (·.interfaces) h.rest).symm
    (congrArg (·.neighbors) h.rest).symm ?_ ?_ ?_ ?_ (congrArg (·.stations) h.rest).symm
    (congrArg (·.watched) h.rest).symm (congrArg (·.enables) h.rest).symm
  · funext s
    by_cases hs : s = subnet
    · subst hs
      rcases hsubnet with hmem | hled
      · simp [lead, hmem]
      · simp [lead, hled.pending]
    · simp only [lead, hmem s hs, h.pending s hs]
  · funext s
    by_cases hs : s = subnet
    · subst hs
      rcases hsubnet with hmem | hled
      · simp [lead, hmem]
      · simp [lead, hled.installed]
    · simp only [lead, hmem s hs, h.installed s hs]
  · funext ip
    by_cases hs : .host ip = subnet
    · rcases hsubnet with hmem | hled
      · simp [lead, hmem, hs]
      · simp [lead, hled.hosts ip hs, hs]
    · simp only [lead, hmem _ hs, h.hosts ip hs]
  · funext k
    by_cases hk : k = subnet.canon
    · subst hk
      rcases hsubnet with hmem | hled
      · have hkey : subnet.canon ∈ subnets'.map Subnet.canon := List.mem_map_of_mem hmem
        have hkey' : subnet.canon ∈ (subnets ++ [subnet]).map Subnet.canon :=
          List.mem_map_of_mem (List.mem_append_right subnets (List.mem_singleton_self subnet))
        simp only [lead, if_pos hkey, if_pos hkey']
      · simp [lead, hled.routes]
    · have hkeys : k ∈ (subnets ++ [subnet]).map Subnet.canon ↔ k ∈ subnets'.map Subnet.canon := by
        rw [List.mem_map, List.mem_map]
        refine exists_congr fun s => and_congr_left fun hcanon => hmem s ?_
        rintro rfl
        exact hk hcanon.symm
      simp only [lead, hkeys, h.routes k hk]

end Picture

variable {δ : Type} {refused : δ → Prop} {m m' : Follower δ} {n : Neighbor} {mac : MacAddr}
  {subnet : Subnet} {rp : RoutedPort}

/-- What a neighbour's address decides after the word of a route is what it decides without, but for the
route itself; and that is decided, or led already. -/
theorem waitingFor_announce (hsame : m'.neighbors = m.neighbors)
    (hpicture : m'.picture = m.picture.announce subnet ⟨n.ip, n.ifindex⟩ rp) :
    (∀ s, s ≠ subnet → (s ∈ m'.waitingFor n (m'.hasMoved n mac) ↔
      s ∈ m.waitingFor n (m.hasMoved n mac))) ∧
    Picture.AgreeOff subnet m.picture m'.picture ∧
    (subnet ∈ m'.waitingFor n (m'.hasMoved n mac) ∨
      Picture.Led subnet ⟨n.ip, n.ifindex⟩ ⟨mac, rp.port, rp.interface⟩ m'.picture) := by
  have hmoved : m'.hasMoved n mac = m.hasMoved n mac := by rw [hasMoved, hasMoved, hsame]
  have hoff : Picture.AgreeOff subnet m.picture m'.picture := by
    rw [hpicture, Picture.announce]
    split
    · exact .of_lead _ _ _ _
    · exact .of_await _ _ _
  refine ⟨fun s hs => ?_, hoff, ?_⟩
  · rw [mem_waitingFor_picture_iff, mem_waitingFor_picture_iff, hoff.pending s hs,
      hoff.installed s hs, hmoved]
  · rw [mem_waitingFor_picture_iff, hmoved, hpicture, Picture.announce]
    have hneighbor : m.picture.neighbors ⟨n.ip, n.ifindex⟩ = m.neighbors.get? n := rfl
    rw [hneighbor]
    cases hn : m.neighbors.get? n with
    | none => exact .inl (.inl (Function.update_self _ _ _))
    | some old =>
        by_cases hold : old = mac
        · subst hold
          exact .inr (.of_lead _ _ _ _)
        · refine .inl (.inr ⟨hasMoved_iff.mpr ⟨old, hn, hold⟩, ?_⟩)
          exact ⟨_, (Picture.Led.of_lead _ _ _ _).installed, rfl⟩

/-- What a follower looks like once a neighbour has settled. -/
def settledPicture (m : Follower δ) (n : Neighbor) (mac : MacAddr) (rp : RoutedPort) (slot : Nat) :
    Picture :=
  ((m.picture.learn n mac (m.restationed n mac rp.port slot)).house n
    ⟨mac, rp.port, rp.interface⟩).lead ⟨n.ip, n.ifindex⟩ ⟨mac, rp.port, rp.interface⟩
      (m.waitingFor n (m.hasMoved n mac))

theorem settledPicture_rest (m : Follower δ) (n : Neighbor) (mac : MacAddr) (rp : RoutedPort)
    (slot : Nat) :
    (m.settledPicture n mac rp slot).ports = m.picture.ports ∧
      (m.settledPicture n mac rp slot).interfaces = m.picture.interfaces ∧
      (m.settledPicture n mac rp slot).neighbors n = some mac := by
  unfold settledPicture Picture.house
  split <;> simp [Picture.lead, Picture.learn]

section events

variable [Bus δ] {a b a' b' : Follower δ}

theorem handle_route_picture (ht : Bus.Tells refused) (hs : m.Sound)
    (hrp : m.routedPort? n.ifindex = some rp)
    (hm' : (handle (.route subnet .added (some n.ip) (some n.ifindex)) m).2 = m')
    (hroom : ¬ m'.Exhausted refused) :
    m.Beside m' ∧ m'.picture = m.picture.announce subnet ⟨n.ip, n.ifindex⟩ rp :=
  handle_reaches hm' (routeAdded_picture ht hs ⟨n.ip, n.ifindex⟩ hrp subnet) hroom

/-- Either there is no place for the neighbour's station, and nothing happens, or the neighbour settles. -/
theorem handle_news_picture (ht : Bus.Tells refused) (hs : m.Sound)
    (hrp : m.routedPort? n.ifindex = some rp)
    (hm' : (handle (.neighbor n.ip n.ifindex (some mac) .added) m).2 = m')
    (hroom : ¬ m'.Exhausted refused) :
    m'.picture =
      match m.switch.stations.newSlot? m.switch.board ⟨mac, 0, rp.port, true⟩ with
      | none => m.picture
      | some slot => m.settledPicture n mac rp slot := by
  obtain ⟨hport, hid⟩ := routedPort?_eq_some_iff.mp hrp
  rcases handle_news ht hs hport hm' (mt Or.inl hroom) with ha | ⟨hpicture, hcrowded, -⟩
  · obtain ⟨slot, hnew, hpicture⟩ := ha.picture ht hs hport
    rw [hid] at hpicture
    rw [hnew]
    exact hpicture.resolve_left hroom
  · rw [Stations.newSlot?_of_crowded _ ⟨mac, 0, rp.port, true⟩ hcrowded]
    exact hpicture

theorem handle_news_routed (ht : Bus.Tells refused) (hs : m.Sound)
    (hrp : m.routedPort? n.ifindex = some rp)
    (hm' : (handle (.neighbor n.ip n.ifindex (some mac) .added) m).2 = m')
    (hroom : ¬ m'.Exhausted refused) : m'.routedPort? n.ifindex = some rp := by
  have hnews := handle_news_picture ht hs hrp hm' hroom
  cases hnew : m.switch.stations.newSlot? m.switch.board ⟨mac, 0, rp.port, true⟩ with
  | none =>
      rw [hnew] at hnews
      exact (routedPort?_eq_of_picture (congrArg _ hnews) (congrArg _ hnews) _).trans hrp
  | some slot =>
      rw [hnew] at hnews
      obtain ⟨hports, hinterfaces, -⟩ := m.settledPicture_rest n mac rp slot
      exact (routedPort?_eq_of_picture ((congrArg _ hnews).trans hports)
        ((congrArg _ hnews).trans hinterfaces) _).trans hrp

/-- The word of a route leads it to a neighbour whose news has been heard. -/
theorem handle_route_led (ht : Bus.Tells refused) (hs : m.Sound)
    (hrp : m.routedPort? n.ifindex = some rp)
    (hm' : (handle (.route subnet .added (some n.ip) (some n.ifindex)) m).2 = m')
    (hroom : ¬ m'.Exhausted refused) (hn : m.neighbors.get? n = some mac) :
    Picture.Led subnet ⟨n.ip, n.ifindex⟩ ⟨mac, rp.port, rp.interface⟩ m'.picture := by
  obtain ⟨-, hpicture⟩ := handle_route_picture ht hs hrp hm' hroom
  have hneighbor : m.picture.neighbors ⟨n.ip, n.ifindex⟩ = some mac := hn
  rw [hpicture, Picture.announce, hneighbor]
  exact .of_lead _ _ _ _

/-- The news of a neighbour is heard if there is room for its station. -/
theorem handle_news_heard (ht : Bus.Tells refused) (hs : m.Sound)
    (hrp : m.routedPort? n.ifindex = some rp)
    (hm' : (handle (.neighbor n.ip n.ifindex (some mac) .added) m).2 = m')
    (hroom : ¬ m'.Exhausted refused) (hplace : ¬ m.switch.stations.Crowded mac 0) :
    m'.neighbors.get? n = some mac := by
  obtain ⟨hport, hid⟩ := routedPort?_eq_some_iff.mp hrp
  rcases handle_news ht hs hport hm' (mt Or.inl hroom) with ha | ⟨-, hcrowded, -⟩
  · obtain ⟨slot, -, hpicture⟩ := ha.picture ht hs hport
    rw [hid] at hpicture
    obtain ⟨-, -, hlearnt⟩ := m.settledPicture_rest n mac rp slot
    exact (congrFun (congrArg (·.neighbors) (hpicture.resolve_left hroom)) n).trans hlearnt
  · exact absurd hcrowded hplace

/-- The news of a neighbour and the word of a route through it do the same in either order. -/
theorem Sound.picture_comm (ht : Bus.Tells refused) (hs : m.Sound)
    (hrp : m.routedPort? n.ifindex = some rp)
    (ha : (handle (.neighbor n.ip n.ifindex (some mac) .added) m).2 = a)
    (ha' : (handle (.route subnet .added (some n.ip) (some n.ifindex)) a).2 = a')
    (hb : (handle (.route subnet .added (some n.ip) (some n.ifindex)) m).2 = b)
    (hb' : (handle (.neighbor n.ip n.ifindex (some mac) .added) b).2 = b')
    (hroom : ¬ a.Exhausted refused ∧ ¬ a'.Exhausted refused ∧ ¬ b.Exhausted refused ∧
      ¬ b'.Exhausted refused) :
    a'.picture = b'.picture := by
  obtain ⟨hroom, hroom', hroomb, hroomb'⟩ := hroom
  have hsa : a.Sound := ha ▸ handle_sound hs _
  have hsb : b.Sound := hb ▸ handle_sound hs _
  have hrpa : a.routedPort? n.ifindex = some rp := handle_news_routed ht hs hrp ha hroom
  obtain ⟨hbeside, hroute⟩ := handle_route_picture ht hs hrp hb hroomb
  obtain ⟨-, hroute'⟩ := handle_route_picture ht hsa hrpa ha' hroom'
  have hnews := handle_news_picture ht hs hrp ha hroom
  have hstations : b.switch.stations = m.switch.stations := congrArg (·.stations) hbeside.switch
  have hboard : b.switch.board = m.switch.board := congrArg (·.board) hbeside.switch
  have hrpb : b.routedPort? n.ifindex = some rp := (hbeside.routedPort?_eq _).trans hrp
  have hnews' := handle_news_picture ht hsb hrpb hb' hroomb'
  rw [hstations, hboard] at hnews'
  cases hnew : m.switch.stations.newSlot? m.switch.board ⟨mac, 0, rp.port, true⟩ with
  | none =>
      rw [hnew] at hnews hnews'
      rw [hroute', hnews, hnews', hroute]
  | some slot =>
      rw [hnew] at hnews hnews'
      obtain ⟨-, -, hlearnt⟩ := m.settledPicture_rest n mac rp slot
      -- after the word the neighbour settles as it does before it, but for the route's own subnet
      obtain ⟨hrest, hoff, hsubnet⟩ := waitingFor_announce hbeside.neighbors hroute
      rw [hroute', hnews, hnews', Picture.announce, hlearnt]
      dsimp only
      rw [settledPicture, Picture.lead_append, settledPicture,
        restationed_congr hstations hbeside.neighbors]
      exact ((hoff.learn n mac _).house n _).lead_eq hrest
        (hsubnet.imp_right fun h => (h.learn n mac _).house n _)

/-- After any run on a fresh switch, the news of a neighbour behind a port with an interface and the word
of a route through it end in the same picture in either order, if nothing is refused and there is room.
If there is room for the neighbour's station too, that picture has the route lead to the neighbour. -/
theorem news_commutes_with_route (board : Board) (bus : δ) (events : List Event) (n : Neighbor)
    (mac : MacAddr) (subnet : Subnet) (rp : RoutedPort) :
    let m := ((fresh (.fresh board bus)).run events).watched
    let news := Event.neighbor n.ip n.ifindex (some mac) .added
    let route := Event.route subnet .added (some n.ip) (some n.ifindex)
    m.routedPort? n.ifindex = some rp →
      (m.run [news]).Roomy → (m.run [news, route]).Roomy →
      (m.run [route]).Roomy → (m.run [route, news]).Roomy →
        (m.run [news, route]).picture = (m.run [route, news]).picture ∧
        (¬ m.switch.stations.Crowded mac 0 → Picture.Led subnet ⟨n.ip, n.ifindex⟩
          ⟨mac, rp.port, rp.interface⟩ (m.run [news, route]).picture) := by
  intro m news route hrp hnews hboth hroute hboth'
  have hs : m.Sound := (run_sound (sound_fresh board bus) events).watched
  have ht := Watched.tells_refused (δ := δ)
  refine ⟨hs.picture_comm ht hrp rfl rfl rfl rfl ⟨hnews.not_exhausted, hboth.not_exhausted,
    hroute.not_exhausted, hboth'.not_exhausted⟩, fun hplace => ?_⟩
  have hrp' : (handle news m).2.routedPort? n.ifindex = some rp :=
    handle_news_routed ht hs hrp rfl hnews.not_exhausted
  exact handle_route_led ht (handle_sound hs _) hrp' rfl hboth.not_exhausted
    (handle_news_heard ht hs hrp rfl hnews.not_exhausted hplace)

/-- Another subnet behind the neighbour. -/
def farNet : Subnet := { remoteNet with addr := ⟨0x0a020000⟩ }

/-- A neighbour has had another address, and a route through it is installed, when the news and the word
of a second route come.  The second route has another egress object in either order. -/
theorem news_commutes_with_route_moved :
    let m := watching (arrival ++ [.route remoteNet .added (some ⟨0x0a000001⟩) (some 5)])
    let mac : MacAddr := ⟨0x52, 0x54, 0, 0, 0, 2⟩
    let rp : RoutedPort := ⟨⟨12, by decide, by decide⟩, 1⟩
    let news := Event.neighbor ⟨0x0a000001⟩ 5 (some mac) .added
    let route := Event.route farNet .added (some ⟨0x0a000001⟩) (some 5)
    m.routedPort? 5 = some rp ∧ (m.run [news]).Spare ∧ (m.run [news, route]).Spare ∧
      (m.run [route]).Spare ∧ (m.run [route, news]).Spare ∧ ¬ m.switch.stations.Crowded mac 0 ∧
      (m.run [news, route]).installed.get? farNet ≠ (m.run [route, news]).installed.get? farNet ∧
      (m.run [news, route]).picture = (m.run [route, news]).picture ∧
      Picture.Led farNet ⟨⟨0x0a000001⟩, 5⟩ ⟨mac, rp.port, rp.interface⟩
        (m.run [news, route]).picture := by
  intro m mac rp news route
  have hrouted : m.routedPort? 5 = some rp := by decide +kernel
  have hnews : (m.run [news]).Spare := by decide +kernel
  have hboth : (m.run [news, route]).Spare := by decide +kernel
  have hroute : (m.run [route]).Spare := by decide +kernel
  have hboth' : (m.run [route, news]).Spare := by decide +kernel
  have hplace : ¬ m.switch.stations.Crowded mac 0 := by
    have hnew : m.switch.stations.newSlot? m.switch.board ⟨mac, 0, rp.port, true⟩ ≠ none := by
      decide +kernel
    exact fun hcrowded => hnew (Stations.newSlot?_of_crowded _ ⟨mac, 0, rp.port, true⟩ hcrowded)
  obtain ⟨hsame, hled⟩ := news_commutes_with_route _ _ _ ⟨⟨0x0a000001⟩, 5⟩ mac farNet rp hrouted
    hnews.roomy hboth.roomy hroute.roomy hboth'.roomy
  exact ⟨hrouted, hnews, hboth, hroute, hboth', hplace, by decide +kernel, hsame, hled hplace⟩

end events

end ControlPlane.Follower
