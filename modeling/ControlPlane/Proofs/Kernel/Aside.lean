import ControlPlane.Proofs.Kernel.Neighbors

/-! # Beside the routes

Routing touches neither the board, the stations and the front panel, nor what the indices name.  `Spares R op`
says that `op` keeps `R` true of them whichever way it ends.

* What routes keeps whatever is true of them.
* The news of a neighbour adds and removes stations besides, and keeps what these two keep
  (`neighborAdded_spares`, `neighborRemoved_spares`).
* So each event that is not about a link keeps what is true whatever stations there are
  (`apply_spares_rest`). -/

namespace ControlPlane.Follower

open Operation (Ends)

/-- What no route concerns: the board, which port each index names, the stations, and the ports of the panel. -/
structure Aside where
  board : Board
  names : KeyMap IfIndex PortId
  stations : Stations
  ports : Ports

def aside {δ : Type} (m : Follower δ) : Aside :=
  ⟨m.switch.board, m.ports, m.switch.stations, m.switch.ports⟩

variable {δ α β : Type} {R : Aside → Prop}

/-- What is true of these parts is still true after an operation, whether it answers or fails. -/
def Spares (R : Aside → Prop) (op : Operation (Follower δ) α) : Prop :=
  ∀ m, R m.aside → Ends op m (fun _ m' => R m'.aside) fun _ m' => R m'.aside

namespace Spares

variable {op : Operation (Follower δ) α} {m : Follower δ}

theorem pure (a : α) : Spares R (Pure.pure a : Operation (Follower δ) α) := fun _ h => h

theorem throw (e : Error) : Spares R (MonadExcept.throw e : Operation (Follower δ) α) := fun _ h => h

theorem bind {f : α → Operation (Follower δ) β} (h : Spares R op) (hf : ∀ a, Spares R (f a)) :
    Spares R (op >>= f) :=
  fun m hm => Ends.bind ((h m hm).mono (fun a m' hm' => hf a m' hm') fun _ _ hm' => hm')

theorem ite {c : Prop} [Decidable c] {op' : Operation (Follower δ) α} (h : Spares R op)
    (h' : Spares R op') : Spares R (if c then op else op') := by
  by_cases hc : c
  · rwa [if_pos hc]
  · rwa [if_neg hc]

/-- What an operation reads first is a state that is as it should be. -/
theorem get_bind {f : Follower δ → Operation (Follower δ) β}
    (hf : ∀ m, R m.aside → Spares R (f m)) : Spares R (get >>= f) :=
  fun m hm => Ends.bind (Operation.ends_get (hf m hm m hm))

theorem set (h : R m.aside) : Spares R (MonadStateOf.set m : Operation (Follower δ) PUnit) :=
  fun _ _ => h

theorem modify {f : Follower δ → Follower δ} (h : ∀ m, R m.aside → R (f m).aside) :
    Spares R (modify f : Operation (Follower δ) PUnit) :=
  fun m hm => Operation.ends_modify (h m hm)

theorem onRouting {op : Switch δ → Operation (Routing × δ) α} :
    Spares R (onSwitch fun sw => Switch.onRouting (op sw) sw) :=
  fun m h => Ends.focus <| show Ends (Switch.onRouting (op m.switch)) m.switch _ _ from
    Ends.focus (Operation.ends_of_forall (fun _ _ => h) fun _ _ => h)

/-- What is true whatever stations there are. -/
theorem onStations {op : Switch δ → Operation (Stations × δ) α}
    (h : ∀ a stations, R a → R { a with stations := stations }) :
    Spares R (onSwitch fun sw => Switch.onStations (op sw) sw) :=
  fun m hm => Ends.focus <| show Ends (Switch.onStations (op m.switch)) m.switch _ _ from
    Ends.focus (Operation.ends_of_forall (fun _ _ => h _ _ hm) fun _ _ => h _ _ hm)

theorem tryTo {op : Operation (Follower δ) Unit} (h : Spares R op) : Spares R (tryTo op) :=
  fun m hm => tryTo_ends (h m hm)

theorem ifThere {op : Operation (Follower δ) Unit} (h : Spares R op) : Spares R (ifThere op) :=
  fun m hm => ifThere_any (h m hm)

theorem orUndo {undo : Operation (Follower δ) Unit} (h : Spares R op) (hu : Spares R undo) :
    Spares R (Operation.orUndo op undo) :=
  fun m hm => Ends.orUndo ((h m hm).mono (fun _ _ hm' => hm') fun _ m' hm' => hu m' hm')

theorem forAll {op : α → Operation (Follower δ) Unit} (h : ∀ a, Spares R (op a)) (as : List α) :
    Spares R (Operation.forAll op as) := by
  induction as with
  | nil => exact fun _ hm => hm
  | cons a as ih =>
      intro m hm
      have hstep := h a m hm
      cases hop : op a m with
      | ok u m₁ => exact Ends.of_eq (ih m₁ (hstep.of_ok hop)) (by simp only [Operation.forAll, hop])
      | error e m₁ =>
          exact Operation.ends_error (by simp only [Operation.forAll, hop]; rfl) (hstep.of_error hop)

end Spares

/-! ### What routes -/

section routing

variable [Bus δ]

theorem release_spares (id : EgressId) : Spares R (release id : Operation (Follower δ) Unit) :=
  .tryTo .onRouting

theorem release?_spares (o : Option EgressId) :
    Spares R (release? o : Operation (Follower δ) Unit) := by
  cases o with
  | none => exact .pure ()
  | some id => exact release_spares id

theorem provide_spares (rp : RoutedPort) (mac : MacAddr)
    {route : EgressId → Operation (Switch δ) RouteSlot} (h : ∀ id, Spares R (onSwitch (route id))) :
    Spares R (provide rp mac route) :=
  .bind .onRouting fun id => .bind (.orUndo (h id) (release_spares id)) fun _ => .pure id

theorem installHost_spares (n : Neighbor) (rp : RoutedPort) (mac : MacAddr) :
    Spares R (installHost n rp mac : Operation (Follower δ) Unit) := by
  refine .get_bind fun m hm => .ite ?_ (.pure ())
  exact .bind (provide_spares rp mac fun _ => .onRouting) fun _ => .get_bind fun _ hm =>
    .bind (.set hm) fun _ => release?_spares _

theorem withdrawHost_spares (ip : Ipv4) :
    Spares R (withdrawHost ip : Operation (Follower δ) Bool) := by
  refine .get_bind fun m hm => ?_
  cases m.hosts.get? ip with
  | none => exact .pure false
  | some host =>
      exact .bind (.ifThere .onRouting) fun _ => .bind (.modify fun _ h => h) fun _ =>
        .bind (release_spares host.egress) fun _ => .pure true

theorem restoreHost_spares (ip : Ipv4) :
    Spares R (restoreHost ip : Operation (Follower δ) Unit) := by
  refine .get_bind fun m hm => ?_
  cases m.resolved? ip with
  | none => exact .pure ()
  | some found => exact .tryTo (installHost_spares found.1 found.2.2 found.2.1)

theorem dropInstalled_spares (subnet : Subnet) :
    Spares R (dropInstalled subnet : Operation (Follower δ) Unit) :=
  .get_bind fun _ hm => .bind (.set hm) fun _ => release?_spares _

theorem withdraw_spares (subnet : Subnet) :
    Spares R (withdraw subnet : Operation (Follower δ) Unit) :=
  .bind (.ifThere .onRouting) fun _ => dropInstalled_spares subnet

theorem supersedeHost_spares (subnet : Subnet) :
    Spares R (supersedeHost subnet : Operation (Follower δ) Unit) :=
  .ite (.get_bind fun _ hm => .bind (.set hm) fun _ => release?_spares _) (.pure ())

theorem install_spares (subnet : Subnet) (hop : NextHop) (rp : RoutedPort) (mac : MacAddr) :
    Spares R (install subnet hop rp mac : Operation (Follower δ) Unit) :=
  .bind (provide_spares rp mac fun _ => .onRouting) fun _ => .bind (.modify fun _ h => h) fun _ =>
    .bind (supersedeHost_spares subnet) fun _ => .get_bind fun _ hm => .bind (.set hm) fun _ =>
      release?_spares _

theorem routeAdded_spares (subnet : Subnet) (gateway : Option Ipv4) (via : Option IfIndex) :
    Spares R (routeAdded subnet gateway via : Operation (Follower δ) EventOutcome) := by
  refine .get_bind fun m hm => ?_
  cases gateway with
  | none => exact .pure _
  | some gateway =>
  cases via with
  | none => exact .pure _
  | some via =>
  dsimp only
  cases m.ports.get? via with
  | none => exact .pure _
  | some port =>
  dsimp only
  cases m.interfaces.get? port with
  | none => exact .throw _
  | some id =>
  dsimp only
  cases m.neighbors.get? ⟨gateway, via⟩ with
  | some mac => exact .bind (install_spares subnet ⟨gateway, via⟩ ⟨port, id⟩ mac) fun _ => .pure _
  | none =>
      -- The route is pending now, whether or not another was installed before.
      refine .ite (.bind (withdraw_spares subnet) fun _ => ?_) ?_
      · exact .bind (.modify fun _ h => h) fun _ => .pure _
      · exact .bind (.modify fun _ h => h) fun _ => .pure _

theorem routeRemoved_spares (subnet : Subnet) :
    Spares R (routeRemoved subnet : Operation (Follower δ) EventOutcome) := by
  refine .get_bind fun m hm => .bind (.set hm) fun _ => .bind (.ifThere .onRouting) fun there => ?_
  refine .ite (.bind (dropInstalled_spares subnet) fun _ => ?_) (.ite (.pure _) (.pure _))
  exact .ite (.bind (restoreHost_spares subnet.addr) fun _ => .pure _) (.pure _)

theorem addressAdded_spares (i : IfIndex) :
    Spares R (addressAdded i : Operation (Follower δ) EventOutcome) := by
  refine .get_bind fun m hm => ?_
  cases m.ports.get? i with
  | none => exact .pure _
  | some port =>
      refine .ite (.pure _) (.bind .onRouting fun id => .bind (.modify fun _ h => h) fun _ => ?_)
      exact .bind (.forAll (fun (n, mac) => .tryTo (installHost_spares n ⟨port, id⟩ mac)) _) fun _ => .pure _

theorem addressRemoved_spares (i : IfIndex) :
    Spares R (addressRemoved i : Operation (Follower δ) EventOutcome) := by
  refine .get_bind fun m hm => ?_
  cases m.routedPort? i with
  | none => exact .pure _
  | some rp =>
      exact .bind (.forAll withdraw_spares _) fun _ => .get_bind fun _ _ =>
        .bind (.forAll (fun ip => .bind (withdrawHost_spares ip) fun _ => .pure _) _) fun _ =>
          .bind .onRouting fun _ => .bind (.modify fun _ h => h) fun _ => .pure _

theorem settle_spares (n : Neighbor) (rp : RoutedPort) (mac : MacAddr) (subnets : List Subnet) :
    Spares R (settle n rp mac subnets : Operation (Follower δ) Unit) :=
  .bind (.tryTo (installHost_spares n rp mac)) fun _ =>
    .forAll (fun _ => .tryTo (install_spares _ _ _ _)) subnets

/-! ### The news of neighbours -/

section neighbors

variable (hadd : ∀ station, Spares R (onSwitch (Switch.addStation station) : Operation (Follower δ) Unit))
variable (hremove : ∀ mac, Spares R (onSwitch (Switch.removeStation mac 0) : Operation (Follower δ) Unit))

include hremove

include hadd in
theorem neighborAdded_spares (n : Neighbor) (mac? : Option MacAddr) :
    Spares R (neighborAdded n mac? : Operation (Follower δ) EventOutcome) := by
  refine .get_bind fun m hm => ?_
  cases m.ports.get? n.ifindex with
  | none => exact .pure _
  | some port =>
  cases mac? with
  | none => exact .pure _
  | some mac =>
  refine .bind (hadd _) fun _ => .bind (.modify fun _ h => h) fun _ => .get_bind fun m' _ => ?_
  extract_lets waiting rest
  have hrest (u : PUnit) : Spares R (rest u) := by
    unfold rest
    cases m'.interfaces.get? port with
    | none => exact .pure _
    | some id =>
        exact .bind (.tryTo (installHost_spares n ⟨port, id⟩ mac)) fun _ =>
          .bind (.forAll (fun _ => .tryTo (install_spares _ _ _ _)) waiting) fun _ => .pure _
  cases (m.neighbors.get? n).filter fun old => old != mac with
  | none => exact hrest ()
  | some old => exact .ite (.bind (.tryTo (hremove old)) hrest) (hrest ())

theorem neighborRemoved_spares (n : Neighbor) (mac? : Option MacAddr) :
    Spares R (neighborRemoved n mac? : Operation (Follower δ) EventOutcome) := by
  refine .get_bind fun m hm => .bind (.set hm) fun _ => .ite (.pure _) ?_
  extract_lets rest
  have hrest (withdrawn : Bool) : Spares R (rest withdrawn) := by
    unfold rest
    cases mac?.or (m.neighbors.get? n) with
    | none => exact .pure _
    | some mac => exact .get_bind fun _ _ => .ite (.pure _) (.bind (.ifThere (hremove mac)) fun _ => .pure _)
  exact .ite (.bind (withdrawHost_spares n.ip) hrest) (.bind (.pure _) hrest)

end neighbors

/-! ### Events that are not about links -/

theorem apply_spares_rest (h : ∀ a stations, R a → R { a with stations := stations }) {event : Event}
    (hlink : ∀ i name up, event ≠ .link i name up) (hremoved : ∀ i, event ≠ .linkRemoved i) :
    Spares R (apply event : Operation (Follower δ) EventOutcome) := by
  cases event with
  | link i name up => exact absurd rfl (hlink i name up)
  | linkRemoved i => exact absurd rfl (hremoved i)
  | address i change =>
      cases change with
      | added => exact addressAdded_spares i
      | removed => exact addressRemoved_spares i
  | route subnet change gateway via =>
      cases change with
      | added => exact routeAdded_spares subnet gateway via
      | removed => exact routeRemoved_spares subnet
  | neighbor ip i mac? change =>
      cases change with
      | added => exact neighborAdded_spares (fun _ => .onStations h) (fun _ => .onStations h) ⟨ip, i⟩ mac?
      | removed => exact neighborRemoved_spares (fun _ => .onStations h) ⟨ip, i⟩ mac?

end routing

end ControlPlane.Follower
