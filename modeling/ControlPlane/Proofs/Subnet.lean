import ControlPlane.Ipv4

/-! # Subnets of single addresses

A subnet of length 32 has no host bits, so it is its own canonical subnet and the only one with that
canonical subnet. -/

namespace ControlPlane.Subnet

theorem canon_of_len (s : Subnet) (h : s.len = 32) : s.canon = s := by
  obtain ⟨⟨bits⟩, len, hlen⟩ := s
  cases h
  have hmask : mask 32 = -1 := by decide
  have hbits : bits &&& mask 32 = bits := by
    rw [hmask]
    apply UInt32.toBitVec_inj.mp
    simp
  simp only [canon, canonical, hbits]

/-- Subnets have the same canonical subnet exactly if they agree in length and in the bits that count. -/
theorem canon_eq_iff (s t : Subnet) :
    s.canon = t.canon ↔ s.len = t.len ∧ s.addr.bits &&& mask s.len = t.addr.bits &&& mask t.len := by
  obtain ⟨⟨bits⟩, len, hlen⟩ := s
  obtain ⟨⟨bits'⟩, len', hlen'⟩ := t
  simp only [canon, canonical, mk.injEq, Ipv4.mk.injEq]
  exact and_comm

@[simp] theorem canon_canon (s : Subnet) : s.canon.canon = s.canon := by
  simp only [canon, canonical, UInt32.and_assoc, UInt32.and_self]

@[simp] theorem canon_host (ip : Ipv4) : (host ip).canon = host ip := canon_of_len _ rfl

theorem eq_host_of_len (s : Subnet) (h : s.len = 32) : s = .host s.addr := by
  obtain ⟨addr, len, hlen⟩ := s
  cases h
  rfl

theorem canon_eq_host_iff (s : Subnet) (ip : Ipv4) : s.canon = .host ip ↔ s = .host ip := by
  constructor
  · intro h
    have hlen : s.len = 32 := congrArg Subnet.len h
    rw [← h, s.canon_of_len hlen]
  · rintro rfl
    exact canon_host ip

theorem host_inj {a b : Ipv4} : host a = host b ↔ a = b :=
  ⟨congrArg Subnet.addr, congrArg host⟩

end ControlPlane.Subnet
