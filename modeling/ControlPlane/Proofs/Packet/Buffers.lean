import ControlPlane.Proofs.Packet.Layout
import Mathlib.Order.Bounds.Basic

/-! # Buffers that are cut one after another

A pool keeps nothing of a buffer but the offset where it ends.  Whatever was asked for before, and whether it was
granted or not, that is enough to put each buffer above all others, and to tell which of two limits a request goes
beyond: the end of the pool, or the last bus address that a descriptor can name.

* `BufferRun` is what a list of requests has led to: the pool, and what it has granted.
* **Where the next one goes.**  `BufferPool.isLeast_roundUp`: a buffer starts at the least multiple of its alignment
  from the end of the last one on.  `Kept.isLeast`: the end of the last one is past all that was granted.
* **One request.**  `BufferRequest.decided` tells the answer by that offset, and `Kept.call` what every request
  keeps, met or not.
* **Every run.**  `buffers_apart_in_reach`. -/

namespace ControlPlane

open BufferPool (alloc roundUp wordLimit)

/-! ### Requests -/

/-- A buffer that is asked for, with at least one byte. -/
structure BufferRequest where
  size : Nat
  align : Nat
  size_pos : 1 ≤ size
  align_pos : 1 ≤ align

/-- A request that was met, with the buffer that was cut for it. -/
structure BufferGrant where
  request : BufferRequest
  buffer : Buffer

namespace BufferGrant

/-- The offset just past the buffer. -/
def stop (g : BufferGrant) : Nat := g.buffer.offset + g.request.size

/-- The buffer lies in the pool past its first `start` bytes, aligned, where the chip reaches all of it. -/
structure Placed (g : BufferGrant) (info : DmaInfo) (start : Nat) : Prop
    extends g.buffer.Lies info g.request.size where
  start_le : start ≤ g.buffer.offset
  aligned : g.request.align ∣ g.buffer.offset

end BufferGrant

namespace BufferRequest

def run (q : BufferRequest) : Operation BufferPool Buffer := alloc q.size q.align

/-- The answer to a request whose buffer would start at an offset: the pool is too small for it, or it would end
beyond the last address of a descriptor, or it is cut there. -/
structure Decided (q : BufferRequest) (info : DmaInfo) (offset : Nat) (answer : Except Error Buffer) : Prop where
  full : answer = .error (.full (.dmaPool q.size (info.size - offset))) ↔ info.size < offset + q.size
  unreachable : answer = .error (.invalid (.unreachable (info.base + offset))) ↔
    offset + q.size ≤ info.size ∧ 2 ^ 32 < info.base + offset + q.size
  granted : ∀ b, answer = .ok b ↔
    b = ⟨offset, info.base + offset⟩ ∧ offset + q.size ≤ info.size ∧ info.base + offset + q.size ≤ 2 ^ 32

end BufferRequest

/-- What some requests have led to: the pool, and what was granted, in order. -/
structure BufferRun where
  pool : BufferPool
  grants : List BufferGrant

namespace BufferRun

variable {r : BufferRun} {info : DmaInfo} {start : Nat} {q : BufferRequest}

/-- A buffer that is cut is added to what was granted. -/
def call (r : BufferRun) (q : BufferRequest) : BufferRun :=
  match q.run r.pool with
  | .ok b pool => ⟨pool, r.grants ++ [⟨q, b⟩]⟩
  | .error _ pool => ⟨pool, r.grants⟩

/-- The run of some requests on a pool from which nothing has been cut. -/
def of (info : DmaInfo) (start : Nat) (requests : List BufferRequest) : BufferRun :=
  requests.foldl call ⟨⟨info, start⟩, []⟩

/-- What further requests are answered. -/
def answers (r : BufferRun) : List BufferRequest → List (Except Error Buffer)
  | [] => []
  | q :: later => Operation.answer q.run r.pool :: (r.call q).answers later

/-- A buffer could start at an offset: it has the alignment, and all that was granted or left out ends before. -/
structure Clear (r : BufferRun) (start align offset : Nat) : Prop where
  aligned : align ∣ offset
  start_le : start ≤ offset
  stop_le : ∀ g ∈ r.grants, g.stop ≤ offset

/-- What was granted from a pool whose first `start` bytes are left out, and how it goes on. -/
structure Orderly (info : DmaInfo) (start : Nat) (r : BufferRun) : Prop where
  /-- A buffer lies wholly above those that were cut before it. -/
  apart : r.grants.Pairwise fun g later => g.stop ≤ later.buffer.offset
  placed : ∀ g ∈ r.grants, g.Placed info start
  /-- The next one is cut at the first offset that is clear, or refused for want of room or of reach. -/
  decided : ∀ q : BufferRequest, ∃ offset, IsLeast {n | r.Clear start q.align n} offset ∧
    (offset + q.size < wordLimit → q.Decided info offset (Operation.answer q.run r.pool))
  /-- After a request that fails, others are answered as without it. -/
  unmoved : ∀ q : BufferRequest, (Operation.answer q.run r.pool).isOk = false →
    ∀ later, (r.call q).answers later = r.answers later

end BufferRun

/-! ### Where the next one goes -/

namespace BufferPool

variable {p p' : BufferPool} {b : Buffer} {size align : Nat}

theorem isLeast_roundUp (n : Nat) (h : 0 < align) : IsLeast {m | align ∣ m ∧ n ≤ m} (roundUp n align) := by
  refine ⟨⟨Nat.dvd_mul_left align _, le_roundUp n h⟩, ?_⟩
  rintro m ⟨⟨k, rfl⟩, hn⟩
  have hlt : n + (align - 1) < (k + 1) * align := by
    rw [Nat.add_mul, Nat.one_mul, Nat.mul_comm k]
    omega
  rw [roundUp, Nat.mul_comm align]
  exact Nat.mul_le_mul_right align (Nat.le_of_lt_succ ((Nat.div_lt_iff_lt_mul h).mpr hlt))

theorem offset_of_alloc_ok (h : alloc size align p = .ok b p') : b.offset = roundUp p.next align := by
  unfold alloc at h
  dsimp only at h
  split_ifs at h
  cases h
  rfl

end BufferPool

/-! ### One request -/

/-- A buffer that would end beyond the pool is refused before it is looked at where it lies on the bus. -/
theorem BufferRequest.decided (q : BufferRequest) {p : BufferPool}
    (hfit : p.info.base + p.info.size < wordLimit) (hstop : roundUp p.next q.align + q.size < wordLimit) :
    q.Decided p.info (roundUp p.next q.align) (Operation.answer q.run p) := by
  have hsize := q.size_pos
  have hguard : ¬ (q.align = 0 ∨ wordLimit ≤ roundUp p.next q.align + q.size) := by
    have := q.align_pos
    omega
  unfold Operation.answer run alloc
  dsimp only
  rw [if_neg hguard]
  generalize roundUp p.next q.align = offset
  by_cases hfull : p.info.size < offset + q.size
  · rw [if_pos hfull]
    refine ⟨iff_of_true rfl hfull, iff_of_false nofun ?_, fun b => iff_of_false nofun ?_⟩ <;> omega
  have hover : ¬ wordLimit ≤ p.info.base + (offset + q.size) := by omega
  by_cases hreach : 2 ^ 32 < p.info.base + (offset + q.size)
  · rw [if_neg hfull, if_neg hover, if_pos hreach]
    refine ⟨iff_of_false nofun hfull, iff_of_true rfl ?_, fun b => iff_of_false nofun ?_⟩ <;> omega
  · -- a buffer has a byte, so it starts below the limit and its address is not cut off
    have hbus : (p.info.base + offset) % 2 ^ 32 = p.info.base + offset := Nat.mod_eq_of_lt (by omega)
    rw [if_neg hfull, if_neg hover, if_neg hreach, hbus]
    refine ⟨iff_of_false nofun hfull, iff_of_false nofun (by omega), fun b => ?_⟩
    rw [Except.ok.injEq, eq_comm]
    exact (and_iff_left ⟨by omega, by omega⟩).symm

namespace BufferRun

variable {r : BufferRun} {info : DmaInfo} {start : Nat} {q : BufferRequest}

theorem call_ok {b : Buffer} {pool : BufferPool} (h : q.run r.pool = .ok b pool) :
    r.call q = ⟨pool, r.grants ++ [⟨q, b⟩]⟩ := by
  rw [call, h]

/-- A request that fails leaves the pool as it was. -/
theorem call_error {e : Error} {pool : BufferPool} (h : q.run r.pool = .error e pool) : r.call q = r := by
  have hends : Operation.Ends q.run r.pool _ _ := r.pool.alloc_ends q.size_pos
  rw [call, h, hends.of_error h]

/-- The pool goes on from where the last buffer ended. -/
structure Kept (info : DmaInfo) (start : Nat) (r : BufferRun) : Prop where
  info_eq : r.pool.info = info
  next_le_iff : ∀ n, r.pool.next ≤ n ↔ start ≤ n ∧ ∀ g ∈ r.grants, g.stop ≤ n
  apart : r.grants.Pairwise fun g later => g.stop ≤ later.buffer.offset
  placed : ∀ g ∈ r.grants, g.Placed info start

theorem kept_start (info : DmaInfo) (start : Nat) : Kept info start ⟨⟨info, start⟩, []⟩ where
  info_eq := rfl
  next_le_iff _ := (and_iff_left nofun).symm
  apart := .nil
  placed := nofun

theorem Kept.call (h : r.Kept info start) (q : BufferRequest) : (r.call q).Kept info start := by
  have hends : Operation.Ends q.run r.pool _ _ := r.pool.alloc_ends q.size_pos
  cases hop : q.run r.pool with
  | error e pool => rwa [call_error hop]
  | ok b pool =>
      obtain ⟨hnext, hlies, rfl⟩ := hends.of_ok hop
      obtain ⟨hstart, hstops⟩ := (h.next_le_iff b.offset).mp hnext
      have haligned : q.align ∣ b.offset := by
        rw [BufferPool.offset_of_alloc_ok hop]
        exact (BufferPool.isLeast_roundUp _ q.align_pos).1.1
      rw [call_ok hop]
      refine ⟨h.info_eq, fun n => ?_, ?_, ?_⟩
      · rw [List.forall_mem_append, List.forall_mem_singleton]
        refine ⟨fun hstop => ?_, fun hn => hn.2.2⟩
        have hn : start ≤ n ∧ ∀ g ∈ r.grants, g.stop ≤ n :=
          (h.next_le_iff n).mp (Nat.le_trans hnext (Nat.le_of_add_right_le hstop))
        exact ⟨hn.1, hn.2, hstop⟩
      · refine List.pairwise_append.mpr ⟨h.apart, List.pairwise_singleton _ _, fun g hg later hlater => ?_⟩
        rw [List.mem_singleton.mp hlater]
        exact hstops g hg
      · rw [List.forall_mem_append, List.forall_mem_singleton]
        exact ⟨h.placed, h.info_eq ▸ hlies, hstart, haligned⟩

/-! ### Every run -/

theorem Kept.callAll (h : r.Kept info start) (requests : List BufferRequest) :
    (requests.foldl BufferRun.call r).Kept info start := by
  induction requests generalizing r with
  | nil => exact h
  | cons q requests ih => exact ih (h.call q)

/-- The next buffer starts at the first offset that is clear. -/
theorem Kept.isLeast (h : r.Kept info start) (q : BufferRequest) :
    IsLeast {n | r.Clear start q.align n} (roundUp r.pool.next q.align) := by
  have hclear : {n | r.Clear start q.align n} = {n | q.align ∣ n ∧ r.pool.next ≤ n} :=
    Set.ext fun n => ⟨fun hn => ⟨hn.aligned, (h.next_le_iff n).mpr ⟨hn.start_le, hn.stop_le⟩⟩,
      fun ⟨ha, hn⟩ => ⟨ha, ((h.next_le_iff n).mp hn).1, ((h.next_le_iff n).mp hn).2⟩⟩
  rw [hclear]
  exact BufferPool.isLeast_roundUp _ q.align_pos

theorem Kept.orderly (h : r.Kept info start) (hfit : info.base + info.size < wordLimit) :
    r.Orderly info start where
  apart := h.apart
  placed := h.placed
  decided q := by
    obtain rfl := h.info_eq
    exact ⟨_, h.isLeast q, q.decided hfit⟩
  unmoved q hfails later := by
    cases hop : q.run r.pool with
    | ok b pool =>
        rw [Operation.answer, hop] at hfails
        cases hfails
    | error e pool => rw [call_error hop]

end BufferRun

/-- After every list of requests, met or not, over a pool whose bus addresses have 64 bits: the buffers lie apart and
within reach, the limits alone decide what is granted next, and a request that fails is of no consequence. -/
theorem buffers_apart_in_reach (info : DmaInfo) (start : Nat) (hfit : info.base + info.size < wordLimit)
    (requests : List BufferRequest) : (BufferRun.of info start requests).Orderly info start :=
  ((BufferRun.kept_start info start).callAll requests).orderly hfit

/-- The last 256 bytes within reach, in a pool that goes on beyond them.  The second buffer would end out of reach and
the third out of the pool; the fourth ends at the limit. -/
theorem buffers_apart_in_reach_limits :
    let info : DmaInfo := ⟨0xffffff00, 4096⟩
    let requests : List BufferRequest := [⟨10, 16, by decide, by decide⟩, ⟨256, 16, by decide, by decide⟩,
      ⟨4096, 16, by decide, by decide⟩, ⟨240, 16, by decide, by decide⟩]
    info.base + info.size < wordLimit ∧
      (BufferRun.of info 0 []).answers requests = [.ok ⟨0, 0xffffff00⟩,
        .error (.invalid (.unreachable 0xffffff10)), .error (.full (.dmaPool 4096 4080)), .ok ⟨16, 0xffffff10⟩] ∧
      (BufferRun.of info 0 requests).Orderly info 0 :=
  ⟨by decide, by decide +kernel, buffers_apart_in_reach _ 0 (by decide) _⟩

end ControlPlane
