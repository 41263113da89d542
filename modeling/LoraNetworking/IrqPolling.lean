import LoraNetworking.BusTrace
import LoraNetworking.Sx127xDriver

/-! The two polls of the interrupt register on one stream of reads: when they end, with what,
and what they do to the bus until then. -/

namespace LoraNetworking

open StateProg

inductive IrqRead
  | byte (irq : UInt8)
  | failed (ret : Sx127xErr) (h : ret ≠ .sxOk)

structure IrqStream where
  irqReads : ℕ → IrqRead
  reads : ℕ
  writeResults : ℕ → Sx127xErr
  writes : ℕ

def irqPort : SpiPort IrqStream where
  writer _ _ s := (s.writeResults s.writes, { s with writes := s.writes + 1 })
  reader _ _ s :=
    (match s.irqReads s.reads with
      | .byte irq => (.sxOk, [some irq])
      | .failed ret _ => (ret, []),
    { s with reads := s.reads + 1 })
  initialized := true

def irqAt (m : Machine (Recorded IrqStream)) (i : ℕ) : IrqRead :=
  m.world.world.irqReads (m.world.world.reads + i)

def timeAt (m : Machine (Recorded IrqStream)) (i : ℕ) : ℤ := m.world.readings (m.world.ticks + i)

def untimedExit (mask : UInt8) (m : Machine (Recorded IrqStream)) (i : ℕ) : Option Sx127xErr :=
  match irqAt m i with
  | .failed ret _ => some ret
  | .byte irq => if irq &&& mask ≠ 0 then some .sxOk else none

def loopExit (mask : UInt8) (start timeoutUs : ℤ) (m : Machine (Recorded IrqStream)) (i : ℕ) :
    Option Sx127xErr :=
  (untimedExit mask m i).or (if timeAt m i - start > timeoutUs then some .sxTimeout else none)

def effectiveTimeoutUs (timeoutMs : ℕ) : ℤ := (if timeoutMs = 0 then 3000 else timeoutMs : ℕ) * 1000

/-- How round `i` of the timed poll ends it, if it does. The first reading of the timer is taken
before the first round. -/
def timedExit (mask : UInt8) (timeoutMs : ℕ) (m : Machine (Recorded IrqStream)) (i : ℕ) :
    Option Sx127xErr :=
  (untimedExit mask m i).or
    (if timeAt m (i + 1) - timeAt m 0 > effectiveTimeoutUs timeoutMs then some .sxTimeout else none)

def FirstExit (exit : ℕ → Option Sx127xErr) (j : ℕ) (ret : Sx127xErr) : Prop :=
  exit j = some ret ∧ ∀ i < j, exit i = none

def readsOf (accesses : List BusAccess) : List UInt8 :=
  accesses.filterMap fun
    | .read reg _ _ _ => some reg
    | _ => none

def delaysOf (accesses : List BusAccess) : List ℕ :=
  accesses.filterMap fun
    | .delay ms => some ms
    | _ => none

def writesOf (accesses : List BusAccess) : List (UInt8 × List UInt8) :=
  accesses.filterMap fun
    | .write reg data _ => some (reg, data)
    | _ => none

structure Polled (pollIntervalMs : ℕ) (cleanup : Bool) (j : ℕ) (accesses : List BusAccess) : Prop where
  reads : readsOf accesses = List.replicate (j + 1) 0x12
  delays : delaysOf accesses = List.replicate j pollIntervalMs
  writes : writesOf accesses = if cleanup then [(0x12, [0xFF])] else []
  last : cleanup = true → ∃ ret, accesses.getLast? = some (.write 0x12 [0xFF] ret)

def cleanupAccesses (cleanup : Bool) (ret : Sx127xErr) : List BusAccess :=
  if cleanup then [.write 0x12 [0xFF] ret] else []

section Rounds

variable {interval j : ℕ} {cleanup : Bool} {accesses : List BusAccess} {ret : Sx127xErr}
  {stored : List (Option UInt8)} {us : ℤ} {exit : ℕ → Option Sx127xErr}

lemma FirstExit.zero (h : FirstExit exit j ret) (code : Sx127xErr) (hcode : exit 0 = some code) :
    j = 0 ∧ ret = code := by
  have hj : j = 0 := by
    by_contra hne
    have hnone := h.2 0 (Nat.pos_of_ne_zero hne)
    rw [hcode] at hnone
    exact absurd hnone (by simp)
  refine ⟨hj, ?_⟩
  have hret := h.1
  rw [hj, hcode] at hret
  exact (Option.some.inj hret).symm

lemma FirstExit.next (h : FirstExit exit j ret) (hnone : exit 0 = none) :
    ∃ k, j = k + 1 ∧ FirstExit (fun i => exit (i + 1)) k ret := by
  cases j with
  | zero =>
    have hret := h.1
    rw [hnone] at hret
    exact absurd hret (by simp)
  | succ k => exact ⟨k, rfl, h.1, fun i hi => h.2 (i + 1) (by omega)⟩

lemma polled_last (ret code : Sx127xErr) (stored : List (Option UInt8)) (interval : ℕ) (cleanup : Bool) :
    Polled interval cleanup 0 (.read 0x12 1 ret stored :: cleanupAccesses cleanup code) := by
  cases cleanup with
  | true => exact ⟨rfl, rfl, rfl, fun _ => ⟨code, rfl⟩⟩
  | false => exact ⟨rfl, rfl, rfl, fun h => absurd h (by simp)⟩

lemma polled_expired (ret code : Sx127xErr) (stored : List (Option UInt8)) (us : ℤ) (interval : ℕ)
    (cleanup : Bool) :
    Polled interval cleanup 0 (.read 0x12 1 ret stored :: .time us :: cleanupAccesses cleanup code) := by
  cases cleanup with
  | true => exact ⟨rfl, rfl, rfl, fun _ => ⟨code, rfl⟩⟩
  | false => exact ⟨rfl, rfl, rfl, fun h => absurd h (by simp)⟩

lemma Polled.round (h : Polled interval cleanup j accesses) (before : List BusAccess)
    (hreads : readsOf before = [0x12]) (hdelays : delaysOf before = [interval])
    (hwrites : writesOf before = []) : Polled interval cleanup (j + 1) (before ++ accesses) := by
  refine ⟨?_, ?_, ?_, fun hcleanup => ?_⟩
  · rw [readsOf, List.filterMap_append, ← readsOf, ← readsOf, hreads, h.reads]
    rfl
  · rw [delaysOf, List.filterMap_append, ← delaysOf, ← delaysOf, hdelays, h.delays]
    rfl
  · rw [writesOf, List.filterMap_append, ← writesOf, ← writesOf, hwrites, h.writes]
    rfl
  · obtain ⟨code, hlast⟩ := h.last hcleanup
    exact ⟨code, by rw [List.getLast?_append, hlast]; rfl⟩

end Rounds

section Polls

variable {m : Machine (Recorded IrqStream)} {fuel interval timeoutMs j : ℕ} {cleanup : Bool} {irq mask : UInt8}
  {ret : Sx127xErr} {start timeoutUs : ℤ}

lemma irqCleanup_run (h : Bench irqPort m) (cleanup : Bool) :
    ∃ code t, irqCleanup cleanup m = .ok ((), t) ∧
      t.world.log = m.world.log ++ cleanupAccesses cleanup code := by
  cases cleanup with
  | true =>
    have hrun := h.write 0x12 [0xFF]
    exact ⟨_, _, (Prog.bind_of_ok hrun).trans rfl, accessed_log⟩
  | false => exact ⟨.sxOk, m, rfl, by simp [cleanupAccesses]⟩

def afterRead (m : Machine (Recorded IrqStream)) (irq : UInt8) : Machine (Recorded IrqStream) :=
  m.accessed { m.world.world with reads := m.world.world.reads + 1 } (.read 0x12 1 .sxOk [some irq])

lemma readIrq_byte (h : Bench irqPort m) {b : UInt8} (hb : irqAt m 0 = .byte b) (irq : UInt8) :
    spiReadByte 0x12 irq m = .ok ((.sxOk, b), afterRead m b) := by
  rw [irqAt, Nat.add_zero] at hb
  rw [h.readByte]
  simp [irqPort, hb, afterRead]

lemma readIrq_failed (h : Bench irqPort m) {hret : ret ≠ .sxOk} (hb : irqAt m 0 = .failed ret hret)
    (irq : UInt8) :
    ∃ t, spiReadByte 0x12 irq m = .ok ((ret, irq), t) ∧ Bench irqPort t ∧
      t.world.log = m.world.log ++ [.read 0x12 1 ret []] := by
  rw [irqAt, Nat.add_zero] at hb
  rw [h.readByte]
  simp only [irqPort, hb]
  exact ⟨_, rfl, h.accessed _ _, rfl⟩

def afterRound (m : Machine (Recorded IrqStream)) (irq : UInt8) (interval : ℕ) :
    Machine (Recorded IrqStream) :=
  (afterRead m irq).timed.accessed (afterRead m irq).world.world (.delay interval)

lemma irqAt_afterRound (b : UInt8) (interval i : ℕ) :
    irqAt (afterRound m b interval) i = irqAt m (i + 1) := by
  rw [irqAt, irqAt, Nat.add_comm i 1, ← Nat.add_assoc]
  rfl

lemma timeAt_afterRound (b : UInt8) (interval i : ℕ) :
    timeAt (afterRound m b interval) i = timeAt m (i + 1) := by
  rw [timeAt, timeAt, Nat.add_comm i 1, ← Nat.add_assoc]
  rfl

lemma loopExit_afterRound (b : UInt8) (interval i : ℕ) :
    loopExit mask start timeoutUs (afterRound m b interval) i = loopExit mask start timeoutUs m (i + 1) := by
  rw [loopExit, loopExit, untimedExit, untimedExit, irqAt_afterRound, timeAt_afterRound]

lemma afterRound_log (b : UInt8) (interval : ℕ) :
    (afterRound m b interval).world.log =
      m.world.log ++ [.read 0x12 1 .sxOk [some b], .time (timeAt m 0), .delay interval] := by
  rw [afterRound, accessed_log, timed_log, afterRead, accessed_log, List.append_assoc, List.append_assoc]
  rfl

lemma timedLoop_exit (h : Bench irqPort m) (interval : ℕ) (cleanup : Bool) (irq : UInt8) (hj : j < fuel)
    (hexit : FirstExit (loopExit mask start timeoutUs m) j ret) :
    ∃ accesses t, pollForIrqFlagLoop start timeoutUs interval mask cleanup fuel irq m = .ok (ret, t) ∧
      t.world.log = m.world.log ++ accesses ∧ Polled interval cleanup j accesses := by
  induction fuel generalizing j m irq with
  | zero => exact absurd hj (Nat.not_lt_zero j)
  | succ fuel ih =>
    cases hirq : irqAt m 0 with
    | failed code hcode =>
      obtain ⟨rfl, rfl⟩ := hexit.zero code (by simp [loopExit, untimedExit, hirq])
      obtain ⟨s, hread, hs, hlog⟩ := readIrq_failed h hirq irq
      obtain ⟨r, t, hclean, hlog'⟩ := irqCleanup_run hs cleanup
      refine ⟨_, t, ?_, by rw [hlog', hlog, List.append_assoc]; rfl, polled_last _ r _ _ _⟩
      rw [pollForIrqFlagLoop, Prog.bind_of_ok hread]
      dsimp only
      rw [if_pos hcode, Prog.bind_of_ok hclean]
      rfl
    | byte b =>
      have hs : Bench irqPort (afterRead m b) := h.accessed _ _
      rw [pollForIrqFlagLoop, Prog.bind_of_ok (readIrq_byte h hirq irq)]
      dsimp only
      rw [if_neg (not_not.mpr rfl)]
      by_cases hmask : b &&& mask ≠ 0
      · obtain ⟨rfl, rfl⟩ := hexit.zero .sxOk (by simp [loopExit, untimedExit, hirq, hmask])
        obtain ⟨r, t, hclean, hlog⟩ := irqCleanup_run hs cleanup
        refine ⟨_, t, ?_, by rw [hlog, afterRead, accessed_log, List.append_assoc]; rfl,
          polled_last _ r _ _ _⟩
        rw [if_pos hmask, Prog.bind_of_ok hclean]
        rfl
      rw [if_neg hmask, Prog.bind_of_ok hs.time]
      by_cases hlate : timeAt m 0 - start > timeoutUs
      · obtain ⟨rfl, rfl⟩ := hexit.zero .sxTimeout
          (by simp [loopExit, untimedExit, hirq, not_not.mp hmask, hlate])
        obtain ⟨r, t, hclean, hlog⟩ := irqCleanup_run hs.timed cleanup
        refine ⟨_, t, ?_, by rw [hlog, timed_log, afterRead, accessed_log, List.append_assoc,
          List.append_assoc]; rfl, polled_expired _ r _ _ _ _⟩
        rw [if_pos (by exact hlate), Prog.bind_of_ok hclean]
        rfl
      obtain ⟨k, rfl, hnext⟩ := hexit.next (by simp [loopExit, untimedExit, hirq, not_not.mp hmask, hlate])
      rw [if_neg (by exact hlate), Prog.bind_of_ok (hs.timed.delay interval)]
      simp only [← loopExit_afterRound b interval] at hnext
      obtain ⟨accesses, t, hrun, hlog, hpolled⟩ :=
        ih (m := afterRound m b interval) (hs.timed.accessed _ _) b (by omega) hnext
      refine ⟨_, t, hrun, ?_, hpolled.round
        [.read 0x12 1 .sxOk [some b], .time (timeAt m 0), .delay interval] rfl rfl rfl⟩
      rw [hlog, afterRound_log, List.append_assoc]

lemma timedLoop_running (h : Bench irqPort m) (irq : UInt8)
    (hnone : ∀ i < fuel, loopExit mask start timeoutUs m i = none) :
    pollForIrqFlagLoop start timeoutUs interval mask cleanup fuel irq m = .error .running := by
  induction fuel generalizing m irq with
  | zero => rfl
  | succ fuel ih =>
    have hzero := hnone 0 (Nat.succ_pos fuel)
    cases hirq : irqAt m 0 with
    | failed code hcode => exact absurd hzero (by simp [loopExit, untimedExit, hirq])
    | byte b =>
      have hs : Bench irqPort (afterRead m b) := h.accessed _ _
      have hmask : ¬ b &&& mask ≠ 0 := fun hset =>
        absurd hzero (by simp [loopExit, untimedExit, hirq, hset])
      have hlate : ¬ timeAt m 0 - start > timeoutUs := fun hlate =>
        absurd hzero (by simp [loopExit, untimedExit, hirq, not_not.mp hmask, hlate])
      rw [pollForIrqFlagLoop, Prog.bind_of_ok (readIrq_byte h hirq irq)]
      dsimp only
      rw [if_neg (not_not.mpr rfl), if_neg hmask, Prog.bind_of_ok hs.time, if_neg (by exact hlate),
        Prog.bind_of_ok (hs.timed.delay interval)]
      apply ih (m := afterRound m b interval) (hs.timed.accessed _ _)
      intro i hi
      rw [loopExit_afterRound]
      exact hnone (i + 1) (by omega)

lemma untimedExit_accessed (b : UInt8) (ms i : ℕ) :
    untimedExit mask ((afterRead m b).accessed (afterRead m b).world.world (.delay ms)) i =
      untimedExit mask m (i + 1) := by
  rw [untimedExit, untimedExit, irqAt, irqAt, Nat.add_comm i 1, ← Nat.add_assoc]
  rfl

lemma untimedLoop_exit (h : Bench irqPort m) (interval : ℕ) (cleanup : Bool) (irq : UInt8) (hj : j < fuel)
    (hexit : FirstExit (untimedExit mask m) j ret) :
    ∃ accesses t, pollForIrqFlagNoTimeout interval mask cleanup fuel irq m = .ok (ret, t) ∧
      t.world.log = m.world.log ++ accesses ∧ Polled interval cleanup j accesses := by
  induction fuel generalizing j m irq with
  | zero => exact absurd hj (Nat.not_lt_zero j)
  | succ fuel ih =>
    cases hirq : irqAt m 0 with
    | failed code hcode =>
      obtain ⟨rfl, rfl⟩ := hexit.zero code (by simp [untimedExit, hirq])
      obtain ⟨s, hread, hs, hlog⟩ := readIrq_failed h hirq irq
      obtain ⟨r, t, hclean, hlog'⟩ := irqCleanup_run hs cleanup
      refine ⟨_, t, ?_, by rw [hlog', hlog, List.append_assoc]; rfl, polled_last _ r _ _ _⟩
      rw [pollForIrqFlagNoTimeout, sx1278ReadIrq, Prog.bind_of_ok hread]
      dsimp only
      rw [if_pos hcode, Prog.bind_of_ok hclean]
      rfl
    | byte b =>
      have hs : Bench irqPort (afterRead m b) := h.accessed _ _
      rw [pollForIrqFlagNoTimeout, sx1278ReadIrq, Prog.bind_of_ok (readIrq_byte h hirq irq)]
      dsimp only
      rw [if_neg (not_not.mpr rfl)]
      by_cases hmask : b &&& mask ≠ 0
      · obtain ⟨rfl, rfl⟩ := hexit.zero .sxOk (by simp [untimedExit, hirq, hmask])
        obtain ⟨r, t, hclean, hlog⟩ := irqCleanup_run hs cleanup
        refine ⟨_, t, ?_, by rw [hlog, afterRead, accessed_log, List.append_assoc]; rfl,
          polled_last _ r _ _ _⟩
        rw [if_pos hmask, Prog.bind_of_ok hclean]
        rfl
      obtain ⟨k, rfl, hnext⟩ := hexit.next (by simp [untimedExit, hirq, not_not.mp hmask])
      rw [if_neg hmask, Prog.bind_of_ok (hs.delay interval)]
      simp only [← untimedExit_accessed b interval] at hnext
      obtain ⟨accesses, t, hrun, hlog, hpolled⟩ := ih (hs.accessed _ _) b (by omega) hnext
      refine ⟨_, t, hrun, ?_, hpolled.round [.read 0x12 1 .sxOk [some b], .delay interval] rfl rfl rfl⟩
      rw [hlog, accessed_log, afterRead, accessed_log, List.append_assoc, List.append_assoc]
      rfl

lemma timedExit_eq (i : ℕ) :
    loopExit mask (timeAt m 0) (effectiveTimeoutUs timeoutMs) m.timed i = timedExit mask timeoutMs m i := by
  rw [loopExit, timedExit, timeAt, timeAt, timed_ticks, Nat.add_assoc, Nat.add_comm 1 i]
  rfl

lemma FirstExit.untimed (h : FirstExit (timedExit mask timeoutMs m) j ret)
    (hret : ret ≠ .sxTimeout) : FirstExit (untimedExit mask m) j ret := by
  refine ⟨?_, fun i hi => ?_⟩
  · have hj := h.1
    rw [timedExit] at hj
    cases hexit : untimedExit mask m j with
    | some code => simpa [hexit] using hj
    | none => simp [hexit, hret.symm] at hj
  · have hi := h.2 i hi
    rw [timedExit, Option.or_eq_none_iff] at hi
    exact hi.1

lemma exists_firstExit {exit : ℕ → Option Sx127xErr} {n : ℕ} {code : Sx127xErr} (h : exit n = some code) :
    ∃ j ≤ n, ∃ ret, FirstExit exit j ret := by
  have hex : ∃ i, (exit i).isSome := ⟨n, by rw [h]; rfl⟩
  obtain ⟨ret, hret⟩ := Option.isSome_iff_exists.mp (Nat.find_spec hex)
  refine ⟨Nat.find hex, Nat.find_min' hex (by rw [h]; rfl), ret, hret, fun i hi => ?_⟩
  exact Option.not_isSome_iff_eq_none.mp (Nat.find_min hex hi)

lemma clock_advances {readings : ℕ → ℤ} (h : ∀ i, readings i + 1 ≤ readings (i + 1)) (n : ℕ) :
    readings 0 + n ≤ readings n := by
  induction n with
  | zero => simp
  | succ n ih =>
    have hn := h n
    push_cast
    omega

lemma effectiveTimeoutUs_nonneg (timeoutMs : ℕ) : 0 ≤ effectiveTimeoutUs timeoutMs := by
  rw [effectiveTimeoutUs]
  positivity

lemma timedExit_deadline (mask : UInt8) (timeoutMs : ℕ) (hclock : ∀ i, timeAt m i + 1 ≤ timeAt m (i + 1)) :
    ∃ code, timedExit mask timeoutMs m (effectiveTimeoutUs timeoutMs).toNat = some code := by
  have hlate := clock_advances hclock ((effectiveTimeoutUs timeoutMs).toNat + 1)
  have hnonneg := effectiveTimeoutUs_nonneg timeoutMs
  rw [timedExit, if_pos (by push_cast at hlate; omega)]
  cases untimedExit mask m (effectiveTimeoutUs timeoutMs).toNat with
  | some code => exact ⟨code, rfl⟩
  | none => exact ⟨.sxTimeout, rfl⟩

end Polls

section TimedPoll

variable {m m' : Machine (Recorded IrqStream)}

theorem timed_poll_exit (h : Bench irqPort m) (h' : Bench irqPort m')
    (hsame : ∀ i, irqAt m' i = irqAt m i) (timeoutMs interval interval' : ℕ) (mask : UInt8)
    (cleanup : Bool) :
    (∀ fuel, (∀ i < fuel, timedExit mask timeoutMs m i = none) →
      pollForIrqFlag fuel timeoutMs interval mask cleanup m = .error .running) ∧
    (∀ j ret, FirstExit (timedExit mask timeoutMs m) j ret → ∀ fuel, j < fuel →
      ∃ accesses t, pollForIrqFlag fuel timeoutMs interval mask cleanup m = .ok (ret, t) ∧
        t.world.log = m.world.log ++ .time (timeAt m 0) :: accesses ∧
        Polled (if interval = 0 then 2 else interval) cleanup j accesses ∧
        (ret ≠ .sxTimeout →
          ∃ accesses' t', pollForIrqFlagNoTimeout interval' mask cleanup fuel 0 m' = .ok (ret, t') ∧
            t'.world.log = m'.world.log ++ accesses' ∧ readsOf accesses' = readsOf accesses ∧
            writesOf accesses' = writesOf accesses)) ∧
    ((∀ i, timeAt m i + 1 ≤ timeAt m (i + 1)) →
      ∃ j ret, FirstExit (timedExit mask timeoutMs m) j ret ∧
        ((j + 1 : ℕ) : ℤ) ≤ effectiveTimeoutUs timeoutMs + 2) := by
  refine ⟨fun fuel hnone => ?_, fun j ret hexit fuel hj => ?_, fun hclock => ?_⟩
  · rw [pollForIrqFlag, Prog.bind_of_ok h.time]
    apply timedLoop_running h.timed 0
    intro i hi
    exact (timedExit_eq i).trans (hnone i hi)
  · have hloop : FirstExit (loopExit mask (timeAt m 0) (effectiveTimeoutUs timeoutMs) m.timed) j ret :=
      ⟨(timedExit_eq j).trans hexit.1, fun i hi => (timedExit_eq i).trans (hexit.2 i hi)⟩
    obtain ⟨accesses, t, hrun, hlog, hpolled⟩ :=
      timedLoop_exit h.timed (if interval = 0 then 2 else interval) cleanup 0 hj hloop
    refine ⟨accesses, t, ?_, ?_, hpolled, fun hret => ?_⟩
    · rw [pollForIrqFlag, Prog.bind_of_ok h.time]
      exact hrun
    · rw [hlog, timed_log, List.append_assoc]
      rfl
    · have huntimed := hexit.untimed hret
      have hsameExit : untimedExit mask m' = untimedExit mask m := by
        funext i
        rw [untimedExit, untimedExit, hsame]
      rw [← hsameExit] at huntimed
      obtain ⟨accesses', t', hrun', hlog', hpolled'⟩ :=
        untimedLoop_exit h' interval' cleanup 0 hj huntimed
      exact ⟨accesses', t', hrun', hlog', hpolled'.reads.trans hpolled.reads.symm,
        hpolled'.writes.trans hpolled.writes.symm⟩
  · obtain ⟨code, hcode⟩ := timedExit_deadline mask timeoutMs hclock
    obtain ⟨j, hj, ret, hexit⟩ := exists_firstExit hcode
    refine ⟨j, ret, hexit, ?_⟩
    have hnonneg := effectiveTimeoutUs_nonneg timeoutMs
    push_cast
    omega

def flagOnThirdRead (i : ℕ) : IrqRead := if i = 2 then .byte 0x08 else .byte 0x40

def irqBench (irqReads : ℕ → IrqRead) : Machine (Recorded IrqStream) where
  world := ⟨⟨irqReads, 0, fun _ => .sxOk, 0⟩, fun i => 300 * i, 0, []⟩
  sx127xSpiPort := irqPort.recorded
  sx127xTimerCtx := stopwatch
  loraBandwidthHz := 500000
  spreadingFactor := 7

theorem timed_poll_exit_third :
    Bench irqPort (irqBench flagOnThirdRead) ∧
      ∃ accesses t, pollForIrqFlag 4 1 0 0x08 true (irqBench flagOnThirdRead) = .ok (.sxOk, t) ∧
        t.world.log = .time 0 :: accesses ∧ Polled 2 true 2 accesses ∧
        ∃ accesses' t', pollForIrqFlagNoTimeout 5 0x08 true 4 0 (irqBench flagOnThirdRead) =
            .ok (.sxOk, t') ∧
          t'.world.log = accesses' ∧ readsOf accesses' = readsOf accesses ∧
          writesOf accesses' = writesOf accesses := by
  have hbench : Bench irqPort (irqBench flagOnThirdRead) := ⟨rfl, rfl, rfl⟩
  refine ⟨hbench, ?_⟩
  have hexit : FirstExit (timedExit 0x08 1 (irqBench flagOnThirdRead)) 2 .sxOk := ⟨by decide, by decide⟩
  obtain ⟨accesses, t, hrun, hlog, hpolled, hsame⟩ :=
    (timed_poll_exit hbench hbench (fun _ => rfl) 1 0 5 0x08 true).2.1 2 .sxOk hexit 4 (by decide)
  exact ⟨accesses, t, hrun, hlog, hpolled, hsame (by decide)⟩

end TimedPoll

end LoraNetworking
