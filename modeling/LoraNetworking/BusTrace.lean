import LoraNetworking.SpiPort

/-! The accesses of a run in order: the platform of `spi_port.c` and `sx127x_timer.c` with a log
of the transactions and of the calls of the timer. -/

namespace LoraNetworking

open StateProg

inductive BusAccess
  | write (reg : UInt8) (data : List UInt8) (ret : Sx127xErr)
  | read (reg : UInt8) (len : ℕ) (ret : Sx127xErr) (stored : List (Option UInt8))
  | time (us : ℤ)
  | delay (ms : ℕ)
  deriving DecidableEq

def BusAccess.Returned (ret : Sx127xErr) : BusAccess → Prop
  | .write _ _ code => code = ret
  | .read _ _ code _ => code = ret
  | _ => False

def BusAccess.succeeded (w : UInt8 × UInt8) : BusAccess := .write w.1 [w.2] .sxOk

structure Recorded (ω : Type) where
  world : ω
  readings : ℕ → ℤ
  ticks : ℕ
  log : List BusAccess

variable {ω : Type}

def SpiPort.recorded (port : SpiPort ω) : SpiPort (Recorded ω) where
  writer reg data r :=
    let out := port.writer reg data r.world
    (out.1, { r with world := out.2, log := r.log ++ [.write reg data out.1] })
  reader reg len r :=
    let out := port.reader reg len r.world
    (out.1, { r with world := out.2, log := r.log ++ [.read reg len out.1.1 out.1.2] })
  initialized := port.initialized

def stopwatch : Sx127xTimerCtx (Recorded ω) where
  timer r :=
    (r.readings r.ticks,
      { r with ticks := r.ticks + 1, log := r.log ++ [.time (r.readings r.ticks)] })
  delayer ms r := { r with log := r.log ++ [.delay ms] }

structure Bench (port : SpiPort ω) (m : Machine (Recorded ω)) : Prop where
  spiPort : m.sx127xSpiPort = port.recorded
  timerCtx : m.sx127xTimerCtx = stopwatch
  enabled : port.initialized = true

def Recorded.accessed (r : Recorded ω) (world : ω) (access : BusAccess) : Recorded ω :=
  { r with world := world, log := r.log ++ [access] }

def Machine.accessed (m : Machine (Recorded ω)) (world : ω) (access : BusAccess) :
    Machine (Recorded ω) :=
  { m with world := m.world.accessed world access }

def Machine.timed (m : Machine (Recorded ω)) : Machine (Recorded ω) :=
  { m with world := (stopwatch.timer m.world).2 }

section Accesses

variable {port : SpiPort ω} {m t : Machine (Recorded ω)} {world : ω} {access : BusAccess} {a : Sx127xErr}
  {reg x : UInt8}

@[simp] lemma accessed_world : (m.accessed world access).world.world = world := rfl

@[simp] lemma accessed_log : (m.accessed world access).world.log = m.world.log ++ [access] := rfl

@[simp] lemma accessed_readings : (m.accessed world access).world.readings = m.world.readings := rfl

@[simp] lemma accessed_ticks : (m.accessed world access).world.ticks = m.world.ticks := rfl

@[simp] lemma timed_world : m.timed.world.world = m.world.world := rfl

@[simp] lemma timed_log :
    m.timed.world.log = m.world.log ++ [.time (m.world.readings m.world.ticks)] := rfl

@[simp] lemma timed_readings : m.timed.world.readings = m.world.readings := rfl

@[simp] lemma timed_ticks : m.timed.world.ticks = m.world.ticks + 1 := rfl

lemma Bench.accessed (h : Bench port m) (world : ω) (access : BusAccess) :
    Bench port (m.accessed world access) :=
  ⟨h.spiPort, h.timerCtx, h.enabled⟩

lemma Bench.timed (h : Bench port m) : Bench port m.timed := ⟨h.spiPort, h.timerCtx, h.enabled⟩

lemma recorded_write (h : m.sx127xSpiPort = port.recorded) (reg : UInt8) (data : List UInt8) :
    spiBurstWriteReg reg data m =
      .ok (if port.initialized = false then (.sxUnitUnitialized, m)
        else ((port.writer reg data m.world.world).1,
          m.accessed (port.writer reg data m.world.world).2
            (.write reg data (port.writer reg data m.world.world).1))) := by
  obtain ⟨world, spiPort, timerCtx, loraBandwidthHz, spreadingFactor⟩ := m
  obtain rfl : spiPort = port.recorded := h
  rfl

lemma recorded_read (h : m.sx127xSpiPort = port.recorded) (reg : UInt8) (len : ℕ) :
    spiBurstReadReg reg len m =
      .ok (if port.initialized = false then ((.sxUnitUnitialized, []), m)
        else (((port.reader reg len m.world.world).1.1, (port.reader reg len m.world.world).1.2.take len),
          m.accessed (port.reader reg len m.world.world).2
            (.read reg len (port.reader reg len m.world.world).1.1
              (port.reader reg len m.world.world).1.2))) := by
  obtain ⟨world, spiPort, timerCtx, loraBandwidthHz, spreadingFactor⟩ := m
  obtain rfl : spiPort = port.recorded := h
  rfl

lemma Bench.write (h : Bench port m) (reg : UInt8) (data : List UInt8) :
    spiBurstWriteReg reg data m =
      .ok ((port.writer reg data m.world.world).1,
        m.accessed (port.writer reg data m.world.world).2
          (.write reg data (port.writer reg data m.world.world).1)) := by
  rw [recorded_write h.spiPort, if_neg (by rw [h.enabled]; decide)]

lemma Bench.read (h : Bench port m) (reg : UInt8) (len : ℕ) :
    spiBurstReadReg reg len m =
      .ok (((port.reader reg len m.world.world).1.1, (port.reader reg len m.world.world).1.2.take len),
        m.accessed (port.reader reg len m.world.world).2
          (.read reg len (port.reader reg len m.world.world).1.1
            (port.reader reg len m.world.world).1.2)) := by
  rw [recorded_read h.spiPort, if_neg (by rw [h.enabled]; decide)]

lemma Bench.readByte (h : Bench port m) (reg data : UInt8) :
    spiReadByte reg data m =
      .ok (((port.reader reg 1 m.world.world).1.1,
          (((port.reader reg 1 m.world.world).1.2.take 1).head?.join).getD data),
        m.accessed (port.reader reg 1 m.world.world).2
          (.read reg 1 (port.reader reg 1 m.world.world).1.1 (port.reader reg 1 m.world.world).1.2)) := by
  rw [spiReadByte, Prog.bind_of_ok (h.read reg 1)]
  rfl

lemma Bench.time (h : Bench port m) :
    sx127xTimerGetTimeUs m = .ok (m.world.readings m.world.ticks, m.timed) := by
  obtain ⟨world, spiPort, timerCtx, loraBandwidthHz, spreadingFactor⟩ := m
  obtain rfl : timerCtx = stopwatch := h.timerCtx
  rfl

lemma Bench.delay (h : Bench port m) (ms : ℕ) :
    sx127xTaskDelayMs ms m = .ok ((), m.accessed m.world.world (.delay ms)) := by
  obtain ⟨world, spiPort, timerCtx, loraBandwidthHz, spreadingFactor⟩ := m
  obtain rfl : timerCtx = stopwatch := h.timerCtx
  rfl

end Accesses

/-- The hardware gives exactly these answers to these accesses when it starts in `w`. -/
def Replays (port : SpiPort ω) : ω → List BusAccess → ω → Prop
  | w, [], w' => w = w'
  | w, .write reg data ret :: rest, w' =>
    (port.writer reg data w).1 = ret ∧ Replays port (port.writer reg data w).2 rest w'
  | w, .read reg len ret stored :: rest, w' =>
    (port.reader reg len w).1 = (ret, stored) ∧ Replays port (port.reader reg len w).2 rest w'
  | w, .time _ :: rest, w' => Replays port w rest w'
  | w, .delay _ :: rest, w' => Replays port w rest w'

structure Ran (port : SpiPort ω) (m t : Machine (Recorded ω)) (accesses : List BusAccess) : Prop where
  log : t.world.log = m.world.log ++ accesses
  replays : Replays port m.world.world accesses t.world.world
  bench : Bench port t

def Emits {α : Type} (port : SpiPort ω) (x : Radio (Recorded ω) α) (P : α → List BusAccess → Prop) : Prop :=
  ∀ m a t, Bench port m → x m = .ok (a, t) → ∃ accesses, Ran port m t accesses ∧ P a accesses

section Emissions

variable {α β : Type} {port : SpiPort ω} {w w₁ w₂ : ω} {es es' : List BusAccess}

lemma Replays.append (h : Replays port w es w₁) (h' : Replays port w₁ es' w₂) :
    Replays port w (es ++ es') w₂ := by
  induction es generalizing w with
  | nil =>
    obtain rfl : w = w₁ := h
    exact h'
  | cons access es ih =>
    cases access with
    | write reg data ret => exact ⟨h.1, ih h.2⟩
    | read reg len ret stored => exact ⟨h.1, ih h.2⟩
    | time us => exact ih h
    | delay ms => exact ih h

lemma Replays.split (h : Replays port w (es ++ es') w₂) :
    ∃ w₁, Replays port w es w₁ ∧ Replays port w₁ es' w₂ := by
  induction es generalizing w with
  | nil => exact ⟨w, rfl, h⟩
  | cons access es ih =>
    cases access with
    | write reg data ret =>
      obtain ⟨w₁, hes, hes'⟩ := ih h.2
      exact ⟨w₁, ⟨h.1, hes⟩, hes'⟩
    | read reg len ret stored =>
      obtain ⟨w₁, hes, hes'⟩ := ih h.2
      exact ⟨w₁, ⟨h.1, hes⟩, hes'⟩
    | time us => exact ih h
    | delay ms => exact ih h

variable {m t u : Machine (Recorded ω)} {x : Radio (Recorded ω) α} {f : α → Radio (Recorded ω) β}
  {P : α → List BusAccess → Prop} {Q : β → List BusAccess → Prop}

lemma Ran.refl (h : Bench port m) : Ran port m m [] := ⟨(List.append_nil _).symm, rfl, h⟩

lemma Ran.trans (h : Ran port m t es) (h' : Ran port t u es') : Ran port m u (es ++ es') :=
  ⟨by rw [h'.log, h.log, List.append_assoc], h.replays.append h'.replays, h'.bench⟩

lemma Emits.pure {a : α} (h : P a []) : Emits port (Pure.pure a) P := by
  intro m b t hm ht
  obtain ⟨rfl, rfl⟩ : a = b ∧ m = t := by simpa using ht
  exact ⟨[], .refl hm, h⟩

lemma Emits.bind (hx : Emits port x P)
    (hf : ∀ a es, P a es → Emits port (f a) fun b es' => Q b (es ++ es')) : Emits port (x >>= f) Q := by
  intro m b u hm hu
  obtain ⟨a, t, hxm, hft⟩ := Prog.bind_ok.mp hu
  obtain ⟨es, hran, hP⟩ := hx m a t hm hxm
  obtain ⟨es', hran', hQ⟩ := hf a es hP t b u hran.bench hft
  exact ⟨es ++ es', hran.trans hran', hQ⟩

lemma Emits.ite {c : Prop} [Decidable c] {y : Radio (Recorded ω) α} (hx : c → Emits port x P)
    (hy : ¬ c → Emits port y P) : Emits port (if c then x else y) P := by
  split_ifs with hc
  · exact hx hc
  · exact hy hc

lemma Emits.write (reg : UInt8) (data : List UInt8) :
    Emits port (spiBurstWriteReg reg data) fun ret es => es = [.write reg data ret] := by
  intro m ret t hm h
  rw [hm.write] at h
  obtain ⟨rfl, rfl⟩ : _ = ret ∧ _ = t := by simpa using h
  exact ⟨_, ⟨rfl, ⟨rfl, rfl⟩, hm.accessed _ _⟩, rfl⟩

lemma Emits.read (reg : UInt8) (len : ℕ) :
    Emits port (spiBurstReadReg reg len) fun out es =>
      ∃ stored, es = [.read reg len out.1 stored] ∧ out.2 = stored.take len := by
  intro m out t hm h
  rw [hm.read] at h
  obtain ⟨rfl, rfl⟩ : _ = out ∧ _ = t := by simpa using h
  exact ⟨_, ⟨rfl, ⟨rfl, rfl⟩, hm.accessed _ _⟩, _, rfl, rfl⟩

def storedByte (stored : List (Option UInt8)) (data : UInt8) : UInt8 :=
  ((stored.take 1).head?.join).getD data

lemma Emits.readByte (reg data : UInt8) :
    Emits port (spiReadByte reg data) fun out es =>
      ∃ stored, es = [.read reg 1 out.1 stored] ∧ out.2 = storedByte stored data := by
  intro m out t hm h
  rw [hm.readByte] at h
  obtain ⟨rfl, rfl⟩ : _ = out ∧ _ = t := by simpa using h
  exact ⟨_, ⟨rfl, ⟨rfl, rfl⟩, hm.accessed _ _⟩, _, rfl, rfl⟩

lemma Emits.time : Emits port sx127xTimerGetTimeUs fun us es => es = [.time us] := by
  intro m us t hm h
  rw [hm.time] at h
  obtain ⟨rfl, rfl⟩ : _ = us ∧ _ = t := by simpa using h
  exact ⟨_, ⟨rfl, rfl, hm.timed⟩, rfl⟩

lemma Emits.delay (ms : ℕ) : Emits port (sx127xTaskDelayMs ms) fun _ es => es = [.delay ms] := by
  intro m a t hm h
  rw [hm.delay] at h
  obtain rfl : _ = t := by simpa using h
  exact ⟨_, ⟨rfl, rfl, hm.accessed _ _⟩, rfl⟩

end Emissions

end LoraNetworking
