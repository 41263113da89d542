import LoraNetworking.EspSpi

/-! What the callbacks do with the bus and with memory, over all runs of all applications: whatever
the allocator and the SPI master answer. -/

namespace LoraNetworking.Esp32

open StateProg

variable {ε α β : Type}

section Logs

variable {x : StateM (ε × List EspCall) α} {f : α → StateM (ε × List EspCall) β}
  {P : α → List EspCall → Prop} {Q : β → List EspCall → Prop} {s : Holding}

def Logs (x : StateM (ε × List EspCall) α) (P : α → List EspCall → Prop) : Prop :=
  ∀ w, ∃ calls, (x.run w).2.2 = w.2 ++ calls ∧ P (x.run w).1 calls

lemma Logs.pure {a : α} (h : P a []) : Logs (Pure.pure a : StateM (ε × List EspCall) α) P :=
  fun w => ⟨[], (List.append_nil w.2).symm, h⟩

lemma Logs.bind (hx : Logs x P) (hf : ∀ a calls, P a calls → Logs (f a) fun b calls' => Q b (calls ++ calls')) :
    Logs (x >>= f) Q := by
  intro w
  obtain ⟨calls, hlog, hP⟩ := hx w
  obtain ⟨calls', hlog', hQ⟩ := hf _ calls hP (x.run w).2
  exact ⟨calls ++ calls', by rw [← List.append_assoc, ← hlog]; exact hlog', hQ⟩

lemma Logs.mono {P' : α → List EspCall → Prop} (h : Logs x P) (himp : ∀ a calls, P a calls → P' a calls) :
    Logs x P' := by
  intro w
  obtain ⟨calls, hlog, hP⟩ := h w
  exact ⟨calls, hlog, himp _ _ hP⟩

lemma Logs.ite {c : Prop} [Decidable c] {y : StateM (ε × List EspCall) α} (hx : c → Logs x P) (hy : ¬ c → Logs y P) :
    Logs (if c then x else y) P := by
  split_ifs with hc
  · exact hx hc
  · exact hy hc

lemma Logs.noted (x : StateM ε α) (entry : α → EspCall) : Logs (noted x entry) fun a calls => calls = [entry a] :=
  fun w => ⟨[entry (x.run w.1).1], rfl, rfl⟩

@[simp] lemma follow_nil : follow s [] = some s := rfl

@[simp] lemma follow_cons (call : EspCall) (calls : List EspCall) :
    follow s (call :: calls) = (call.follow s).bind fun t => follow t calls := rfl

lemma follow_append (calls calls' : List EspCall) :
    follow s (calls ++ calls') = (follow s calls).bind fun t => follow t calls' := by
  rw [follow, List.foldlM_append]
  rfl

def Moves (s : Holding) (x : StateM (ε × List EspCall) α) (post : α → Holding) : Prop :=
  Logs x fun a calls => follow s calls = some (post a)

variable {post : α → Holding} {out : β → Holding}

lemma Moves.pure {a : α} (h : s = post a) : Moves s (Pure.pure a : StateM (ε × List EspCall) α) post :=
  Logs.pure (congrArg some h)

lemma Moves.bind (hx : Moves s x post) (hf : ∀ a, Moves (post a) (f a) out) : Moves s (x >>= f) out := by
  apply Logs.bind hx
  intro a calls hcalls
  apply (hf a).mono
  intro b calls' hcalls'
  rwa [follow_append, hcalls]

lemma Moves.ite {c : Prop} [Decidable c] {y : StateM (ε × List EspCall) α} (hx : c → Moves s x post)
    (hy : ¬ c → Moves s y post) : Moves s (if c then x else y) post := Logs.ite hx hy

lemma Moves.noted {x : StateM ε α} {entry : α → EspCall} (h : ∀ a, (entry a).follow s = some (post a)) :
    Moves s (noted x entry) post := by
  apply (Logs.noted x entry).mono
  rintro a calls rfl
  rw [follow_cons, h]
  rfl

end Logs

section Transfers

variable (idf : EspIdf ε) {held : List ℕ}

lemma acquire_moves : Moves ⟨false, held⟩ idf.logged.spiDeviceAcquireBus fun ret => ⟨ret = .espOk, held⟩ := by
  apply Moves.noted
  exact fun _ => rfl

lemma release_moves : Moves ⟨true, held⟩ idf.logged.spiDeviceReleaseBus fun _ => ⟨false, held⟩ := by
  change Moves _ (noted idf.spiDeviceReleaseBus fun _ => .releaseBus) _
  apply Moves.noted
  exact fun _ => rfl

lemma transmit_moves (t : SpiTransaction) :
    Moves ⟨true, held⟩ (idf.logged.spiDeviceTransmit t) fun _ => ⟨true, held⟩ := by
  change Moves _ (noted (idf.spiDeviceTransmit t) fun out => .transmit t out.1) _
  apply Moves.noted
  exact fun _ => rfl

lemma malloc_moves {bus : Bool} (size : ℕ) :
    Moves ⟨bus, held⟩ (idf.logged.heapCapsMalloc size) fun block => ⟨bus, block.toList ++ held⟩ := by
  apply Moves.noted
  exact fun _ => rfl

lemma free_moves {bus : Bool} {block : ℕ} (h : block ∈ held) :
    Moves ⟨bus, held⟩ (idf.logged.free block) fun _ => ⟨bus, held.erase block⟩ := by
  change Moves _ (noted (idf.free block) fun _ => .free block) _
  apply Moves.noted
  exact fun _ => if_pos h

lemma cleanup_moves (blocks : List (Option ℕ)) (h : blocks.reduceOption.Perm held) :
    Moves ⟨true, held⟩ (cleanup idf.logged blocks) fun _ => idle := by
  induction blocks generalizing held with
  | nil =>
    obtain rfl := List.nil_perm.mp h
    exact release_moves idf
  | cons block blocks ih =>
    cases block with
    | none => exact ih h
    | some block =>
      apply Moves.bind (free_moves idf (h.subset List.mem_cons_self))
      intro _
      exact ih (List.cons_perm_iff_perm_erase.mp h).2

lemma writeTransactions_moves (addr : UInt8) (data : List UInt8) :
    Moves ⟨true, held⟩ (writeTransactions idf.logged addr data) fun _ => ⟨true, held⟩ := by
  apply Moves.bind (transmit_moves idf _)
  intro _
  apply Moves.ite
  · exact fun _ => .pure rfl
  intro _
  apply Moves.bind (transmit_moves idf _)
  exact fun _ => .pure rfl

lemma espSpiWrite_moves (addr : UInt8) {data : List UInt8} (h : data ≠ []) :
    Moves idle (espSpiWrite idf.logged addr data) fun _ => idle := by
  have hlen : ¬ data.length ≤ 0 := not_le.mpr (List.length_pos_iff.mpr h)
  apply Moves.bind (acquire_moves idf)
  intro ret
  by_cases hret : ret = .espOk
  · rw [if_neg (not_not.mpr hret), decide_eq_true hret]
    apply Moves.bind (malloc_moves idf _)
    rintro (_ | dataDma)
    · exact (cleanup_moves idf [none, none] (List.Perm.refl _)).bind fun _ => .pure rfl
    rw [if_neg (Option.some_ne_none _), if_neg hlen]
    apply Moves.bind (malloc_moves idf _)
    rintro (_ | cmd)
    · exact (cleanup_moves idf [none, some dataDma] (List.Perm.refl _)).bind fun _ => .pure rfl
    rw [if_neg (Option.some_ne_none _)]
    apply Moves.bind (writeTransactions_moves idf addr data)
    exact fun _ => (cleanup_moves idf [some cmd, some dataDma] (List.Perm.refl _)).bind fun _ => .pure rfl
  · rw [if_pos hret, decide_eq_false hret]
    exact .pure rfl

/-- A write of no bytes that reports success keeps the bus, and a block that nobody can free. -/
lemma espSpiWrite_empty (addr : UInt8) : Logs (espSpiWrite idf.logged addr []) fun ret calls =>
    if ret = .espOk then ∃ block, follow idle calls = some ⟨true, [block]⟩ else follow idle calls = some idle := by
  apply Logs.bind (Logs.noted idf.spiDeviceAcquireBus .acquireBus)
  rintro ret _ rfl
  by_cases hret : ret = .espOk
  · subst hret
    apply Logs.bind (Logs.noted (idf.heapCapsMalloc 0) (.malloc 0))
    rintro (_ | dataDma) _ rfl
    · apply Logs.bind (cleanup_moves idf [none, none] (List.Perm.refl []))
      intro _ calls hcalls
      apply Logs.pure
      simpa [follow_append, EspCall.follow, idle] using hcalls
    · exact .pure ⟨dataDma, rfl⟩
  · rw [if_pos hret]
    apply Logs.pure
    simp [hret, EspCall.follow, idle]

/-- A read that fails before it holds the bus. It gives the bus back all the same, or goes on without it. -/
inductive FailedEarly : List EspCall → Prop
  | noDummy (len : ℕ) : FailedEarly [.malloc len none, .releaseBus]
  | noCmd (len dummy : ℕ) : FailedEarly [.malloc len (some dummy), .malloc 1 none, .free dummy, .releaseBus]
  | noBus {ret : EspErr} (len dummy cmd : ℕ) (t : SpiTransaction) (sent : EspErr) (rest : List EspCall)
      (refused : ret ≠ .espOk) : FailedEarly
        (.malloc len (some dummy) :: .malloc 1 (some cmd) :: .acquireBus ret :: .transmit t sent :: rest)

lemma FailedEarly.follow {calls : List EspCall} (h : FailedEarly calls) : follow idle calls = none := by
  cases h with
  | noDummy len => rfl
  | noCmd len dummy => simp [EspCall.follow, idle]
  | noBus len dummy cmd t sent rest refused => simp [EspCall.follow, idle, refused]

lemma readTransactions_logs (addr : UInt8) (len : ℕ) :
    Logs (readTransactions idf.logged addr len) fun out calls =>
      Esp32.follow ⟨true, held⟩ calls = some ⟨true, out.2.2.toList ++ held⟩ ∧
        ∃ t sent rest, calls = .transmit t sent :: rest := by
  apply Logs.bind (Logs.noted (idf.spiDeviceTransmit _) fun out => .transmit _ out.1)
  rintro sent calls rfl
  refine Logs.mono (?_ : Moves ⟨true, held⟩ _ fun out => ⟨true, out.2.2.toList ++ held⟩) ?_
  · apply Moves.ite
    · exact fun _ => .pure rfl
    intro _
    apply Moves.bind (malloc_moves idf len)
    intro retDataDma
    apply Moves.ite
    · exact fun _ => .pure rfl
    intro _
    apply Moves.bind (transmit_moves idf _)
    intro _
    apply Moves.ite
    · exact fun _ => .pure rfl
    · exact fun _ => .pure rfl
  · intro out calls hcalls
    exact ⟨hcalls, _, _, _, rfl⟩

lemma cleanup_logs (blocks : List (Option ℕ)) :
    Logs (cleanup idf.logged blocks) fun _ calls => calls = blocks.reduceOption.map .free ++ [.releaseBus] := by
  induction blocks with
  | nil => exact .noted _ _
  | cons block blocks ih =>
    cases block with
    | none => exact ih
    | some block =>
      apply Logs.bind (Logs.noted (idf.free block) fun _ => .free block)
      rintro _ calls rfl
      apply ih.mono
      rintro _ calls rfl
      rfl

lemma readRest_logs (addr : UInt8) (len dummy cmd : ℕ) :
    Logs (readTransactions idf.logged addr len >>= fun out =>
        cleanup idf.logged [out.2.2, some dummy, some cmd] >>= fun _ => pure (out.1, out.2.1)) fun _ calls =>
      Esp32.follow ⟨true, [cmd, dummy]⟩ calls = some idle ∧ ∃ t sent rest, calls = .transmit t sent :: rest := by
  apply Logs.bind (readTransactions_logs idf addr len)
  rintro ⟨ret, data, retDataDma⟩ calls ⟨hcalls, t, sent, rest, rfl⟩
  have hperm : [retDataDma, some dummy, some cmd].reduceOption.Perm (retDataDma.toList ++ [cmd, dummy]) := by
    cases retDataDma with
    | none => exact List.Perm.swap _ _ _
    | some block => exact (List.Perm.swap _ _ _).cons block
  have hclose : Moves ⟨true, _⟩ (cleanup idf.logged [retDataDma, some dummy, some cmd] >>= fun _ => pure (ret, data))
      fun _ => idle := (cleanup_moves idf _ hperm).bind fun _ => .pure rfl
  apply Logs.mono hclose
  intro _ calls hclean
  rw [follow_append, hcalls]
  exact ⟨hclean, t, sent, rest ++ calls, rfl⟩

lemma espSpiRead_logs (addr : UInt8) (len : ℕ) :
    Logs (espSpiRead idf.logged addr len) fun _ calls => Esp32.follow idle calls = some idle ∨ FailedEarly calls := by
  apply Logs.ite
  · exact fun _ => .pure (Or.inl rfl)
  intro _
  apply Logs.bind (Logs.noted (idf.heapCapsMalloc len) (.malloc len))
  rintro (_ | dummy) _ rfl
  · apply Logs.bind (cleanup_logs idf [none, none, none])
    rintro _ _ rfl
    exact .pure (Or.inr (.noDummy len))
  rw [if_neg (Option.some_ne_none _)]
  apply Logs.bind (Logs.noted (idf.heapCapsMalloc 1) (.malloc 1))
  rintro (_ | cmd) _ rfl
  · apply Logs.bind (cleanup_logs idf [none, some dummy, none])
    rintro _ _ rfl
    exact .pure (Or.inr (.noCmd len dummy))
  rw [if_neg (Option.some_ne_none _)]
  apply Logs.bind (Logs.noted idf.spiDeviceAcquireBus .acquireBus)
  rintro ret _ rfl
  apply (readRest_logs idf addr len dummy cmd).mono
  rintro _ calls ⟨hcalls, t, sent, rest, rfl⟩
  by_cases hret : ret = .espOk
  · rw [hret]
    exact Or.inl hcalls
  · exact Or.inr (.noBus len dummy cmd t sent rest hret)

end Transfers

section Runs

variable (idf : EspIdf ε)

def FailsEarly (log : List EspCall) : Prop :=
  ∃ before calls after, log = before ++ calls ++ after ∧ follow idle before = some idle ∧ FailedEarly calls

def Session (log : List EspCall) : Prop :=
  ∃ accesses : List (List EspCall), log = accesses.flatten ∧
    ∀ calls ∈ accesses, follow idle calls = some idle ∨ FailedEarly calls

lemma Session.snoc {log calls : List EspCall} (h : Session log)
    (hcalls : follow idle calls = some idle ∨ FailedEarly calls) : Session (log ++ calls) := by
  obtain ⟨accesses, rfl, hall⟩ := h
  refine ⟨accesses ++ [calls], by simp, ?_⟩
  rw [List.forall_mem_append, List.forall_mem_singleton]
  exact ⟨hall, hcalls⟩

lemma FailsEarly.follow {log : List EspCall} (h : FailsEarly log) : Esp32.follow idle log = none := by
  obtain ⟨before, calls, after, rfl, hbefore, hcalls⟩ := h
  rw [List.append_assoc, follow_append, hbefore, Option.bind_some, follow_append, hcalls.follow]
  rfl

lemma Session.follow_iff {log : List EspCall} (h : Session log) : follow idle log = some idle ↔ ¬ FailsEarly log := by
  constructor
  · intro hfollow hfails
    rw [hfails.follow] at hfollow
    exact absurd hfollow (Option.some_ne_none _).symm
  · obtain ⟨accesses, rfl, hall⟩ := h
    induction accesses with
    | nil => exact fun _ => rfl
    | cons calls rest ih =>
      rw [List.forall_mem_cons] at hall
      intro hfails
      rw [List.flatten_cons] at hfails ⊢
      obtain ⟨hclean | hearly, hrest⟩ := hall
      · rw [follow_append, hclean]
        apply ih hrest
        rintro ⟨before, early, after, hlog, hbefore, hearly⟩
        refine hfails ⟨calls ++ before, early, after, by simp [hlog], ?_, hearly⟩
        rw [follow_append, hclean]
        exact hbefore
      · exact absurd ⟨[], calls, rest.flatten, rfl, rfl, hearly⟩ hfails

lemma logged_alike : Alike (fun w w' => w = w' ∧ Session w.2) (platform idf.logged) (platform idf.logged) where
  initialized := rfl
  writes := by
    rintro w _ reg data ⟨rfl, hw⟩ - hdata
    have hmoves : Moves idle (loraSpiWrite idf.logged reg data) fun _ => idle :=
      (espSpiWrite_moves idf reg hdata).bind fun _ => .pure rfl
    obtain ⟨calls, hlog, hcalls⟩ := hmoves w
    exact ⟨rfl, rfl, hlog ▸ hw.snoc (Or.inl hcalls)⟩
  reads := by
    rintro w _ reg len ⟨rfl, hw⟩ -
    have hlogs : Logs (loraSpiRead idf.logged reg len) fun _ calls =>
        follow idle calls = some idle ∨ FailedEarly calls := by
      apply Logs.bind (espSpiRead_logs idf reg len)
      intro out calls hcalls
      apply Logs.pure
      rwa [List.append_nil]
    obtain ⟨calls, hlog, hcalls⟩ := hlogs w
    exact ⟨rfl, rfl, hlog ▸ hw.snoc hcalls⟩
  times := by
    rintro w _ ⟨rfl, hw⟩
    exact ⟨rfl, rfl, hw.snoc (Or.inl rfl)⟩
  delays := by
    rintro w _ ms ⟨rfl, hw⟩
    exact ⟨rfl, hw.snoc (Or.inl rfl)⟩

end Runs

/-- Over the run of an application, whatever the allocator and the SPI master answer: the bus is asked for, used
and released in order, each block is freed once, nobody sleeps on the bus, and nothing is held at the end. That is
so exactly when no read failed before it held the bus. -/
theorem bus_in_order (idf : EspIdf ε) (fuel : ℕ) (behind : ℕ → UInt8) (app : App α) (e : ε)
    (m : Machine (ε × List EspCall)) (rxBuffer : RxBuffer) (hspi : m.sx127xSpiPort = (platform idf.logged).spiPort)
    (htimer : m.sx127xTimerCtx = (platform idf.logged).timerCtx) (hworld : m.world = (e, [])) (a : α)
    (n : Node (Machine (ε × List EspCall)))
    (h : app.run fuel behind (platform idf.logged) ⟨m, rxBuffer⟩ = .ok (a, n)) :
    follow idle n.radio.world.2 = some idle ↔ ¬ FailsEarly n.radio.world.2 := by
  have hsession : Session m.world.2 := ⟨[], by rw [hworld]; rfl, by simp⟩
  have hsame : SameNode (SameDriver (fun w w' => w = w' ∧ Session w.2) (platform idf.logged) (platform idf.logged))
      ⟨m, rxBuffer⟩ ⟨m, rxBuffer⟩ :=
    ⟨⟨hspi, hspi, htimer, htimer, rfl, rfl, rfl, hsession⟩, rfl⟩
  obtain ⟨_, _, -, -, hend⟩ := (agree_app (logged_alike idf) fuel behind app _ _ hsame).of_ok h
  exact hend.1.world.2.follow_iff

def boardWithout (missing : ℕ) : EspIdf ℕ where
  spiDeviceAcquireBus := pure .espOk
  spiDeviceReleaseBus := pure ()
  spiDeviceTransmit t := pure (.espOk, t.txBuffer.map fun _ => 0x12)
  heapCapsMalloc _ := fun k => (if k = missing then none else some k, k + 1)
  free _ := pure ()
  espTimerGetTime := pure 0
  vTaskDelay _ := pure ()
  pdMsToTicks ms := ms / 10

def switchedOn {ω : Type} (f : Platform ω) (w : ω) : Machine ω := ⟨w, f.spiPort, f.timerCtx, 125000, 12⟩

theorem bus_in_order_write :
    let f := platform (boardWithout 4).logged
    let app : App Sx127xErr := .call .init .done
    ∃ n, app.run 1 (fun _ => 0) f ⟨switchedOn f (0, []), zeroBuffer⟩ = .ok (.sxInvalidState, n) ∧
      n.radio.world.2.length = 15 ∧ ¬ FailsEarly n.radio.world.2 := by
  intro f app
  obtain ⟨ret, n, hrun, rfl, hlength, hfollow⟩ := Prog.returns (x := app.run 1 (fun _ => 0) f)
    (s := ⟨switchedOn f (0, []), zeroBuffer⟩)
    (fun ret n => ret = .sxInvalidState ∧ n.radio.world.2.length = 15 ∧ follow idle n.radio.world.2 = some idle)
    (by decide +kernel)
  have horder := bus_in_order (boardWithout 4) 1 (fun _ => 0) app 0 _ zeroBuffer rfl rfl rfl _ n hrun
  exact ⟨n, hrun, hlength, horder.mp hfollow⟩

end LoraNetworking.Esp32
