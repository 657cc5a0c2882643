import SpoeForge.Server.Gate

/-!
# The order of the frames written

AGENT-HELLO comes first, then ACKs, then one AGENT-DISCONNECT. The read loop writes its
disconnect while tasks may still be alive, and two except* clauses may write one each: the
order holds along the runs in which neither happens.
-/

namespace SpoeForge

open Fallible Runs

/-! ### The shape -/

/-- At most one AGENT-HELLO, then ACKs, then at most one AGENT-DISCONNECT. -/
def FrameOrder (types : List FrameType) : Prop :=
  ∃ hello n disconnect, types = hello ++ List.replicate n .ack ++ disconnect ∧
    (hello = [] ∨ hello = [.agentHello]) ∧ (disconnect = [] ∨ disconnect = [.agentDisconnect])

theorem FrameOrder.nil : FrameOrder [] := ⟨[], 0, [], rfl, .inl rfl, .inl rfl⟩

theorem FrameOrder.hello : FrameOrder [.agentHello] :=
  ⟨[.agentHello], 0, [], rfl, .inr rfl, .inl rfl⟩

theorem FrameOrder.undisconnected {types : List FrameType} (h : FrameOrder types)
    (hd : .agentDisconnect ∉ types) : ∃ hello n, types = hello ++ List.replicate n .ack ∧
      (hello = [] ∨ hello = [.agentHello]) := by
  obtain ⟨hello, n, disconnect, rfl, hhello, rfl | rfl⟩ := h
  · exact ⟨hello, n, by simp, hhello⟩
  · simp at hd

theorem FrameOrder.ack {types : List FrameType} (h : FrameOrder types)
    (hd : .agentDisconnect ∉ types) : FrameOrder (types ++ [.ack]) := by
  obtain ⟨hello, n, rfl, hhello⟩ := h.undisconnected hd
  exact ⟨hello, n + 1, [], by simp [List.replicate_succ'], hhello, .inl rfl⟩

theorem FrameOrder.disconnect {types : List FrameType} (h : FrameOrder types)
    (hd : .agentDisconnect ∉ types) : FrameOrder (types ++ [.agentDisconnect]) := by
  obtain ⟨hello, n, rfl, hhello⟩ := h.undisconnected hd
  exact ⟨hello, n, [.agentDisconnect], rfl, hhello, .inr rfl⟩

/-- Nothing comes after the disconnect. -/
theorem FrameOrder.last {types : List FrameType} (h : FrameOrder types)
    (hd : .agentDisconnect ∈ types) : types.getLast? = some .agentDisconnect := by
  obtain ⟨hello, n, disconnect, rfl, hhello, rfl | rfl⟩ := h
  · rcases hhello with rfl | rfl <;> simp at hd
  · simp

def typesIn (log : List Entry) : List FrameType := (log.filterMap Entry.wrote?).map Frame.frameType

/-- The types of the frames written so far, in order. -/
def Conn.written (s : Conn) : List FrameType := typesIn s.log

theorem typesIn_append (l l' : List Entry) : typesIn (l ++ l') = typesIn l ++ typesIn l' := by
  simp [typesIn]

/-! ### The condition -/

/-- The handler of the task has returned, and the task has raised no protocol error. -/
def TaskPhase.settled : TaskPhase → Bool
  | .created | .running => false
  | .raised e => !e.isSpoeForgeError
  | _ => true

/-- The frame that the read loop takes off the stream in the step. -/
def Conn.takes? (s : Conn) : Event → Option Frame
  | .main .ok =>
    if s.main = .reading ∧ s.mainCancelled = false then
      (Frame.decode s.reader s.config.maxFrameSize).1.toOption
    else none
  | _ => none

/-- The group with which the except* clauses are entered in the step. -/
def Conn.enters? (s : Conn) : Event → Option (List Exc)
  | .main _ =>
    match s.main with
    | .exiting exc => if s.tasks.all Task.reported then some (s.group exc) else none
    | _ => none
  | _ => none

/-- The frame encodes within the limit. -/
def Frame.Fits (f : Frame) (maxFrameSize : ℤ) : Prop := (f.encode maxFrameSize).isOk = true

/-- The step writes no disconnect that another write may follow: when the read loop takes a frame
that is no NOTIFY and its answer fits, every task is settled, and at most one except* clause can
send its disconnect. -/
structure Conn.RepliesLast (s : Conn) (ev : Event) : Prop where
  replies : ∀ frame ∈ s.takes? ev, frame.frameType ≠ .notify →
    (readReply frame.frameType).Fits s.config.maxFrameSize → ∀ t ∈ s.tasks, t.phase.settled = true
  reports : ∀ group ∈ s.enters? ev,
    ∀ e₁ ∈ group.find? (fun e => e.cls = .spopFrameTooBigError),
    ∀ e₂ ∈ group.find? Exc.isProtocolError,
    (errorFrame .frameTooBig e₁).Fits s.config.maxFrameSize →
    ¬(errorFrame .protocolError e₂).Fits s.config.maxFrameSize

/-- The condition on a step: the writer is closing, or the step replies last. -/
def Conn.Orderly (s : Conn) (ev : Event) : Prop := s.writerClosing = true ∨ s.RepliesLast ev

instance (f : Frame) (maxFrameSize : ℤ) : Decidable (f.Fits maxFrameSize) :=
  inferInstanceAs (Decidable (_ = _))

instance (s : Conn) (ev : Event) : Decidable (s.RepliesLast ev) :=
  decidable_of_iff (_ ∧ _) ⟨fun h => ⟨h.1, h.2⟩, fun h => ⟨h.1, h.2⟩⟩

instance (s : Conn) (ev : Event) : Decidable (s.Orderly ev) := inferInstanceAs (Decidable (_ ∨ _))

theorem Frame.fits_iff {f : Frame} {m : ℤ} : f.Fits m ↔ ∃ bytes, f.encode m = .ok bytes := by
  unfold Frame.Fits
  cases f.encode m with
  | error e => simp [Except.isOk, Except.toBool]
  | ok bytes => simp [Except.isOk, Except.toBool]

/-! ### After the disconnect -/

/-- Nothing will be written: no task has a handler left to return, and the group will hold no
protocol error. -/
def Conn.Settled (s : Conn) : Prop :=
  match s.main with
  | .refusing | .replying => ∀ t ∈ s.tasks, t.phase.settled = true
  | .exiting exc => (∀ t ∈ s.tasks, t.phase.settled = true) ∧
      ∀ e, exc = some e → e.isSpoeForgeError = false
  | .reportingTooBig group => s.writerClosing = true ∨
      ∀ e, group.find? Exc.isProtocolError = some e →
        ∀ bytes, (errorFrame .protocolError e).encode s.config.maxFrameSize ≠ .ok bytes
  | .reportingProtocol _ _ | .closing | .returned | .failed _ => True
  | _ => False

/-- The invariant: the frames are in order, and after a disconnect nothing will be written. -/
structure Sequenced (s : Conn) : Prop where
  order : FrameOrder s.written
  settled : .agentDisconnect ∈ s.written → s.Settled

theorem Conn.Settled.unfinished {s : Conn} (h : s.Settled) (hco : Coherent s) {t : Task}
    (ht : t ∈ s.tasks) : t.phase ≠ .created ∧ t.phase ≠ .running := by
  have hsettled : t.phase.settled = true → t.phase ≠ .created ∧ t.phase ≠ .running := by
    intro hs
    constructor <;> intro hp <;> simp [hp, TaskPhase.settled] at hs
  have hreported : s.main.reporting = true → t.phase ≠ .created ∧ t.phase ≠ .running := by
    intro hr
    have he := hco.reported_ended t ht (hco.reporting_reported hr t ht)
    constructor <;> intro hp <;> simp [hp, TaskPhase.ended] at he
  unfold Conn.Settled at h
  split at h
  · exact hsettled (h t ht)
  · exact hsettled (h t ht)
  · exact hsettled (h.1 t ht)
  · rename_i hm
    exact hreported (by rw [hm]; rfl)
  · rename_i hm
    exact hreported (by rw [hm]; rfl)
  · rename_i hm
    exact hreported (by rw [hm]; rfl)
  · rename_i hm
    exact hreported (by rw [hm]; rfl)
  · rename_i hm
    exact hreported (by rw [hm]; rfl)
  · exact h.elim

theorem SameTasks.settled {ts ts' : List Task} (h : SameTasks ts ts')
    (hs : ∀ t ∈ ts, t.phase.settled = true) : ∀ t ∈ ts', t.phase.settled = true := by
  intro t' ht'
  obtain ⟨t, ht, hp, -⟩ := h.mem ht'
  rw [hp]
  exact hs t ht

theorem Conn.Settled.leave {s : Conn} (h : ∀ t ∈ s.tasks, t.phase.settled = true)
    (exc : Option Exc) (he : ∀ e, exc = some e → e.isSpoeForgeError = false) :
    (s.leave exc).Settled :=
  ⟨(s.leave_sameTasks exc).settled h, he⟩

theorem Conn.Settled.task {s s' : Conn} (h : s.Settled)
    (hmain : s'.main = s.main ∨ s.main = .acquiring) (hc : s.writerClosing = true → s'.writerClosing = true)
    (hconfig : s'.config = s.config)
    (htasks : (∀ t ∈ s.tasks, t.phase.settled = true) → ∀ t ∈ s'.tasks, t.phase.settled = true) :
    s'.Settled := by
  have hmain := hmain.resolve_right fun hm => by simp [Conn.Settled, hm] at h
  unfold Conn.Settled at h ⊢
  rw [hmain, hconfig]
  split at h
  · exact htasks h
  · exact htasks h
  · exact ⟨htasks h.1, h.2⟩
  · exact h.imp_left hc
  · trivial
  · trivial
  · trivial
  · trivial
  · exact h.elim

/-! ### What the moves keep -/

section Moves

variable {s s' : Conn}

theorem Sequenced.quiet (h : Sequenced s) (hwritten : s'.written = s.written)
    (hset : s.Settled → s'.Settled) : Sequenced s' :=
  ⟨hwritten ▸ h.order, fun hd => hset (h.settled (hwritten ▸ hd))⟩

theorem Sequenced.hello (hwritten : s'.written = [.agentHello]) : Sequenced s' := by
  refine ⟨hwritten ▸ FrameOrder.hello, fun hd => ?_⟩
  rw [hwritten] at hd
  exact absurd hd (by decide)

theorem Sequenced.ack (h : Sequenced s) (hopen : ¬s.Settled)
    (hwritten : s'.written = s.written ++ [.ack]) : Sequenced s' := by
  have hd : .agentDisconnect ∉ s.written := fun hd => hopen (h.settled hd)
  refine ⟨hwritten ▸ h.order.ack hd, fun hd' => ?_⟩
  rw [hwritten] at hd'
  exact absurd hd' (by simpa using hd)

theorem Sequenced.disconnect (h : Sequenced s) (hopen : ¬s.Settled)
    (hwritten : s'.written = s.written ++ [.agentDisconnect]) (hset : s'.Settled) :
    Sequenced s' := by
  have hd : .agentDisconnect ∉ s.written := fun hd => hopen (h.settled hd)
  exact ⟨hwritten ▸ h.order.disconnect hd, fun _ => hset⟩

theorem Conn.leave_written (exc : Option Exc) : (s.leave exc).written = s.written := by
  rw [Conn.written, Conn.leave_log, Conn.written]

/-- The body of the group leaves: after a disconnect, only from where it drains it. -/
theorem Sequenced.leave {s₁ : Conn} (h : Sequenced s) (exc : Option Exc)
    (hwritten : s₁.written = s.written) (htasks : s₁.tasks = s.tasks)
    (he : s.Settled → (∀ t ∈ s.tasks, t.phase.settled = true) ∧
      ∀ e, exc = some e → e.isSpoeForgeError = false) : Sequenced (s₁.leave exc) := by
  refine h.quiet (by rw [Conn.leave_written, hwritten]) fun hs => ?_
  obtain ⟨ht, hexc⟩ := he hs
  exact .leave (by rw [htasks]; exact ht) exc hexc

theorem Sequenced.sends {s₁ : Conn} {code : DisconnectCode} {message : Str} {draining : MainPhase}
    (h : Sequenced s) (hs : s₁.Sends (disconnectFrame code message) draining s')
    (hopen : ¬s.Settled) (hwritten : s₁.written = s.written) (htasks : s₁.tasks = s.tasks)
    (hsettled : s₁.writerClosing = false →
      ∀ bytes, (disconnectFrame code message).encode s₁.config.maxFrameSize = .ok bytes →
        ∀ t ∈ s.tasks, t.phase.settled = true)
    (hdraining : draining = .refusing ∨ draining = .replying) : Sequenced s' := by
  cases hs with
  | refused e _ _ => exact h.leave _ hwritten htasks fun hs => absurd hs hopen
  | closed _ => exact h.leave _ hwritten htasks fun hs => absurd hs hopen
  | wrote bytes hc hb =>
    refine h.disconnect hopen ?_ ?_
    · have hlog : typesIn (s₁.log ++ [.wrote none (disconnectFrame code message) bytes]) =
          s.written ++ [.agentDisconnect] := by
        rw [typesIn_append, ← hwritten, Conn.written]
        rfl
      exact hlog
    · have hset : ∀ t ∈ s₁.tasks, t.phase.settled = true := htasks ▸ hsettled hc bytes hb
      rcases hdraining with rfl | rfl <;> exact hset

theorem Sequenced.finish (h : Sequenced s) (group raised : List Exc) :
    Sequenced (s.finish group raised) := by
  rcases s.finish_main group raised with ⟨-, he⟩ | he <;> rw [he]
  · exact h.quiet rfl fun _ => trivial
  · exact h.quiet rfl fun _ => trivial

theorem Sequenced.reportsProtocol {group raised : List Exc} (h : Sequenced s)
    (hs : s.ReportsProtocol group raised s')
    (hopen : s.Settled → s.writerClosing = true ∨
      ∀ e, group.find? Exc.isProtocolError = some e →
        ∀ bytes, (errorFrame .protocolError e).encode s.config.maxFrameSize ≠ .ok bytes) :
    Sequenced s' := by
  cases hs with
  | none _ => exact h.finish _ _
  | closed _ => exact h.finish _ _
  | refused e x _ _ _ => exact h.finish _ _
  | wrote e bytes hf hc hb =>
    refine h.disconnect (fun hs => ?_) ?_ trivial
    · rcases hopen hs with hcl | hno
      · exact Bool.noConfusion (hc.symm.trans hcl)
      · exact hno e hf bytes hb
    · exact typesIn_append s.log [.wrote none (errorFrame .protocolError e) bytes]

theorem find?_isProtocolError {group : List Exc}
    (h : ∀ e ∈ group, e.isSpoeForgeError = false) : group.find? Exc.isProtocolError = none := by
  rw [List.find?_eq_none]
  intro e he
  simp [Exc.isProtocolError, h e he]

theorem find?_tooBig {group : List Exc} (h : ∀ e ∈ group, e.isSpoeForgeError = false) :
    group.find? (fun e => e.cls = .spopFrameTooBigError) = none := by
  rw [List.find?_eq_none]
  intro e he hc
  have hcls : e.cls = .spopFrameTooBigError := of_decide_eq_true hc
  have hn := h e he
  simp [Exc.isSpoeForgeError, hcls] at hn

theorem Conn.Settled.group {exc : Option Exc} (h : s.Settled) (hco : Coherent s)
    (hmain : s.main = .exiting exc) : ∀ e ∈ s.group exc, e.isSpoeForgeError = false := by
  simp only [Conn.Settled, hmain] at h
  intro e he
  rcases List.mem_append.mp he with he | he
  · obtain ⟨t, ht, hp⟩ := hco.errors_raised e he
    simpa [hp, TaskPhase.settled] using h.1 t ht
  · exact h.2 e (Option.mem_toList.mp he)

/-- The except* clauses send one disconnect, if none has been sent. -/
theorem Sequenced.reports {exc : Option Exc} (h : Sequenced s) (hco : Coherent s)
    (hmain : s.main = .exiting exc) (hdone : ∀ t ∈ s.tasks, t.reported = true)
    (hr : s.Reports (s.group exc) s') {io : Io} (hcond : s.Orderly (.main io)) :
    Sequenced s' := by
  have hsettled : s.Settled → s.writerClosing = true ∨
      ∀ e, (s.group exc).find? Exc.isProtocolError = some e →
        ∀ bytes, (errorFrame .protocolError e).encode s.config.maxFrameSize ≠ .ok bytes := by
    intro hs
    rw [find?_isProtocolError (hs.group hco hmain)]
    exact .inr fun e he => by cases he
  cases hr with
  | none s' _ hn => exact h.reportsProtocol hn hsettled
  | closed s' _ hn => exact h.reportsProtocol hn hsettled
  | refused e x s' _ _ _ hn => exact h.reportsProtocol hn hsettled
  | wrote e bytes hf hc hb =>
    refine h.disconnect (fun hs => ?_) ?_ (.inr fun e₂ hf₂ bytes₂ => ?_)
    · rw [find?_tooBig (hs.group hco hmain)] at hf
      cases hf
    · exact typesIn_append s.log [.wrote none (errorFrame .frameTooBig e) bytes]
    · have hlast := hcond.resolve_left (by simp [hc])
      have henters : s.enters? (.main io) = some (s.group exc) := by
        simp only [Conn.enters?, hmain, List.all_eq_true.mpr hdone, if_true]
      exact fun hb₂ => hlast.reports _ henters e hf e₂ hf₂ (Frame.fits_iff.mpr ⟨bytes, hb⟩)
        (Frame.fits_iff.mpr ⟨bytes₂, hb₂⟩)

theorem Sequenced.task (h : Sequenced s) {l : List Entry} (hlog : s'.log = s.log ++ l)
    (hquiet : typesIn l = []) (hset : s.Settled → s'.Settled) : Sequenced s' := by
  refine h.quiet ?_ hset
  rw [Conn.written, hlog, typesIn_append, hquiet, List.append_nil, Conn.written]

theorem Conn.Settled.endTask {i : ℕ} {t : Task} (h : s.Settled) {phase : TaskPhase}
    (hphase : phase.settled = true) : (s.endTask i t phase).Settled := by
  refine h.task ?_ (by simp [Conn.endTask, Conn.setTask]) (by simp [Conn.endTask, Conn.setTask])
    fun hall u hu => ?_
  · rcases (s.setTask i { t with phase := phase, cancelRequested := false }).release_main i with
      he | ⟨ha, -, -⟩
    · exact .inl he
    · exact .inr ha
  · rw [Conn.endTask, Conn.release_tasks, Conn.setTask_tasks] at hu
    rcases List.mem_or_eq_of_mem_set hu with hu | rfl
    · exact hall u hu
    · exact hphase

theorem Conn.Settled.setTask {i : ℕ} {t t' : Task} (h : s.Settled) (ht : s.tasks[i]? = some t)
    (hphase : t'.phase = t.phase) : (s.setTask i t').Settled := by
  refine h.task (.inl rfl) id rfl fun hall u hu => ?_
  rcases List.mem_or_eq_of_mem_set hu with hu | rfl
  · exact hall u hu
  · rw [hphase]
    exact hall t (List.mem_of_getElem? ht)

end Moves

theorem Sequenced.init (m c : ℤ) (inbound : Bytes) : Sequenced (Conn.init m c inbound) :=
  ⟨FrameOrder.nil, fun hd => by cases hd⟩

theorem Sequenced.move {s s' : Conn} {ev : Event} (h : Sequenced s) (hco : Coherent s)
    (hfresh : s.main = .handshake → s.log = []) (hcond : s.Orderly ev) (hm : s.Move ev s') :
    Sequenced s' := by
  -- a task whose handler has not returned is not there after the disconnect
  have hlive : ∀ {i : ℕ} {t : Task}, s.tasks[i]? = some t →
      t.phase = .created ∨ t.phase = .running → ¬s.Settled := by
    intro i t ht hp hs
    have hne := hs.unfinished hco (List.mem_of_getElem? ht)
    exact hp.elim hne.1 hne.2
  cases hm with
  | cancelled io hmain _ =>
    refine h.leave _ rfl rfl fun hs => ⟨?_, by simp⟩
    rcases hmain with hmain | hmain
    · cases hp : s.main <;> simp [hp, Conn.Settled, MainPhase.awaitsTransport] at hs hmain
      · exact hs
      · exact hs
    · simp [Conn.Settled, hmain] at hs
  | slotReturned io hmain _ =>
    exact h.leave _ rfl rfl fun hs => by simp [Conn.Settled, hmain] at hs
  | broken text hmain _ =>
    refine h.leave _ rfl rfl fun hs => ⟨?_, by simp [connectionError, Exc.isSpoeForgeError]⟩
    cases hp : s.main <;> simp [hp, Conn.Settled, MainPhase.awaitsTransport] at hs hmain
    · exact hs
    · exact hs
  | ends hmain _ =>
    refine h.leave _ rfl rfl fun hs => ⟨?_, by simp [closeConnection, Exc.isSpoeForgeError]⟩
    rcases hmain with hp | hp | hp <;> simp only [Conn.Settled, hp] at hs
    · exact hs
    · exact hs
  | noSemaphore hmain _ _ =>
    exact h.leave _ rfl rfl fun hs => by simp [Conn.Settled, hmain] at hs
  | serves hmain _ _ =>
    refine h.quiet (by simp [Conn.written]) fun hs => ?_
    simp [Conn.Settled, hmain] at hs
  | reads io hmain _ => exact h.quiet rfl fun hs => by simp [Conn.Settled, hmain] at hs
  | decodeFails e reader hmain _ _ =>
    refine h.leave _ rfl rfl fun hs => ?_
    rcases hmain with hp | hp <;> simp [Conn.Settled, hp] at hs
  | helloFails s₁ frame size hello e hmain _ ht _ _ =>
    obtain ⟨reader, body, -, -, -, -, rfl⟩ := ht
    exact h.leave _ (by simp [Conn.written, typesIn, Entry.wrote?]) rfl
      fun hs => by simp [Conn.Settled, hmain] at hs
  | greets s₁ s' frame size hello config hmain _ ht _ _ _ hs =>
    obtain ⟨reader, body, -, -, -, -, rfl⟩ := ht
    have hempty : s.written = [] := by rw [Conn.written, hfresh hmain]; rfl
    have hread : typesIn (s.log ++ [.received frame size]) = s.written := by
      rw [typesIn_append, Conn.written]
      exact List.append_nil _
    have hopen : ¬s.Settled := fun hs => by simp [Conn.Settled, hmain] at hs
    cases hs with
    | refused e _ _ => exact h.leave _ hread rfl fun hs => absurd hs hopen
    | closed _ => exact h.leave _ hread rfl fun hs => absurd hs hopen
    | wrote bytes _ _ =>
      have hw : typesIn (s.log ++ [.received frame size] ++
          [.wrote none (agentHelloFrame config) bytes]) = [.agentHello] := by
        rw [typesIn_append, hread, hempty]
        rfl
      exact .hello hw
  | incompatible s₁ s' frame size hello config code message hmain _ ht _ _ _ hs =>
    obtain ⟨reader, body, -, -, -, -, rfl⟩ := ht
    have hnil : s.tasks = [] := hco.idle (by simp [hmain, MainPhase.greeted])
    exact h.sends hs (fun hs => by simp [Conn.Settled, hmain] at hs)
      (by simp [Conn.written, typesIn, Entry.wrote?]) rfl (by simp [hnil]) (.inl rfl)
  | notHello s₁ s' frame size code message hmain _ ht _ _ hs =>
    obtain ⟨reader, body, -, -, -, -, rfl⟩ := ht
    have hnil : s.tasks = [] := hco.idle (by simp [hmain, MainPhase.greeted])
    exact h.sends hs (fun hs => by simp [Conn.Settled, hmain] at hs)
      (by simp [Conn.written, typesIn, Entry.wrote?]) rfl (by simp [hnil]) (.inl rfl)
  | dispatches s₁ frame size messages hmain hc ht hp =>
    obtain ⟨reader, body, -, -, -, -, rfl⟩ := ht
    exact h.quiet (by simp [Conn.written, typesIn, Entry.wrote?])
      fun hs => by simp [Conn.Settled, hmain] at hs
  | replies s₁ s' frame size code message hmain hcancel ht hp hreply hs =>
    obtain ⟨reader, body, hd, -, -, -, rfl⟩ := ht
    have htype : frame.frameType ≠ .notify := by
      intro he
      cases hpay : frame.payload with
      | notify messages => exact hp messages hpay
      | _ => simp [Frame.frameType, hpay, Payload.frameType] at he
    refine h.sends hs (fun hs => by simp [Conn.Settled, hmain] at hs)
      (by simp [Conn.written, typesIn, Entry.wrote?]) rfl (fun hc bytes hb => ?_) (.inr rfl)
    have hc : s.writerClosing = false := hc
    have hlast := hcond.resolve_left (by simp [hc])
    have htakes : s.takes? (.main .ok) = some frame := by
      simp [Conn.takes?, hmain, hcancel, hd, Except.toOption]
    exact hlast.replies frame htakes htype (Frame.fits_iff.mpr ⟨bytes, hreply ▸ hb⟩)
  | reports s' io exc hmain hdone hr => exact h.reports hco hmain hdone hr hcond
  | reportsNext s' io group hmain hr =>
    exact h.reportsProtocol hr fun hs => by simpa [Conn.Settled, hmain] using hs
  | reported io group raised hmain => exact h.finish _ _
  | closes io hmain => exact h.quiet rfl fun _ => trivial
  | neverStarts i t ht hphase hc =>
    exact h.task (List.append_nil _).symm rfl fun hs => absurd hs (hlive ht (.inl hphase))
  | starts i t ht hphase hc =>
    exact h.task (l := [.invoked i]) rfl rfl fun hs => absurd hs (hlive ht (.inl hphase))
  | goesOn i t ht hphase =>
    exact h.task (List.append_nil _).symm rfl fun hs => absurd hs (hlive ht (.inr hphase))
  | ackFails i t actions e ht hphase _ =>
    exact h.task (l := [.answered i actions, .released i])
      (by simp [Conn.endTask, Conn.record, Conn.setTask]) rfl
      fun hs => absurd hs (hlive ht (.inr hphase))
  | ackSkipped i t actions ht hphase _ =>
    exact h.task (l := [.answered i actions, .released i])
      (by simp [Conn.endTask, Conn.record, Conn.setTask]) rfl
      fun hs => absurd hs (hlive ht (.inr hphase))
  | acks i t actions frame bytes ht hphase hack =>
    obtain ⟨as, rfl⟩ := (ackToSend_ackOf (ackToSend_some hack)).1.frame
    have hw : typesIn (s.log ++ [.answered i actions] ++
        [.wrote (some i) (ackFrame t.metadata as) bytes]) = s.written ++ [.ack] := by
      rw [List.append_assoc, typesIn_append]
      rfl
    exact h.ack (hlive ht (.inr hphase)) hw
  | handlerRaises i t e ht hphase =>
    exact h.task (l := [.released i]) (by simp [Conn.endTask, Conn.setTask]) rfl
      fun hs => absurd hs (hlive ht (.inr hphase))
  | handlerCancelled i t ht hphase =>
    exact h.task (l := [.released i]) (by simp [Conn.endTask, Conn.setTask]) rfl
      fun hs => absurd hs (hlive ht (.inr hphase))
  | drainCancelled i t io ht hphase _ =>
    exact h.task (l := [.released i]) (by simp [Conn.endTask, Conn.setTask]) rfl
      fun hs => hs.endTask rfl
  | drained i t ht hphase _ =>
    exact h.task (l := [.released i]) (by simp [Conn.endTask, Conn.setTask]) rfl
      fun hs => hs.endTask rfl
  | drainBroken i t text ht hphase _ =>
    exact h.task (l := [.released i]) (by simp [Conn.endTask, Conn.setTask]) rfl
      fun hs => hs.endTask rfl
  | failureSeen i t e ht hphase _ _ =>
    refine h.task (List.append_nil _).symm rfl fun hs => ?_
    have hset : (s.setTask i { t with reported := true }).Settled := hs.setTask ht rfl
    exact hset.task (.inl rfl) id rfl fun hall => SameTasks.settled (.inr rfl) hall
  | failureAdded i t e ht hphase hnew ha =>
    refine h.task (List.append_nil _).symm rfl fun hs => ?_
    have hset : (s.setTask i { t with reported := true }).Settled := hs.setTask ht rfl
    exact hset.task (.inl rfl) id rfl id
  | endSeen i t ht hphase hnew =>
    exact h.task (List.append_nil _).symm rfl fun hs => hs.setTask ht rfl
  | lost => exact h.quiet rfl fun hs => hs.task (.inl rfl) (fun _ => rfl) rfl id

/-- Along every run in which the read loop replies only when every task is settled, and at
most one except* clause can send a disconnect, the frames written are in order. -/
theorem frame_order (m c : ℤ) (inbound : Bytes) (events : List Event) (s : Conn)
    (hc : Along Conn.step Conn.Orderly (Conn.init m c inbound) events)
    (h : run Conn.step (Conn.init m c inbound) events = some s) : FrameOrder s.written := by
  have hinv : Sequenced s :=
    invariant_along (fun _ _ _ hr hi hcond hs => hi.move (Coherent.reachable hr)
      (Dispatched.reachable hr).fresh hcond (Conn.step_move hs)) (Sequenced.init m c inbound) hc h
  exact hinv.order

/-- Two NOTIFYs in their handlers at once, both acknowledged before HAPROXY-DISCONNECT is read. -/
def orderlyFrames : List Frame :=
  [helloFrame 16384 [PIPELINING], notifyFrame 7 1, notifyFrame 7 2, haproxyDisconnectFrame]

def orderlyEvents : List Event :=
  [.main .ok, .main .ok, .main .ok, .start 0, .main .ok, .start 1, .handler 1 (.returned (some [])),
    .drained 1 .ok, .handler 0 (.returned (some [.ofUnset .session (str "a")])), .main .ok,
    .drained 0 .ok, .done 1, .main .ok, .done 0, .main .ok, .main .ok]

theorem frame_order_pipelined : FrameOrder (Conn.after 16384 4 orderlyFrames orderlyEvents).written ∧
    (Conn.after 16384 4 orderlyFrames orderlyEvents).written =
      [.agentHello, .ack, .ack, .agentDisconnect] := by
  have hc : Along Conn.step Conn.Orderly (Conn.onFrames 16384 4 orderlyFrames) orderlyEvents :=
    along_of_states (fun n => Conn.after 16384 4 orderlyFrames (orderlyEvents.take n))
      (by decide +kernel) (by decide +kernel)
  exact ⟨frame_order 16384 4 _ orderlyEvents _ hc (by decide +kernel), by decide +kernel⟩

/-- The read loop answers HAPROXY-DISCONNECT while a handler runs; the handler returns during
the drain, and its ACK follows the AGENT-DISCONNECT. -/
theorem ack_after_disconnect : ¬∀ (m c : ℤ) (inbound : Bytes) (s : Conn),
    Reaches Conn.step (Conn.init m c inbound) s → FrameOrder s.written := by
  intro h
  have horder := h 16384 2 _ (Conn.after 16384 2
    [helloFrame 16384 [PIPELINING], notifyFrame 7 1, haproxyDisconnectFrame]
    [.main .ok, .main .ok, .main .ok, .start 0, .main .ok, .handler 0 (.returned (some []))])
    ⟨[.main .ok, .main .ok, .main .ok, .start 0, .main .ok, .handler 0 (.returned (some []))],
      (by decide +kernel : run Conn.step (Conn.onFrames 16384 2
        [helloFrame 16384 [PIPELINING], notifyFrame 7 1, haproxyDisconnectFrame]) _ = some _)⟩
  have hlast := horder.last (by decide +kernel)
  revert hlast
  decide +kernel

end SpoeForge
