import SpoeForge.Server.Traffic

/-!
# A connection that shuts down

From the moment the task group starts to abort no frame is read, no task is created and no
handler is called: what is left are the tasks that run. From the moment the writer closes
nothing is written.
-/

namespace SpoeForge

open Runs

def Entry.invoked? : Entry → Option ℕ
  | .invoked i => some i
  | _ => none

/-- The tasks whose handler has been called, in order. -/
def Conn.invoked (s : Conn) : List ℕ := s.log.filterMap Entry.invoked?

/-- A task that has not started when the group aborts is cancelled. -/
def Conn.Doomed (s : Conn) : Prop :=
  s.aborting = true → ∀ t ∈ s.tasks, t.phase = .created → t.cancelRequested = true

section Steps

variable {s s' : Conn}

theorem Task.requestCancel_created {t : Task} (h : t.phase = .created) :
    t.requestCancel.cancelRequested = true := by
  simp [Task.requestCancel, h, TaskPhase.ended]

theorem Conn.Doomed.leave {s₁ : Conn} (h : s.Doomed) (exc : Option Exc)
    (hab : s₁.aborting = s.aborting) (htasks : s₁.tasks = s.tasks) : (s₁.leave exc).Doomed := by
  intro _ t ht hphase
  cases ha : s₁.aborting with
  | true =>
    simp only [Conn.leave, ha, if_true, htasks] at ht
    exact h (hab.symm.trans ha) t ht hphase
  | false =>
    simp only [Conn.leave, ha, Conn.abort, Bool.false_eq_true, if_false] at ht
    obtain ⟨u, -, rfl⟩ := List.mem_map.mp ht
    exact Task.requestCancel_created (u.requestCancel_phase.symm.trans hphase)

theorem Conn.Doomed.sends {s₁ : Conn} {frame : Frame} {draining : MainPhase} (h : s.Doomed)
    (hs : s₁.Sends frame draining s') (hab : s₁.aborting = s.aborting)
    (htasks : s₁.tasks = s.tasks) : s'.Doomed := by
  cases hs with
  | refused e _ _ | closed _ => exact h.leave _ hab htasks
  | wrote bytes _ _ =>
    intro ha t ht
    exact h (hab.symm.trans ha) t (htasks ▸ ht)

theorem Conn.Doomed.same (h : s.Doomed) (hab : s'.aborting = s.aborting)
    (htasks : s'.tasks = s.tasks) : s'.Doomed := fun ha t ht =>
  h (hab.symm.trans ha) t (htasks ▸ ht)

theorem Conn.Doomed.setTask {i : ℕ} {t' : Task} (h : s.Doomed) (hab : s'.aborting = s.aborting)
    (htasks : s'.tasks = s.tasks.set i t') (hphase : t'.phase ≠ .created) : s'.Doomed := by
  intro ha t ht hp
  rw [htasks] at ht
  rcases List.mem_or_eq_of_mem_set ht with ht | rfl
  · exact h (hab.symm.trans ha) t ht hp
  · exact absurd hp hphase

theorem Conn.Doomed.endTask {s₁ : Conn} {i : ℕ} {t : Task} {phase : TaskPhase} (h : s.Doomed)
    (hab : s₁.aborting = s.aborting) (htasks : s₁.tasks = s.tasks) (hended : phase.ended = true) :
    (s₁.endTask i t phase).Doomed := by
  have hset : (s₁.endTask i t phase).tasks =
      s.tasks.set i { t with phase := phase, cancelRequested := false } := by
    simp [Conn.endTask, htasks]
  refine h.setTask ?_ hset ?_
  · simp [Conn.endTask, Conn.setTask, hab]
  · rintro rfl
    cases hended

theorem Conn.finish_fields (s : Conn) (group raised : List Exc) :
    (s.finish group raised).aborting = s.aborting ∧ (s.finish group raised).tasks = s.tasks := by
  rcases s.finish_main group raised with ⟨-, he⟩ | he <;> rw [he] <;> exact ⟨rfl, rfl⟩

theorem Conn.ReportsProtocol.fields {group raised : List Exc}
    (hr : s.ReportsProtocol group raised s') : s'.aborting = s.aborting ∧ s'.tasks = s.tasks := by
  cases hr with
  | none _ | closed _ | refused e x _ _ _ => exact s.finish_fields _ _
  | wrote e bytes _ _ _ => exact ⟨rfl, rfl⟩

theorem Conn.Doomed.move {ev : Event} (h : s.Doomed) (hco : Coherent s) (hm : s.Move ev s') :
    s'.Doomed := by
  cases hm with
  | cancelled | slotReturned | broken | ends | noSemaphore | decodeFails =>
    exact h.leave _ rfl rfl
  | serves => exact h.same (Conn.acquire_aborting _) (Conn.acquire_tasks _)
  | reads | closes | lost => exact h.same rfl rfl
  | helloFails s₁ frame size hello e _ _ ht _ _ =>
    obtain ⟨reader, body, -, -, -, -, rfl⟩ := ht
    exact h.leave _ rfl rfl
  | greets s₁ s' frame size hello config _ _ ht _ _ _ hs =>
    obtain ⟨reader, body, -, -, -, -, rfl⟩ := ht
    exact h.sends hs rfl rfl
  | incompatible s₁ s' frame size hello config code message _ _ ht _ _ _ hs =>
    obtain ⟨reader, body, -, -, -, -, rfl⟩ := ht
    exact h.sends hs rfl rfl
  | notHello s₁ s' frame size code message _ _ ht _ _ hs =>
    obtain ⟨reader, body, -, -, -, -, rfl⟩ := ht
    exact h.sends hs rfl rfl
  | dispatches s₁ frame size messages hmain hc ht _ =>
    -- only a group that does not abort reads a frame
    have ha := hco.not_aborting (by simp [hmain, MainPhase.left]) hc
    obtain ⟨reader, body, -, -, -, -, rfl⟩ := ht
    intro hab
    rw [Conn.acquire_aborting] at hab
    exact Bool.noConfusion (ha.symm.trans hab)
  | replies s₁ s' frame size code message _ _ ht _ _ hs =>
    obtain ⟨reader, body, -, -, -, -, rfl⟩ := ht
    exact h.sends hs rfl rfl
  | reports s' io exc _ _ hr =>
    cases hr with
    | none s' _ hn | closed s' _ hn | refused e x s' _ _ _ hn =>
      exact h.same hn.fields.1 hn.fields.2
    | wrote e bytes _ _ _ => exact h.same rfl rfl
  | reportsNext s' io group _ hr => exact h.same hr.fields.1 hr.fields.2
  | reported io group raised _ => exact h.same (s.finish_fields _ _).1 (s.finish_fields _ _).2
  | neverStarts i t ht _ _ => exact h.setTask (i := i) rfl rfl (by simp)
  | starts i t ht _ _ => exact h.setTask (i := i) rfl rfl (by simp)
  | goesOn i t ht hphase => exact h.setTask (i := i) rfl rfl (by simp [hphase])
  | acks i t _ _ _ ht _ _ => exact h.setTask (i := i) rfl rfl (by simp)
  | failureAdded i t e ht hphase _ _ => exact h.setTask (i := i) rfl rfl (by simp [hphase])
  | endSeen i t ht hphase _ =>
    exact h.setTask (i := i) rfl rfl (by rcases hphase with hp | hp <;> simp [hp])
  | failureSeen i t e ht hphase _ _ =>
    intro _ u hu hp
    obtain ⟨v, -, rfl⟩ := List.mem_map.mp hu
    exact Task.requestCancel_created (v.requestCancel_phase.symm.trans hp)
  | ackFails | ackSkipped | handlerRaises | handlerCancelled | drainCancelled | drained
  | drainBroken => exact h.endTask rfl rfl rfl

/-- A group that aborts and a writer that closes keep doing so. -/
theorem Conn.Move.keeps {ev : Event} (hm : s.Move ev s') :
    (s.aborting = true → s'.aborting = true) ∧
      (s.writerClosing = true → s'.writerClosing = true) := by
  have hsends : ∀ {s₁ : Conn} {frame : Frame} {draining : MainPhase},
      s₁.Sends frame draining s' → s₁.aborting = s.aborting →
        s₁.writerClosing = s.writerClosing → (s.aborting = true → s'.aborting = true) ∧
          (s.writerClosing = true → s'.writerClosing = true) := by
    intro s₁ frame draining hs hab hc
    cases hs with
    | refused e _ _ | closed _ => simp [hc]
    | wrote bytes _ _ => simp [Conn.record, hab, hc]
  have hfinish : ∀ group raised, (s.aborting = true → (s.finish group raised).aborting = true) ∧
      (s.writerClosing = true → (s.finish group raised).writerClosing = true) := by
    intro group raised
    rcases s.finish_main group raised with ⟨-, he⟩ | he <;> rw [he]
    · exact ⟨id, fun _ => rfl⟩
    · exact ⟨id, id⟩
  have hreports : ∀ {group raised}, s.ReportsProtocol group raised s' →
      (s.aborting = true → s'.aborting = true) ∧
        (s.writerClosing = true → s'.writerClosing = true) := by
    intro group raised hr
    cases hr with
    | none _ | closed _ | refused e x _ _ _ => exact hfinish _ _
    | wrote e bytes _ _ _ => exact ⟨id, id⟩
  cases hm with
  | cancelled | slotReturned | broken | ends | noSemaphore | decodeFails => simp
  | serves => simp
  | reads | closes | neverStarts | starts | goesOn | acks | endSeen | failureAdded =>
    exact ⟨id, id⟩
  | lost => exact ⟨id, fun _ => rfl⟩
  | failureSeen => exact ⟨fun _ => rfl, id⟩
  | helloFails s₁ frame size hello e _ _ ht _ _ =>
    obtain ⟨reader, body, -, -, -, -, rfl⟩ := ht
    simp
  | greets s₁ s' frame size hello config _ _ ht _ _ _ hs =>
    obtain ⟨reader, body, -, -, -, -, rfl⟩ := ht
    exact hsends hs rfl rfl
  | incompatible s₁ s' frame size hello config code message _ _ ht _ _ _ hs =>
    obtain ⟨reader, body, -, -, -, -, rfl⟩ := ht
    exact hsends hs rfl rfl
  | notHello s₁ s' frame size code message _ _ ht _ _ hs =>
    obtain ⟨reader, body, -, -, -, -, rfl⟩ := ht
    exact hsends hs rfl rfl
  | dispatches s₁ frame size messages _ _ ht _ =>
    obtain ⟨reader, body, -, -, -, -, rfl⟩ := ht
    simp
  | replies s₁ s' frame size code message _ _ ht _ _ hs =>
    obtain ⟨reader, body, -, -, -, -, rfl⟩ := ht
    exact hsends hs rfl rfl
  | reports s' io exc _ _ hr =>
    cases hr with
    | none s' _ hn | closed s' _ hn | refused e x s' _ _ _ hn => exact hreports hn
    | wrote e bytes _ _ _ => exact ⟨id, id⟩
  | reportsNext s' io group _ hr => exact hreports hr
  | reported io group raised _ => exact hfinish _ _
  | ackFails | ackSkipped | handlerRaises | handlerCancelled | drainCancelled | drained
  | drainBroken => simp [Conn.endTask, Conn.setTask, Conn.record]

/-- Only the first step of a task that is not cancelled calls a handler. -/
theorem Conn.LogsTo.invoked {ev : Event} (h : s.LogsTo ev s') : s'.invoked = s.invoked ∨
    ∃ (i : ℕ) (t : Task), s.tasks[i]? = some t ∧ t.phase = .created ∧
      t.cancelRequested = false := by
  obtain ⟨l, hlog, hl⟩ := h
  rw [Conn.invoked, hlog, List.filterMap_append]
  cases hl with
  | invoked i t ht hphase hc => exact .inr ⟨i, t, ht, hphase, hc⟩
  | nothing | received | replied | reported | released | unacked | acked =>
    exact .inl (List.append_nil _)

end Steps

theorem Conn.Doomed.reachable {m c : ℤ} {inbound : Bytes} {s : Conn}
    (h : Reaches Conn.step (Conn.init m c inbound) s) : s.Doomed :=
  invariant (fun _ _ _ hr hi hs => hi.move (Coherent.reachable hr) (Conn.step_move hs))
    (fun ha => by cases ha) h

theorem Conn.Move.aborting {s s' : Conn} {ev : Event} (hm : s.Move ev s') (hco : Coherent s)
    (hdoomed : s.Doomed) (ha : s.aborting = true) : s'.aborting = true ∧ s'.reader = s.reader ∧
      s'.received = s.received ∧ s'.jobs = s.jobs ∧ s'.invoked = s.invoked := by
  have hquiet : s'.reader = s.reader ∧ s'.received = s.received ∧ s'.jobs = s.jobs := by
    have hnot : s.main.left = false → s.mainCancelled ≠ false := fun hl hc =>
      Bool.noConfusion (ha.symm.trans (hco.not_aborting hl hc))
    cases hm.intake with
    | nothing hreader hreceived hjobs _ _ => exact ⟨hreader, hreceived, hjobs⟩
    | failed e hmain hc _ _ _ _ _ =>
      exact absurd hc (hnot (by rcases hmain with h | h <;> rw [h] <;> rfl))
    | first frame hmain hc _ _ _ _ _ => exact absurd hc (hnot (by rw [hmain]; rfl))
    | next frame hmain hc _ _ _ _ _ => exact absurd hc (hnot (by rw [hmain]; rfl))
  refine ⟨hm.keeps.1 ha, hquiet.1, hquiet.2.1, hquiet.2.2, ?_⟩
  rcases hm.logsTo.invoked with he | ⟨i, t, ht, hphase, hc⟩
  · exact he
  · have hcancelled := hdoomed ha t (List.mem_of_getElem? ht) hphase
    exact Bool.noConfusion (hc.symm.trans hcancelled)

theorem Conn.Move.closing {s s' : Conn} {ev : Event} (hm : s.Move ev s')
    (hc : s.writerClosing = true) :
    s'.writerClosing = true ∧ s'.sent = s.sent ∧ s'.output = s.output := by
  refine ⟨hm.keeps.2 hc, ?_⟩
  rcases hm.logsTo.output with hsame | ⟨frame, bytes, hopen, -⟩
  · exact hsame
  · exact Bool.noConfusion (hc.symm.trans hopen)

/-- Once the task group has seen a failure or the body has been left, no run reads another byte,
creates a task or calls a handler; once the writer is closing, no run writes another byte. -/
theorem shutdown_quiet (m c : ℤ) (inbound : Bytes) (s : Conn)
    (h : Reaches Conn.step (Conn.init m c inbound) s) (events : List Event) (s' : Conn)
    (hr : run Conn.step s events = some s') :
    (s.aborting = true → s'.aborting = true ∧ s'.reader = s.reader ∧
      s'.received = s.received ∧ s'.jobs = s.jobs ∧ s'.invoked = s.invoked) ∧
    (s.writerClosing = true → s'.writerClosing = true ∧ s'.sent = s.sent ∧
      s'.output = s.output) := by
  constructor
  · intro ha
    have hstep : ∀ x ev x', Reaches Conn.step s x → (x.aborting = true ∧ x.reader = s.reader ∧
        x.received = s.received ∧ x.jobs = s.jobs ∧ x.invoked = s.invoked) → x.step ev = some x' →
        (x'.aborting = true ∧ x'.reader = s.reader ∧ x'.received = s.received ∧
          x'.jobs = s.jobs ∧ x'.invoked = s.invoked) := by
      rintro x ev x' ⟨before, hx⟩ ⟨hab, hreader, hreceived, hjobs, hinvoked⟩ hs
      have hreach := h.append hx
      have hnext := (Conn.step_move hs).aborting (Coherent.reachable hreach)
        (Conn.Doomed.reachable hreach) hab
      rwa [hreader, hreceived, hjobs, hinvoked] at hnext
    exact invariant hstep ⟨ha, rfl, rfl, rfl, rfl⟩ ⟨events, hr⟩
  · intro hc
    have hstep : ∀ x ev x', Reaches Conn.step s x → (x.writerClosing = true ∧ x.sent = s.sent ∧
        x.output = s.output) → x.step ev = some x' →
        (x'.writerClosing = true ∧ x'.sent = s.sent ∧ x'.output = s.output) := by
      rintro x ev x' - ⟨hclosing, hsent, houtput⟩ hs
      have hnext := (Conn.step_move hs).closing hclosing
      rwa [hsent, houtput] at hnext
    exact invariant hstep ⟨hc, rfl, rfl⟩ ⟨events, hr⟩

/-- The transport has broken in the read of the second NOTIFY; the first is in its handler. -/
def Conn.interrupted : Conn :=
  Conn.after 16384 2 [helloFrame 16384 [PIPELINING], notifyFrame 7 1, notifyFrame 7 2]
    [.main .ok, .main .ok, .main .ok, .start 0, .main (.broken [])]

/-- Its handler swallows the cancellation and answers. -/
def Conn.swallowed : Conn :=
  Conn.after 16384 2 [helloFrame 16384 [PIPELINING], notifyFrame 7 1, notifyFrame 7 2]
    [.main .ok, .main .ok, .main .ok, .start 0, .main (.broken []), .handler 0 .pending,
      .handler 0 (.returned (some []))]

theorem shutdown_quiet_swallowed : Conn.swallowed.reader = Conn.interrupted.reader ∧
    Conn.swallowed.invoked = Conn.interrupted.invoked := by
  have h := shutdown_quiet 16384 2
    (Conn.onFrames 16384 2 [helloFrame 16384 [PIPELINING], notifyFrame 7 1,
      notifyFrame 7 2]).reader.buffer
    Conn.interrupted
    ⟨[.main .ok, .main .ok, .main .ok, .start 0, .main (.broken [])], by decide +kernel⟩
    [.handler 0 .pending, .handler 0 (.returned (some []))] Conn.swallowed (by decide +kernel)
  have hquiet := h.1 (by decide +kernel)
  exact ⟨hquiet.2.1, hquiet.2.2.2.2⟩

end SpoeForge
