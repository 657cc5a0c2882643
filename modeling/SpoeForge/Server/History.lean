import SpoeForge.Server.Coherence

/-!
# What each NOTIFY task has left in the log

The entries of one task, in order, are determined by the phase the task is in: invoked,
answered, its ACK written, its slot released, each at most once.
-/

namespace SpoeForge

open Fallible Runs

/-- The entry is one of task `i`. -/
def Entry.isOf (i : ℕ) : Entry → Bool
  | .received _ _ => false
  | .invoked j => j = i
  | .answered j _ => j = i
  | .wrote source _ _ => source = some i
  | .released j => j = i

theorem Entry.isOf_answered (i : ℕ) (actions : Option (List ActionObj)) :
    ∀ e ∈ [Entry.answered i actions], e.isOf i = true ∧ ∀ j, j ≠ i → e.isOf j = false := by
  intro e he
  rw [List.mem_singleton.mp he]
  exact ⟨by simp [Entry.isOf], fun j hj => by simp [Entry.isOf, Ne.symm hj]⟩

/-- The entries of task `i`. -/
def Conn.history (s : Conn) (i : ℕ) : List Entry := s.log.filter (Entry.isOf i)

/-- The metadata of the NOTIFY of task `i` and the phase of the task. -/
def Conn.taskAt (s : Conn) (i : ℕ) : Option (MetaData × TaskPhase) :=
  s.tasks[i]?.map fun t => (t.metadata, t.phase)

/-- The entries that task `i` can have in its phase. -/
inductive TaskHistory (s : Conn) (i : ℕ) (md : MetaData) : TaskPhase → List Entry → Prop
  | created : TaskHistory s i md .created []
  | neverStarted (ha : s.aborting = true) : TaskHistory s i md .cancelled []
  | running : TaskHistory s i md .running [.invoked i]
  | failed (phase : TaskPhase) (h : phase = .cancelled ∨ ∃ e, phase = .raised e) :
      TaskHistory s i md phase [.invoked i, .released i]
  | refused (actions : Option (List ActionObj)) (e : Exc) :
      TaskHistory s i md (.raised e) [.invoked i, .answered i actions, .released i]
  | skipped (actions : Option (List ActionObj)) (hc : s.writerClosing = true) :
      TaskHistory s i md .returned [.invoked i, .answered i actions, .released i]
  | draining (actions : Option (List ActionObj)) (frame : Frame) (bytes : Bytes)
      (h : ackToSend false s.config.maxFrameSize md actions = .ok (some (frame, bytes))) :
      TaskHistory s i md .draining [.invoked i, .answered i actions, .wrote (some i) frame bytes]
  | acked (actions : Option (List ActionObj)) (frame : Frame) (bytes : Bytes) (phase : TaskPhase)
      (hended : phase.ended = true)
      (h : ackToSend false s.config.maxFrameSize md actions = .ok (some (frame, bytes))) :
      TaskHistory s i md phase
        [.invoked i, .answered i actions, .wrote (some i) frame bytes, .released i]

/-- Every task has the entries of its phase, and no other task has any. -/
def Historied (s : Conn) : Prop :=
  ∀ i, match s.taskAt i with
    | none => s.history i = []
    | some (md, phase) => TaskHistory s i md phase (s.history i)

/-! ### Fields -/

theorem map_requestCancel_taskAt (ts : List Task) (i : ℕ) :
    ((ts.map Task.requestCancel)[i]?.map fun t => (t.metadata, t.phase)) =
      ts[i]?.map fun t => (t.metadata, t.phase) := by
  rw [List.getElem?_map, Option.map_map]
  congr 1
  funext t
  simp only [Function.comp_apply, t.requestCancel_metadata, t.requestCancel_phase]

@[simp] theorem Conn.leave_taskAt (s : Conn) (exc : Option Exc) (i : ℕ) :
    (s.leave exc).taskAt i = s.taskAt i := by
  rcases s.leave_tasks exc with h | h
  · simp only [Conn.taskAt, h]
  · simp only [Conn.taskAt, h, map_requestCancel_taskAt]

theorem Conn.setTask_taskAt {s : Conn} {i : ℕ} {t : Task} (ht : s.tasks[i]? = some t) (t' : Task)
    (j : ℕ) :
    (s.setTask i t').taskAt j = if j = i then some (t'.metadata, t'.phase) else s.taskAt j := by
  have hi : i < s.tasks.length := (List.getElem?_eq_some_iff.mp ht).1
  simp only [Conn.taskAt, Conn.setTask_tasks]
  by_cases hj : j = i
  · subst hj
    rw [List.getElem?_set_self hi, if_pos rfl]
    rfl
  · rw [List.getElem?_set_ne (Ne.symm hj), if_neg hj]

theorem Conn.taskAt_of_getElem? {s : Conn} {i : ℕ} {t : Task} (ht : s.tasks[i]? = some t) :
    s.taskAt i = some (t.metadata, t.phase) := by
  rw [Conn.taskAt, ht]
  rfl

/-! ### What steps keep -/

/-- A history stays one when the group starts to abort or the writer to close. -/
theorem TaskHistory.mono {s s' : Conn} {i : ℕ} {md : MetaData} {phase : TaskPhase}
    {l : List Entry} (h : TaskHistory s i md phase l)
    (hm : s'.config.maxFrameSize = s.config.maxFrameSize)
    (hc : s.writerClosing = true → s'.writerClosing = true)
    (ha : s.aborting = true → s'.aborting = true) : TaskHistory s' i md phase l := by
  cases h with
  | created => exact .created
  | neverStarted h => exact .neverStarted (ha h)
  | running => exact .running
  | failed _ h => exact .failed _ h
  | refused actions e => exact .refused actions e
  | skipped actions h => exact .skipped actions (hc h)
  | draining actions frame bytes h => exact .draining actions frame bytes (hm ▸ h)
  | acked actions frame bytes _ hended h => exact .acked actions frame bytes _ hended (hm ▸ h)

theorem Historied.frame {s s' : Conn} (h : Historied s) (htasks : ∀ i, s'.taskAt i = s.taskAt i)
    (hlog : ∀ i, s'.history i = s.history i)
    (hm : s'.config.maxFrameSize = s.config.maxFrameSize ∨ s.tasks = [])
    (hc : s.writerClosing = true → s'.writerClosing = true)
    (ha : s.aborting = true → s'.aborting = true) : Historied s' := by
  intro i
  have hi := h i
  rw [htasks i, hlog i]
  cases ht : s.taskAt i with
  | none =>
    rw [ht] at hi
    exact hi
  | some p =>
    rw [ht] at hi
    refine hi.mono (hm.resolve_right fun hnil => ?_) hc ha
    simp [Conn.taskAt, hnil] at ht

theorem Historied.update {s s' : Conn} (h : Historied s) (i : ℕ) (t' : Task)
    (htasks : ∀ j, s'.taskAt j = if j = i then some (t'.metadata, t'.phase) else s.taskAt j)
    (hlog : ∀ j, j ≠ i → s'.history j = s.history j)
    (hi : TaskHistory s' i t'.metadata t'.phase (s'.history i))
    (hm : s'.config.maxFrameSize = s.config.maxFrameSize)
    (hc : s.writerClosing = true → s'.writerClosing = true)
    (ha : s.aborting = true → s'.aborting = true) : Historied s' := by
  intro j
  have hj := h j
  rw [htasks j]
  by_cases he : j = i
  · subst he
    rw [if_pos rfl]
    exact hi
  · rw [if_neg he, hlog j he]
    cases ht : s.taskAt j with
    | none =>
      rw [ht] at hj
      exact hj
    | some p =>
      rw [ht] at hj
      exact hj.mono hm hc ha

theorem Historied.task {s : Conn} (h : Historied s) {i : ℕ} {t : Task}
    (ht : s.tasks[i]? = some t) : TaskHistory s i t.metadata t.phase (s.history i) := by
  have hi := h i
  rw [Conn.taskAt_of_getElem? ht] at hi
  exact hi

theorem Historied.history_cases {s : Conn} (h : Historied s) (i : ℕ) :
    s.history i = [] ∨ ∃ md phase, TaskHistory s i md phase (s.history i) := by
  have hi := h i
  cases ht : s.taskAt i with
  | none =>
    rw [ht] at hi
    exact .inl hi
  | some p =>
    rw [ht] at hi
    exact .inr ⟨p.1, p.2, hi⟩

theorem TaskHistory.running_eq {s : Conn} {i : ℕ} {md : MetaData} {l : List Entry}
    (h : TaskHistory s i md .running l) : l = [.invoked i] := by
  cases h with
  | running => rfl
  | failed _ h => simp at h
  | acked _ _ _ _ hended _ => cases hended

theorem TaskHistory.draining_eq {s : Conn} {i : ℕ} {md : MetaData} {l : List Entry}
    (h : TaskHistory s i md .draining l) : ∃ actions frame bytes,
      ackToSend false s.config.maxFrameSize md actions = .ok (some (frame, bytes)) ∧
      l = [.invoked i, .answered i actions, .wrote (some i) frame bytes] := by
  cases h with
  | failed _ h => simp at h
  | draining actions frame bytes h => exact ⟨actions, frame, bytes, h, rfl⟩
  | acked _ _ _ _ hended _ => cases hended

theorem TaskHistory.created_eq {s : Conn} {i : ℕ} {md : MetaData} {l : List Entry}
    (h : TaskHistory s i md .created l) : l = [] := by
  cases h with
  | created => rfl
  | failed _ h => simp at h
  | acked _ _ _ _ hended _ => cases hended

theorem Historied.endTask {s s₀ : Conn} (h : Historied s₀) {i : ℕ} {t : Task} {phase : TaskPhase}
    {l : List Entry} (ht : s₀.tasks[i]? = some t) (hlog : s.log = s₀.log ++ l)
    (hl : ∀ e ∈ l, Entry.isOf i e = true ∧ ∀ j, j ≠ i → Entry.isOf j e = false)
    (htasks : s.tasks = s₀.tasks) (hm : s.config = s₀.config)
    (hc : s.writerClosing = s₀.writerClosing) (ha : s.aborting = s₀.aborting)
    (hphase : TaskHistory s₀ i t.metadata phase (s₀.history i ++ l ++ [.released i])) :
    Historied (s.endTask i t phase) := by
  have hti : s.tasks[i]? = some t := by rw [htasks, ht]
  have hat : ∀ j, s.taskAt j = s₀.taskAt j := fun j => by simp only [Conn.taskAt, htasks]
  have hother : ∀ j, j ≠ i → l.filter (Entry.isOf j) = [] := by
    intro j hj
    rw [List.filter_eq_nil_iff]
    intro e he
    simp [(hl e he).2 j hj]
  have hown : l.filter (Entry.isOf i) = l := by
    rw [List.filter_eq_self]
    exact fun e he => (hl e he).1
  have htasks' : ∀ j, (s.endTask i t phase).taskAt j =
      if j = i then some (t.metadata, phase) else s₀.taskAt j := by
    intro j
    have hset := Conn.setTask_taskAt hti { t with phase := phase, cancelRequested := false } j
    rw [hat j] at hset
    exact hset ▸ (by simp only [Conn.endTask, Conn.taskAt, Conn.release_tasks])
  have hlog' : (s.endTask i t phase).log = s₀.log ++ l ++ [.released i] := by
    simp only [Conn.endTask, Conn.release_log, Conn.setTask, hlog]
  refine h.update i { t with phase := phase } htasks' ?_ ?_ ?_ ?_ ?_
  · intro j hj
    simp only [Conn.history, hlog', List.filter_append, hother j hj]
    simp [Entry.isOf, Ne.symm hj]
  · have hh : (s.endTask i t phase).history i = s₀.history i ++ l ++ [.released i] := by
      simp only [Conn.history, hlog', List.filter_append, hown]
      simp [Entry.isOf]
    rw [hh]
    refine hphase.mono ?_ ?_ ?_
    · simp [Conn.endTask, Conn.setTask, hm]
    · simp [Conn.endTask, Conn.setTask, hc]
    · simp [Conn.endTask, Conn.setTask, ha]
  · simp [Conn.endTask, Conn.setTask, hm]
  · simp [Conn.endTask, Conn.setTask, hc]
  · simp [Conn.endTask, Conn.setTask, ha]

theorem Historied.leave {s s₁ : Conn} (h : Historied s) (exc : Option Exc)
    (htasks : s₁.tasks = s.tasks) (hlog : ∀ i, s₁.history i = s.history i)
    (hm : s₁.config.maxFrameSize = s.config.maxFrameSize ∨ s.tasks = [])
    (hc : s₁.writerClosing = s.writerClosing) : Historied (s₁.leave exc) := by
  refine h.frame (fun i => ?_) (fun i => ?_) ?_ ?_ ?_
  · rw [Conn.leave_taskAt]
    simp only [Conn.taskAt, htasks]
  · rw [← hlog i]
    simp only [Conn.history, Conn.leave_log]
  · simpa using hm
  · simp [hc]
  · simp

theorem Conn.history_append (s : Conn) {l : List Entry} {log : List Entry} (i : ℕ)
    (hlog : log = s.log ++ l) (hl : ∀ e ∈ l, Entry.isOf i e = false) :
    log.filter (Entry.isOf i) = s.history i := by
  have hnil : l.filter (Entry.isOf i) = [] := by
    rw [List.filter_eq_nil_iff]
    intro e he
    simp [hl e he]
  rw [hlog, List.filter_append, hnil, List.append_nil, Conn.history]

theorem Conn.Takes.history {s s₁ : Conn} {frame : Frame} {size : ℕ} (ht : s.Takes frame size s₁)
    (i : ℕ) : s₁.history i = s.history i := by
  obtain ⟨reader, body, -, -, -, -, rfl⟩ := ht
  exact s.history_append i rfl (by simp [Entry.isOf])

theorem Historied.sends {s s₁ s' : Conn} {frame : Frame} {draining : MainPhase} (h : Historied s)
    (hs : s₁.Sends frame draining s') (htasks : s₁.tasks = s.tasks) (hlog : ∀ i, s₁.history i = s.history i)
    (hm : s₁.config.maxFrameSize = s.config.maxFrameSize ∨ s.tasks = [])
    (hc : s₁.writerClosing = s.writerClosing) (ha : s₁.aborting = s.aborting) :
    Historied s' := by
  cases hs with
  | refused e _ _ => exact h.leave _ htasks hlog hm hc
  | closed _ => exact h.leave _ htasks hlog hm hc
  | wrote bytes _ _ =>
    refine h.frame (fun i => ?_) (fun i => ?_) hm (by simp [Conn.record, hc])
      (by simp [Conn.record, ha])
    · simp only [Conn.taskAt, Conn.record, htasks]
    · rw [← hlog i]
      exact s₁.history_append i rfl (by simp [Entry.isOf])

theorem Historied.finish {s : Conn} (h : Historied s) (group raised : List Exc) :
    Historied (s.finish group raised) := by
  rcases s.finish_main group raised with ⟨-, he⟩ | he
  · rw [he]
    exact h.frame (fun _ => rfl) (fun _ => rfl) (.inl rfl) (fun _ => rfl) (fun ha => ha)
  · rw [he]
    exact h.frame (fun _ => rfl) (fun _ => rfl) (.inl rfl) (fun hc => hc) (fun ha => ha)

theorem Historied.reportsProtocol {s s' : Conn} {group raised : List Exc} (h : Historied s)
    (hs : s.ReportsProtocol group raised s') : Historied s' := by
  cases hs with
  | none _ => exact h.finish _ _
  | closed _ => exact h.finish _ _
  | refused e x _ _ _ => exact h.finish _ _
  | wrote e bytes _ _ _ =>
    exact h.frame (fun _ => rfl) (fun i => s.history_append i rfl (by simp [Entry.isOf])) (.inl rfl)
      (fun hc => hc) (fun ha => ha)

theorem Historied.dispatches {s s₁ : Conn} {frame : Frame} {size : ℕ} (h : Historied s)
    (ht : s.Takes frame size s₁) (messages : Messages) :
    Historied { s₁ with tasks := s₁.tasks ++ [Task.new frame.metadata messages] }.acquire := by
  have hlog := ht.history
  obtain ⟨reader, body, -, -, -, -, rfl⟩ := ht
  intro i
  have hi := h i
  have hat : ({ s with
      reader := reader, log := s.log ++ [.received frame size],
      tasks := s.tasks ++ [Task.new frame.metadata messages] } : Conn).acquire.taskAt i =
      if i = s.tasks.length then some (frame.metadata, .created) else s.taskAt i := by
    simp only [Conn.taskAt, Conn.acquire_tasks, List.getElem?_append, List.getElem?_singleton]
    by_cases hlt : i < s.tasks.length
    · have hne : i ≠ s.tasks.length := by omega
      simp [hlt, hne]
    · by_cases he : i = s.tasks.length
      · simp [he, Task.new]
      · have hsub : i - s.tasks.length ≠ 0 := by omega
        simp [hlt, he, hsub]
  have hhist : ({ s with
      reader := reader, log := s.log ++ [.received frame size],
      tasks := s.tasks ++ [Task.new frame.metadata messages] } : Conn).acquire.history i =
      s.history i := by
    simp only [Conn.history, Conn.acquire_log]
    exact hlog i
  rw [hat, hhist]
  by_cases he : i = s.tasks.length
  · have hnone : s.taskAt i = none := by simp [Conn.taskAt, he]
    rw [hnone] at hi
    rw [if_pos he]
    simp only at hi ⊢
    rw [hi]
    exact .created
  · rw [if_neg he]
    cases hs : s.taskAt i with
    | none =>
      rw [hs] at hi
      exact hi
    | some p =>
      rw [hs] at hi
      exact hi.mono (by simp) (by simp) (by simp)

theorem Historied.drained {s : Conn} (h : Historied s) {i : ℕ} {t : Task} {phase : TaskPhase}
    (ht : s.tasks[i]? = some t) (hphase : t.phase = .draining) (hended : phase.ended = true) :
    Historied (s.endTask i t phase) := by
  have hhist := h.task ht
  rw [hphase] at hhist
  obtain ⟨actions, frame, bytes, hack, hl⟩ := hhist.draining_eq
  refine h.endTask ht (List.append_nil _).symm (by simp) rfl rfl rfl rfl ?_
  rw [hl]
  exact .acked actions frame bytes phase hended hack

/-- The done callback of a task changes neither its metadata nor its phase. -/
theorem Conn.reported_taskAt {s : Conn} {i : ℕ} {t : Task} (ht : s.tasks[i]? = some t) (j : ℕ) :
    (s.setTask i { t with reported := true }).taskAt j = s.taskAt j := by
  rw [Conn.setTask_taskAt ht]
  split
  · rename_i hj
    subst hj
    rw [Conn.taskAt_of_getElem? ht]
  · rfl

theorem encodeToSend_open (m : ℤ) (frame : Frame) : encodeToSend false m frame ≠ .ok none := by
  rw [encodeToSend_eq]
  cases frame.encode m <;> simp [Except.map]

/-- A task skips its ACK only when the writer is closing. -/
theorem ackToSend_none {closing : Bool} {m : ℤ} {md : MetaData} {a : Option (List ActionObj)}
    (h : ackToSend closing m md a = .ok none) : closing = true := by
  cases closing with
  | true => rfl
  | false =>
    unfold ackToSend at h
    split at h
    · rename_i sent hsent
      cases h
      exact absurd hsent (encodeToSend_open _ _)
    · split at h
      · obtain ⟨ack, -, h⟩ := bind_eq_ok.mp h
        exact absurd h (encodeToSend_open _ _)
      · cases h

theorem ackToSend_some {closing : Bool} {m : ℤ} {md : MetaData} {a : Option (List ActionObj)}
    {p : Frame × Bytes} (h : ackToSend closing m md a = .ok (some p)) :
    ackToSend false m md a = .ok (some p) := by
  cases closing with
  | true => cases h
  | false => exact h

theorem Historied.init (m c : ℤ) (inbound : Bytes) : Historied (Conn.init m c inbound) :=
  fun _ => rfl

theorem Historied.move {s s' : Conn} {ev : Event} (h : Historied s) (hco : Coherent s)
    (hm : s.Move ev s') : Historied s' := by
  have hidle : s.main = .handshake → s.tasks = [] := fun hmain =>
    hco.idle (by simp [hmain, MainPhase.greeted])
  cases hm with
  | cancelled io _ _ => exact h.leave _ rfl (fun _ => rfl) (.inl rfl) rfl
  | slotReturned io _ _ => exact h.leave _ rfl (fun _ => rfl) (.inl rfl) rfl
  | broken text _ _ => exact h.leave _ rfl (fun _ => rfl) (.inl rfl) rfl
  | ends _ _ => exact h.leave _ rfl (fun _ => rfl) (.inl rfl) rfl
  | noSemaphore _ _ _ => exact h.leave _ rfl (fun _ => rfl) (.inl rfl) rfl
  | serves hmain _ _ =>
    exact h.frame (fun i => by simp [Conn.taskAt]) (fun i => by simp [Conn.history])
      (.inl (by simp)) (by simp) (by simp)
  | reads io hmain _ => exact h.frame (fun _ => rfl) (fun _ => rfl) (.inl rfl) id id
  | decodeFails e reader _ _ _ => exact h.leave _ rfl (fun _ => rfl) (.inl rfl) rfl
  | helloFails s₁ frame size hello e _ _ ht _ _ =>
    have hlog := ht.history
    obtain ⟨reader, body, -, -, -, -, rfl⟩ := ht
    exact h.leave _ rfl hlog (.inl rfl) rfl
  | greets s₁ s' frame size hello config hmain _ ht _ _ _ hs =>
    have hlog := ht.history
    obtain ⟨reader, body, -, -, -, -, rfl⟩ := ht
    exact h.sends hs rfl hlog (.inr (hidle hmain)) rfl rfl
  | incompatible s₁ s' frame size hello config code message hmain _ ht _ _ _ hs =>
    have hlog := ht.history
    obtain ⟨reader, body, -, -, -, -, rfl⟩ := ht
    exact h.sends hs rfl hlog (.inr (hidle hmain)) rfl rfl
  | notHello s₁ s' frame size code message hmain _ ht _ _ hs =>
    have hlog := ht.history
    obtain ⟨reader, body, -, -, -, -, rfl⟩ := ht
    exact h.sends hs rfl hlog (.inl rfl) rfl rfl
  | dispatches s₁ frame size messages hmain hc ht _ => exact h.dispatches ht messages
  | replies s₁ s' frame size code message hmain _ ht _ _ hs =>
    have hlog := ht.history
    obtain ⟨reader, body, -, -, -, -, rfl⟩ := ht
    exact h.sends hs rfl hlog (.inl rfl) rfl rfl
  | reports s' io exc hmain hdone hr =>
    cases hr with
    | none s' _ hn => exact h.reportsProtocol hn
    | closed s' _ hn => exact h.reportsProtocol hn
    | refused e x s' _ _ _ hn => exact h.reportsProtocol hn
    | wrote e bytes _ _ _ =>
      exact h.frame (fun _ => rfl) (fun i => s.history_append i rfl (by simp [Entry.isOf]))
        (.inl rfl) id id
  | reportsNext s' io group hmain hr => exact h.reportsProtocol hr
  | reported io group raised hmain => exact h.finish _ _
  | closes io hmain => exact h.frame (fun _ => rfl) (fun _ => rfl) (.inl rfl) id id
  | neverStarts i t ht hphase hc =>
    have hhist := h.task ht
    rw [hphase] at hhist
    have ha := hco.aborting_of_cancelled ht hc
    refine h.update i { t with phase := .cancelled, cancelRequested := false }
      (Conn.setTask_taskAt ht _) (fun _ _ => rfl) ?_ rfl id id
    have hnil : s.history i = [] := hhist.created_eq
    have hsame : (s.setTask i { t with phase := .cancelled, cancelRequested := false }).history i =
      [] := hnil
    rw [hsame]
    exact .neverStarted ha
  | starts i t ht hphase hc =>
    have hhist := h.task ht
    rw [hphase] at hhist
    refine h.update i { t with phase := .running } (Conn.setTask_taskAt ht _) (fun j hj => ?_) ?_
      rfl id id
    · exact s.history_append j rfl (by simp [Entry.isOf, Ne.symm hj])
    · have hlog : ((s.setTask i { t with phase := .running }).record (.invoked i)).history i =
          [.invoked i] := by
        simp only [Conn.history, Conn.record_log, Conn.setTask, List.filter_append]
        rw [← Conn.history, hhist.created_eq]
        simp [Entry.isOf]
      rw [hlog]
      exact .running
  | goesOn i t ht hphase =>
    refine h.frame (fun j => ?_) (fun _ => rfl) (.inl rfl) id id
    rw [Conn.setTask_taskAt ht]
    split
    · rename_i hj
      subst hj
      rw [Conn.taskAt_of_getElem? ht]
    · rfl
  | ackFails i t actions e ht hphase _ =>
    have hhist := h.task ht
    rw [hphase] at hhist
    refine h.endTask ht rfl (Entry.isOf_answered i actions) rfl rfl rfl rfl ?_
    rw [hhist.running_eq]
    exact .refused actions e
  | ackSkipped i t actions ht hphase hack =>
    have hhist := h.task ht
    rw [hphase] at hhist
    refine h.endTask ht rfl (Entry.isOf_answered i actions) rfl rfl rfl rfl ?_
    rw [hhist.running_eq]
    exact .skipped actions (ackToSend_none hack)
  | acks i t actions frame bytes ht hphase hack =>
    have hhist := h.task ht
    rw [hphase] at hhist
    have hset : (((s.record (.answered i actions)).setTask i
        { t with phase := .draining, cancelRequested := false }).record
          (.wrote (some i) frame bytes)).log =
        s.log ++ [.answered i actions, .wrote (some i) frame bytes] := by
      simp [Conn.record, Conn.setTask]
    refine h.update i { t with phase := .draining, cancelRequested := false }
      (Conn.setTask_taskAt ht _) (fun j hj => ?_) ?_ rfl id id
    · exact s.history_append j hset (by simp [Entry.isOf, Ne.symm hj])
    · have hlog : (((s.record (.answered i actions)).setTask i
          { t with phase := .draining, cancelRequested := false }).record
            (.wrote (some i) frame bytes)).history i =
          [.invoked i, .answered i actions, .wrote (some i) frame bytes] := by
        rw [Conn.history, hset, List.filter_append, ← Conn.history, hhist.running_eq]
        simp [Entry.isOf]
      rw [hlog]
      exact .draining actions frame bytes (ackToSend_some hack)
  | handlerRaises i t e ht hphase =>
    have hhist := h.task ht
    rw [hphase] at hhist
    refine h.endTask ht (List.append_nil _).symm (by simp) rfl rfl rfl rfl ?_
    rw [hhist.running_eq]
    exact .failed _ (.inr ⟨e, rfl⟩)
  | handlerCancelled i t ht hphase =>
    have hhist := h.task ht
    rw [hphase] at hhist
    refine h.endTask ht (List.append_nil _).symm (by simp) rfl rfl rfl rfl ?_
    rw [hhist.running_eq]
    exact .failed _ (.inl rfl)
  | drainCancelled i t io ht hphase _ => exact h.drained ht hphase rfl
  | drained i t ht hphase _ => exact h.drained ht hphase rfl
  | drainBroken i t text ht hphase _ => exact h.drained ht hphase rfl
  | failureSeen i t e ht hphase hnew ha =>
    refine h.frame (fun j => ?_) (fun _ => rfl) (.inl rfl) id (fun _ => rfl)
    simp only [Conn.taskAt, Conn.abort, map_requestCancel_taskAt]
    exact Conn.reported_taskAt ht j
  | failureAdded i t e ht hphase hnew ha =>
    exact h.frame (Conn.reported_taskAt ht) (fun _ => rfl) (.inl rfl) id id
  | endSeen i t ht hphase hnew =>
    exact h.frame (Conn.reported_taskAt ht) (fun _ => rfl) (.inl rfl) id id
  | lost => exact h.frame (fun _ => rfl) (fun _ => rfl) (.inl rfl) (fun _ => rfl) id

theorem Historied.reachable {m c : ℤ} {inbound : Bytes} {s : Conn}
    (h : Reaches Conn.step (Conn.init m c inbound) s) : Historied s :=
  invariant (fun _ _ _ hr hi hs => hi.move (Coherent.reachable hr) (Conn.step_move hs))
    (Historied.init m c inbound) h

end SpoeForge
