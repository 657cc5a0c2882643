import SpoeForge.Server.History

/-!
# ACK accounting

Task `i` is the one of the `i`-th NOTIFY that the connection has read, and writes at most
one ACK. So the ACKs written go one to one into the NOTIFYs read, and while nothing has
failed a NOTIFY without an ACK is one whose handler has not returned.
-/

namespace SpoeForge

open Fallible Runs

/-! ### Frames read and written -/

def Entry.received? : Entry → Option Frame
  | .received frame _ => some frame
  | _ => none

def Entry.wrote? : Entry → Option Frame
  | .wrote _ frame _ => some frame
  | _ => none

/-- The ACK of a task, with the task. -/
def Entry.acked? : Entry → Option (ℕ × Frame)
  | .wrote (some i) frame _ => some (i, frame)
  | _ => none

def notifiesIn (log : List Entry) : List Frame :=
  (log.filterMap Entry.received?).filter fun f => f.frameType = .notify

/-- The NOTIFYs read so far, in order. -/
def Conn.notifies (s : Conn) : List Frame := notifiesIn s.log

/-- The ACKs written so far, in order. -/
def Conn.acks (s : Conn) : List Frame :=
  (s.log.filterMap Entry.wrote?).filter fun f => f.frameType = .ack

theorem notifiesIn_append (l l' : List Entry) :
    notifiesIn (l ++ l') = notifiesIn l ++ notifiesIn l' := by
  simp [notifiesIn]

/-- The task ended without returning. -/
def TaskPhase.failed : TaskPhase → Bool
  | .raised _ | .cancelled => true
  | _ => false

/-- The handler of the `j`-th NOTIFY has not returned. -/
def Conn.pending (s : Conn) (j : ℕ) : Bool :=
  s.tasks[j]?.any fun t => t.phase = .created || t.phase = .running

/-- The ACK of all actions, or of the salvaged ones. -/
def AckOf (m : ℤ) (md : MetaData) (actions : Option (List ActionObj)) (frame : Frame) : Prop :=
  frame = ackFrame md actions ∨ salvagedAck m md actions = .ok frame

/-- The frame is an ACK of the `j`-th NOTIFY, with what its handler returned. -/
def Conn.Acknowledges (s : Conn) (frame : Frame) (j : ℕ) : Prop :=
  ∃ notify actions, s.notifies[j]? = some notify ∧
    frame.metadata.streamId = notify.metadata.streamId ∧
    frame.metadata.frameId = notify.metadata.frameId ∧
    .answered j actions ∈ s.log ∧ AckOf s.config.maxFrameSize notify.metadata actions frame

/-! ### What a task acknowledges -/

theorem salvagedAck_metadata {m : ℤ} {md : MetaData} {actions : Option (List ActionObj)}
    {frame : Frame} (h : salvagedAck m md actions = .ok frame) :
    ∃ salvaged, frame = ackFrame md (some salvaged) := by
  obtain ⟨emptyAck, -, h⟩ := bind_eq_ok.mp h
  cases actions with
  | none => cases h
  | some actions =>
    obtain ⟨salvaged, -, h⟩ := bind_eq_ok.mp h
    cases h
    exact ⟨salvaged, rfl⟩

theorem AckOf.frame {m : ℤ} {md : MetaData} {actions : Option (List ActionObj)} {frame : Frame}
    (h : AckOf m md actions frame) : ∃ as, frame = ackFrame md as := by
  rcases h with rfl | h
  · exact ⟨actions, rfl⟩
  · obtain ⟨salvaged, rfl⟩ := salvagedAck_metadata h
    exact ⟨some salvaged, rfl⟩

theorem encodeToSend_some {closing : Bool} {m : ℤ} {frame : Frame} {p : Frame × Bytes}
    (h : encodeToSend closing m frame = .ok (some p)) :
    p.1 = frame ∧ frame.encode m = .ok p.2 := by
  rw [encodeToSend_eq] at h
  split at h
  · cases h
  · cases he : frame.encode m with
    | error e =>
      rw [he] at h
      cases h
    | ok bytes =>
      rw [he] at h
      cases h
      exact ⟨rfl, rfl⟩

theorem ackToSend_ackOf {m : ℤ} {md : MetaData} {actions : Option (List ActionObj)}
    {frame : Frame} {bytes : Bytes}
    (h : ackToSend false m md actions = .ok (some (frame, bytes))) :
    AckOf m md actions frame ∧ frame.encode m = .ok bytes := by
  unfold ackToSend at h
  split at h
  · rename_i sent hsent
    cases h
    obtain ⟨rfl, hb⟩ := encodeToSend_some hsent
    exact ⟨.inl rfl, hb⟩
  · split at h
    · obtain ⟨ack, hack, h⟩ := bind_eq_ok.mp h
      obtain ⟨rfl, hb⟩ := encodeToSend_some h
      exact ⟨.inr hack, hb⟩
    · cases h

/-- What a task has written is the ACK of its NOTIFY, after the answer of its handler. -/
theorem TaskHistory.wrote {s : Conn} {i : ℕ} {md : MetaData} {phase : TaskPhase}
    {l : List Entry} (h : TaskHistory s i md phase l) {frame : Frame} {bytes : Bytes}
    (hw : .wrote (some i) frame bytes ∈ l) : ∃ actions, .answered i actions ∈ l ∧
      AckOf s.config.maxFrameSize md actions frame ∧
      frame.encode s.config.maxFrameSize = .ok bytes := by
  cases h with
  | draining actions frame' bytes' hack =>
    simp only [List.mem_cons, Entry.wrote.injEq, List.not_mem_nil, or_false, false_or,
      reduceCtorEq, true_and] at hw
    obtain ⟨rfl, rfl⟩ := hw
    exact ⟨actions, by simp, ackToSend_ackOf hack⟩
  | acked actions frame' bytes' _ _ hack =>
    simp only [List.mem_cons, Entry.wrote.injEq, List.not_mem_nil, or_false, false_or,
      reduceCtorEq, true_and] at hw
    obtain ⟨rfl, rfl⟩ := hw
    exact ⟨actions, by simp, ackToSend_ackOf hack⟩
  | created => cases hw
  | neverStarted _ => cases hw
  | running => simp at hw
  | failed _ _ => simp at hw
  | refused _ _ => simp at hw
  | skipped _ _ => simp at hw

theorem TaskHistory.acked_length {s : Conn} {i : ℕ} {md : MetaData} {phase : TaskPhase}
    {l : List Entry} (h : TaskHistory s i md phase l) : (l.filterMap Entry.acked?).length ≤ 1 := by
  cases h <;> simp [List.filterMap, Entry.acked?]

theorem TaskHistory.acked_of_settled {s : Conn} {i : ℕ} {md : MetaData} {phase : TaskPhase}
    {l : List Entry} (h : TaskHistory s i md phase l) (hopen : s.writerClosing = false)
    (hfailed : phase.failed = false) (hphase : ¬(phase = .created ∨ phase = .running)) :
    ∃ frame bytes, .wrote (some i) frame bytes ∈ l := by
  cases h with
  | created => simp at hphase
  | neverStarted => cases hfailed
  | running => simp at hphase
  | failed _ h => rcases h with rfl | ⟨e, rfl⟩ <;> cases hfailed
  | refused => cases hfailed
  | skipped _ hc => exact Bool.noConfusion (hc.symm.trans hopen)
  | draining actions frame bytes _ => exact ⟨frame, bytes, by simp⟩
  | acked actions frame bytes _ _ _ => exact ⟨frame, bytes, by simp⟩

theorem Conn.mem_history {s : Conn} {i : ℕ} {e : Entry} :
    e ∈ s.history i ↔ e ∈ s.log ∧ e.isOf i = true := List.mem_filter

theorem Historied.wrote {s : Conn} (h : Historied s) {i : ℕ} {frame : Frame} {bytes : Bytes}
    (hw : .wrote (some i) frame bytes ∈ s.log) : ∃ t actions, s.tasks[i]? = some t ∧
      .answered i actions ∈ s.log ∧ AckOf s.config.maxFrameSize t.metadata actions frame ∧
      frame.encode s.config.maxFrameSize = .ok bytes := by
  have hmem : .wrote (some i) frame bytes ∈ s.history i :=
    Conn.mem_history.mpr ⟨hw, by simp [Entry.isOf]⟩
  cases ht : s.tasks[i]? with
  | none =>
    have hi := h i
    rw [Conn.taskAt, ht] at hi
    simp only [Option.map_none] at hi
    rw [hi] at hmem
    cases hmem
  | some t =>
    obtain ⟨actions, ha, hack⟩ := (h.task ht).wrote hmem
    exact ⟨t, actions, rfl, (Conn.mem_history.mp ha).1, hack⟩

/-! ### Tasks and the NOTIFYs they are for -/

/-- Task `i` has the metadata of the `i`-th NOTIFY, unless the handshake was refused; the
coroutine of the connection writes no ACK. -/
structure Dispatched (s : Conn) : Prop where
  fresh : s.main = .handshake → s.log = []
  tasks : s.tasks.map Task.metadata = s.notifies.map Frame.metadata ∨
    (s.tasks = [] ∧ (s.main = .refusing ∨ s.aborting = true))
  own : ∀ frame bytes, .wrote none frame bytes ∈ s.log → frame.frameType ≠ .ack

@[simp] theorem map_requestCancel_metadata (ts : List Task) :
    (ts.map Task.requestCancel).map Task.metadata = ts.map Task.metadata := by
  rw [List.map_map]
  congr 1
  funext t
  exact t.requestCancel_metadata

@[simp] theorem Conn.leave_metadata (s : Conn) (exc : Option Exc) :
    (s.leave exc).tasks.map Task.metadata = s.tasks.map Task.metadata := by
  rcases s.leave_tasks exc with h | h
  · rw [h]
  · rw [h, map_requestCancel_metadata]

theorem Conn.setTask_metadata {s : Conn} {i : ℕ} {t : Task} (ht : s.tasks[i]? = some t)
    (t' : Task) (hm : t'.metadata = t.metadata) :
    (s.setTask i t').tasks.map Task.metadata = s.tasks.map Task.metadata := by
  obtain ⟨hi, rfl⟩ := List.getElem?_eq_some_iff.mp ht
  rw [Conn.setTask_tasks, List.map_set, hm]
  refine List.ext_getElem? fun j => ?_
  by_cases hj : i = j
  · subst hj
    simp [hi]
  · rw [List.getElem?_set_ne hj]

theorem disconnectFrame_type (code : DisconnectCode) (message : Str) :
    (disconnectFrame code message).frameType ≠ .ack := by
  intro h
  cases h

theorem Dispatched.frame {s s' : Conn} {l : List Entry} (h : Dispatched s)
    (hmain : s'.main ≠ .handshake) (hlog : s'.log = s.log ++ l) (hquiet : notifiesIn l = [])
    (hown : ∀ frame bytes, .wrote none frame bytes ∈ l → frame.frameType ≠ .ack)
    (htasks : s'.tasks.map Task.metadata = s.tasks.map Task.metadata)
    (hrefused : s.main = .refusing → s'.main = .refusing ∨ s'.aborting = true)
    (ha : s.aborting = true → s'.aborting = true) : Dispatched s' where
  fresh := fun hm => absurd hm hmain
  tasks := by
    have hnotifies : s'.notifies = s.notifies := by
      rw [Conn.notifies, hlog, notifiesIn_append, hquiet, List.append_nil, Conn.notifies]
    rcases h.tasks with ht | ⟨hnil, hr⟩
    · exact .inl (by rw [htasks, hnotifies, ht])
    · refine .inr ⟨?_, hr.elim hrefused fun hab => .inr (ha hab)⟩
      rw [hnil] at htasks
      exact List.map_eq_nil_iff.mp htasks
  own := fun frame bytes hw => by
    rw [hlog] at hw
    exact (List.mem_append.mp hw).elim (h.own frame bytes) (hown frame bytes)

theorem Dispatched.leave {s s₁ : Conn} {l : List Entry} (h : Dispatched s) (exc : Option Exc)
    (hlog : s₁.log = s.log ++ l) (hquiet : notifiesIn l = [])
    (hown : ∀ frame bytes, .wrote none frame bytes ∉ l) (htasks : s₁.tasks = s.tasks) :
    Dispatched (s₁.leave exc) :=
  h.frame (by simp) (by rw [Conn.leave_log, hlog]) hquiet
    (fun frame bytes hw => absurd hw (hown frame bytes)) (by rw [Conn.leave_metadata, htasks])
    (fun _ => .inr (s₁.leave_aborting exc)) (fun _ => s₁.leave_aborting exc)

theorem Dispatched.sends {s s₁ s' : Conn} {frame sent : Frame} {size : ℕ} {draining : MainPhase}
    (h : Dispatched s) (hs : s₁.Sends sent draining s') (hsent : sent.frameType ≠ .ack)
    (hlog : s₁.log = s.log ++ [.received frame size]) (hframe : frame.frameType ≠ .notify)
    (htasks : s₁.tasks = s.tasks) (ha : s₁.aborting = s.aborting) (hmain : s.main ≠ .refusing)
    (hdraining : draining ≠ .handshake) : Dispatched s' := by
  have hquiet : notifiesIn [.received frame size] = [] := by
    simp [notifiesIn, Entry.received?, hframe]
  cases hs with
  | refused e _ _ => exact h.leave _ hlog hquiet (by simp) htasks
  | closed _ => exact h.leave _ hlog hquiet (by simp) htasks
  | wrote bytes _ _ =>
    refine h.frame (l := [.received frame size, .wrote none sent bytes]) hdraining ?_ ?_ ?_ ?_
      (fun hm => absurd hm hmain) (fun hab => ha.trans hab)
    · simp [Conn.record, hlog]
    · simp [notifiesIn, Entry.received?, hframe]
    · intro f b hw
      simp only [List.mem_cons, reduceCtorEq, Entry.wrote.injEq, true_and, List.not_mem_nil,
        or_false, false_or] at hw
      rw [hw.1]
      exact hsent
    · simp only [Conn.record, htasks]

/-- The handshake refuses a frame that is no HELLO, perhaps a NOTIFY. -/
theorem Dispatched.refuses {s s₁ s' : Conn} {frame sent : Frame} {size : ℕ} (h : Dispatched s)
    (hs : s₁.Sends sent .refusing s') (hsent : sent.frameType ≠ .ack)
    (hlog : s₁.log = s.log ++ [.received frame size]) (htasks : s₁.tasks = [])
    (hmain : s.main = .handshake) : Dispatched s' := by
  have hnil : ∀ exc, (s₁.leave exc).tasks = [] := fun exc =>
    List.map_eq_nil_iff.mp (by rw [Conn.leave_metadata, htasks]; rfl)
  have hlog₁ : s₁.log = [.received frame size] := by rw [hlog, h.fresh hmain, List.nil_append]
  cases hs with
  | refused e _ _ =>
    exact ⟨fun hm => (by cases hm), .inr ⟨hnil _, .inr (s₁.leave_aborting _)⟩, by simp [hlog₁]⟩
  | closed _ =>
    exact ⟨fun hm => (by cases hm), .inr ⟨hnil _, .inr (s₁.leave_aborting _)⟩, by simp [hlog₁]⟩
  | wrote bytes _ _ =>
    refine ⟨fun hm => (by cases hm), .inr ⟨htasks, .inl rfl⟩, fun f b hw => ?_⟩
    simp only [Conn.record, hlog₁, List.cons_append, List.nil_append, List.mem_cons, reduceCtorEq,
      Entry.wrote.injEq, true_and, List.not_mem_nil, or_false, false_or] at hw
    rw [hw.1]
    exact hsent

theorem Dispatched.dispatches {s s₁ : Conn} {frame : Frame} {size : ℕ} {messages : Messages}
    (h : Dispatched s) (ht : s.Takes frame size s₁) (hpayload : frame.payload = .notify messages)
    (hmain : s.main = .reading) (ha : s.aborting = false) :
    Dispatched { s₁ with tasks := s₁.tasks ++ [Task.new frame.metadata messages] }.acquire := by
  obtain ⟨reader, body, -, -, -, -, rfl⟩ := ht
  have htype : frame.frameType = .notify := by rw [Frame.frameType, hpayload]; rfl
  refine ⟨fun hm => ?_, .inl ?_, fun f b hw => ?_⟩
  · rcases ({ s with
      reader := reader, log := s.log ++ [.received frame size],
      tasks := s.tasks ++ [Task.new frame.metadata messages] } : Conn).acquire_main with he | he
    · exact absurd (he.symm.trans hm) (by simp)
    · exact absurd (he.symm.trans hm) (by simp)
  · have ht : s.tasks.map Task.metadata = s.notifies.map Frame.metadata :=
      h.tasks.resolve_right fun hr => by simp [hmain, ha] at hr
    simp only [Conn.acquire_tasks, Conn.notifies, Conn.acquire_log, notifiesIn_append,
      List.map_append, ht]
    simp [notifiesIn, Entry.received?, htype, Task.new]
  · simp only [Conn.acquire_log, List.mem_append, List.mem_singleton, reduceCtorEq, or_false] at hw
    exact h.own f b hw

theorem Dispatched.finish {s : Conn} (h : Dispatched s) (hleft : s.main.left = true)
    (ha : s.aborting = true) (group raised : List Exc) : Dispatched (s.finish group raised) := by
  have hmain : s.main ≠ .refusing := fun hm => by simp [hm, MainPhase.left] at hleft
  rcases s.finish_main group raised with ⟨-, he⟩ | he <;> rw [he]
  · exact h.frame (by simp) (List.append_nil _).symm rfl (by simp) rfl
      (fun hm => absurd hm hmain) (fun _ => ha)
  · exact h.frame (by simp) (List.append_nil _).symm rfl (by simp) rfl
      (fun hm => absurd hm hmain) (fun _ => ha)

theorem Dispatched.reportsError {s : Conn} (h : Dispatched s) (hleft : s.main.left = true)
    (ha : s.aborting = true) (code : DisconnectCode) (e : Exc) (bytes : Bytes) (main : MainPhase)
    (hmain : main ≠ .handshake) :
    Dispatched { s.record (.wrote none (errorFrame code e) bytes) with main := main } := by
  refine h.frame hmain rfl rfl (fun f b hw => ?_) rfl (fun hm => ?_) (fun _ => ha)
  · simp only [List.mem_singleton, Entry.wrote.injEq, true_and] at hw
    rw [hw.1]
    exact disconnectFrame_type _ _
  · simp [hm, MainPhase.left] at hleft

theorem Dispatched.reportsProtocol {s s' : Conn} {group raised : List Exc} (h : Dispatched s)
    (hleft : s.main.left = true) (ha : s.aborting = true)
    (hs : s.ReportsProtocol group raised s') : Dispatched s' := by
  cases hs with
  | none _ => exact h.finish hleft ha _ _
  | closed _ => exact h.finish hleft ha _ _
  | refused e x _ _ _ => exact h.finish hleft ha _ _
  | wrote e bytes _ _ _ => exact h.reportsError hleft ha _ e bytes _ (by simp)

theorem Dispatched.task {s s' : Conn} {l : List Entry} (h : Dispatched s)
    (hgreeted : s.main.greeted = true)
    (hmain : s'.main = s.main ∨ s'.main = .granted) (hlog : s'.log = s.log ++ l)
    (hl : ∀ e ∈ l, ∃ i, e.isOf i = true)
    (htasks : s'.tasks.map Task.metadata = s.tasks.map Task.metadata)
    (ha : s.aborting = true → s'.aborting = true) : Dispatched s' := by
  refine h.frame (fun hm => ?_) hlog ?_ (fun f b hw => ?_) htasks (fun hm => ?_) ha
  · rcases hmain with he | he
    · simp [← he, hm, MainPhase.greeted] at hgreeted
    · exact absurd (he.symm.trans hm) (by simp)
  · have hnone : l.filterMap Entry.received? = [] := by
      refine List.filterMap_eq_nil_iff.mpr fun e he => ?_
      obtain ⟨i, hi⟩ := hl e he
      cases e with
      | received f n => cases hi
      | _ => rfl
    rw [notifiesIn, hnone]
    rfl
  · obtain ⟨i, hi⟩ := hl _ hw
    simp [Entry.isOf] at hi
  · simp [hm, MainPhase.greeted] at hgreeted

theorem Dispatched.endTask {s s₁ : Conn} {l : List Entry} (h : Dispatched s)
    (hgreeted : s.main.greeted = true) {i : ℕ} {t : Task} (ht : s.tasks[i]? = some t)
    (phase : TaskPhase) (hmain : s₁.main = s.main) (hlog : s₁.log = s.log ++ l)
    (hl : ∀ e ∈ l, ∃ j, e.isOf j = true) (htasks : s₁.tasks = s.tasks)
    (ha : s₁.aborting = s.aborting) : Dispatched (s₁.endTask i t phase) := by
  refine h.task (l := l ++ [.released i]) hgreeted ?_ ?_ ?_ ?_ (fun hab => ?_)
  · rcases (s₁.setTask i { t with phase := phase, cancelRequested := false }).release_main i with
      he | ⟨-, -, he⟩
    · exact .inl (he.trans hmain)
    · exact .inr he
  · simp [Conn.endTask, Conn.setTask, hlog]
  · have hreleased : ∃ j, (Entry.released i).isOf j = true := ⟨i, by simp [Entry.isOf]⟩
    exact List.forall_mem_append.mpr ⟨hl, List.forall_mem_singleton.mpr hreleased⟩
  · have ht₁ : s₁.tasks[i]? = some t := by rw [htasks, ht]
    rw [Conn.endTask, Conn.release_tasks, Conn.setTask_metadata ht₁
      { t with phase := phase, cancelRequested := false } rfl, htasks]
  · simpa [Conn.endTask, Conn.setTask, ha] using hab

theorem Dispatched.init (m c : ℤ) (inbound : Bytes) : Dispatched (Conn.init m c inbound) :=
  ⟨fun _ => rfl, .inl rfl, by simp [Conn.init]⟩

theorem Coherent.greeted_of_task {s : Conn} (h : Coherent s) {i : ℕ} {t : Task}
    (ht : s.tasks[i]? = some t) : s.main.greeted = true := by
  by_contra hn
  rw [h.idle (by simpa using hn)] at ht
  cases ht

theorem Dispatched.move {s s' : Conn} {ev : Event} (h : Dispatched s) (hco : Coherent s)
    (hm : s.Move ev s') : Dispatched s' := by
  have hnil : ∀ f b, Entry.wrote none f b ∉ [] := by simp
  cases hm with
  | cancelled io _ _ => exact h.leave _ (List.append_nil _).symm rfl hnil rfl
  | slotReturned io _ _ => exact h.leave _ (List.append_nil _).symm rfl hnil rfl
  | broken text _ _ => exact h.leave _ (List.append_nil _).symm rfl hnil rfl
  | ends _ _ => exact h.leave _ (List.append_nil _).symm rfl hnil rfl
  | noSemaphore _ _ _ => exact h.leave _ (List.append_nil _).symm rfl hnil rfl
  | serves hmain _ _ =>
    refine h.frame (fun hm => ?_) (by simp) (l := []) rfl (by simp) (by simp)
      (fun hm => by simp [hmain] at hm) (by simp)
    rcases ({ s with slots := s.config.limit.toNat } : Conn).acquire_main with he | he
    · exact absurd (he.symm.trans hm) (by simp)
    · exact absurd (he.symm.trans hm) (by simp)
  | reads io hmain _ =>
    exact h.frame (by simp) (List.append_nil _).symm rfl (by simp) rfl
      (fun hm => by simp [hmain] at hm) id
  | decodeFails e reader _ _ _ => exact h.leave _ (List.append_nil _).symm rfl hnil rfl
  | helloFails s₁ frame size hello e _ _ ht hp _ =>
    obtain ⟨reader, body, -, -, -, -, rfl⟩ := ht
    exact h.leave (l := [.received frame size]) _ rfl
      (by simp [notifiesIn, Entry.received?, Frame.frameType, hp, Payload.frameType]) (by simp) rfl
  | greets s₁ s' frame size hello config hmain _ ht hp _ _ hs =>
    obtain ⟨reader, body, -, -, -, -, rfl⟩ := ht
    exact h.sends hs (fun he => by cases he) rfl
      (by simp [Frame.frameType, hp, Payload.frameType]) rfl rfl (by simp [hmain]) (by simp)
  | incompatible s₁ s' frame size hello config code message hmain _ ht hp _ _ hs =>
    obtain ⟨reader, body, -, -, -, -, rfl⟩ := ht
    exact h.sends hs (disconnectFrame_type _ _) rfl
      (by simp [Frame.frameType, hp, Payload.frameType]) rfl rfl (by simp [hmain]) (by simp)
  | notHello s₁ s' frame size code message hmain _ ht hp _ hs =>
    obtain ⟨reader, body, -, -, -, -, rfl⟩ := ht
    exact h.refuses hs (disconnectFrame_type _ _) rfl
      (hco.idle (by simp [hmain, MainPhase.greeted])) hmain
  | dispatches s₁ frame size messages hmain hc ht hp =>
    exact h.dispatches ht hp hmain (hco.not_aborting (by simp [hmain, MainPhase.left]) hc)
  | replies s₁ s' frame size code message hmain _ ht hp _ hs =>
    obtain ⟨reader, body, -, -, -, -, rfl⟩ := ht
    refine h.sends hs (disconnectFrame_type _ _) rfl (fun he => ?_) rfl rfl (by simp [hmain])
      (by simp)
    cases hpay : frame.payload with
    | notify messages => exact hp messages hpay
    | _ => simp [Frame.frameType, hpay, Payload.frameType] at he
  | reports s' io exc hmain hdone hr =>
    have hleft : s.main.left = true := by simp [hmain, MainPhase.left]
    have ha := hco.left_aborting hleft
    cases hr with
    | none s' _ hn => exact h.reportsProtocol hleft ha hn
    | closed s' _ hn => exact h.reportsProtocol hleft ha hn
    | refused e x s' _ _ _ hn => exact h.reportsProtocol hleft ha hn
    | wrote e bytes _ _ _ => exact h.reportsError hleft ha _ e bytes _ (by simp)
  | reportsNext s' io group hmain hr =>
    have hleft : s.main.left = true := by simp [hmain, MainPhase.left]
    exact h.reportsProtocol hleft (hco.left_aborting hleft) hr
  | reported io group raised hmain =>
    have hleft : s.main.left = true := by simp [hmain, MainPhase.left]
    exact h.finish hleft (hco.left_aborting hleft) _ _
  | closes io hmain =>
    exact h.frame (by simp) (List.append_nil _).symm rfl (by simp) rfl
      (fun hm => by simp [hmain] at hm) id
  | neverStarts i t ht hphase hc =>
    exact h.task (hco.greeted_of_task ht) (.inl rfl) (List.append_nil _).symm (by simp)
      (Conn.setTask_metadata ht _ rfl) id
  | starts i t ht hphase hc =>
    exact h.task (hco.greeted_of_task ht) (.inl rfl) (l := [.invoked i]) rfl
      (by simp [Entry.isOf]) (Conn.setTask_metadata ht _ rfl) id
  | goesOn i t ht hphase =>
    exact h.task (hco.greeted_of_task ht) (.inl rfl) (List.append_nil _).symm (by simp)
      (Conn.setTask_metadata ht _ rfl) id
  | ackFails i t actions e ht hphase _ =>
    exact h.endTask (l := [.answered i actions]) (hco.greeted_of_task ht) ht _ rfl rfl
      (by simp [Entry.isOf]) rfl rfl
  | ackSkipped i t actions ht hphase _ =>
    exact h.endTask (l := [.answered i actions]) (hco.greeted_of_task ht) ht _ rfl rfl
      (by simp [Entry.isOf]) rfl rfl
  | acks i t actions frame bytes ht hphase _ =>
    exact h.task (hco.greeted_of_task ht) (.inl rfl)
      (l := [.answered i actions, .wrote (some i) frame bytes]) (by simp [Conn.record, Conn.setTask])
      (by simp [Entry.isOf]) (Conn.setTask_metadata ht _ rfl) id
  | handlerRaises i t e ht hphase =>
    exact h.endTask (hco.greeted_of_task ht) ht _ rfl (List.append_nil _).symm (by simp) rfl rfl
  | handlerCancelled i t ht hphase =>
    exact h.endTask (hco.greeted_of_task ht) ht _ rfl (List.append_nil _).symm (by simp) rfl rfl
  | drainCancelled i t io ht hphase _ =>
    exact h.endTask (hco.greeted_of_task ht) ht _ rfl (List.append_nil _).symm (by simp) rfl rfl
  | drained i t ht hphase _ =>
    exact h.endTask (hco.greeted_of_task ht) ht _ rfl (List.append_nil _).symm (by simp) rfl rfl
  | drainBroken i t text ht hphase _ =>
    exact h.endTask (hco.greeted_of_task ht) ht _ rfl (List.append_nil _).symm (by simp) rfl rfl
  | failureSeen i t e ht hphase _ _ =>
    refine h.task (hco.greeted_of_task ht) (.inl rfl) (List.append_nil _).symm (by simp) ?_
      (fun _ => rfl)
    simp only [Conn.abort, map_requestCancel_metadata]
    exact Conn.setTask_metadata ht _ rfl
  | failureAdded i t e ht hphase hnew ha =>
    exact h.task (hco.greeted_of_task ht) (.inl rfl) (List.append_nil _).symm (by simp)
      (Conn.setTask_metadata ht _ rfl) id
  | endSeen i t ht hphase hnew =>
    exact h.task (hco.greeted_of_task ht) (.inl rfl) (List.append_nil _).symm (by simp)
      (Conn.setTask_metadata ht _ rfl) id
  | lost => exact ⟨h.fresh, h.tasks, h.own⟩

theorem Dispatched.reachable {m c : ℤ} {inbound : Bytes} {s : Conn}
    (h : Reaches Conn.step (Conn.init m c inbound) s) : Dispatched s :=
  invariant (fun _ _ _ hr hi hs => hi.move (Coherent.reachable hr) (Conn.step_move hs))
    (Dispatched.init m c inbound) h

/-! ### The accounting -/

/-- The ACKs written so far, each with its task. -/
def Conn.ackedBy (s : Conn) : List (ℕ × Frame) := s.log.filterMap Entry.acked?

theorem Entry.acked?_eq_some {e : Entry} {i : ℕ} {frame : Frame} :
    e.acked? = some (i, frame) ↔ ∃ bytes, e = .wrote (some i) frame bytes := by
  cases e with
  | wrote source f b =>
    cases source with
    | none => simp [Entry.acked?]
    | some j => simp [Entry.acked?]
  | _ => simp [Entry.acked?]

theorem Conn.mem_ackedBy {s : Conn} {i : ℕ} {frame : Frame} :
    (i, frame) ∈ s.ackedBy ↔ ∃ bytes, .wrote (some i) frame bytes ∈ s.log := by
  rw [Conn.ackedBy, List.mem_filterMap]
  constructor
  · rintro ⟨e, he, hacked⟩
    obtain ⟨bytes, rfl⟩ := Entry.acked?_eq_some.mp hacked
    exact ⟨bytes, he⟩
  · rintro ⟨bytes, hw⟩
    exact ⟨_, hw, rfl⟩

theorem acks_of_sources {l : List Entry}
    (hown : ∀ frame bytes, .wrote none frame bytes ∈ l → frame.frameType ≠ .ack)
    (htask : ∀ i frame bytes, .wrote (some i) frame bytes ∈ l → frame.frameType = .ack) :
    ((l.filterMap Entry.wrote?).filter fun f => f.frameType = .ack) =
      (l.filterMap Entry.acked?).map Prod.snd := by
  induction l with
  | nil => rfl
  | cons e l ih =>
    have ih := ih (fun f b hw => hown f b (List.mem_cons_of_mem _ hw))
      (fun i f b hw => htask i f b (List.mem_cons_of_mem _ hw))
    cases e with
    | wrote source f b =>
      cases source with
      | none =>
        have hf := hown f b (List.mem_cons_self ..)
        simpa [List.filterMap_cons, Entry.wrote?, Entry.acked?, hf] using ih
      | some i =>
        have hf := htask i f b (List.mem_cons_self ..)
        simpa [List.filterMap_cons, Entry.wrote?, Entry.acked?, hf] using ih
    | _ => simpa [List.filterMap_cons, Entry.wrote?, Entry.acked?] using ih

theorem count_acked (i : ℕ) (l : List Entry) :
    ((l.filterMap Entry.acked?).map Prod.fst).count i =
      ((l.filter (Entry.isOf i)).filterMap Entry.acked?).length := by
  induction l with
  | nil => rfl
  | cons e l ih =>
    cases e with
    | wrote source f b =>
      cases source with
      | none => simpa [List.filterMap_cons, Entry.acked?, Entry.isOf] using ih
      | some j =>
        by_cases hj : j = i
        · simpa [List.filterMap_cons, Entry.acked?, Entry.isOf, hj] using ih
        · simpa [List.filterMap_cons, Entry.acked?, Entry.isOf, hj] using ih
    | received f n => simpa [List.filterMap_cons, Entry.acked?, Entry.isOf] using ih
    | _ j =>
      by_cases hj : j = i <;> simpa [List.filterMap_cons, Entry.acked?, Entry.isOf, hj] using ih

theorem Historied.ackedBy_nodup {s : Conn} (h : Historied s) :
    (s.ackedBy.map Prod.fst).Nodup := by
  rw [List.nodup_iff_count_le_one]
  intro i
  rw [Conn.ackedBy, count_acked, ← Conn.history]
  rcases h.history_cases i with hnil | ⟨md, phase, hi⟩
  · simp [hnil]
  · exact hi.acked_length

theorem Conn.acks_eq {s : Conn} (hd : Dispatched s) (hh : Historied s) :
    s.acks = s.ackedBy.map Prod.snd := by
  refine acks_of_sources hd.own fun i frame bytes hw => ?_
  obtain ⟨t, actions, -, -, hack, -⟩ := hh.wrote hw
  obtain ⟨as, rfl⟩ := hack.frame
  rfl

/-- A task that has written is the one of a NOTIFY with its metadata. -/
theorem Dispatched.notify {s : Conn} (h : Dispatched s) {i : ℕ} {t : Task}
    (ht : s.tasks[i]? = some t) :
    ∃ notify, s.notifies[i]? = some notify ∧ notify.metadata = t.metadata := by
  have htasks := h.tasks.resolve_right fun hr => by
    rw [hr.1] at ht
    cases ht
  have hi : (s.notifies.map Frame.metadata)[i]? = some t.metadata := by
    rw [← htasks, List.getElem?_map, ht]
    rfl
  simpa using hi

theorem Conn.acknowledges {s : Conn} (hd : Dispatched s) (hh : Historied s) {i : ℕ}
    {frame : Frame} (hmem : (i, frame) ∈ s.ackedBy) : s.Acknowledges frame i := by
  obtain ⟨bytes, hw⟩ := Conn.mem_ackedBy.mp hmem
  obtain ⟨t, actions, ht, ha, hack, -⟩ := hh.wrote hw
  obtain ⟨notify, hn, hmd⟩ := hd.notify ht
  rw [← hmd] at hack
  obtain ⟨as, rfl⟩ := hack.frame
  exact ⟨notify, actions, hn, rfl, rfl, ha, hack⟩

/-- The ACKs written go one to one into the NOTIFYs read, each with the ids of its NOTIFY and
the actions of its handler. While nothing has failed, a NOTIFY whose handler has returned has
exactly one ACK. -/
theorem ack_accounting (m c : ℤ) (inbound : Bytes) (s : Conn)
    (h : Reaches Conn.step (Conn.init m c inbound) s) :
    ∃ g : Fin s.acks.length → Fin s.notifies.length, Function.Injective g ∧
      (∀ k, s.Acknowledges (s.acks.get k) (g k)) ∧
      (s.main ≠ .refusing → s.aborting = false → s.writerClosing = false →
        (∀ t ∈ s.tasks, t.phase.failed = false) →
        ∀ j : Fin s.notifies.length, s.pending j ∨ ∃! k, g k = j) := by
  have hd := Dispatched.reachable h
  have hh := Historied.reachable h
  have heq := Conn.acks_eq hd hh
  have hlen : s.acks.length = s.ackedBy.length := by rw [heq, List.length_map]
  have hget : ∀ k : Fin s.acks.length, s.acks.get k = (s.ackedBy.get (k.cast hlen)).2 := by
    intro k
    simp [heq]
  have hack : ∀ k : Fin s.acks.length,
      s.Acknowledges (s.acks.get k) (s.ackedBy.get (k.cast hlen)).1 := by
    intro k
    rw [hget k]
    exact Conn.acknowledges hd hh (List.get_mem s.ackedBy _)
  have hbound : ∀ k : Fin s.acks.length, (s.ackedBy.get (k.cast hlen)).1 < s.notifies.length := by
    intro k
    obtain ⟨notify, -, hn, -⟩ := hack k
    exact (List.getElem?_eq_some_iff.mp hn).1
  have hinj : ∀ k k' : Fin s.acks.length,
      (s.ackedBy.get (k.cast hlen)).1 = (s.ackedBy.get (k'.cast hlen)).1 → k = k' := by
    intro k k' hk
    have hlt : ∀ k : Fin s.acks.length, k.val < (s.ackedBy.map Prod.fst).length := by
      intro k
      rw [List.length_map, ← hlen]
      exact k.2
    have heq : (⟨k, hlt k⟩ : Fin _) = ⟨k', hlt k'⟩ :=
      List.nodup_iff_injective_get.mp hh.ackedBy_nodup (by simpa using hk)
    exact Fin.ext (Fin.mk.inj heq)
  refine ⟨fun k => ⟨(s.ackedBy.get (k.cast hlen)).1, hbound k⟩, ?_, hack, ?_⟩
  · intro k k' hk
    exact hinj k k' (Fin.mk.inj hk)
  · intro hrefused ha hopen hfailed j
    have htasks := hd.tasks.resolve_right fun hr => by simp [hrefused, ha] at hr
    have hj : j.val < s.tasks.length := by
      have hl := congrArg List.length htasks
      simp only [List.length_map] at hl
      omega
    by_cases hp : s.pending j
    · exact .inl hp
    · have ht := List.getElem?_eq_getElem hj
      obtain ⟨frame, bytes, hw⟩ := (hh.task ht).acked_of_settled hopen
        (hfailed _ (List.getElem_mem hj)) fun hphase => hp (by simpa [Conn.pending, ht] using hphase)
      have hmem := Conn.mem_ackedBy.mpr ⟨bytes, (Conn.mem_history.mp hw).1⟩
      obtain ⟨n, hn⟩ := List.mem_iff_get.mp hmem
      have hfst : (s.ackedBy.get n).1 = j.val := by rw [hn]
      refine .inr ⟨n.cast hlen.symm, Fin.ext hfst, fun k hk => hinj _ _ ?_⟩
      exact (congrArg Fin.val hk).trans hfst.symm

/-- A pipelined connection after the ACK of one of two NOTIFYs. -/
def Conn.acknowledged : Conn :=
  Conn.after 16384 2 [helloFrame 16384 [PIPELINING], notifyFrame 7 1]
    [.main .ok, .main .ok, .main .ok, .start 0, .handler 0 (.returned (some []))]

theorem ack_accounting_acknowledged :
    ∃ g : Fin Conn.acknowledged.acks.length → Fin Conn.acknowledged.notifies.length,
      ∀ j : Fin Conn.acknowledged.notifies.length, ∃! k, g k = j := by
  obtain ⟨g, -, -, hall⟩ := ack_accounting 16384 2
    (Conn.onFrames 16384 2 [helloFrame 16384 [PIPELINING], notifyFrame 7 1]).reader.buffer
    Conn.acknowledged
    ⟨[.main .ok, .main .ok, .main .ok, .start 0, .handler 0 (.returned (some []))],
      by decide +kernel⟩
  have hdone : ∀ j : Fin Conn.acknowledged.notifies.length, Conn.acknowledged.pending j = false := by
    decide +kernel
  have hall := hall (by decide +kernel) (by decide +kernel) (by decide +kernel) (by decide +kernel)
  exact ⟨g, fun j => (hall j).resolve_left (by simp [hdone j])⟩

/-- A NOTIFY in place of the HELLO is read and refused: it is neither in flight nor
acknowledged while the connection drains its disconnect. -/
theorem refused_notify_unacknowledged :
    ∃ s, Reaches Conn.step (Conn.onFrames 16384 2 [notifyFrame 7 1]) s ∧
      s.aborting = false ∧ s.writerClosing = false ∧
      (∀ t ∈ s.tasks, t.phase.failed = false) ∧
      ¬∃ g : Fin s.acks.length → Fin s.notifies.length,
        ∀ j : Fin s.notifies.length, s.pending j ∨ ∃! k, g k = j := by
  refine ⟨Conn.after 16384 2 [notifyFrame 7 1] [.main .ok], ⟨[.main .ok], by decide +kernel⟩,
    by decide +kernel, by decide +kernel, by decide +kernel, ?_⟩
  have hacks : (Conn.after 16384 2 [notifyFrame 7 1] [.main .ok]).acks.length = 0 := by
    decide +kernel
  have hnotifies : 0 < (Conn.after 16384 2 [notifyFrame 7 1] [.main .ok]).notifies.length := by
    decide +kernel
  have hpending : (Conn.after 16384 2 [notifyFrame 7 1] [.main .ok]).pending 0 = false := by
    decide +kernel
  rintro ⟨g, hg⟩
  rcases hg ⟨0, hnotifies⟩ with hp | ⟨k, -, -⟩
  · exact Bool.noConfusion (hpending.symm.trans hp)
  · exact absurd k.2 (by omega)

end SpoeForge
