import SpoeForge.Server.Gate
import SpoeForge.Wire.EndOfStream
import SpoeForge.Wire.Identifiers

/-!
# What a connection reads and writes

A step of the connection takes at most one frame off the reader and hands at most one
frame, in one piece, to the writer. So the frames read are the first ones of the stream
the peer sends, in order; the tasks are those of its NOTIFYs; and what the writer was
given is a stream that decodes to the frames written.
-/

namespace SpoeForge

open Fallible Grammar Runs

/-- The frames read so far, in order. -/
def Conn.received (s : Conn) : List Frame := s.log.filterMap Entry.received?

/-- The frames written so far, in order. -/
def Conn.sent (s : Conn) : List Frame := s.log.filterMap Entry.wrote?

def Entry.bytes : Entry → Bytes
  | .wrote _ _ bytes => bytes
  | _ => []

/-- The bytes given to the writer so far. -/
def Conn.output (s : Conn) : Bytes := s.log.flatMap Entry.bytes

/-- What `_process_notify` is called with for a frame of the read loop. -/
def Frame.job? (f : Frame) : Option (MetaData × Messages) :=
  match f.payload with
  | .notify messages => some (f.metadata, messages)
  | _ => none

/-- What the tasks were created with, in order. -/
def Conn.jobs (s : Conn) : List (MetaData × Messages) :=
  s.tasks.map fun t => (t.metadata, t.messages)

/-! ### Reading -/

/-- What a step takes off the reader: nothing, bytes that are no frame, the frame of the
handshake, or a frame of the read loop. -/
inductive Conn.Intake (s s' : Conn) : Prop
  | nothing (hreader : s'.reader = s.reader) (hreceived : s'.received = s.received)
      (hjobs : s'.jobs = s.jobs) (hconfig : s'.config = s.config)
      (hmain : s'.main.left = false → s.main.left = false ∧
        (s'.main = .handshake ↔ s.main = .handshake))
  | failed (e : Exc) (hmain : s.main = .handshake ∨ s.main = .reading)
      (hc : s.mainCancelled = false)
      (hdecode : Frame.decode s.reader s.config.maxFrameSize = (.error e, s'.reader))
      (hreceived : s'.received = s.received) (hjobs : s'.jobs = s.jobs)
      (hconfig : s'.config = s.config) (hleft : s'.main.left = true)
  | first (frame : Frame) (hmain : s.main = .handshake) (hc : s.mainCancelled = false)
      (hmain' : s'.main ≠ .handshake)
      (hdecode : Frame.decode s.reader s.config.maxFrameSize = (.ok frame, s'.reader))
      (hreceived : s'.received = s.received ++ [frame]) (hjobs : s'.jobs = s.jobs)
      (hconfig : s'.config.maxFrameSize ≤ s.config.maxFrameSize)
  | next (frame : Frame) (hmain : s.main = .reading) (hc : s.mainCancelled = false)
      (hmain' : s'.main ≠ .handshake)
      (hdecode : Frame.decode s.reader s.config.maxFrameSize = (.ok frame, s'.reader))
      (hreceived : s'.received = s.received ++ [frame])
      (hjobs : s'.jobs = s.jobs ++ frame.job?.toList) (hconfig : s'.config = s.config)

section Intake

variable {s s' : Conn}

@[simp] theorem Conn.leave_received (s : Conn) (exc : Option Exc) :
    (s.leave exc).received = s.received := by
  rw [Conn.received, Conn.leave_log, Conn.received]

@[simp] theorem map_requestCancel_jobs (ts : List Task) :
    (ts.map Task.requestCancel).map (fun t => (t.metadata, t.messages)) =
      ts.map fun t => (t.metadata, t.messages) := by
  rw [List.map_map]
  congr 1
  funext t
  have hmessages : t.requestCancel.messages = t.messages := by
    unfold Task.requestCancel
    split <;> rfl
  simp only [Function.comp_apply, t.requestCancel_metadata, hmessages]

@[simp] theorem Conn.leave_jobs (s : Conn) (exc : Option Exc) : (s.leave exc).jobs = s.jobs := by
  rcases s.leave_tasks exc with h | h
  · rw [Conn.jobs, h, Conn.jobs]
  · rw [Conn.jobs, h, map_requestCancel_jobs, Conn.jobs]

theorem Conn.jobs_set {i : ℕ} {t t' : Task} (ht : s.tasks[i]? = some t)
    (hm : t'.metadata = t.metadata) (hmessages : t'.messages = t.messages) :
    (s.tasks.set i t').map (fun t => (t.metadata, t.messages)) = s.jobs := by
  obtain ⟨hi, rfl⟩ := List.getElem?_eq_some_iff.mp ht
  refine List.ext_getElem? fun j => ?_
  by_cases hj : i = j
  · subst hj
    simp [Conn.jobs, hi, hm, hmessages]
  · rw [Conn.jobs, List.getElem?_map, List.getElem?_map, List.getElem?_set_ne hj]

theorem Conn.Intake.leave (exc : Option Exc) {s₁ : Conn} (hreader : s₁.reader = s.reader)
    (hlog : s₁.log = s.log) (htasks : s₁.tasks = s.tasks) (hconfig : s₁.config = s.config) :
    s.Intake (s₁.leave exc) := by
  refine .nothing (by simp [hreader]) ?_ ?_ (by simp [hconfig]) (fun hm => by cases hm)
  · rw [Conn.leave_received, Conn.received, hlog, Conn.received]
  · rw [Conn.leave_jobs, Conn.jobs, htasks, Conn.jobs]

theorem Conn.Sends.intake {frame : Frame} {draining : MainPhase} (hs : s.Sends frame draining s')
    (hd : draining ≠ .handshake) :
    s'.reader = s.reader ∧ s'.received = s.received ∧ s'.jobs = s.jobs ∧ s'.config = s.config ∧
      s'.main ≠ .handshake := by
  cases hs with
  | refused e _ _ | closed _ => simp
  | wrote bytes _ _ =>
    refine ⟨rfl, ?_, rfl, rfl, hd⟩
    simp [Conn.received, Conn.record, Entry.received?]

theorem Conn.Intake.finish (s : Conn) (group raised : List Exc) :
    s.Intake (s.finish group raised) := by
  rcases s.finish_main group raised with ⟨-, he⟩ | he <;> rw [he] <;>
    exact .nothing rfl rfl rfl rfl (fun hm => by cases hm)

theorem Conn.Intake.reportsProtocol {group raised : List Exc}
    (hr : s.ReportsProtocol group raised s') : s.Intake s' := by
  cases hr with
  | none _ | closed _ | refused e x _ _ _ => exact .finish s _ _
  | wrote e bytes _ _ _ =>
    refine .nothing rfl ?_ rfl rfl (fun hm => by cases hm)
    simp [Conn.received, Conn.record, Entry.received?]

theorem Conn.Intake.task {i : ℕ} {t t' : Task} {l : List Entry} (ht : s.tasks[i]? = some t)
    (htasks : s'.tasks = s.tasks.set i t') (hm : t'.metadata = t.metadata)
    (hmessages : t'.messages = t.messages) (hreader : s'.reader = s.reader)
    (hconfig : s'.config = s.config) (hlog : s'.log = s.log ++ l)
    (hl : l.filterMap Entry.received? = [])
    (hmain : s'.main = s.main ∨ (s.main = .acquiring ∧ s'.main = .granted)) : s.Intake s' := by
  refine .nothing hreader ?_ ?_ hconfig (fun hleft => ?_)
  · rw [Conn.received, hlog, List.filterMap_append, hl, List.append_nil, Conn.received]
  · rw [Conn.jobs, htasks, Conn.jobs_set ht hm hmessages]
  · rcases hmain with he | ⟨he, he'⟩
    · rw [he] at hleft ⊢
      exact ⟨hleft, Iff.rfl⟩
    · simp [he, he', MainPhase.left]

theorem Conn.Intake.endTask {s₁ : Conn} {i : ℕ} {t : Task} {l : List Entry} {phase : TaskPhase}
    (ht : s.tasks[i]? = some t) (hreader : s₁.reader = s.reader) (hconfig : s₁.config = s.config)
    (hlog : s₁.log = s.log ++ l) (hl : l.filterMap Entry.received? = [])
    (htasks : s₁.tasks = s.tasks) (hmain : s₁.main = s.main) :
    s.Intake (s₁.endTask i t phase) := by
  have hset : (s₁.endTask i t phase).tasks =
      s.tasks.set i { t with phase := phase, cancelRequested := false } := by
    simp [Conn.endTask, htasks]
  have hreleased : (s₁.endTask i t phase).log = s.log ++ (l ++ [.released i]) := by
    simp [Conn.endTask, Conn.setTask, hlog]
  refine .task ht hset rfl rfl ?_ ?_ hreleased ?_ ?_
  · simp [Conn.endTask, Conn.setTask, hreader]
  · simp [Conn.endTask, Conn.setTask, hconfig]
  · simp [hl, Entry.received?]
  · rcases (s₁.setTask i { t with phase := phase, cancelRequested := false }).release_main i with
      he | ⟨ha, -, he⟩
    · exact .inl (he.trans hmain)
    · exact .inr ⟨hmain.symm.trans ha, he⟩

theorem Conn.acquire_serving (s : Conn) :
    s.acquire.main ≠ .handshake ∧ s.acquire.main.left = false := by
  rcases s.acquire_main with h | h <;> rw [h] <;> simp [MainPhase.left]

theorem Negotiated.size_le {c c' : ServerConfiguration} {versions caps : List Str} {v : Value}
    (h : Negotiated c c' versions v caps) : c'.maxFrameSize ≤ c.maxFrameSize := by
  obtain ⟨ha, -, hsize⟩ := h.size
  rw [hsize]
  exact min_le_left _ _

theorem Conn.Move.intake {ev : Event} (hm : s.Move ev s') : s.Intake s' := by
  cases hm with
  | cancelled | slotReturned | broken | ends | noSemaphore => exact .leave _ rfl rfl rfl rfl
  | serves hmain _ _ =>
    refine .nothing (by simp) (by simp [Conn.received]) (by simp [Conn.jobs]) (by simp) fun _ => ?_
    have hserving := ({ s with slots := s.config.limit.toNat } : Conn).acquire_serving
    exact ⟨by rw [hmain]; rfl, iff_of_false hserving.1 (by simp [hmain])⟩
  | reads io hmain _ =>
    exact .nothing rfl rfl rfl rfl fun _ => by simp [hmain, MainPhase.left]
  | decodeFails e reader hmain hc hdecode =>
    exact .failed e hmain hc (by simpa using hdecode) (by simp [Conn.received]) (Conn.leave_jobs _ _)
      (by simp) rfl
  | helloFails s₁ frame size hello e hmain hc ht _ _ =>
    obtain ⟨reader, body, hdecode, -, -, -, rfl⟩ := ht
    exact .first frame hmain hc (by simp) (by simpa using hdecode)
      (by simp [Conn.received, Entry.received?]) (Conn.leave_jobs _ _) (by simp)
  | greets s₁ s' frame size hello config hmain hc ht _ hn _ hs =>
    obtain ⟨reader, body, hdecode, -, -, -, rfl⟩ := ht
    obtain ⟨hreader, hreceived, hjobs, hconfig, hmain'⟩ := hs.intake (by simp)
    exact .first frame hmain hc hmain' (by rw [hreader]; exact hdecode)
      (hreceived.trans (by simp [Conn.received, Entry.received?])) hjobs
      (by rw [hconfig]; exact (negotiate_ok hn).size_le)
  | incompatible s₁ s' frame size hello config code message hmain hc ht _ hn _ hs =>
    obtain ⟨reader, body, hdecode, -, -, -, rfl⟩ := ht
    obtain ⟨hreader, hreceived, hjobs, hconfig, hmain'⟩ := hs.intake (by simp)
    exact .first frame hmain hc hmain' (by rw [hreader]; exact hdecode)
      (hreceived.trans (by simp [Conn.received, Entry.received?])) hjobs
      (by rw [hconfig]; exact (negotiate_ok hn).size_le)
  | notHello s₁ s' frame size code message hmain hc ht _ _ hs =>
    obtain ⟨reader, body, hdecode, -, -, -, rfl⟩ := ht
    obtain ⟨hreader, hreceived, hjobs, hconfig, hmain'⟩ := hs.intake (by simp)
    exact .first frame hmain hc hmain' (by rw [hreader]; exact hdecode)
      (hreceived.trans (by simp [Conn.received, Entry.received?])) hjobs (by rw [hconfig])
  | dispatches s₁ frame size messages hmain hc ht hpayload =>
    obtain ⟨reader, body, hdecode, -, -, -, rfl⟩ := ht
    exact .next frame hmain hc (Conn.acquire_serving _).1 (by simpa using hdecode)
      (by simp [Conn.received, Entry.received?])
      (by simp [Conn.jobs, Frame.job?, hpayload, Task.new]) (by simp)
  | replies s₁ s' frame size code message hmain hc ht hpayload _ hs =>
    obtain ⟨reader, body, hdecode, -, -, -, rfl⟩ := ht
    obtain ⟨hreader, hreceived, hjobs, hconfig, hmain'⟩ := hs.intake (by simp)
    have hjob : frame.job? = none := by
      unfold Frame.job?
      split
      · rename_i messages hp
        exact absurd hp (hpayload messages)
      · rfl
    exact .next frame hmain hc hmain' (by rw [hreader]; exact hdecode)
      (hreceived.trans (by simp [Conn.received, Entry.received?]))
      (by rw [hjobs, hjob]; exact (List.append_nil _).symm) hconfig
  | reports s' io exc hmain _ hr =>
    cases hr with
    | none s' _ hn | closed s' _ hn | refused e x s' _ _ _ hn => exact .reportsProtocol hn
    | wrote e bytes _ _ _ =>
      refine .nothing rfl ?_ rfl rfl (fun hm => by cases hm)
      simp [Conn.received, Conn.record, Entry.received?]
  | reportsNext s' io group _ hr => exact .reportsProtocol hr
  | reported io group raised _ => exact .finish s _ _
  | closes io _ => exact .nothing rfl rfl rfl rfl (fun hm => by cases hm)
  | neverStarts i t ht _ _ =>
    exact .task (l := []) ht rfl rfl rfl rfl rfl (List.append_nil _).symm rfl (.inl rfl)
  | starts i t ht _ _ => exact .task (l := [.invoked i]) ht rfl rfl rfl rfl rfl rfl rfl (.inl rfl)
  | goesOn i t ht _ =>
    exact .task (l := []) ht rfl rfl rfl rfl rfl (List.append_nil _).symm rfl (.inl rfl)
  | ackFails i t actions e ht _ _ | ackSkipped i t actions ht _ _ =>
    exact .endTask (l := [.answered i actions]) ht rfl rfl rfl rfl rfl rfl
  | acks i t actions frame bytes ht _ _ =>
    exact .task (l := [.answered i actions, .wrote (some i) frame bytes]) ht rfl rfl rfl rfl rfl
      (by simp [Conn.record, Conn.setTask]) rfl (.inl rfl)
  | handlerRaises i t e ht _ | handlerCancelled i t ht _ | drainCancelled i t io ht _ _
  | drained i t ht _ _ | drainBroken i t text ht _ _ =>
    exact .endTask (l := []) ht rfl rfl (List.append_nil _).symm rfl rfl rfl
  | failureSeen i t e ht _ _ _ =>
    refine .nothing rfl rfl ?_ rfl fun hleft => ⟨hleft, Iff.rfl⟩
    simp only [Conn.jobs, Conn.abort, map_requestCancel_jobs, Conn.setTask_tasks]
    exact Conn.jobs_set ht rfl rfl
  | failureAdded i t e ht _ _ _ =>
    exact .task (l := []) ht rfl rfl rfl rfl rfl (List.append_nil _).symm rfl (.inl rfl)
  | endSeen i t ht _ _ =>
    exact .task (l := []) ht rfl rfl rfl rfl rfl (List.append_nil _).symm rfl (.inl rfl)
  | lost => exact .nothing rfl rfl rfl rfl fun hleft => ⟨hleft, Iff.rfl⟩

end Intake

theorem IsFrame.mono {m m' : ℤ} {f : Frame} {bs : Bytes} (h : IsFrame m f bs) (hle : m ≤ m') :
    IsFrame m' f bs := by
  obtain ⟨len, body, hlen, hm, hbody, rfl⟩ := h
  exact ⟨len, body, hlen, hm.trans hle, hbody, rfl⟩

/-- The frames read are the first ones of what the peer sends, the reader is where they end,
and the tasks are those of the NOTIFYs after the handshake. -/
structure InOrder (m : ℤ) (inbound : Bytes) (s : Conn) : Prop where
  size : s.config.maxFrameSize ≤ m
  consumed : ∃ bs rest, Many (IsFrame m) s.received bs ∧ inbound = bs ++ rest ∧
    (s.main.left = false → s.reader.buffer = rest)
  fresh : s.main.left = false → (s.main = .handshake ↔ s.received = [])
  jobs : s.jobs = s.received.tail.filterMap Frame.job?

section InOrder

variable {m : ℤ} {inbound : Bytes} {s s' : Conn}

theorem InOrder.takes {frame : Frame} (h : InOrder m inbound s) (hleft : s.main.left = false)
    (hdecode : Frame.decode s.reader s.config.maxFrameSize = (.ok frame, s'.reader))
    (hreceived : s'.received = s.received ++ [frame])
    (hconfig : s'.config.maxFrameSize ≤ s.config.maxFrameSize) (hmain' : s'.main ≠ .handshake)
    (hjobs : s'.jobs = s'.received.tail.filterMap Frame.job?) : InOrder m inbound s' := by
  obtain ⟨bs, rest, hmany, hin, hrest⟩ := h.consumed
  obtain ⟨x, hx, hbuffer⟩ := Frame.decode_isFrame hdecode
  refine ⟨hconfig.trans h.size, ⟨bs ++ x, s'.reader.buffer, ?_, ?_, fun _ => rfl⟩, fun _ => ?_,
    hjobs⟩
  · rw [hreceived]
    exact hmany.snoc (hx.mono h.size)
  · rw [hin, ← hrest hleft, hbuffer, List.append_assoc]
  · exact iff_of_false hmain' (by simp [hreceived])

theorem InOrder.step (h : InOrder m inbound s) (hi : s.Intake s') : InOrder m inbound s' := by
  cases hi with
  | nothing hreader hreceived hjobs hconfig hmain =>
    obtain ⟨bs, rest, hmany, hin, hrest⟩ := h.consumed
    refine ⟨hconfig ▸ h.size, ⟨bs, rest, hreceived ▸ hmany, hin, fun hl => ?_⟩, fun hl => ?_, ?_⟩
    · rw [hreader]
      exact hrest (hmain hl).1
    · rw [hreceived, (hmain hl).2]
      exact h.fresh (hmain hl).1
    · rw [hjobs, hreceived]
      exact h.jobs
  | failed e _ _ _ hreceived hjobs hconfig hleft =>
    have hnot : ¬s'.main.left = false := by simp [hleft]
    obtain ⟨bs, rest, hmany, hin, -⟩ := h.consumed
    refine ⟨hconfig ▸ h.size, ⟨bs, rest, hreceived ▸ hmany, hin, fun hl => absurd hl hnot⟩,
      fun hl => absurd hl hnot, ?_⟩
    rw [hjobs, hreceived]
    exact h.jobs
  | first frame hmain _ hmain' hdecode hreceived hjobs hconfig =>
    have hleft : s.main.left = false := by rw [hmain]; rfl
    have hnil : s.received = [] := (h.fresh hleft).mp hmain
    refine h.takes hleft hdecode hreceived hconfig hmain' ?_
    rw [hjobs, h.jobs, hreceived, hnil]
    rfl
  | next frame hmain _ hmain' hdecode hreceived hjobs hconfig =>
    have hleft : s.main.left = false := by rw [hmain]; rfl
    have hne : s.received ≠ [] := fun hnil => by
      have hhandshake := (h.fresh hleft).mpr hnil
      rw [hmain] at hhandshake
      cases hhandshake
    refine h.takes hleft hdecode hreceived (by rw [hconfig]) hmain' ?_
    rw [hjobs, h.jobs, hreceived, List.tail_append_of_ne_nil hne, List.filterMap_append]
    cases hj : frame.job? <;> simp [hj]

theorem InOrder.init (m c : ℤ) (inbound : Bytes) : InOrder m inbound (Conn.init m c inbound) where
  size := le_refl m
  consumed := ⟨[], inbound, ⟨[], .nil, rfl⟩, rfl, fun _ => rfl⟩
  fresh := fun _ => ⟨fun _ => rfl, fun _ => rfl⟩
  jobs := rfl

end InOrder

theorem InOrder.reachable {m c : ℤ} {inbound : Bytes} {s : Conn}
    (h : Reaches Conn.step (Conn.init m c inbound) s) : InOrder m inbound s :=
  invariant (fun _ _ _ _ hi hs => hi.step (Conn.step_move hs).intake) (InOrder.init m c inbound) h

/-- However the tasks run, the frames read are the first frames of the stream the peer sends,
in order: none is lost, read twice or overtaken, and the rest of the stream is still to be
read. Each NOTIFY after the handshake has one task, with its ids and its messages. -/
theorem frames_in_order (m c : ℤ) (inbound : Bytes) (s : Conn)
    (h : Reaches Conn.step (Conn.init m c inbound) s) :
    s.received <+: (decodeStream m ⟨inbound⟩).1 ∧
      (s.main.left = false → decodeStream m ⟨inbound⟩ =
        (s.received ++ (decodeStream m s.reader).1, (decodeStream m s.reader).2)) ∧
      s.jobs = s.received.tail.filterMap Frame.job? := by
  have hi := InOrder.reachable h
  obtain ⟨bs, rest, hmany, rfl, hrest⟩ := hi.consumed
  have happend := decodeStream_append hmany rest
  refine ⟨?_, fun hleft => ?_, hi.jobs⟩
  · rw [happend]
    exact List.prefix_append _ _
  · rw [happend, ← hrest hleft]

theorem frames_in_order_pipelined : Conn.pipelined.received <+: (decodeStream 16384
    (Conn.onFrames 16384 2 [helloFrame 16384 [PIPELINING], notifyFrame 7 1,
      notifyFrame 7 2]).reader).1 :=
  (frames_in_order 16384 2 _ Conn.pipelined Conn.pipelined_reachable).1

/-! ### Writing -/

/-- A frame that the coroutine of the connection writes, with its bytes: never an ACK. -/
structure Conn.Writes (s s' : Conn) (frame : Frame) (bytes : Bytes) : Prop where
  isOpen : s.writerClosing = false
  encode : frame.encode s'.config.maxFrameSize = .ok bytes
  carried : frame.Carried
  type : frame.frameType ≠ .ack

/-- What a step adds to the log. -/
inductive Conn.Logs (s s' : Conn) : Event → List Entry → Prop
  | nothing (ev : Event) : Logs s s' ev []
  | received (io : Io) (frame : Frame) (size : ℕ) : Logs s s' (.main io) [.received frame size]
  | replied (io : Io) (frame : Frame) (size : ℕ) (sent : Frame) (bytes : Bytes)
      (hw : s.Writes s' sent bytes) :
      Logs s s' (.main io) [.received frame size, .wrote none sent bytes]
  | reported (io : Io) (sent : Frame) (bytes : Bytes) (hw : s.Writes s' sent bytes) :
      Logs s s' (.main io) [.wrote none sent bytes]
  | invoked (i : ℕ) (t : Task) (ht : s.tasks[i]? = some t) (hphase : t.phase = .created)
      (hc : t.cancelRequested = false) : Logs s s' (.start i) [.invoked i]
  | released (ev : Event) (i : ℕ) : Logs s s' ev [.released i]
  | unacked (i : ℕ) (t : Task) (actions : Option (List ActionObj)) (ht : s.tasks[i]? = some t) :
      Logs s s' (.handler i (.returned actions)) [.answered i actions, .released i]
  | acked (i : ℕ) (t : Task) (actions : Option (List ActionObj)) (frame : Frame) (bytes : Bytes)
      (ht : s.tasks[i]? = some t) (hopen : s.writerClosing = false)
      (hack : AckOf s.config.maxFrameSize t.metadata actions frame)
      (hencode : frame.encode s'.config.maxFrameSize = .ok bytes) :
      Logs s s' (.handler i (.returned actions)) [.answered i actions, .wrote (some i) frame bytes]

/-- The log of a step that adds `l`. -/
def Conn.LogsTo (s : Conn) (ev : Event) (s' : Conn) : Prop :=
  ∃ l, s'.log = s.log ++ l ∧ s.Logs s' ev l

theorem disconnectFrame_carried (code : DisconnectCode) (message : Str) :
    (disconnectFrame code message).Carried :=
  ⟨(by decide : (0 : ℤ) < 2 ^ 63), (by decide : (0 : ℤ) < 2 ^ 63), trivial, trivial⟩

theorem agentHelloFrame_carried {config : ServerConfiguration}
    (h : ∀ s ∈ config.capabilities, s ∈ SPOE_CAPABILITIES) : (agentHelloFrame config).Carried := by
  have hclean : ∀ s ∈ SPOE_CAPABILITIES, CleanItem s := by decide +kernel
  exact ⟨(by decide : (0 : ℤ) < 2 ^ 63), (by decide : (0 : ℤ) < 2 ^ 63),
    fun s hs => hclean s (h s hs), trivial, trivial⟩

section Logs

variable {s s' : Conn} {ev : Event}

theorem Conn.LogsTo.same (hlog : s'.log = s.log) : s.LogsTo ev s' :=
  ⟨[], hlog.trans (List.append_nil _).symm, .nothing ev⟩

theorem Conn.Sends.logsTo {s₁ : Conn} {frame sent : Frame} {size : ℕ} {draining : MainPhase}
    {io : Io} (hs : s₁.Sends sent draining s') (hlog : s₁.log = s.log ++ [.received frame size])
    (hclosing : s₁.writerClosing = s.writerClosing) (hcarried : sent.Carried)
    (htype : sent.frameType ≠ .ack) : s.LogsTo (.main io) s' := by
  cases hs with
  | refused e _ _ | closed _ =>
    exact ⟨[.received frame size], by rw [Conn.leave_log, hlog], .received io frame size⟩
  | wrote bytes hopen hb =>
    exact ⟨[.received frame size, .wrote none sent bytes], by simp [Conn.record, hlog],
      .replied io frame size sent bytes ⟨hclosing.symm.trans hopen, hb, hcarried, htype⟩⟩

theorem Conn.finish_log (s : Conn) (group raised : List Exc) :
    (s.finish group raised).log = s.log := by
  rcases s.finish_main group raised with ⟨-, he⟩ | he <;> rw [he]

theorem Conn.logsTo_error {io : Io} {main : MainPhase} {code : DisconnectCode} {e : Exc}
    {bytes : Bytes} (hopen : s.writerClosing = false)
    (hb : (errorFrame code e).encode s.config.maxFrameSize = .ok bytes) :
    s.LogsTo (.main io) { s.record (.wrote none (errorFrame code e) bytes) with main := main } :=
  ⟨[.wrote none (errorFrame code e) bytes], rfl, .reported io _ bytes
    ⟨hopen, hb, disconnectFrame_carried _ _, disconnectFrame_type _ _⟩⟩

theorem Conn.ReportsProtocol.logsTo {group raised : List Exc} {io : Io}
    (hr : s.ReportsProtocol group raised s') : s.LogsTo (.main io) s' := by
  cases hr with
  | none _ | closed _ | refused e x _ _ _ => exact .same (s.finish_log _ _)
  | wrote e bytes _ hopen hb => exact Conn.logsTo_error hopen hb

theorem Conn.LogsTo.endTask {i : ℕ} {t : Task} {phase : TaskPhase} :
    s.LogsTo ev (s.endTask i t phase) :=
  ⟨[.released i], by simp [Conn.endTask, Conn.setTask], .released ev i⟩

theorem Conn.Move.logsTo (hm : s.Move ev s') : s.LogsTo ev s' := by
  cases hm with
  | cancelled | slotReturned | broken | ends | noSemaphore | decodeFails =>
    exact .same (Conn.leave_log _ _)
  | serves => exact .same (Conn.acquire_log _)
  | reads | closes | neverStarts | goesOn | failureSeen | failureAdded | endSeen | lost =>
    exact .same rfl
  | helloFails s₁ frame size hello e _ _ ht _ _ =>
    obtain ⟨reader, body, -, -, -, -, rfl⟩ := ht
    exact ⟨_, Conn.leave_log _ _, .received .ok frame size⟩
  | greets s₁ s' frame size hello config _ _ ht _ hn _ hs =>
    obtain ⟨reader, body, -, -, -, -, rfl⟩ := ht
    have hcap : ∀ x ∈ config.capabilities, x ∈ SPOE_CAPABILITIES := fun x hx => by
      rw [(negotiate_ok hn).capabilities] at hx
      exact (List.mem_filter.mp hx).1
    exact hs.logsTo rfl rfl (agentHelloFrame_carried hcap) (fun h => by cases h)
  | incompatible s₁ s' frame size hello config code message _ _ ht _ _ _ hs =>
    obtain ⟨reader, body, -, -, -, -, rfl⟩ := ht
    exact hs.logsTo rfl rfl (disconnectFrame_carried _ _) (disconnectFrame_type _ _)
  | notHello s₁ s' frame size code message _ _ ht _ _ hs =>
    obtain ⟨reader, body, -, -, -, -, rfl⟩ := ht
    exact hs.logsTo rfl rfl (disconnectFrame_carried _ _) (disconnectFrame_type _ _)
  | dispatches s₁ frame size messages _ _ ht _ =>
    obtain ⟨reader, body, -, -, -, -, rfl⟩ := ht
    exact ⟨_, Conn.acquire_log _, .received .ok frame size⟩
  | replies s₁ s' frame size code message _ _ ht _ _ hs =>
    obtain ⟨reader, body, -, -, -, -, rfl⟩ := ht
    exact hs.logsTo rfl rfl (disconnectFrame_carried _ _) (disconnectFrame_type _ _)
  | reports s' io exc _ _ hr =>
    cases hr with
    | none s' _ hn | closed s' _ hn | refused e x s' _ _ _ hn => exact hn.logsTo
    | wrote e bytes _ hopen hb => exact Conn.logsTo_error hopen hb
  | reportsNext s' io group _ hr => exact hr.logsTo
  | reported io group raised _ => exact .same (s.finish_log _ _)
  | starts i t ht hphase hc => exact ⟨[.invoked i], rfl, .invoked i t ht hphase hc⟩
  | ackFails i t actions e ht _ _ | ackSkipped i t actions ht _ _ =>
    exact ⟨[.answered i actions, .released i], by simp [Conn.endTask, Conn.setTask, Conn.record],
      .unacked i t actions ht⟩
  | acks i t actions frame bytes ht hphase hack =>
    have hopen : s.writerClosing = false := by
      cases hc : s.writerClosing with
      | false => rfl
      | true =>
        rw [hc] at hack
        cases hack
    rw [hopen] at hack
    obtain ⟨hack, hb⟩ := ackToSend_ackOf hack
    exact ⟨[.answered i actions, .wrote (some i) frame bytes],
      by simp [Conn.setTask, Conn.record], .acked i t actions frame bytes ht hopen hack hb⟩
  | handlerRaises | handlerCancelled | drainCancelled | drained | drainBroken => exact .endTask

/-- A step writes nothing, or the whole of one frame while the writer is open. -/
theorem Conn.LogsTo.output (h : s.LogsTo ev s') :
    (s'.sent = s.sent ∧ s'.output = s.output) ∨
      ∃ frame bytes, s.writerClosing = false ∧ frame.encode s'.config.maxFrameSize = .ok bytes ∧
        s'.sent = s.sent ++ [frame] ∧ s'.output = s.output ++ bytes := by
  obtain ⟨l, hlog, hl⟩ := h
  simp only [Conn.sent, Conn.output, hlog, List.filterMap_append, List.flatMap_append]
  cases hl with
  | nothing | received | invoked | released | unacked =>
    exact .inl ⟨List.append_nil _, List.append_nil _⟩
  | replied io frame size sent bytes hw =>
    exact .inr ⟨sent, bytes, hw.isOpen, hw.encode, rfl, by simp [Entry.bytes]⟩
  | reported io sent bytes hw =>
    exact .inr ⟨sent, bytes, hw.isOpen, hw.encode, rfl, by simp [Entry.bytes]⟩
  | acked i t actions frame bytes _ hopen _ hencode =>
    exact .inr ⟨frame, bytes, hopen, hencode, rfl, by simp [Entry.bytes]⟩

end Logs

/-- What the writer was given is the encodings, under the negotiated size, of the frames
written. -/
def Encoded (s : Conn) : Prop :=
  extendAll (fun f => Frame.encode f s.config.maxFrameSize) s.sent = .ok s.output

theorem Encoded.step {s s' : Conn} {ev : Event} (h : Encoded s) (hco : Coherent s)
    (hd : Dispatched s) (hs : s.step ev = some s') : Encoded s' := by
  have hm := Conn.step_move hs
  -- the configuration changes in the handshake only, before anything is written
  have hconfig : extendAll (fun f => Frame.encode f s'.config.maxFrameSize) s.sent =
      .ok s.output := by
    by_cases hmain : s.main = .handshake
    · simp only [Conn.sent, Conn.output, hd.fresh hmain]
      rfl
    · rw [(hm.follows hco hmain).config]
      exact h
  rcases hm.logsTo.output with ⟨hsent, houtput⟩ | ⟨frame, bytes, -, hencode, hsent, houtput⟩
  · rw [Encoded, hsent, houtput]
    exact hconfig
  · rw [Encoded, hsent, houtput]
    exact extendAll_snoc hconfig hencode

theorem Encoded.reachable {m c : ℤ} {inbound : Bytes} {s : Conn}
    (h : Reaches Conn.step (Conn.init m c inbound) s) : Encoded s :=
  invariant (fun _ _ _ hr hi hs =>
    Encoded.step hi (Coherent.reachable hr) (Dispatched.reachable hr) hs) rfl h

/-- A handler that returns gives a list of actions that the wire carries in full. -/
def Event.CarriedAnswer : Event → Prop
  | .handler _ (.returned actions) => ∃ as, actions = some as ∧ ∀ a ∈ as, a.Carried
  | _ => True

theorem Frame.encode_isFrame {f : Frame} {m : ℤ} {bs : Bytes} (hf : f.Carried)
    (h : f.encode m = .ok bs) : IsFrame m f bs := by
  obtain ⟨out, len, hout, hlen, hle, -, rfl⟩ := Frame.encode_ok.mp h
  exact ⟨len, out, unpackU32_packU32 hlen, hle, decodeBody_body hf hout, rfl⟩

theorem many_isFrame {m : ℤ} {frames : List Frame} {out : Bytes} (hf : ∀ f ∈ frames, f.Carried)
    (h : extendAll (fun f => Frame.encode f m) frames = .ok out) : Many (IsFrame m) frames out := by
  obtain ⟨xs, hxs, rfl⟩ := extendAll_flatten h
  refine ⟨xs, ?_, rfl⟩
  clear h
  induction hxs with
  | nil => exact .nil
  | @cons f x frames xs hx _ ih =>
    exact .cons (Frame.encode_isFrame (hf f (List.mem_cons_self ..)) hx)
      (ih fun g hg => hf g (List.mem_cons_of_mem _ hg))

theorem decodeStream_many {m : ℤ} {frames : List Frame} {bs : Bytes}
    (h : Many (IsFrame m) frames bs) : decodeStream m ⟨bs⟩ = (frames, ⟨.spopEOFError, []⟩) := by
  have happend := decodeStream_append h []
  have hnil : Frame.decode ⟨[]⟩ m = (.error ⟨.spopEOFError, []⟩, ⟨[]⟩) := rfl
  rw [List.append_nil, decodeStream_error hnil, List.append_nil] at happend
  exact happend

theorem IsFrame.ids {m : ℤ} {f : Frame} {bs : Bytes} (h : IsFrame m f bs) :
    f.metadata.streamId < 2 ^ 63 ∧ f.metadata.frameId < 2 ^ 63 := by
  obtain ⟨len, body, -, -, hbody, -⟩ := h
  obtain ⟨s, n, -, hs, hn⟩ := decodeBody_wireIds hbody
  rw [hs, hn]
  exact ⟨(cInt_bounds 63 s).2, (cInt_bounds 63 n).2⟩

theorem salvageLoop_mem {budget : ℤ} {actions salvaged kept : List ActionObj} {used : ℕ}
    (h : salvageLoop budget actions salvaged used = .ok kept) {a : ActionObj} (ha : a ∈ kept) :
    a ∈ salvaged ∨ a ∈ actions := by
  induction actions generalizing salvaged used with
  | nil =>
    cases h
    exact .inl ha
  | cons x actions ih =>
    unfold salvageLoop at h
    have hskip : ∀ {used}, salvageLoop budget actions salvaged used = .ok kept →
        a ∈ salvaged ∨ a ∈ x :: actions := fun h =>
      (ih h).imp_right fun hmem => List.mem_cons_of_mem _ hmem
    split at h
    · split at h
      · obtain ⟨-, -, h⟩ := bind_eq_ok.mp h
        exact hskip h
      · cases h
    · split at h
      · obtain ⟨-, -, h⟩ := bind_eq_ok.mp h
        exact hskip h
      · rcases ih h with hmem | hmem
        · rcases List.mem_append.mp hmem with hmem | hmem
          · exact .inl hmem
          · rw [List.mem_singleton.mp hmem]
            exact .inr (List.mem_cons_self ..)
        · exact .inr (List.mem_cons_of_mem _ hmem)

/-- An ACK holds no action that the handler did not return. -/
theorem AckOf.carried {m : ℤ} {md : MetaData} {actions : List ActionObj} {frame : Frame}
    (h : AckOf m md (some actions) frame) (hs : md.streamId < 2 ^ 63) (hf : md.frameId < 2 ^ 63)
    (ha : ∀ a ∈ actions, a.Carried) : frame.Carried := by
  rcases h with rfl | h
  · exact ⟨hs, hf, ha⟩
  · obtain ⟨emptyAck, -, h⟩ := bind_eq_ok.mp h
    obtain ⟨salvaged, hsalvaged, h⟩ := bind_eq_ok.mp h
    cases h
    refine ⟨hs, hf, fun a hmem => ?_⟩
    rcases salvageLoop_mem hsalvaged hmem with hnil | hmem
    · cases hnil
    · exact ha a hmem

theorem InOrder.task_ids {m : ℤ} {inbound : Bytes} {s : Conn} (h : InOrder m inbound s) {t : Task}
    (ht : t ∈ s.tasks) : t.metadata.streamId < 2 ^ 63 ∧ t.metadata.frameId < 2 ^ 63 := by
  have hjob : (t.metadata, t.messages) ∈ s.jobs := List.mem_map.mpr ⟨t, ht, rfl⟩
  rw [h.jobs] at hjob
  obtain ⟨frame, hmem, hf⟩ := List.mem_filterMap.mp hjob
  obtain ⟨bs, rest, hmany, -, -⟩ := h.consumed
  obtain ⟨x, hx⟩ := hmany.mem (List.mem_of_mem_tail hmem)
  have hmd : frame.metadata = t.metadata := by
    unfold Frame.job? at hf
    split at hf
    · exact (Prod.mk.inj (Option.some.inj hf)).1
    · cases hf
  rw [← hmd]
  exact hx.ids

theorem sent_carried {m c : ℤ} {inbound : Bytes} {s : Conn} {events : List Event}
    (hc : Along Conn.step (fun _ ev => ev.CarriedAnswer) (Conn.init m c inbound) events)
    (h : run Conn.step (Conn.init m c inbound) events = some s) : ∀ f ∈ s.sent, f.Carried := by
  have hstep : ∀ s ev s', Reaches Conn.step (Conn.init m c inbound) s → (∀ f ∈ s.sent, f.Carried) →
      ev.CarriedAnswer → s.step ev = some s' → ∀ f ∈ s'.sent, f.Carried := by
    intro s ev s' hr hi hev hs
    obtain ⟨l, hlog, hl⟩ := (Conn.step_move hs).logsTo
    have hids := InOrder.reachable hr
    have hnew : ∀ f ∈ l.filterMap Entry.wrote?, f.Carried := by
      clear hs hlog
      cases hl with
      | nothing | received | invoked | released | unacked => exact List.forall_mem_nil _
      | replied io frame size sent bytes hw | reported io sent bytes hw =>
        exact List.forall_mem_singleton.mpr hw.carried
      | acked i t actions frame bytes ht _ hack _ =>
        obtain ⟨as, rfl, ha⟩ := hev
        obtain ⟨hsid, hfid⟩ := hids.task_ids (List.mem_of_getElem? ht)
        exact List.forall_mem_singleton.mpr (hack.carried hsid hfid ha)
    rw [Conn.sent, hlog, List.filterMap_append]
    exact List.forall_mem_append.mpr ⟨hi, hnew⟩
  exact invariant_along hstep (fun f hf => by cases hf) hc h

/-- What the writer was given is a stream of whole frames: a peer that reads it with the
negotiated size, or a greater one, gets the frames written, each in one piece and in the order
of the writes, whatever the interleaving of the tasks and the connection. -/
theorem output_decodes (m c : ℤ) (inbound : Bytes) (events : List Event) (s : Conn)
    (hc : Along Conn.step (fun _ ev => ev.CarriedAnswer) (Conn.init m c inbound) events)
    (h : run Conn.step (Conn.init m c inbound) events = some s) (limit : ℤ)
    (hlimit : s.config.maxFrameSize ≤ limit) :
    decodeStream limit ⟨s.output⟩ = (s.sent, ⟨.spopEOFError, []⟩) := by
  have hencoded := Encoded.reachable ⟨events, h⟩
  have hcarried := sent_carried hc h
  exact decodeStream_many ((many_isFrame hcarried hencoded).mono fun _ _ hf => hf.mono hlimit)

theorem output_decodes_acknowledged : decodeStream 16384 ⟨Conn.acknowledged.output⟩ =
    (Conn.acknowledged.sent, ⟨.spopEOFError, []⟩) := by
  refine output_decodes 16384 2
    (Conn.onFrames 16384 2 [helloFrame 16384 [PIPELINING], notifyFrame 7 1]).reader.buffer
    [.main .ok, .main .ok, .main .ok, .start 0, .handler 0 (.returned (some []))]
    Conn.acknowledged ?_ (by decide +kernel) 16384 (by decide +kernel)
  refine along_of_forall fun ev hev s => ?_
  simp only [List.mem_cons, List.not_mem_nil, or_false] at hev
  rcases hev with rfl | rfl | rfl | rfl | rfl
  · trivial
  · trivial
  · trivial
  · trivial
  · exact ⟨[], rfl, List.forall_mem_nil _⟩

end SpoeForge
