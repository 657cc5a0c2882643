import SpoeForge.Server.Slots
import SpoeForge.Server.Teardown
import SpoeForge.Wire.Identifiers

/-!
# A connection comes to an end

The steps a connection has left are bounded by the bytes it has left to read, by how far
`core_handler` is and by how far its tasks are. So a run has finitely many steps, the event
loop has nothing left to do exactly when `core_handler` has ended, and it can always get
there. With a semaphore of no slots it cannot.
-/

namespace SpoeForge

open Fallible Runs

/-! ### The length of a frame -/

theorem decodeBody_length {body : Bytes} {frame : Frame} (h : decodeBody body = .ok frame) :
    7 ≤ body.length := by
  obtain ⟨off, hm⟩ := decodeBody_metadata h
  obtain ⟨s, n, mid, hs, hn, -, -⟩ := decodeMetadata_ok hm
  have h1 := parseVarint_advances _ _ _ _ hs
  have h2 := parseVarint_advances _ _ _ _ hn
  have h3 := (decodeMetadata_advances _ _ _ _ hm).2
  omega

theorem StreamReader.readexactly_le (r : StreamReader) (n : ℕ) :
    (r.readexactly n).2.buffer.length ≤ r.buffer.length := by
  unfold StreamReader.readexactly
  split
  · exact Nat.zero_le _
  · simp

theorem Frame.decode_le (reader : StreamReader) (m : ℤ) :
    (Frame.decode reader m).2.buffer.length ≤ reader.buffer.length := by
  have h4 := reader.readexactly_le 4
  unfold Frame.decode
  split
  · rename_i mid hlen
    rw [hlen] at h4
    split <;> exact h4
  · rename_i len mid hlen
    rw [hlen] at h4
    split
    · exact h4
    · rename_i n _
      have hn := mid.readexactly_le n
      split
      · exact h4
      · split <;> rename_i hbody <;> rw [hbody] at hn <;> exact Nat.le_trans hn h4

theorem Conn.Takes.length {s s₁ : Conn} {frame : Frame} {size : ℕ} (h : s.Takes frame size s₁) :
    s₁.reader.buffer.length + 11 ≤ s.reader.buffer.length := by
  obtain ⟨reader, body, hd, hbody, -, -, rfl⟩ := h
  obtain ⟨len, body', mid, hlen, -, -, hb, hdecode⟩ := Frame.decode_ok hd
  have h1 := StreamReader.readexactly_length hlen
  have h2 := StreamReader.readexactly_length hb
  have h3 := decodeBody_length hdecode
  simp only
  omega

/-! ### The measure -/

/-- The steps of `core_handler` from here, apart from those that a frame brings. -/
def MainPhase.stepsLeft : MainPhase → ℕ
  | .handshake => 10
  | .refusing | .greeting _ => 9
  | .acquiring => 8
  | .granted => 7
  | .reading => 6
  | .replying => 5
  | .exiting _ => 4
  | .reportingTooBig _ => 3
  | .reportingProtocol _ _ => 2
  | .closing => 1
  | .returned | .failed _ => 0

/-- `core_handler` has returned or raised. -/
def MainPhase.ended : MainPhase → Bool
  | .returned | .failed _ => true
  | _ => false

def Task.stepsLeft (t : Task) : ℕ :=
  match t.phase with
  | .created => 4
  | .running => 3
  | .draining => 2
  | .returned | .raised _ | .cancelled => if t.reported then 0 else 1

def Conn.stepsLeft (s : Conn) : ℕ :=
  s.reader.buffer.length + s.main.stepsLeft + (s.tasks.map Task.stepsLeft).sum

/-- The events that bring the connection forward: all but a handler that goes on waiting and
the transport that starts closing. -/
def Event.advances : Event → Bool
  | .handler _ .pending | .lost => false
  | _ => true

theorem Task.requestCancel_stepsLeft (t : Task) : t.requestCancel.stepsLeft = t.stepsLeft := by
  simp only [Task.stepsLeft, t.requestCancel_phase, t.requestCancel_reported]

theorem Task.stepsLeft_ended {t : Task} (h : t.phase.ended = true) : t.stepsLeft ≤ 1 := by
  unfold Task.stepsLeft
  cases hp : t.phase with
  | created | running | draining =>
    rw [hp] at h
    cases h
  | returned | raised _ | cancelled =>
    simp only
    split <;> omega

theorem sum_map_set {α : Type} (f : α → ℕ) {l : List α} {i : ℕ} {a : α} (h : l[i]? = some a)
    (b : α) : ((l.set i b).map f).sum + f a = (l.map f).sum + f b := by
  induction l generalizing i with
  | nil => cases h
  | cons x l ih =>
    cases i with
    | zero =>
      cases h
      simp only [List.set_cons_zero, List.map_cons, List.sum_cons]
      omega
    | succ i =>
      have hrest := ih (i := i) h
      simp only [List.set_cons_succ, List.map_cons, List.sum_cons]
      omega

theorem sum_map_requestCancel (ts : List Task) :
    ((ts.map Task.requestCancel).map Task.stepsLeft).sum = (ts.map Task.stepsLeft).sum := by
  rw [List.map_map]
  congr 2
  funext t
  exact t.requestCancel_stepsLeft

@[simp] theorem Conn.leave_stepsLeft (s : Conn) (exc : Option Exc) :
    (s.leave exc).stepsLeft = s.reader.buffer.length + 4 + (s.tasks.map Task.stepsLeft).sum := by
  have htasks : ((s.leave exc).tasks.map Task.stepsLeft).sum = (s.tasks.map Task.stepsLeft).sum := by
    rcases s.leave_tasks exc with h | h <;> rw [h]
    exact sum_map_requestCancel s.tasks
  simp only [Conn.stepsLeft, Conn.leave_reader, Conn.leave_main, MainPhase.stepsLeft, htasks]

/-! ### What the moves do to it -/

section Moves

variable {s s' : Conn}

theorem MainPhase.awaitsTransport_stepsLeft {main : MainPhase}
    (h : main.awaitsTransport = true) : 5 ≤ main.stepsLeft := by
  cases main <;> simp_all [MainPhase.awaitsTransport, MainPhase.stepsLeft]

theorem Conn.acquire_stepsLeft (s : Conn) :
    s.acquire.stepsLeft ≤ s.reader.buffer.length + 8 + (s.tasks.map Task.stepsLeft).sum := by
  simp only [Conn.stepsLeft, Conn.acquire_reader, Conn.acquire_tasks]
  rcases s.acquire_main with h | h <;> rw [h] <;> simp [MainPhase.stepsLeft]

theorem Conn.Sends.stepsLeft {frame : Frame} {draining : MainPhase} (h : s.Sends frame draining s')
    (hd : 4 ≤ draining.stepsLeft) : s'.stepsLeft ≤
      s.reader.buffer.length + draining.stepsLeft + (s.tasks.map Task.stepsLeft).sum := by
  cases h with
  | refused e _ _ =>
    rw [Conn.leave_stepsLeft]
    omega
  | closed _ =>
    rw [Conn.leave_stepsLeft]
    omega
  | wrote bytes _ _ => exact Nat.le_refl _

theorem Conn.Takes.stepsLeft {s₁ : Conn} {frame : Frame} {size : ℕ} (h : s.Takes frame size s₁) :
    s₁.stepsLeft + 11 ≤ s.stepsLeft := by
  have hlen := h.length
  obtain ⟨reader, body, -, -, -, -, rfl⟩ := h
  simp only [Conn.stepsLeft] at hlen ⊢
  omega

theorem Conn.finish_stepsLeft (s : Conn) (group raised : List Exc) :
    (s.finish group raised).stepsLeft ≤
      s.reader.buffer.length + 1 + (s.tasks.map Task.stepsLeft).sum := by
  rcases s.finish_main group raised with ⟨-, he⟩ | he <;> rw [he]
  · exact Nat.le_refl _
  · simp only [Conn.stepsLeft, MainPhase.stepsLeft]
    omega

theorem Conn.ReportsProtocol.stepsLeft {group raised : List Exc}
    (h : s.ReportsProtocol group raised s') :
    s'.stepsLeft ≤ s.reader.buffer.length + 2 + (s.tasks.map Task.stepsLeft).sum := by
  cases h with
  | none _ | closed _ | refused e x _ _ _ =>
    refine Nat.le_trans (s.finish_stepsLeft _ _) ?_
    omega
  | wrote e bytes _ _ _ => exact Nat.le_refl _

theorem Conn.Reports.stepsLeft {group : List Exc} (h : s.Reports group s') :
    s'.stepsLeft ≤ s.reader.buffer.length + 3 + (s.tasks.map Task.stepsLeft).sum := by
  cases h with
  | none s' _ hn | closed s' _ hn | refused e x s' _ _ _ hn =>
    refine Nat.le_trans hn.stepsLeft ?_
    omega
  | wrote e bytes _ _ _ => exact Nat.le_refl _

theorem Conn.setTask_stepsLeft {i : ℕ} {t : Task} (ht : s.tasks[i]? = some t) (t' : Task) :
    (s.setTask i t').stepsLeft + t.stepsLeft = s.stepsLeft + t'.stepsLeft := by
  have h := sum_map_set Task.stepsLeft ht t'
  simp only [Conn.stepsLeft, Conn.setTask]
  omega

theorem Conn.release_stepsLeft (s : Conn) (i : ℕ) : (s.release i).stepsLeft ≤ s.stepsLeft := by
  simp only [Conn.stepsLeft, Conn.release_reader, Conn.release_tasks]
  rcases s.release_main i with h | ⟨hmain, -, h⟩
  · rw [h]
  · rw [h, hmain]
    simp only [MainPhase.stepsLeft]
    omega

theorem Conn.endTask_stepsLeft {s₁ : Conn} {i : ℕ} {t : Task} {phase : TaskPhase}
    (ht : s.tasks[i]? = some t) (hphase : 2 ≤ t.stepsLeft) (hended : phase.ended = true)
    (h₁ : s₁.stepsLeft = s.stepsLeft) (htasks : s₁.tasks = s.tasks) :
    (s₁.endTask i t phase).stepsLeft < s.stepsLeft := by
  have hset := Conn.setTask_stepsLeft (s := s₁) (by rw [htasks, ht])
    { t with phase := phase, cancelRequested := false }
  have hrel := (s₁.setTask i { t with phase := phase, cancelRequested := false }).release_stepsLeft i
  have hone := Task.stepsLeft_ended (t := { t with phase := phase, cancelRequested := false }) hended
  simp only [Conn.endTask]
  omega

theorem Conn.doneTask_stepsLeft {i : ℕ} {t : Task} (ht : s.tasks[i]? = some t)
    (hended : t.phase.ended = true) (hnew : t.reported = false) :
    (s.setTask i { t with reported := true }).stepsLeft < s.stepsLeft := by
  have hset := Conn.setTask_stepsLeft ht { t with reported := true }
  have hone : t.stepsLeft = 1 := by
    unfold Task.stepsLeft
    cases hp : t.phase <;> simp_all [TaskPhase.ended]
  have hzero : ({ t with reported := true } : Task).stepsLeft = 0 := by
    unfold Task.stepsLeft
    cases hp : t.phase <;> simp_all [TaskPhase.ended]
  omega

theorem Conn.leave_stepsLeft_lt {s₁ : Conn} {exc : Option Exc} (hmain : 4 < s.main.stepsLeft)
    (hreader : s₁.reader.buffer.length ≤ s.reader.buffer.length) (htasks : s₁.tasks = s.tasks) :
    (s₁.leave exc).stepsLeft < s.stepsLeft := by
  rw [Conn.leave_stepsLeft, htasks]
  simp only [Conn.stepsLeft]
  omega

/-- No step adds to the steps left, and all but the two kinds of event take one away. -/
theorem Conn.Move.stepsLeft {ev : Event} (hm : s.Move ev s') :
    s'.stepsLeft + ev.advances.toNat ≤ s.stepsLeft := by
  have hlt : s'.stepsLeft < s.stepsLeft → s'.stepsLeft + ev.advances.toNat ≤ s.stepsLeft := by
    intro h
    have := ev.advances.toNat_le
    omega
  cases hm with
  | cancelled io hmain _ =>
    refine hlt (Conn.leave_stepsLeft_lt ?_ (Nat.le_refl _) rfl)
    rcases hmain with h | h
    · exact Nat.lt_of_lt_of_le (by omega) (MainPhase.awaitsTransport_stepsLeft h)
    · simp [h, MainPhase.stepsLeft]
  | slotReturned io hmain _ =>
    exact hlt (Conn.leave_stepsLeft_lt (by simp [hmain, MainPhase.stepsLeft]) (Nat.le_refl _) rfl)
  | broken text hmain _ =>
    have h5 := MainPhase.awaitsTransport_stepsLeft hmain
    exact hlt (Conn.leave_stepsLeft_lt (by omega) (Nat.le_refl _) rfl)
  | ends hmain _ =>
    refine hlt (Conn.leave_stepsLeft_lt ?_ (Nat.le_refl _) rfl)
    rcases hmain with h | h | h <;> simp [h, MainPhase.stepsLeft]
  | noSemaphore hmain _ _ =>
    exact hlt (Conn.leave_stepsLeft_lt (by simp [hmain, MainPhase.stepsLeft]) (Nat.le_refl _) rfl)
  | serves hmain _ _ =>
    have h := ({ s with slots := s.config.limit.toNat } : Conn).acquire_stepsLeft
    refine hlt ?_
    simp only [Conn.stepsLeft, hmain, MainPhase.stepsLeft] at h ⊢
    omega
  | reads io hmain _ =>
    refine hlt ?_
    simp only [Conn.stepsLeft, hmain, MainPhase.stepsLeft]
    omega
  | decodeFails e reader hmain _ hdecode =>
    have hle := Frame.decode_le s.reader s.config.maxFrameSize
    rw [hdecode] at hle
    refine hlt (Conn.leave_stepsLeft_lt ?_ hle rfl)
    rcases hmain with h | h <;> simp [h, MainPhase.stepsLeft]
  | helloFails s₁ frame size hello e hmain _ ht _ _ =>
    have hlen := ht.length
    obtain ⟨reader, body, -, -, -, -, rfl⟩ := ht
    refine hlt (Conn.leave_stepsLeft_lt (by simp [hmain, MainPhase.stepsLeft]) ?_ rfl)
    omega
  | greets s₁ s' frame size hello config hmain _ ht _ _ _ hs =>
    have hlen := ht.length
    have hsends := hs.stepsLeft (by simp [MainPhase.stepsLeft])
    obtain ⟨reader, body, -, -, -, -, rfl⟩ := ht
    refine hlt ?_
    simp only [Conn.stepsLeft, hmain, MainPhase.stepsLeft] at hsends hlen ⊢
    omega
  | incompatible s₁ s' frame size hello config code message hmain _ ht _ _ _ hs =>
    have hlen := ht.length
    have hsends := hs.stepsLeft (by simp [MainPhase.stepsLeft])
    obtain ⟨reader, body, -, -, -, -, rfl⟩ := ht
    refine hlt ?_
    simp only [Conn.stepsLeft, hmain, MainPhase.stepsLeft] at hsends hlen ⊢
    omega
  | notHello s₁ s' frame size code message hmain _ ht _ _ hs =>
    have hlen := ht.length
    have hsends := hs.stepsLeft (by simp [MainPhase.stepsLeft])
    obtain ⟨reader, body, -, -, -, -, rfl⟩ := ht
    refine hlt ?_
    simp only [Conn.stepsLeft, hmain, MainPhase.stepsLeft] at hsends hlen ⊢
    omega
  | dispatches s₁ frame size messages hmain _ ht _ =>
    -- a frame of eleven bytes pays for the four steps of its task and the wait for a slot
    have hlen := ht.length
    obtain ⟨reader, body, -, -, -, -, rfl⟩ := ht
    have h := ({ s with
      reader := reader, log := s.log ++ [.received frame size],
      tasks := s.tasks ++ [Task.new frame.metadata messages] } : Conn).acquire_stepsLeft
    have hnew : (Task.new frame.metadata messages).stepsLeft = 4 := rfl
    refine hlt ?_
    simp only [Conn.stepsLeft, hmain, MainPhase.stepsLeft, List.map_append, List.map_cons,
      List.map_nil, List.sum_append, List.sum_cons, List.sum_nil, hnew] at h hlen ⊢
    omega
  | replies s₁ s' frame size code message hmain _ ht _ _ hs =>
    have hlen := ht.length
    have hsends := hs.stepsLeft (by simp [MainPhase.stepsLeft])
    obtain ⟨reader, body, -, -, -, -, rfl⟩ := ht
    refine hlt ?_
    simp only [Conn.stepsLeft, hmain, MainPhase.stepsLeft] at hsends hlen ⊢
    omega
  | reports s' io exc hmain _ hr =>
    have h := hr.stepsLeft
    refine hlt ?_
    simp only [Conn.stepsLeft, hmain, MainPhase.stepsLeft] at h ⊢
    omega
  | reportsNext s' io group hmain hr =>
    have h := hr.stepsLeft
    refine hlt ?_
    simp only [Conn.stepsLeft, hmain, MainPhase.stepsLeft] at h ⊢
    omega
  | reported io group raised hmain =>
    have h := s.finish_stepsLeft group (raised ++ io.exc)
    refine hlt ?_
    simp only [Conn.stepsLeft, hmain, MainPhase.stepsLeft] at h ⊢
    omega
  | closes io hmain =>
    refine hlt ?_
    simp only [Conn.stepsLeft, hmain, MainPhase.stepsLeft]
    omega
  | neverStarts i t ht hphase _ =>
    have hset := Conn.setTask_stepsLeft ht { t with phase := .cancelled, cancelRequested := false }
    have hone := Task.stepsLeft_ended
      (t := { t with phase := .cancelled, cancelRequested := false }) rfl
    have hfour : t.stepsLeft = 4 := by simp [Task.stepsLeft, hphase]
    exact hlt (by omega)
  | starts i t ht hphase _ =>
    have hset := Conn.setTask_stepsLeft ht { t with phase := .running }
    have hfour : t.stepsLeft = 4 := by simp [Task.stepsLeft, hphase]
    have hthree : ({ t with phase := .running } : Task).stepsLeft = 3 := rfl
    refine hlt ?_
    rw [hfour, hthree] at hset
    simp only [Conn.stepsLeft, Conn.record, Conn.setTask] at hset ⊢
    omega
  | goesOn i t ht hphase =>
    have hset := Conn.setTask_stepsLeft ht { t with cancelRequested := false }
    have hsame : ({ t with cancelRequested := false } : Task).stepsLeft = t.stepsLeft := rfl
    simp only [Event.advances, Bool.toNat_false]
    omega
  | ackFails i t actions e ht hphase _ =>
    exact hlt (Conn.endTask_stepsLeft ht (by simp [Task.stepsLeft, hphase]) rfl rfl rfl)
  | ackSkipped i t actions ht hphase _ =>
    exact hlt (Conn.endTask_stepsLeft ht (by simp [Task.stepsLeft, hphase]) rfl rfl rfl)
  | acks i t actions frame bytes ht hphase _ =>
    have hset := Conn.setTask_stepsLeft ht { t with phase := .draining, cancelRequested := false }
    have hthree : t.stepsLeft = 3 := by simp [Task.stepsLeft, hphase]
    have htwo : ({ t with phase := .draining, cancelRequested := false } : Task).stepsLeft = 2 := rfl
    refine hlt ?_
    rw [hthree, htwo] at hset
    simp only [Conn.stepsLeft, Conn.record, Conn.setTask] at hset ⊢
    omega
  | handlerRaises i t e ht hphase =>
    exact hlt (Conn.endTask_stepsLeft ht (by simp [Task.stepsLeft, hphase]) rfl rfl rfl)
  | handlerCancelled i t ht hphase =>
    exact hlt (Conn.endTask_stepsLeft ht (by simp [Task.stepsLeft, hphase]) rfl rfl rfl)
  | drainCancelled i t io ht hphase _ =>
    exact hlt (Conn.endTask_stepsLeft ht (by simp [Task.stepsLeft, hphase]) rfl rfl rfl)
  | drained i t ht hphase _ =>
    exact hlt (Conn.endTask_stepsLeft ht (by simp [Task.stepsLeft, hphase]) rfl rfl rfl)
  | drainBroken i t text ht hphase _ =>
    exact hlt (Conn.endTask_stepsLeft ht (by simp [Task.stepsLeft, hphase]) rfl rfl rfl)
  | failureSeen i t e ht hphase hnew _ =>
    have hdone := Conn.doneTask_stepsLeft ht (by rw [hphase]; rfl) hnew
    refine hlt ?_
    simp only [Conn.stepsLeft, Conn.abort, sum_map_requestCancel] at hdone ⊢
    exact hdone
  | failureAdded i t e ht hphase hnew _ =>
    exact hlt (Conn.doneTask_stepsLeft ht (by rw [hphase]; rfl) hnew)
  | endSeen i t ht hphase hnew =>
    refine hlt (Conn.doneTask_stepsLeft ht ?_ hnew)
    rcases hphase with h | h <;> rw [h] <;> rfl
  | lost =>
    simp only [Event.advances, Bool.toNat_false]
    exact Nat.le_refl _

end Moves

/-- A run has at most ten progressing steps more than the peer sends bytes, however the steps of
the handlers, the transport and the event loop interleave. -/
theorem core_handler_steps (m c : ℤ) (inbound : Bytes) (events : List Event) (s : Conn)
    (h : run Conn.step (Conn.init m c inbound) events = some s) :
    events.countP Event.advances ≤ inbound.length + 10 := by
  have hstep : ∀ s ev s', Conn.step s ev = some s' →
      s'.stepsLeft + ev.advances.toNat ≤ s.stepsLeft := fun _ _ _ hs => (Conn.step_move hs).stepsLeft
  have hle := countP_add_le hstep h
  have hinit : (Conn.init m c inbound).stepsLeft = inbound.length + 10 := rfl
  omega

theorem core_handler_steps_pipelined :
    run Conn.step (Conn.onFrames 16384 2 [helloFrame 16384 [PIPELINING], notifyFrame 7 1,
      notifyFrame 7 2]) [.main .ok, .main .ok, .main .ok, .start 0] = some Conn.pipelined ∧
    [Event.main .ok, .main .ok, .main .ok, .start 0].countP Event.advances ≤
      (Conn.onFrames 16384 2 [helloFrame 16384 [PIPELINING], notifyFrame 7 1,
        notifyFrame 7 2]).reader.buffer.length + 10 :=
  ⟨by decide +kernel, core_handler_steps 16384 2 _ [.main .ok, .main .ok, .main .ok, .start 0]
    Conn.pipelined (by decide +kernel)⟩

/-! ### Waiting for a slot -/

/-- The read loop waits for a slot only when there is none. -/
def Conn.WaitsForSlot (s : Conn) : Prop :=
  s.main = .acquiring → s.mainCancelled = false → s.slots = 0

section Waiting

variable {s s' : Conn}

theorem Conn.waitsForSlot_of_ne (h : s.main ≠ .acquiring) : s.WaitsForSlot := fun hm => absurd hm h

theorem Conn.waitsForSlot_acquire (s : Conn) : s.acquire.WaitsForSlot := by
  unfold Conn.acquire
  split
  · exact Conn.waitsForSlot_of_ne (by simp)
  · intro _ _
    simp only
    omega

theorem Conn.Sends.waitsForSlot {frame : Frame} {draining : MainPhase}
    (h : s.Sends frame draining s') (hd : draining ≠ .acquiring) : s'.WaitsForSlot := by
  cases h with
  | refused e _ _ | closed _ => exact Conn.waitsForSlot_of_ne (by simp)
  | wrote bytes _ _ => exact Conn.waitsForSlot_of_ne hd

theorem Conn.finish_waitsForSlot (s : Conn) (group raised : List Exc) :
    (s.finish group raised).WaitsForSlot := by
  rcases s.finish_main group raised with ⟨-, he⟩ | he <;> rw [he] <;>
    exact Conn.waitsForSlot_of_ne (by simp)

theorem Conn.ReportsProtocol.waitsForSlot {group raised : List Exc}
    (h : s.ReportsProtocol group raised s') : s'.WaitsForSlot := by
  cases h with
  | none _ | closed _ | refused e x _ _ _ => exact s.finish_waitsForSlot _ _
  | wrote e bytes _ _ _ => exact Conn.waitsForSlot_of_ne (by simp)

theorem Conn.release_waitsForSlot (s : Conn) (i : ℕ) : (s.release i).WaitsForSlot := by
  rw [Conn.release_eq]
  split
  · exact Conn.waitsForSlot_of_ne (by simp)
  · rename_i hw
    exact fun hm hc => absurd ⟨hm, hc⟩ hw

theorem Conn.WaitsForSlot.move {ev : Event} (h : s.WaitsForSlot) (hm : s.Move ev s') :
    s'.WaitsForSlot := by
  cases hm with
  | cancelled | slotReturned | broken | ends | noSemaphore | decodeFails | helloFails =>
    exact Conn.waitsForSlot_of_ne (by simp)
  | serves => exact Conn.waitsForSlot_acquire _
  | dispatches => exact Conn.waitsForSlot_acquire _
  | reads => exact Conn.waitsForSlot_of_ne (by simp)
  | greets _ _ _ _ _ _ _ _ _ _ _ _ hs => exact hs.waitsForSlot (by simp)
  | incompatible _ _ _ _ _ _ _ _ _ _ _ _ _ _ hs => exact hs.waitsForSlot (by simp)
  | notHello _ _ _ _ _ _ _ _ _ _ _ hs => exact hs.waitsForSlot (by simp)
  | replies _ _ _ _ _ _ _ _ _ _ _ hs => exact hs.waitsForSlot (by simp)
  | reports s' io exc _ _ hr =>
    cases hr with
    | none s' _ hn | closed s' _ hn | refused e x s' _ _ _ hn => exact hn.waitsForSlot
    | wrote e bytes _ _ _ => exact Conn.waitsForSlot_of_ne (by simp)
  | reportsNext s' io group _ hr => exact hr.waitsForSlot
  | reported io group raised _ => exact s.finish_waitsForSlot _ _
  | closes => exact Conn.waitsForSlot_of_ne (by simp)
  | neverStarts | starts | goesOn | acks | failureAdded | endSeen | lost => exact h
  | failureSeen => exact fun _ hc => by cases hc
  | ackFails | ackSkipped | handlerRaises | handlerCancelled | drainCancelled | drained
  | drainBroken => exact Conn.release_waitsForSlot _ _

end Waiting

theorem Conn.WaitsForSlot.reachable {m c : ℤ} {inbound : Bytes} {s : Conn}
    (h : Reaches Conn.step (Conn.init m c inbound) s) : s.WaitsForSlot :=
  invariant (fun _ _ _ _ hi hs => hi.move (Conn.step_move hs))
    (Conn.waitsForSlot_of_ne (by simp [Conn.init])) h

/-! ### Progress -/

/-- The peer's transport keeps working and the handler of task `i` gives `outcome i`. -/
def Event.Cooperates (outcome : ℕ → Outcome) : Event → Prop
  | .main io | .drained _ io => io = .ok
  | .handler i o => o = outcome i
  | .start _ | .done _ => True
  | .lost => False

section Progress

variable {s : Conn} {outcome : ℕ → Outcome}

/-- A task that the group has not seen end can take a step. -/
theorem Conn.task_step (s : Conn) (outcome : ℕ → Outcome) {i : ℕ} {t : Task}
    (ht : s.tasks[i]? = some t) (hnew : t.phase.ended = true → t.reported = false) :
    ∃ ev s', ev.Cooperates outcome ∧ s.step ev = some s' := by
  cases hp : t.phase with
  | created => exact ⟨.start i, s.startTask i t, trivial, by simp [Conn.step, ht, hp]⟩
  | running =>
    exact ⟨.handler i (outcome i), s.handlerStep i t (outcome i), rfl, by simp [Conn.step, ht, hp]⟩
  | draining => exact ⟨.drained i .ok, s.drainStep i t .ok, rfl, by simp [Conn.step, ht, hp]⟩
  | returned | raised _ | cancelled =>
    have hended : t.phase.ended = true := by rw [hp]; rfl
    exact ⟨.done i, s.doneStep i t, trivial, by simp [Conn.step, ht, hended, hnew hended]⟩

theorem Conn.live_task (h : 0 < s.live) :
    ∃ (i : ℕ) (t : Task), s.tasks[i]? = some t ∧ t.phase.ended = false := by
  obtain ⟨t, hmem, ht⟩ := List.countP_pos_iff.mp h
  obtain ⟨i, hi⟩ := List.mem_iff_getElem?.mp hmem
  exact ⟨i, t, hi, by simpa using ht⟩

/-- A reachable connection with at least one slot is never stuck. -/
theorem Conn.progress {m c : ℤ} {inbound : Bytes} (hc : 1 ≤ c)
    (h : Reaches Conn.step (Conn.init m c inbound) s) (outcome : ℕ → Outcome)
    (hmain : s.main.ended = false) : ∃ ev s', ev.Cooperates outcome ∧ s.step ev = some s' := by
  have hco := Coherent.reachable h
  have hslots := SlotBalance.reachable h
  have hresumes : (s.mainStep .ok).isSome →
      ∃ ev s', ev.Cooperates outcome ∧ s.step ev = some s' := fun hs =>
    ⟨.main .ok, (s.mainStep .ok).get hs, rfl, (Option.some_get hs).symm⟩
  cases hm : s.main with
  | handshake | refusing | greeting _ | granted | reading | replying | reportingTooBig _
  | reportingProtocol _ _ | closing =>
    refine hresumes ?_
    simp only [Conn.mainStep, hm]
    first | rfl | split <;> rfl
  | acquiring =>
    cases hcancel : s.mainCancelled with
    | true => exact hresumes (by simp [Conn.mainStep, hm, hcancel])
    | false =>
      -- every slot is with a task that is still alive
      have hzero := Conn.WaitsForSlot.reachable h hm hcancel
      have ha := hco.not_aborting (by simp [hm, MainPhase.left]) hcancel
      have hsum := hslots.balance (by simp [hm, MainPhase.serving]) ha
      have hlimit : 1 ≤ s.config.limit := by
        rw [hslots.limit_eq]
        split
        · exact hc
        · exact Int.le_refl 1
      have hlive : 0 < s.live := by
        rw [hzero, hm] at hsum
        simp only [MainPhase.held] at hsum
        omega
      obtain ⟨i, t, ht, halive⟩ := Conn.live_task hlive
      exact s.task_step outcome ht (fun he => by rw [halive] at he; cases he)
  | exiting exc =>
    cases hall : s.tasks.all Task.reported with
    | true => exact hresumes (by simp [Conn.mainStep, hm, hall])
    | false =>
      obtain ⟨t, hmem, hnew⟩ := List.all_eq_false.mp hall
      obtain ⟨i, ht⟩ := List.mem_iff_getElem?.mp hmem
      exact s.task_step outcome ht (fun _ => by simpa using hnew)
  | returned | failed _ =>
    rw [hm] at hmain
    cases hmain

theorem Coherent.ended_tasks (h : Coherent s) (hmain : s.main.ended = true) {t : Task}
    (ht : t ∈ s.tasks) : t.reported = true ∧ t.phase.ended = true := by
  have hreporting : s.main.reporting = true := by
    cases hm : s.main <;> simp_all [MainPhase.ended, MainPhase.reporting]
  have hr := h.reporting_reported hreporting t ht
  exact ⟨hr, h.reported_ended t ht hr⟩

theorem Coherent.ended_step (h : Coherent s) (hmain : s.main.ended = true) {ev : Event}
    (hev : ev ≠ .lost) : s.step ev = none := by
  have htask : ∀ (i : ℕ) (t : Task), s.tasks[i]? = some t →
      t.reported = true ∧ t.phase.ended = true := fun i t ht =>
    h.ended_tasks hmain (List.mem_of_getElem? ht)
  cases ev with
  | main io => cases hm : s.main <;> simp_all [Conn.step, Conn.mainStep, MainPhase.ended]
  | start i =>
    cases ht : s.tasks[i]? with
    | none => simp [Conn.step, ht]
    | some t =>
      have hended := (htask i t ht).2
      cases hp : t.phase <;> simp_all [Conn.step, TaskPhase.ended]
  | handler i outcome =>
    cases ht : s.tasks[i]? with
    | none => simp [Conn.step, ht]
    | some t =>
      have hended := (htask i t ht).2
      cases hp : t.phase <;> simp_all [Conn.step, TaskPhase.ended]
  | drained i io =>
    cases ht : s.tasks[i]? with
    | none => simp [Conn.step, ht]
    | some t =>
      have hended := (htask i t ht).2
      cases hp : t.phase <;> simp_all [Conn.step, TaskPhase.ended]
  | done i =>
    cases ht : s.tasks[i]? with
    | none => simp [Conn.step, ht]
    | some t => simp [Conn.step, ht, (htask i t ht).1]
  | lost => exact absurd rfl hev

end Progress

/-- Nothing can run on a connection but the closing of its transport exactly when
`core_handler` has ended: no interleaving of the read loop, the tasks and the group is stuck
before, and no task outlives it. -/
theorem idle_iff_ended (m c : ℤ) (hc : 1 ≤ c) (inbound : Bytes) (s : Conn)
    (h : Reaches Conn.step (Conn.init m c inbound) s) :
    (∀ ev, ev ≠ .lost → s.step ev = none) ↔ s.main.ended = true := by
  constructor
  · intro hidle
    by_contra hn
    obtain ⟨ev, s', hev, hs⟩ := Conn.progress hc h (fun _ => .cancelled) (by simpa using hn)
    have hnot : ev ≠ .lost := by
      rintro rfl
      exact hev
    rw [hidle ev hnot] at hs
    cases hs
  · exact fun hmain ev hev => (Coherent.reachable h).ended_step hmain hev

theorem idle_iff_ended_pipelined : ¬∀ ev, ev ≠ .lost → Conn.pipelined.step ev = none := by
  rw [idle_iff_ended 16384 2 (by decide) _ Conn.pipelined Conn.pipelined_reachable]
  decide +kernel

/-- From wherever a connection is, `core_handler` ends within the steps left, with every task
ended and seen by the group, if the transport works and every handler ends, each as it may. -/
theorem core_handler_terminates (m c : ℤ) (hc : 1 ≤ c) (inbound : Bytes) (s : Conn)
    (h : Reaches Conn.step (Conn.init m c inbound) s) (outcome : ℕ → Outcome)
    (ho : ∀ i, outcome i ≠ .pending) :
    ∃ events s', (∀ ev ∈ events, ev.Cooperates outcome) ∧ run Conn.step s events = some s' ∧
      s'.main.ended = true ∧ (∀ t ∈ s'.tasks, t.reported = true ∧ t.phase.ended = true) ∧
      events.length ≤ s.stepsLeft := by
  have hstep : ∀ s, Reaches Conn.step (Conn.init m c inbound) s → ¬s.main.ended = true →
      ∃ ev s', ev.Cooperates outcome ∧ s.step ev = some s' ∧
        Reaches Conn.step (Conn.init m c inbound) s' ∧ s'.stepsLeft < s.stepsLeft := by
    intro s hr hn
    obtain ⟨ev, s', hev, hs⟩ := Conn.progress hc hr outcome (by simpa using hn)
    have hle := (Conn.step_move hs).stepsLeft
    have hadv : ev.advances = true := by
      cases ev with
      | handler i o =>
        cases o with
        | pending => exact absurd hev.symm (ho i)
        | returned _ | raised _ | cancelled => rfl
      | lost => cases hev
      | main _ | start _ | drained _ _ | done _ => rfl
    rw [hadv] at hle
    exact ⟨ev, s', hev, hs, hr.tail hs, hle⟩
  obtain ⟨events, s', hevents, hrun, hreach, hended, hlen⟩ := exists_run_done hstep h
  exact ⟨events, s', hevents, hrun, hended,
    fun t ht => (Coherent.reachable hreach).ended_tasks hended ht, hlen⟩

theorem core_handler_terminates_pipelined : ∃ events s',
    (∀ ev ∈ events, ev.Cooperates fun _ => .returned none) ∧
      run Conn.step Conn.pipelined events = some s' ∧ s'.main.ended = true ∧
      (∀ t ∈ s'.tasks, t.reported = true ∧ t.phase.ended = true) ∧
      events.length ≤ Conn.pipelined.stepsLeft :=
  core_handler_terminates 16384 2 (by decide) _ Conn.pipelined Conn.pipelined_reachable
    (fun _ => .returned none) (fun _ h => by cases h)

/-! ### A semaphore of no slots -/

/-- Nothing is cancelled before there are tasks, and with pipelining there are none: the read
loop never holds a slot. -/
structure Starved (s : Conn) : Prop where
  calm : s.tasks = [] → s.mainCancelled = false
  empty : PIPELINING ∈ s.config.capabilities → s.tasks = [] ∧ s.main.held = 0

section Starved

variable {s s' : Conn}

theorem Starved.leave {s₁ : Conn} (h : Starved s) (exc : Option Exc)
    (hc : s₁.mainCancelled = s.mainCancelled) (htasks : s₁.tasks = s.tasks)
    (hcap : PIPELINING ∈ s₁.config.capabilities → s.tasks = []) : Starved (s₁.leave exc) := by
  have hnil : (s₁.leave exc).tasks = [] ↔ s.tasks = [] := by
    rcases s₁.leave_tasks exc with he | he <;> rw [he, htasks]
    exact List.map_eq_nil_iff
  constructor
  · intro hn
    rw [Conn.leave_mainCancelled, hc]
    exact h.calm (hnil.mp hn)
  · intro hp
    rw [Conn.leave_config] at hp
    exact ⟨hnil.mpr (hcap hp), rfl⟩

theorem Starved.sends {s₁ : Conn} {frame : Frame} {draining : MainPhase} (h : Starved s)
    (hs : s₁.Sends frame draining s') (hc : s₁.mainCancelled = s.mainCancelled)
    (htasks : s₁.tasks = s.tasks) (hcap : PIPELINING ∈ s₁.config.capabilities → s.tasks = [])
    (hd : PIPELINING ∈ s₁.config.capabilities → draining.held = 0) : Starved s' := by
  cases hs with
  | refused e _ _ | closed _ => exact h.leave _ hc htasks hcap
  | wrote bytes _ _ =>
    constructor
    · exact fun hn => hc.trans (h.calm (htasks.symm.trans hn))
    · exact fun hp => ⟨htasks.trans (hcap hp), hd hp⟩

theorem Starved.goes (h : Starved s) (hc : s'.mainCancelled = s.mainCancelled)
    (htasks : s'.tasks = s.tasks) (hconfig : s'.config = s.config)
    (hheld : PIPELINING ∈ s.config.capabilities → s'.main.held = 0) : Starved s' where
  calm := fun hn => hc.trans (h.calm (htasks.symm.trans hn))
  empty := fun hp => by
    rw [hconfig] at hp
    exact ⟨htasks.trans (h.empty hp).1, hheld hp⟩

theorem Starved.finish (h : Starved s) (group raised : List Exc) :
    Starved (s.finish group raised) := by
  rcases s.finish_main group raised with ⟨-, he⟩ | he <;> rw [he] <;>
    exact h.goes rfl rfl rfl fun _ => rfl

theorem Starved.reportsProtocol {group raised : List Exc} (h : Starved s)
    (hr : s.ReportsProtocol group raised s') : Starved s' := by
  cases hr with
  | none _ | closed _ | refused e x _ _ _ => exact h.finish _ _
  | wrote e bytes _ _ _ => exact h.goes rfl rfl rfl fun _ => rfl

theorem Starved.task (h : Starved s) {i : ℕ} {t : Task} (ht : s.tasks[i]? = some t)
    (htasks : s'.tasks ≠ []) (hconfig : s'.config = s.config) : Starved s' where
  calm := fun hn => absurd hn htasks
  empty := fun hp => by
    rw [hconfig] at hp
    rw [(h.empty hp).1] at ht
    cases ht

theorem Starved.move {ev : Event} (h : Starved s) (hco : Coherent s) (hb : SlotBalance 0 s)
    (hm : s.Move ev s') : Starved s' := by
  have hempty : PIPELINING ∈ s.config.capabilities → s.tasks = [] := fun hp => (h.empty hp).1
  have hidle : s.main = .handshake → s.tasks = [] := fun hmain =>
    hco.idle (by simp [hmain, MainPhase.greeted])
  have hset : ∀ {i : ℕ} {t : Task}, s.tasks[i]? = some t → ∀ t', s.tasks.set i t' ≠ [] := by
    intro i t ht t' hnil
    rw [List.set_eq_nil_iff] at hnil
    rw [hnil] at ht
    cases ht
  cases hm with
  | cancelled | broken | ends | noSemaphore | slotReturned | decodeFails =>
    exact h.leave _ rfl rfl hempty
  | helloFails s₁ frame size hello e _ _ ht _ _ =>
    obtain ⟨reader, body, -, -, -, -, rfl⟩ := ht
    exact h.leave _ rfl rfl hempty
  | serves hmain _ _ =>
    refine h.goes (by simp) (by simp) (by simp) fun hp => ?_
    have hzero : s.config.limit = 0 := by
      rw [hb.limit_eq, if_pos hp]
    simp [Conn.acquire, hzero, MainPhase.held]
  | reads io hmain _ =>
    refine h.goes rfl rfl rfl fun hp => ?_
    have hheld := (h.empty hp).2
    rw [hmain] at hheld
    cases hheld
  | greets s₁ s' frame size hello config hmain _ ht _ _ _ hs =>
    obtain ⟨reader, body, -, -, -, -, rfl⟩ := ht
    exact h.sends hs rfl rfl (fun _ => hidle hmain) fun _ => rfl
  | incompatible s₁ s' frame size hello config code message hmain _ ht _ _ _ hs =>
    obtain ⟨reader, body, -, -, -, -, rfl⟩ := ht
    exact h.sends hs rfl rfl (fun _ => hidle hmain) fun _ => rfl
  | notHello s₁ s' frame size code message hmain _ ht _ _ hs =>
    obtain ⟨reader, body, -, -, -, -, rfl⟩ := ht
    exact h.sends hs rfl rfl (fun _ => hidle hmain) fun _ => rfl
  | dispatches s₁ frame size messages hmain hc ht _ =>
    obtain ⟨reader, body, -, -, -, -, rfl⟩ := ht
    constructor
    · intro hn
      simp at hn
    · intro hp
      have hheld := (h.empty (by simpa using hp)).2
      rw [hmain] at hheld
      cases hheld
  | replies s₁ s' frame size code message hmain _ ht _ _ hs =>
    obtain ⟨reader, body, -, -, -, -, rfl⟩ := ht
    refine h.sends hs rfl rfl hempty fun hp => ?_
    have hheld := (h.empty hp).2
    rw [hmain] at hheld
    cases hheld
  | reports s' io exc _ _ hr =>
    cases hr with
    | none s' _ hn | closed s' _ hn | refused e x s' _ _ _ hn => exact h.reportsProtocol hn
    | wrote e bytes _ _ _ => exact h.goes rfl rfl rfl fun _ => rfl
  | reportsNext s' io group _ hr => exact h.reportsProtocol hr
  | reported io group raised _ => exact h.finish _ _
  | closes io _ => exact h.goes rfl rfl rfl fun _ => rfl
  | neverStarts i t ht _ _ => exact h.task ht (hset ht _) rfl
  | starts i t ht _ _ => exact h.task ht (hset ht _) rfl
  | goesOn i t ht _ => exact h.task ht (hset ht _) rfl
  | acks i t _ _ _ ht _ _ => exact h.task ht (hset ht _) rfl
  | failureAdded i t e ht _ _ _ => exact h.task ht (hset ht _) rfl
  | endSeen i t ht _ _ => exact h.task ht (hset ht _) rfl
  | failureSeen i t e ht _ _ _ =>
    exact h.task ht (fun hn => hset ht _ (List.map_eq_nil_iff.mp hn)) rfl
  | ackFails i t _ _ ht _ _ | ackSkipped i t _ ht _ _ | handlerRaises i t _ ht _
  | handlerCancelled i t ht _ | drainCancelled i t _ ht _ _ | drained i t ht _ _
  | drainBroken i t _ ht _ _ =>
    refine h.task ht ?_ (by simp [Conn.endTask, Conn.setTask, Conn.record])
    simp only [Conn.endTask, Conn.release_tasks, Conn.setTask_tasks]
    exact hset ht _
  | lost => exact h.goes rfl rfl rfl fun hp => (h.empty hp).2

end Starved

theorem Starved.reachable {m : ℤ} {inbound : Bytes} {s : Conn}
    (h : Reaches Conn.step (Conn.init m 0 inbound) s) : Starved s :=
  invariant (fun _ _ _ hr hi hs => hi.move (Coherent.reachable hr) (SlotBalance.reachable hr)
    (Conn.step_move hs)) ⟨fun _ => rfl, fun _ => ⟨rfl, rfl⟩⟩ h

/-- A read loop that waits with no task about to release a slot waits for ever. -/
theorem Conn.acquiring_step {s s' : Conn} {ev : Event} (hmain : s.main = .acquiring)
    (htasks : s.tasks = []) (hc : s.mainCancelled = false) (hs : s.step ev = some s') :
    s' = { s with writerClosing := true } := by
  cases ev with
  | main io => simp [Conn.step, Conn.mainStep, hmain, hc] at hs
  | start i | handler i outcome | drained i io | done i => simp [Conn.step, htasks] at hs
  | lost => exact (Option.some.inj hs).symm

/-- With `max_concurrent_frames = 0` a connection that negotiates pipelining never reads a frame
after the handshake and never ends, whatever the peer sends and however it closes. -/
theorem no_slots_starve (m : ℤ) (inbound : Bytes) (s : Conn)
    (h : Reaches Conn.step (Conn.init m 0 inbound) s) (hp : PIPELINING ∈ s.config.capabilities)
    (hserving : s.main.serving = true) :
    s.tasks = [] ∧ ∀ events s', run Conn.step s events = some s' →
      s'.main = .acquiring ∧ s'.reader = s.reader ∧ s'.log = s.log := by
  have hst := Starved.reachable h
  obtain ⟨htasks, hheld⟩ := hst.empty hp
  have hc := hst.calm htasks
  have hmain : s.main = .acquiring := by
    cases hm : s.main <;> simp_all [MainPhase.serving, MainPhase.held]
  refine ⟨htasks, fun events s' hr => ?_⟩
  have hstep : ∀ x ev x', Reaches Conn.step s x →
      (x.main = .acquiring ∧ x.reader = s.reader ∧ x.log = s.log) ∧ x.tasks = [] ∧
        x.mainCancelled = false → x.step ev = some x' →
      (x'.main = .acquiring ∧ x'.reader = s.reader ∧ x'.log = s.log) ∧ x'.tasks = [] ∧
        x'.mainCancelled = false := by
    intro x ev x' _ hx hs
    rw [Conn.acquiring_step hx.1.1 hx.2.1 hx.2.2 hs]
    exact hx
  exact (invariant hstep ⟨⟨hmain, rfl, rfl⟩, htasks, hc⟩ ⟨events, hr⟩).1

/-- A connection with pipelining and no slots, after the handshake; a NOTIFY is waiting. -/
def Conn.starved : Conn :=
  Conn.after 16384 0 [helloFrame 16384 [PIPELINING], notifyFrame 7 1] [.main .ok, .main .ok]

theorem Conn.starved_reachable : Reaches Conn.step
    (Conn.onFrames 16384 0 [helloFrame 16384 [PIPELINING], notifyFrame 7 1]) Conn.starved :=
  ⟨[.main .ok, .main .ok], by decide +kernel⟩

theorem no_slots_starve_starved : Conn.starved.tasks = [] ∧
    ∀ events s', run Conn.step Conn.starved events = some s' →
      s'.main = .acquiring ∧ s'.reader = Conn.starved.reader ∧ s'.log = Conn.starved.log :=
  no_slots_starve 16384 _ Conn.starved Conn.starved_reachable (by decide +kernel)
    (by decide +kernel)

end SpoeForge
