import SpoeForge.Server.History
import SpoeForge.Server.Negotiation

/-!
# Slot accounting

While the group is not shutting down, the free slots, the tasks that have not released
theirs and the slot the read loop holds add up to the limit. Every exit of the read loop
and every end of a task is followed through the count.
-/

namespace SpoeForge

open Runs

/-- The tasks that have not ended. -/
def Conn.live (s : Conn) : ℕ := s.tasks.countP fun t => !t.phase.ended

/-- The slot that the read loop holds and has not handed to a task. -/
def MainPhase.held : MainPhase → ℕ
  | .granted | .reading | .replying => 1
  | _ => 0

/-- The invariant behind the accounting. -/
structure SlotBalance (c : ℤ) (s : Conn) : Prop where
  concurrency : s.config.maxConcurrentFrames = c
  balance : s.main.serving = true → s.aborting = false →
    (s.slots : ℤ) + s.live + s.main.held = s.config.limit
  bound : s.tasks ≠ [] → (s.live : ℤ) ≤ s.config.limit

/-! ### Counting tasks -/

theorem countP_set_add {α : Type} (p : α → Bool) {l : List α} {i : ℕ} {a : α} (h : l[i]? = some a)
    (b : α) : (l.set i b).countP p + (p a).toNat = l.countP p + (p b).toNat := by
  induction l generalizing i with
  | nil => cases h
  | cons x l ih =>
    cases i with
    | zero =>
      cases h
      simp only [List.set_cons_zero, List.countP_cons]
      cases p a <;> cases p b <;> simp
    | succ i =>
      have hrest := ih (i := i) h
      simp only [List.set_cons_succ, List.countP_cons]
      omega

theorem Conn.setTask_live {s : Conn} {i : ℕ} {t : Task} (ht : s.tasks[i]? = some t) (t' : Task) :
    (s.setTask i t').live + (!t.phase.ended).toNat = s.live + (!t'.phase.ended).toNat :=
  countP_set_add _ ht t'

theorem live_map_requestCancel (ts : List Task) :
    (ts.map Task.requestCancel).countP (fun t => !t.phase.ended) =
      ts.countP fun t => !t.phase.ended := by
  rw [List.countP_map]
  congr 1
  funext t
  simp only [Function.comp_apply, t.requestCancel_phase]

@[simp] theorem Conn.leave_live (s : Conn) (exc : Option Exc) : (s.leave exc).live = s.live := by
  rcases s.leave_tasks exc with h | h
  · simp only [Conn.live, h]
  · simp only [Conn.live, h, live_map_requestCancel]

theorem Conn.leave_nil {s : Conn} {exc : Option Exc} (h : (s.leave exc).tasks ≠ []) :
    s.tasks ≠ [] := by
  rcases s.leave_tasks exc with he | he <;> rw [he] at h
  · exact h
  · simpa using h

/-! ### What the moves keep -/

section Moves

variable {c : ℤ} {s : Conn}

/-- A step that changes neither the number of live tasks nor the limit, and keeps the sum
of free and held slots unless the group is shutting down. -/
theorem SlotBalance.frame {s' : Conn} (h : SlotBalance c s) (hconfig : s'.config = s.config)
    (hlive : s'.live = s.live) (htasks : s'.tasks ≠ [] → s.tasks ≠ [])
    (hslots : s'.main.serving = true → s'.aborting = false → s.main.serving = true ∧
      s.aborting = false ∧ s'.slots + s'.main.held = s.slots + s.main.held) : SlotBalance c s' where
  concurrency := by rw [hconfig]; exact h.concurrency
  balance := fun hm ha => by
    obtain ⟨hm', ha', hsum⟩ := hslots hm ha
    have hb := h.balance hm' ha'
    rw [hconfig, hlive]
    omega
  bound := fun hne => by
    rw [hconfig, hlive]
    exact h.bound (htasks hne)

theorem SlotBalance.leave {s₁ : Conn} (h : SlotBalance c s) (exc : Option Exc)
    (hconfig : s₁.config = s.config) (htasks : s₁.tasks = s.tasks) :
    SlotBalance c (s₁.leave exc) := by
  refine h.frame (by simp [hconfig]) ?_ (fun hne => ?_) (fun hm => by cases hm)
  · rw [Conn.leave_live, Conn.live, htasks, Conn.live]
  · rw [← htasks]
    exact Conn.leave_nil hne

theorem SlotBalance.early {s' : Conn} (hconfig : s'.config.maxConcurrentFrames = c)
    (hmain : s'.main.serving = false) (htasks : s'.tasks = []) : SlotBalance c s' where
  concurrency := hconfig
  balance := fun hm => by
    rw [hmain] at hm
    cases hm
  bound := fun hne => absurd htasks hne

theorem SlotBalance.handshake {s₁ s' : Conn} {frame : Frame} {draining : MainPhase}
    (hs : s₁.Sends frame draining s') (hconfig : s₁.config.maxConcurrentFrames = c)
    (htasks : s₁.tasks = []) (hmain : draining.serving = false) : SlotBalance c s' := by
  have hleave : ∀ exc, (s₁.leave exc).tasks = [] := by
    intro exc
    rcases s₁.leave_tasks exc with he | he <;> rw [he, htasks]
    rfl
  cases hs with
  | refused e _ _ => exact .early (by simpa using hconfig) rfl (hleave _)
  | closed _ => exact .early (by simpa using hconfig) rfl (hleave _)
  | wrote bytes _ _ => exact .early hconfig hmain htasks

theorem SlotBalance.finish (h : SlotBalance c s) (group raised : List Exc) :
    SlotBalance c (s.finish group raised) := by
  rcases s.finish_main group raised with ⟨-, he⟩ | he
  · rw [he]
    exact h.frame rfl rfl id (fun hm => by cases hm)
  · rw [he]
    exact h.frame rfl rfl id (fun hm => by cases hm)

theorem SlotBalance.reportsProtocol {s' : Conn} {group raised : List Exc} (h : SlotBalance c s)
    (hs : s.ReportsProtocol group raised s') : SlotBalance c s' := by
  cases hs with
  | none _ => exact h.finish _ _
  | closed _ => exact h.finish _ _
  | refused e x _ _ _ => exact h.finish _ _
  | wrote e bytes _ _ _ => exact h.frame rfl rfl id (fun hm => by cases hm)

theorem Conn.acquire_held (s : Conn) : s.acquire.slots + s.acquire.main.held = s.slots := by
  unfold Conn.acquire
  split
  · simp only [MainPhase.held]
    omega
  · simp only [MainPhase.held]
    omega

/-- A release gives back one slot, to the count or to the waiting read loop. -/
theorem Conn.release_held (s : Conn) (i : ℕ) :
    (s.release i).slots + (s.release i).main.held = s.slots + s.main.held + 1 := by
  rw [Conn.release_eq]
  split
  · rename_i h
    simp [Conn.record, h.1, MainPhase.held]
  · simp only [Conn.record]
    omega

theorem Conn.release_serving (s : Conn) (i : ℕ) :
    (s.release i).main.serving = s.main.serving := by
  rw [Conn.release_eq]
  split
  · rename_i h
    simp [h.1, MainPhase.serving]
  · rfl

theorem SlotBalance.endTask {s₁ : Conn} (h : SlotBalance c s) {i : ℕ} {t : Task}
    {phase : TaskPhase} (ht : s.tasks[i]? = some t) (hphase : t.phase.ended = false)
    (hended : phase.ended = true) (hconfig : s₁.config = s.config) (htasks : s₁.tasks = s.tasks)
    (hslots : s₁.slots = s.slots) (hmain : s₁.main = s.main) (ha : s₁.aborting = s.aborting) :
    SlotBalance c (s₁.endTask i t phase) := by
  have ht₁ : s₁.tasks[i]? = some t := by rw [htasks, ht]
  have hset := Conn.setTask_live ht₁ { t with phase := phase, cancelRequested := false }
  simp only [hphase, hended, Bool.not_false, Bool.not_true, Bool.toNat_true, Bool.toNat_false] at hset
  have hlive₁ : s₁.live = s.live := by rw [Conn.live, htasks, Conn.live]
  have hlive : (s₁.endTask i t phase).live + 1 = s.live := by
    rw [← hlive₁]
    simpa [Conn.endTask, Conn.live] using hset
  have hsum := (s₁.setTask i { t with phase := phase, cancelRequested := false }).release_held i
  have hserving := (s₁.setTask i { t with phase := phase, cancelRequested := false }).release_serving i
  have hne : s.tasks ≠ [] := fun hnil => by
    rw [hnil] at ht
    cases ht
  constructor
  · simp only [Conn.endTask, Conn.release_config, Conn.setTask, hconfig]
    exact h.concurrency
  · intro hm hab
    have hm' : s.main.serving = true := by
      rw [← hmain]
      exact hserving.symm.trans hm
    have hab' : s.aborting = false := by
      rw [← ha]
      simpa [Conn.endTask, Conn.setTask] using hab
    have hb := h.balance hm' hab'
    have hcfg : (s₁.endTask i t phase).config = s.config := by
      simp only [Conn.endTask, Conn.release_config, Conn.setTask, hconfig]
    have hsum' : (s₁.endTask i t phase).slots + (s₁.endTask i t phase).main.held =
        s.slots + s.main.held + 1 := by
      rw [← hslots, ← hmain]
      exact hsum
    rw [hcfg]
    omega
  · intro _
    have hb := h.bound hne
    have hcfg : (s₁.endTask i t phase).config = s.config := by
      simp only [Conn.endTask, Conn.release_config, Conn.setTask, hconfig]
    rw [hcfg]
    omega

theorem SlotBalance.setTask (h : SlotBalance c s) {i : ℕ} {t t' : Task}
    (ht : s.tasks[i]? = some t) (hphase : t'.phase.ended = t.phase.ended) :
    SlotBalance c (s.setTask i t') := by
  have hset := Conn.setTask_live ht t'
  rw [hphase] at hset
  refine h.frame rfl (by omega) (fun hne hnil => ?_) (fun hm ha => ⟨hm, ha, rfl⟩)
  rw [hnil] at ht
  cases ht

theorem SlotBalance.init (m c : ℤ) (inbound : Bytes) : SlotBalance c (Conn.init m c inbound) :=
  .early rfl rfl rfl

theorem SlotBalance.move {s' : Conn} {ev : Event} (h : SlotBalance c s) (hco : Coherent s)
    (hm : s.Move ev s') : SlotBalance c s' := by
  have hidle : s.main = .handshake → s.tasks = [] := fun hmain =>
    hco.idle (by simp [hmain, MainPhase.greeted])
  cases hm with
  | cancelled io _ _ => exact h.leave _ rfl rfl
  | slotReturned io _ _ => exact h.leave _ rfl rfl
  | broken text _ _ => exact h.leave _ rfl rfl
  | ends _ _ => exact h.leave _ rfl rfl
  | noSemaphore _ _ _ => exact h.leave _ rfl rfl
  | serves hmain _ hlimit =>
    have hnil : s.tasks = [] := hco.idle (by simp [hmain, MainPhase.greeted])
    have hlive : s.live = 0 := by rw [Conn.live, hnil]; rfl
    refine ⟨by simpa using h.concurrency, fun _ _ => ?_, fun hne => absurd hnil (by simpa using hne)⟩
    have hheld := ({ s with slots := s.config.limit.toNat } : Conn).acquire_held
    have hlive' : ({ s with slots := s.config.limit.toNat } : Conn).acquire.live = 0 := by
      rw [Conn.live, Conn.acquire_tasks]
      exact hlive
    rw [hlive', Conn.acquire_config]
    simp only at hheld ⊢
    omega
  | reads io hmain hc =>
    refine h.frame rfl rfl id (fun _ ha => ⟨by simp [hmain, MainPhase.serving], ha, ?_⟩)
    simp [hmain, MainPhase.held]
  | decodeFails e reader _ _ _ => exact h.leave _ rfl rfl
  | helloFails s₁ frame size hello e _ _ ht _ _ =>
    obtain ⟨reader, body, -, -, -, -, rfl⟩ := ht
    exact h.leave _ rfl rfl
  | greets s₁ s' frame size hello config hmain _ ht _ hn _ hs =>
    obtain ⟨reader, body, -, -, -, -, rfl⟩ := ht
    exact .handshake hs ((negotiate_ok hn).maxConcurrentFrames.trans h.concurrency) (hidle hmain) rfl
  | incompatible s₁ s' frame size hello config code message hmain _ ht _ hn _ hs =>
    obtain ⟨reader, body, -, -, -, -, rfl⟩ := ht
    exact .handshake hs ((negotiate_ok hn).maxConcurrentFrames.trans h.concurrency) (hidle hmain) rfl
  | notHello s₁ s' frame size code message hmain _ ht _ _ hs =>
    obtain ⟨reader, body, -, -, -, -, rfl⟩ := ht
    exact .handshake hs h.concurrency (hidle hmain) rfl
  | dispatches s₁ frame size messages hmain hc ht _ =>
    obtain ⟨reader, body, -, -, -, -, rfl⟩ := ht
    have ha := hco.not_aborting (by simp [hmain, MainPhase.left]) hc
    have hb := h.balance (by simp [hmain, MainPhase.serving]) ha
    rw [hmain] at hb
    simp only [MainPhase.held] at hb
    have hheld := ({ s with
      reader := reader, log := s.log ++ [.received frame size],
      tasks := s.tasks ++ [Task.new frame.metadata messages] } : Conn).acquire_held
    have hlive : ({ s with
        reader := reader, log := s.log ++ [.received frame size],
        tasks := s.tasks ++ [Task.new frame.metadata messages] } : Conn).acquire.live =
        s.live + 1 := by
      simp [Conn.live, Task.new, TaskPhase.ended]
    refine ⟨by simpa using h.concurrency, fun _ _ => ?_, fun _ => ?_⟩
    · rw [hlive, Conn.acquire_config]
      simp only at hheld ⊢
      omega
    · rw [hlive, Conn.acquire_config]
      simp only at hheld ⊢
      omega
  | replies s₁ s' frame size code message hmain _ ht _ _ hs =>
    obtain ⟨reader, body, -, -, -, -, rfl⟩ := ht
    cases hs with
    | refused e _ _ => exact h.leave _ rfl rfl
    | closed _ => exact h.leave _ rfl rfl
    | wrote bytes _ _ =>
      refine h.frame rfl rfl id (fun _ ha => ⟨by simp [hmain, MainPhase.serving], ha, ?_⟩)
      simp [hmain, MainPhase.held, Conn.record]
  | reports s' io exc hmain hdone hr =>
    cases hr with
    | none s' _ hn => exact h.reportsProtocol hn
    | closed s' _ hn => exact h.reportsProtocol hn
    | refused e x s' _ _ _ hn => exact h.reportsProtocol hn
    | wrote e bytes _ _ _ => exact h.frame rfl rfl id (fun hm => by cases hm)
  | reportsNext s' io group hmain hr => exact h.reportsProtocol hr
  | reported io group raised hmain => exact h.finish _ _
  | closes io hmain => exact h.frame rfl rfl id (fun hm => by cases hm)
  | neverStarts i t ht hphase hc =>
    -- only a cancelled task never starts, and then the group is shutting down
    have ha := hco.aborting_of_cancelled ht hc
    have hset := Conn.setTask_live ht { t with phase := .cancelled, cancelRequested := false }
    have hne : s.tasks ≠ [] := fun hnil => by
      rw [hnil] at ht
      cases ht
    refine ⟨h.concurrency, fun _ hab => ?_, fun _ => ?_⟩
    · exact Bool.noConfusion (ha.symm.trans hab)
    · have hb := h.bound hne
      have hle : (s.setTask i { t with phase := .cancelled, cancelRequested := false }).live ≤
          s.live := by
        simp only [hphase, TaskPhase.ended, Bool.not_false, Bool.not_true, Bool.toNat_true,
          Bool.toNat_false] at hset
        omega
      have hcfg : (s.setTask i { t with phase := .cancelled, cancelRequested := false }).config =
          s.config := rfl
      rw [hcfg]
      omega
  | starts i t ht hphase hc =>
    have hset : SlotBalance c (s.setTask i { t with phase := .running }) :=
      h.setTask ht (by rw [hphase]; rfl)
    exact hset.frame rfl rfl id (fun hm ha => ⟨hm, ha, rfl⟩)
  | goesOn i t ht hphase => exact h.setTask ht rfl
  | ackFails i t actions e ht hphase _ =>
    exact h.endTask ht (by rw [hphase]; rfl) rfl rfl rfl rfl rfl rfl
  | ackSkipped i t actions ht hphase _ =>
    exact h.endTask ht (by rw [hphase]; rfl) rfl rfl rfl rfl rfl rfl
  | acks i t actions frame bytes ht hphase _ =>
    have hset : SlotBalance c (s.setTask i { t with phase := .draining, cancelRequested := false }) :=
      h.setTask ht (by rw [hphase]; rfl)
    exact hset.frame rfl rfl id (fun hm ha => ⟨hm, ha, rfl⟩)
  | handlerRaises i t e ht hphase =>
    exact h.endTask ht (by rw [hphase]; rfl) rfl rfl rfl rfl rfl rfl
  | handlerCancelled i t ht hphase =>
    exact h.endTask ht (by rw [hphase]; rfl) rfl rfl rfl rfl rfl rfl
  | drainCancelled i t io ht hphase _ =>
    exact h.endTask ht (by rw [hphase]; rfl) rfl rfl rfl rfl rfl rfl
  | drained i t ht hphase _ => exact h.endTask ht (by rw [hphase]; rfl) rfl rfl rfl rfl rfl rfl
  | drainBroken i t text ht hphase _ =>
    exact h.endTask ht (by rw [hphase]; rfl) rfl rfl rfl rfl rfl rfl
  | failureSeen i t e ht hphase hnew ha =>
    have hset : SlotBalance c (s.setTask i { t with reported := true }) := h.setTask ht rfl
    refine hset.frame rfl ?_ (fun hne => ?_) (fun _ hab => by cases hab)
    · simp only [Conn.live, Conn.abort, live_map_requestCancel]
    · simpa [Conn.abort] using hne
  | failureAdded i t e ht hphase hnew ha =>
    have hset : SlotBalance c (s.setTask i { t with reported := true }) := h.setTask ht rfl
    exact hset.frame rfl rfl id (fun hm ha => ⟨hm, ha, rfl⟩)
  | endSeen i t ht hphase hnew => exact h.setTask ht rfl
  | lost => exact h.frame rfl rfl id (fun hm ha => ⟨hm, ha, rfl⟩)

end Moves

theorem SlotBalance.reachable {m c : ℤ} {inbound : Bytes} {s : Conn}
    (h : Reaches Conn.step (Conn.init m c inbound) s) : SlotBalance c s :=
  invariant (fun _ _ _ hr hi hs => hi.move (Coherent.reachable hr) (Conn.step_move hs))
    (SlotBalance.init m c inbound) h

/-! ### The accounting -/

theorem SlotBalance.limit_eq {c : ℤ} {s : Conn} (h : SlotBalance c s) :
    s.config.limit = if PIPELINING ∈ s.config.capabilities then c else 1 := by
  rw [ServerConfiguration.limit, h.concurrency]

end SpoeForge
