import SpoeForge.Server.Steps

/-!
# The state of a connection hangs together

What every reachable state has: the group aborts only when the body has left it or is
being cancelled, nothing is cancelled before, there are no tasks before the read loop,
and the errors of the group are those of tasks that raised.
-/

namespace SpoeForge

open Runs

/-- The handshake is not over. -/
def MainPhase.greeted : MainPhase → Bool
  | .handshake | .refusing | .greeting _ => false
  | _ => true

/-- The coroutine of the connection runs the except* clauses, or is past them. -/
def MainPhase.reporting : MainPhase → Bool
  | .reportingTooBig _ | .reportingProtocol _ _ | .closing | .returned | .failed _ => true
  | _ => false

structure Coherent (s : Conn) : Prop where
  left_aborting : s.main.left = true → s.aborting = true
  aborting_cases : s.aborting = true → s.main.left = true ∨ s.mainCancelled = true
  cancelled_aborting : s.mainCancelled = true → s.aborting = true
  uncancelled : s.aborting = false → ∀ t ∈ s.tasks, t.cancelRequested = false
  unraised : s.aborting = false → ∀ t ∈ s.tasks, t.reported = true → ∀ e, t.phase ≠ .raised e
  idle : s.main.greeted = false → s.tasks = []
  reported_ended : ∀ t ∈ s.tasks, t.reported = true → t.phase.ended = true
  reporting_reported : s.main.reporting = true → ∀ t ∈ s.tasks, t.reported = true
  errors_raised : ∀ e ∈ s.errors, ∃ t ∈ s.tasks, t.phase = .raised e

theorem Coherent.not_aborting {s : Conn} (h : Coherent s) (hleft : s.main.left = false)
    (hc : s.mainCancelled = false) : s.aborting = false := by
  by_contra hab
  rcases h.aborting_cases (by simpa using hab) with hl | hl
  · rw [hleft] at hl
    cases hl
  · rw [hc] at hl
    cases hl

/-! ### What the operations keep -/

theorem Task.requestCancel_phase (t : Task) : t.requestCancel.phase = t.phase := by
  unfold Task.requestCancel
  split <;> rfl

theorem Task.requestCancel_reported (t : Task) : t.requestCancel.reported = t.reported := by
  unfold Task.requestCancel
  split <;> rfl

theorem Task.requestCancel_metadata (t : Task) : t.requestCancel.metadata = t.metadata := by
  unfold Task.requestCancel
  split <;> rfl

/-- Two task lists that differ in cancellation requests only. -/
def SameTasks (ts ts' : List Task) : Prop :=
  ts' = ts ∨ ts' = ts.map Task.requestCancel

theorem Conn.leave_sameTasks (s : Conn) (exc : Option Exc) : SameTasks s.tasks (s.leave exc).tasks :=
  s.leave_tasks exc

theorem SameTasks.mem {ts ts' : List Task} (h : SameTasks ts ts') {t' : Task} (ht : t' ∈ ts') :
    ∃ t ∈ ts, t'.phase = t.phase ∧ t'.reported = t.reported ∧ t'.metadata = t.metadata := by
  rcases h with rfl | rfl
  · exact ⟨t', ht, rfl, rfl, rfl⟩
  · obtain ⟨t, hmem, rfl⟩ := List.mem_map.mp ht
    exact ⟨t, hmem, t.requestCancel_phase, t.requestCancel_reported, t.requestCancel_metadata⟩

theorem SameTasks.mem' {ts ts' : List Task} (h : SameTasks ts ts') {t : Task} (ht : t ∈ ts) :
    ∃ t' ∈ ts', t'.phase = t.phase ∧ t'.reported = t.reported := by
  rcases h with rfl | rfl
  · exact ⟨t, ht, rfl, rfl⟩
  · exact ⟨t.requestCancel, List.mem_map_of_mem ht, t.requestCancel_phase,
      t.requestCancel_reported⟩

/-- Coherence says nothing about the reader, the log, the slots, the configuration and the
writer. -/
theorem Coherent.congr {s s' : Conn} (h : Coherent s) (hmain : s'.main = s.main)
    (hab : s'.aborting = s.aborting) (hc : s'.mainCancelled = s.mainCancelled)
    (ht : s'.tasks = s.tasks) (he : s'.errors = s.errors) : Coherent s' := by
  obtain ⟨h1, h2, h3, h4, h5, h6, h7, h8, h9⟩ := h
  constructor <;> simp only [hmain, hab, hc, ht, he] <;> assumption

theorem Coherent.leave {s : Conn} (h : Coherent s) (exc : Option Exc) :
    Coherent (s.leave exc) where
  left_aborting := fun _ => s.leave_aborting exc
  aborting_cases := fun _ => .inl rfl
  cancelled_aborting := fun _ => s.leave_aborting exc
  uncancelled := fun ha => by simp at ha
  unraised := fun ha => by simp at ha
  idle := fun hm => by cases hm
  reported_ended := by
    intro t' ht' hr
    obtain ⟨t, ht, hp, hrep, -⟩ := (s.leave_sameTasks exc).mem ht'
    rw [hp]
    exact h.reported_ended t ht (hrep ▸ hr)
  reporting_reported := fun hm => by cases hm
  errors_raised := by
    intro e he
    rw [s.leave_errors] at he
    obtain ⟨t, ht, hp⟩ := h.errors_raised e he
    obtain ⟨t', ht', hp', -⟩ := (s.leave_sameTasks exc).mem' ht
    exact ⟨t', ht', by rw [hp', hp]⟩

theorem Coherent.cancelTasks {s : Conn} (h : Coherent s) (ha : s.aborting = true) :
    Coherent { s with tasks := s.tasks.map Task.requestCancel } := by
  have hsame : SameTasks s.tasks (s.tasks.map Task.requestCancel) := .inr rfl
  exact {
    left_aborting := h.left_aborting
    aborting_cases := h.aborting_cases
    cancelled_aborting := h.cancelled_aborting
    uncancelled := fun hf => Bool.noConfusion (ha.symm.trans hf)
    unraised := fun hf => Bool.noConfusion (ha.symm.trans hf)
    idle := fun hm => by rw [h.idle hm]; rfl
    reported_ended := fun t' ht' hr => by
      obtain ⟨t, ht, hp, hrep, -⟩ := hsame.mem ht'
      rw [hp]
      exact h.reported_ended t ht (hrep ▸ hr)
    reporting_reported := fun hm t' ht' => by
      obtain ⟨t, ht, -, hrep, -⟩ := hsame.mem ht'
      rw [hrep]
      exact h.reporting_reported hm t ht
    errors_raised := fun e he => by
      obtain ⟨t, ht, hp⟩ := h.errors_raised e he
      obtain ⟨t', ht', hp', -⟩ := hsame.mem' ht
      exact ⟨t', ht', by rw [hp', hp]⟩ }

theorem Coherent.goes {s : Conn} (h : Coherent s) (main : MainPhase)
    (hleft : s.main.left = false) (hleft' : main.left = false) (hrep : main.reporting = false)
    (hidle : main.greeted = false → s.main.greeted = false) : Coherent { s with main := main } where
  left_aborting := fun hl => by
    rw [hleft'] at hl
    cases hl
  aborting_cases := fun ha => .inr <| (h.aborting_cases ha).resolve_left (by simp [hleft])
  cancelled_aborting := h.cancelled_aborting
  uncancelled := h.uncancelled
  unraised := h.unraised
  idle := fun hm => h.idle (hidle hm)
  reported_ended := h.reported_ended
  reporting_reported := fun hm => by
    rw [hrep] at hm
    cases hm
  errors_raised := h.errors_raised

theorem Coherent.reports {s : Conn} (h : Coherent s) (main : MainPhase)
    (hleft : s.main.left = true) (hleft' : main.left = true) (hmain : main.greeted = true)
    (hrep : ∀ t ∈ s.tasks, t.reported = true) : Coherent { s with main := main } where
  left_aborting := fun _ => h.left_aborting hleft
  aborting_cases := fun _ => .inl hleft'
  cancelled_aborting := h.cancelled_aborting
  uncancelled := h.uncancelled
  unraised := h.unraised
  idle := fun hm => by
    rw [hmain] at hm
    cases hm
  reported_ended := h.reported_ended
  reporting_reported := fun _ => hrep
  errors_raised := h.errors_raised

theorem Coherent.acquire {s : Conn} (h : Coherent s) (hleft : s.main.left = false) :
    Coherent s.acquire := by
  unfold Conn.acquire
  split
  · exact (h.congr rfl rfl rfl rfl rfl : Coherent { s with slots := s.slots - 1 }).goes .reading
      hleft rfl rfl (fun hm => by cases hm)
  · exact h.goes .acquiring hleft rfl rfl (fun hm => by cases hm)

theorem Coherent.setTask {s : Conn} (h : Coherent s) {i : ℕ} {t t' : Task}
    (ht : s.tasks[i]? = some t) (hended : t'.reported = true → t'.phase.ended = true)
    (hcancel : s.aborting = false → t'.cancelRequested = false)
    (hraised : s.aborting = false → t'.reported = true → ∀ e, t'.phase ≠ .raised e)
    (hreported : t.reported = true → t'.reported = true)
    (hphase : ∀ e, t.phase = .raised e → t'.phase = .raised e) : Coherent (s.setTask i t') where
  left_aborting := h.left_aborting
  aborting_cases := h.aborting_cases
  cancelled_aborting := h.cancelled_aborting
  uncancelled := fun ha u hu => by
    rcases List.mem_or_eq_of_mem_set hu with hu | rfl
    · exact h.uncancelled ha u hu
    · exact hcancel ha
  unraised := fun ha u hu => by
    rcases List.mem_or_eq_of_mem_set hu with hu | rfl
    · exact h.unraised ha u hu
    · exact hraised ha
  idle := fun hm => by
    have hnil := h.idle hm
    rw [hnil] at ht
    cases ht
  reported_ended := fun u hu => by
    rcases List.mem_or_eq_of_mem_set hu with hu | rfl
    · exact h.reported_ended u hu
    · exact hended
  reporting_reported := fun hm u hu => by
    rcases List.mem_or_eq_of_mem_set hu with hu | rfl
    · exact h.reporting_reported hm u hu
    · exact hreported (h.reporting_reported hm t (List.mem_of_getElem? ht))
  errors_raised := fun e he => by
    obtain ⟨u, hu, hp⟩ := h.errors_raised e he
    have hi : i < s.tasks.length := (List.getElem?_eq_some_iff.mp ht).1
    obtain ⟨j, hj, rfl⟩ := List.mem_iff_getElem.mp hu
    by_cases hij : i = j
    · subst hij
      have htj : s.tasks[i] = t := (List.getElem?_eq_some_iff.mp ht).2
      exact ⟨t', List.mem_set hi t', hphase e (htj ▸ hp)⟩
    · refine ⟨s.tasks[j], ?_, hp⟩
      have hne := List.getElem?_set_ne (a := t') hij (l := s.tasks)
      exact List.mem_of_getElem? (hne.trans (List.getElem?_eq_getElem hj))

theorem Coherent.release {s : Conn} (h : Coherent s) (i : ℕ) : Coherent (s.release i) := by
  rw [Conn.release_eq]
  split
  · rename_i hw
    have hleft : s.main.left = false := by simp [hw.1, MainPhase.left]
    exact (h.congr rfl rfl rfl rfl rfl : Coherent (s.record (.released i))).goes .granted hleft rfl
      rfl (fun hm => by cases hm)
  · exact h.congr rfl rfl rfl rfl rfl

theorem Coherent.endTask {s : Conn} (h : Coherent s) {i : ℕ} {t : Task} {phase : TaskPhase}
    (ht : s.tasks[i]? = some t) (hphase : t.phase.ended = false) (hended : phase.ended = true) :
    Coherent (s.endTask i t phase) := by
  have hmem := List.mem_of_getElem? ht
  have hnew : t.reported = false := by
    cases hr : t.reported with
    | false => rfl
    | true =>
      have he := h.reported_ended t hmem hr
      rw [hphase] at he
      cases he
  have hset : Coherent (s.setTask i { t with phase := phase, cancelRequested := false }) := by
    refine h.setTask ht (fun _ => hended) (fun _ => rfl) (fun _ hr => ?_) (fun hr => hr)
      (fun e he => ?_)
    · rw [hnew] at hr
      cases hr
    · rw [he] at hphase
      cases hphase
  exact hset.release i

theorem Coherent.sends {s s' : Conn} {frame : Frame} {draining : MainPhase} (h : Coherent s)
    (hleft : s.main.left = false) (hleft' : draining.left = false)
    (hrep : draining.reporting = false)
    (hidle : draining.greeted = false → s.main.greeted = false)
    (hs : s.Sends frame draining s') : Coherent s' := by
  cases hs with
  | refused e _ _ => exact h.leave _
  | closed _ => exact h.leave _
  | wrote bytes _ _ =>
    exact (h.congr rfl rfl rfl rfl rfl : Coherent (s.record _)).goes draining hleft hleft' hrep hidle

theorem Conn.Takes.coherent {s s₁ : Conn} {frame : Frame} {size : ℕ} (ht : s.Takes frame size s₁)
    (h : Coherent s) : Coherent s₁ := by
  obtain ⟨reader, body, -, -, -, -, rfl⟩ := ht
  exact h.congr rfl rfl rfl rfl rfl

theorem Coherent.finish {s : Conn} (h : Coherent s) (hleft : s.main.left = true)
    (hrep : ∀ t ∈ s.tasks, t.reported = true) (group raised : List Exc) :
    Coherent (s.finish group raised) := by
  rcases s.finish_main group raised with ⟨-, he⟩ | he
  · rw [he]
    exact (h.congr rfl rfl rfl rfl rfl : Coherent { s with writerClosing := true }).reports .closing
      hleft rfl rfl hrep
  · rw [he]
    exact h.reports _ hleft rfl rfl hrep

theorem Coherent.reportsProtocol {s s' : Conn} {group raised : List Exc} (h : Coherent s)
    (hleft : s.main.left = true) (hrep : ∀ t ∈ s.tasks, t.reported = true)
    (hs : s.ReportsProtocol group raised s') : Coherent s' := by
  cases hs with
  | none _ => exact h.finish hleft hrep _ _
  | closed _ => exact h.finish hleft hrep _ _
  | refused e x _ _ _ => exact h.finish hleft hrep _ _
  | wrote e bytes _ _ _ =>
    exact (h.congr rfl rfl rfl rfl rfl : Coherent (s.record _)).reports _ hleft rfl rfl hrep

/-! ### Steps and runs -/

theorem Coherent.init (m c : ℤ) (inbound : Bytes) : Coherent (Conn.init m c inbound) := by
  constructor <;> simp [Conn.init, MainPhase.left, MainPhase.reporting]

theorem Coherent.addError {s : Conn} (h : Coherent s) {e : Exc}
    (he : ∃ t ∈ s.tasks, t.phase = .raised e) : Coherent { s with errors := s.errors ++ [e] } where
  left_aborting := h.left_aborting
  aborting_cases := h.aborting_cases
  cancelled_aborting := h.cancelled_aborting
  uncancelled := h.uncancelled
  unraised := h.unraised
  idle := h.idle
  reported_ended := h.reported_ended
  reporting_reported := h.reporting_reported
  errors_raised := fun e' he' => by
    rcases List.mem_append.mp he' with he' | he'
    · exact h.errors_raised e' he'
    · rw [List.mem_singleton.mp he']
      exact he

/-- The first failure the group sees cancels its tasks and its body. -/
theorem Coherent.failureSeen {s : Conn} (h : Coherent s) {i : ℕ} {t : Task} {e : Exc}
    (ht : s.tasks[i]? = some t) (hphase : t.phase = .raised e) :
    Coherent { { s.setTask i { t with reported := true } with
      errors := s.errors ++ [e] }.abort with mainCancelled := true } := by
  have hi : i < s.tasks.length := (List.getElem?_eq_some_iff.mp ht).1
  -- the same step of a group that is being cancelled already
  have hc : Coherent { s with aborting := true, mainCancelled := true } := {
    left_aborting := fun _ => rfl
    aborting_cases := fun _ => .inr rfl
    cancelled_aborting := fun _ => rfl
    uncancelled := fun hf => by cases hf
    unraised := fun hf => by cases hf
    idle := h.idle
    reported_ended := h.reported_ended
    reporting_reported := h.reporting_reported
    errors_raised := h.errors_raised }
  have hset : Coherent ({ s with aborting := true, mainCancelled := true }.setTask i
      { t with reported := true }) :=
    hc.setTask ht (fun _ => by rw [hphase]; rfl) (fun hf => by cases hf) (fun hf => by cases hf)
      (fun _ => rfl) (fun e he => he)
  have herr := hset.addError ⟨_, List.mem_set hi _, hphase⟩
  exact herr.cancelTasks rfl

/-- A task is cancelled only when the group is being cancelled. -/
theorem Coherent.aborting_of_cancelled {s : Conn} (h : Coherent s) {i : ℕ} {t : Task}
    (ht : s.tasks[i]? = some t) (hc : t.cancelRequested = true) : s.aborting = true := by
  by_contra hn
  have hf := h.uncancelled (by simpa using hn) t (List.mem_of_getElem? ht)
  rw [hc] at hf
  cases hf

theorem Coherent.move {s s' : Conn} {ev : Event} (h : Coherent s) (hm : s.Move ev s') :
    Coherent s' := by
  cases hm with
  | cancelled io _ _ => exact h.leave _
  | slotReturned io _ _ =>
    exact (h.congr rfl rfl rfl rfl rfl : Coherent { s with slots := s.slots + 1 }).leave _
  | broken text _ _ => exact h.leave _
  | ends _ _ => exact h.leave _
  | noSemaphore _ _ _ => exact h.leave _
  | serves hmain _ _ =>
    refine Coherent.acquire ?_ (by simp [hmain, MainPhase.left])
    exact h.congr rfl rfl rfl rfl rfl
  | reads io hmain _ =>
    exact h.goes .reading (by simp [hmain, MainPhase.left]) rfl rfl (fun hm => by cases hm)
  | decodeFails e reader _ _ _ =>
    exact (h.congr rfl rfl rfl rfl rfl : Coherent { s with reader := reader }).leave _
  | helloFails s₁ frame size hello e _ _ ht _ _ => exact (ht.coherent h).leave _
  | greets s₁ s' frame size hello config hmain _ ht _ _ _ hs =>
    have h₁ : Coherent { s₁ with config := config } :=
      (ht.coherent h).congr rfl rfl rfl rfl rfl
    obtain ⟨reader, body, -, -, -, -, rfl⟩ := ht
    exact h₁.sends (by simp [hmain, MainPhase.left]) rfl rfl
      (fun _ => by simp [hmain, MainPhase.greeted]) hs
  | incompatible s₁ s' frame size hello config code message hmain _ ht _ _ _ hs =>
    have h₁ : Coherent { s₁ with config := config } :=
      (ht.coherent h).congr rfl rfl rfl rfl rfl
    obtain ⟨reader, body, -, -, -, -, rfl⟩ := ht
    exact h₁.sends (by simp [hmain, MainPhase.left]) rfl rfl
      (fun _ => by simp [hmain, MainPhase.greeted]) hs
  | notHello s₁ s' frame size code message hmain _ ht _ _ hs =>
    have h₁ := ht.coherent h
    obtain ⟨reader, body, -, -, -, -, rfl⟩ := ht
    exact h₁.sends (by simp [hmain, MainPhase.left]) rfl rfl
      (fun _ => by simp [hmain, MainPhase.greeted]) hs
  | dispatches s₁ frame size messages hmain hc ht _ =>
    have ha := h.not_aborting (by simp [hmain, MainPhase.left]) hc
    obtain ⟨reader, body, -, -, -, -, rfl⟩ := ht
    refine Coherent.acquire ?_ (by simp [hmain, MainPhase.left])
    have hnew : ∀ (P : Task → Prop), (∀ t ∈ s.tasks, P t) → P (Task.new frame.metadata messages) →
        ∀ t ∈ s.tasks ++ [Task.new frame.metadata messages], P t := fun P h1 h2 =>
      List.forall_mem_append.mpr ⟨h1, List.forall_mem_singleton.mpr h2⟩
    exact {
      left_aborting := h.left_aborting
      aborting_cases := h.aborting_cases
      cancelled_aborting := h.cancelled_aborting
      uncancelled := fun ha => hnew _ (h.uncancelled ha) rfl
      unraised := fun ha => hnew _ (h.unraised ha) (fun hr => by cases hr)
      idle := fun hm => by simp [hmain, MainPhase.greeted] at hm
      reported_ended := hnew _ h.reported_ended (fun hr => by cases hr)
      reporting_reported := fun hm => by simp [hmain, MainPhase.reporting] at hm
      errors_raised := fun e he => by
        obtain ⟨t, ht, hp⟩ := h.errors_raised e he
        exact ⟨t, List.mem_append_left _ ht, hp⟩ }
  | replies s₁ s' frame size code message hmain _ ht _ _ hs =>
    have h₁ := ht.coherent h
    obtain ⟨reader, body, -, -, -, -, rfl⟩ := ht
    exact h₁.sends (by simp [hmain, MainPhase.left]) rfl rfl (fun hm => by cases hm) hs
  | reports s' io exc hmain hdone hr =>
    have hleft : s.main.left = true := by simp [hmain, MainPhase.left]
    cases hr with
    | none s' _ hn => exact h.reportsProtocol hleft hdone hn
    | closed s' _ hn => exact h.reportsProtocol hleft hdone hn
    | refused e x s' _ _ _ hn => exact h.reportsProtocol hleft hdone hn
    | wrote e bytes _ _ _ =>
      exact (h.congr rfl rfl rfl rfl rfl : Coherent (s.record _)).reports _ hleft rfl rfl hdone
  | reportsNext s' io group hmain hr =>
    have hrep := h.reporting_reported (by simp [hmain, MainPhase.reporting])
    exact h.reportsProtocol (by simp [hmain, MainPhase.left]) hrep hr
  | reported io group raised hmain =>
    have hrep := h.reporting_reported (by simp [hmain, MainPhase.reporting])
    exact h.finish (by simp [hmain, MainPhase.left]) hrep _ _
  | closes io hmain =>
    have hrep := h.reporting_reported (by simp [hmain, MainPhase.reporting])
    exact h.reports _ (by simp [hmain, MainPhase.left]) rfl rfl hrep
  | neverStarts i t ht hphase hc =>
    have hnew : t.reported ≠ true := fun hr => by
      have he := h.reported_ended t (List.mem_of_getElem? ht) hr
      rw [hphase] at he
      cases he
    exact h.setTask ht (fun _ => rfl) (fun _ => rfl) (fun _ hr => absurd hr hnew) (fun hr => hr)
      (fun e he => by rw [hphase] at he; cases he)
  | starts i t ht hphase hc =>
    have hnew : t.reported ≠ true := fun hr => by
      have he := h.reported_ended t (List.mem_of_getElem? ht) hr
      rw [hphase] at he
      cases he
    have hset : Coherent (s.setTask i { t with phase := .running }) :=
      h.setTask ht (fun hr => absurd hr hnew) (fun _ => hc) (fun _ hr => absurd hr hnew)
        (fun hr => hr) (fun e he => by rw [hphase] at he; cases he)
    exact hset.congr rfl rfl rfl rfl rfl
  | goesOn i t ht hphase =>
    have hmem := List.mem_of_getElem? ht
    exact h.setTask ht (h.reported_ended t hmem) (fun _ => rfl)
      (fun ha hr => h.unraised ha t hmem hr) (fun hr => hr) (fun e he => he)
  | ackFails i t actions e ht hphase _ =>
    exact (h.congr rfl rfl rfl rfl rfl : Coherent (s.record _)).endTask ht
      (by rw [hphase]; rfl) rfl
  | ackSkipped i t actions ht hphase _ =>
    exact (h.congr rfl rfl rfl rfl rfl : Coherent (s.record _)).endTask ht
      (by rw [hphase]; rfl) rfl
  | acks i t actions frame bytes ht hphase _ =>
    have hnew : t.reported ≠ true := fun hr => by
      have he := h.reported_ended t (List.mem_of_getElem? ht) hr
      rw [hphase] at he
      cases he
    have h₁ : Coherent (s.record (.answered i actions)) := h.congr rfl rfl rfl rfl rfl
    have hset : Coherent ((s.record (.answered i actions)).setTask i
        { t with phase := .draining, cancelRequested := false }) :=
      h₁.setTask ht (fun hr => absurd hr hnew) (fun _ => rfl) (fun _ hr => absurd hr hnew)
        (fun hr => hr) (fun e he => by rw [hphase] at he; cases he)
    exact hset.congr rfl rfl rfl rfl rfl
  | handlerRaises i t e ht hphase => exact h.endTask ht (by rw [hphase]; rfl) rfl
  | handlerCancelled i t ht hphase => exact h.endTask ht (by rw [hphase]; rfl) rfl
  | drainCancelled i t io ht hphase _ => exact h.endTask ht (by rw [hphase]; rfl) rfl
  | drained i t ht hphase _ => exact h.endTask ht (by rw [hphase]; rfl) rfl
  | drainBroken i t text ht hphase _ => exact h.endTask ht (by rw [hphase]; rfl) rfl
  | failureSeen i t e ht hphase _ _ => exact h.failureSeen ht hphase
  | failureAdded i t e ht hphase hnew ha =>
    have hset : Coherent (s.setTask i { t with reported := true }) :=
      h.setTask ht (fun _ => by rw [hphase]; rfl) (fun hf => by rw [ha] at hf; cases hf)
        (fun hf => by rw [ha] at hf; cases hf) (fun _ => rfl) (fun e he => he)
    exact hset.addError ⟨_, List.mem_set (List.getElem?_eq_some_iff.mp ht).1 _, hphase⟩
  | endSeen i t ht hphase hnew =>
    exact h.setTask ht (fun _ => by rcases hphase with hp | hp <;> rw [hp] <;> rfl)
      (fun ha => h.uncancelled ha t (List.mem_of_getElem? ht))
      (fun _ _ e he => by rcases hphase with hp | hp <;> rw [hp] at he <;> cases he)
      (fun _ => rfl) (fun e he => he)
  | lost => exact h.congr rfl rfl rfl rfl rfl

/-- Every reachable state is coherent. -/
theorem Coherent.reachable {m c : ℤ} {inbound : Bytes} {s : Conn}
    (h : Reaches Conn.step (Conn.init m c inbound) s) : Coherent s :=
  invariant (fun _ _ _ _ hi hs => hi.move (Conn.step_move hs)) (Coherent.init m c inbound) h

end SpoeForge
