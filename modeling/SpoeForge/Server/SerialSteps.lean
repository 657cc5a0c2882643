import SpoeForge.Server.SerialLoop
import SpoeForge.Server.Gate

/-!
# Steps of a connection without pipelining

There is one slot, and the task of a NOTIFY has it until its ACK is drained. So every step is
one of the serial loop, or one that it does not see, as long as the failure of a task reaches
the group before the read loop takes another frame.
-/

namespace SpoeForge

open Fallible Runs

/-! ### The conditions -/

/-- The handler does not end with a cancellation of its own. -/
def SerialEvent.Answers : SerialEvent → Prop
  | .handler outcome => outcome ≠ .cancelled
  | _ => True

/-- No handler ends with a cancellation of its own, and the read loop does not go on while the
failure of a task waits for its callback. -/
structure Conn.SeesFailures (s : Conn) (ev : Event) : Prop where
  answers : ∀ i, ev ≠ .handler i .cancelled
  reads : ∀ io, ev = .main io → s.main = .reading →
    ∀ t ∈ s.tasks, t.failure?.isSome = true → t.reported = true

/-! ### The simulation relation -/

/-- The serial loop is between two calls, or past the read loop. -/
structure Idle (s : Conn) (t : Serial) : Prop where
  conn : t.conn = s.observed
  index : t.index = s.tasks.length
  call : t.call = none
  main : s.main.held = 1 ∨ s.main.left = true
  uncancelled : s.mainCancelled = false
  returned : ∀ u ∈ s.tasks, u.phase = .returned
  slots : s.slots = 0

/-- The serial loop is in the call of the last task. -/
structure Calling (s : Conn) (t : Serial) (ts : List Task) (u : Task) : Prop where
  conn : t.conn = s.alone .reading
  index : t.index = ts.length
  call : t.call = some ⟨u.metadata, u.phase⟩
  main : s.main = .acquiring
  uncancelled : s.mainCancelled = false
  tasks : s.tasks = ts ++ [u]
  returned : ∀ u ∈ ts, u.phase = .returned
  live : u.phase.ended = false
  slots : s.slots = 0

/-- The failure of the last task has not reached the group, or it has ended the body. -/
inductive Conn.Fails (s : Conn) (u : Task) (e : Exc) : Prop
  | unseen (hreported : u.reported = false) (hc : s.mainCancelled = false) (herrors : s.errors = [])
      (hmain : s.main = .granted ∨ s.main = .reading)
  | seen (hreported : u.reported = true) (hc : s.mainCancelled = true) (herrors : s.errors = [e])
      (hmain : s.main = .granted ∨ s.main = .reading ∨ s.main = .exiting none ∨
        s.main.reporting = true)

/-- The serial loop is where the connection is. -/
inductive Serializes (s : Conn) (t : Serial) : Prop
  | idle (h : Idle s t)
  | calling (ts : List Task) (u : Task) (h : Calling s t ts u)
  | failed (ts : List Task) (u : Task) (e : Exc) (hconn : t.conn = s.observed)
      (hcall : t.call = none) (htasks : s.tasks = ts ++ [u]) (hts : ∀ u ∈ ts, u.phase = .returned)
      (hu : u.phase = .raised e) (hfails : s.Fails u e)

/-- What the serial loop does while the connection takes a step. -/
def Conn.serialized (s : Conn) : Event → List SerialEvent
  | .main io => if s.main = .granted ∨ (s.mainCancelled = true ∧ s.main.left = false) then []
      else [.main io]
  | .start _ => [.call]
  | .handler _ outcome => [.handler outcome]
  | .drained _ io => [.drained io]
  | .done _ => []
  | .lost => [.lost]

/-! ### Tasks of a serial connection -/

theorem Task.failure?_of_returned {t : Task} (h : t.phase = .returned) : t.failure? = none := by
  simp [Task.failure?, h]

theorem Task.failure?_of_raised {t : Task} {e : Exc} (h : t.phase = .raised e) :
    t.failure? = some e := by
  simp [Task.failure?, h]

theorem Task.failure?_of_live {t : Task} (h : t.phase.ended = false) : t.failure? = none := by
  cases hp : t.phase <;> simp [Task.failure?, hp, TaskPhase.ended] at h ⊢

theorem getElem?_last {α : Type} {l : List α} {a b : α} {i : ℕ} (h : (l ++ [a])[i]? = some b) :
    (i < l.length ∧ b ∈ l) ∨ (i = l.length ∧ b = a) := by
  rcases Nat.lt_trichotomy i l.length with hi | hi | hi
  · rw [List.getElem?_append_left hi] at h
    exact .inl ⟨hi, List.mem_of_getElem? h⟩
  · subst hi
    simp only [List.getElem?_concat_length, Option.some.injEq] at h
    exact .inr ⟨rfl, h.symm⟩
  · rw [List.getElem?_eq_none (by rw [List.length_append]; exact hi)] at h
    cases h

theorem set_last {α : Type} (l : List α) (a b : α) : (l ++ [a]).set l.length b = l ++ [b] := by
  simp

section Standing

variable {s : Conn}

theorem Conn.standing_of_loop (hmain : s.main = .acquiring ∨ s.main = .granted ∨ s.main = .reading) :
    s.standing = (s.tasks.findSome? Task.failure?).elim .reading fun e => .exiting (some e) := by
  rcases hmain with h | h | h <;> simp only [Conn.standing, h]

theorem Conn.standing_reading
    (hmain : s.main = .acquiring ∨ s.main = .granted ∨ s.main = .reading)
    (htasks : ∀ t ∈ s.tasks, t.failure? = none) : s.standing = .reading := by
  rw [Conn.standing_of_loop hmain, List.findSome?_eq_none_iff.mpr htasks]
  rfl

theorem Conn.standing_failed
    (hmain : s.main = .acquiring ∨ s.main = .granted ∨ s.main = .reading) {ts : List Task}
    {u : Task} {e : Exc} (htasks : s.tasks = ts ++ [u]) (hts : ∀ t ∈ ts, t.phase = .returned)
    (hu : u.phase = .raised e) : s.standing = .exiting (some e) := by
  have hnone : ts.findSome? Task.failure? = none :=
    List.findSome?_eq_none_iff.mpr fun t ht => Task.failure?_of_returned (hts t ht)
  rw [Conn.standing_of_loop hmain, htasks, List.findSome?_append, hnone]
  simp [Task.failure?_of_raised hu]

theorem Conn.setTask_observed {i : ℕ} {u : Task} (hu : s.tasks[i]? = some u) (u' : Task)
    (h : u'.failure? = u.failure?) : (s.setTask i u').observed = s.observed := by
  have hmap : (s.tasks.set i u').map Task.failure? = s.tasks.map Task.failure? := by
    obtain ⟨hi, rfl⟩ := List.getElem?_eq_some_iff.mp hu
    rw [List.map_set, h, ← List.getElem_map (h := by simpa using hi) Task.failure?,
      List.set_getElem_self]
  have hfind : (s.tasks.set i u').findSome? Task.failure? = s.tasks.findSome? Task.failure? := by
    have hid : ∀ l : List Task, l.findSome? Task.failure? = (l.map Task.failure?).findSome? id :=
      fun l => by rw [List.findSome?_map]; rfl
    rw [hid, hmap, ← hid]
  have hstanding : (s.setTask i u').standing = s.standing := by
    simp only [Conn.standing, Conn.setTask, hfind, Conn.group]
  rw [Conn.observed_eq hstanding]
  rfl

theorem Coherent.errors_eq_nil (hco : Coherent s) (h : ∀ u ∈ s.tasks, u.failure? = none) :
    s.errors = [] := by
  refine List.eq_nil_iff_forall_not_mem.mpr fun e he => ?_
  obtain ⟨u, hu, hp⟩ := hco.errors_raised e he
  have hnone := h u hu
  rw [Task.failure?_of_raised hp] at hnone
  cases hnone

end Standing

theorem Calling.failure {s : Conn} {t : Serial} {ts : List Task} {u : Task}
    (h : Calling s t ts u) : ∀ u ∈ s.tasks, u.failure? = none := by
  intro v hv
  rw [h.tasks] at hv
  rcases List.mem_append.mp hv with hv | hv
  · exact Task.failure?_of_returned (h.returned v hv)
  · rw [List.mem_singleton.mp hv]
    exact Task.failure?_of_live h.live

theorem Calling.observed {s : Conn} {t : Serial} {ts : List Task} {u : Task}
    (h : Calling s t ts u) : t.conn = s.observed := by
  rw [h.conn, Conn.observed_eq (Conn.standing_reading (.inl h.main) h.failure)]

/-- A live task is the one that the serial loop is in the call of. -/
theorem Serializes.live {s : Conn} {t : Serial} (h : Serializes s t) {i : ℕ} {u : Task}
    (hu : s.tasks[i]? = some u) (hlive : u.phase.ended = false) :
    ∃ ts, i = ts.length ∧ Calling s t ts u := by
  have hdead : ∀ ts : List Task, (∀ u ∈ ts, u.phase = .returned) → u ∉ ts := by
    intro ts hts hmem
    rw [hts u hmem] at hlive
    cases hlive
  cases h with
  | idle h => exact absurd (List.mem_of_getElem? hu) (hdead _ h.returned)
  | calling ts v h =>
    rw [h.tasks] at hu
    rcases getElem?_last hu with ⟨-, hmem⟩ | ⟨rfl, rfl⟩
    · exact absurd hmem (hdead _ h.returned)
    · exact ⟨ts, rfl, h⟩
  | failed ts v e hconn hcall htasks hts hv hfails =>
    rw [htasks] at hu
    rcases getElem?_last hu with ⟨-, hmem⟩ | ⟨rfl, rfl⟩
    · exact absurd hmem (hdead _ hts)
    · rw [hv] at hlive
      cases hlive

/-! ### Steps of a task -/

section Calls

variable {s : Conn} {t : Serial} {ts : List Task} {u : Task}

theorem Calling.task (h : Calling s t ts u) : s.tasks[ts.length]? = some u := by
  rw [h.tasks, List.getElem?_concat_length]

theorem Calling.setTask (h : Calling s t ts u) (u' : Task) (hlive : u'.phase.ended = false)
    (hmetadata : u'.metadata = u.metadata) :
    Calling (s.setTask ts.length u') { t with call := some ⟨u.metadata, u'.phase⟩ } ts u' where
  conn := h.conn
  index := h.index
  call := by rw [hmetadata]
  main := h.main
  uncancelled := h.uncancelled
  tasks := by rw [Conn.setTask_tasks, h.tasks, set_last]
  returned := h.returned
  live := hlive
  slots := h.slots

theorem Calling.record (h : Calling s t ts u) {e : Entry} (he : e.isReleased = false) :
    Calling (s.record e) { t with conn := t.conn.record e } ts u where
  conn := by rw [h.conn, Conn.alone_record _ _ he]
  index := h.index
  call := h.call
  main := h.main
  uncancelled := h.uncancelled
  tasks := h.tasks
  returned := h.returned
  live := h.live
  slots := h.slots

theorem Calling.endTask_eq (h : Calling s t ts u) (phase : TaskPhase) :
    s.endTask ts.length u phase =
      { s with
        log := s.log ++ [.released ts.length]
        main := .granted
        tasks := ts ++ [{ u with phase := phase, cancelRequested := false }] } := by
  unfold Conn.endTask
  rw [Conn.release_eq, if_pos ⟨h.main, h.uncancelled⟩, Conn.setTask, h.tasks, set_last]
  rfl

theorem Calling.endTask_alone (h : Calling s t ts u) (phase : TaskPhase) (main : MainPhase) :
    (s.endTask ts.length u phase).alone main = s.alone main := by
  rw [h.endTask_eq]
  exact Conn.alone_congr main rfl rfl rfl (by simp [Entry.isReleased])

theorem Calling.returns (h : Calling s t ts u) :
    Serializes (s.endTask ts.length u .returned) t.next := by
  have hreturned : ∀ v ∈ ts ++ [{ u with phase := .returned, cancelRequested := false }],
      v.phase = .returned := by
    intro v hv
    rcases List.mem_append.mp hv with hv | hv
    · exact h.returned v hv
    · rw [List.mem_singleton.mp hv]
  have hstanding : (s.endTask ts.length u .returned).standing = .reading := by
    rw [h.endTask_eq]
    exact Conn.standing_reading (.inr (.inl rfl)) fun v hv =>
      Task.failure?_of_returned (hreturned v hv)
  refine .idle ⟨?_, ?_, rfl, .inl ?_, ?_, ?_, ?_⟩
  · rw [Conn.observed_eq hstanding, h.endTask_alone]
    exact h.conn
  · simp [Serial.next, h.index, h.endTask_eq]
  · rw [h.endTask_eq]
    rfl
  · rw [h.endTask_eq]
    exact h.uncancelled
  · rw [h.endTask_eq]
    exact hreturned
  · rw [h.endTask_eq]
    exact h.slots

theorem Calling.raises (h : Calling s t ts u) (hco : Coherent s) (e : Exc) :
    Serializes (s.endTask ts.length u (.raised e)) (t.stop (some e)) := by
  have hreported : u.reported = false := by
    by_contra hr
    have he := hco.reported_ended u (List.mem_of_getElem? h.task) (by simpa using hr)
    exact Bool.noConfusion (h.live.symm.trans he)
  have hstanding : (s.endTask ts.length u (.raised e)).standing = .exiting (some e) := by
    rw [h.endTask_eq]
    exact Conn.standing_failed (.inr (.inl rfl)) rfl h.returned rfl
  refine .failed ts { u with phase := .raised e, cancelRequested := false } e ?_ rfl ?_ h.returned
    rfl ?_
  · rw [Conn.observed_eq hstanding, h.endTask_alone, Serial.stop, h.conn, Conn.alone_leave]
  · rw [h.endTask_eq]
  · rw [h.endTask_eq]
    exact .unseen hreported h.uncancelled (hco.errors_eq_nil h.failure) (.inl rfl)

/-- The group does not cancel the task that the serial loop is in the call of. -/
theorem Calling.not_cancelled (h : Calling s t ts u) (hco : Coherent s) :
    u.cancelRequested = false :=
  hco.uncancelled (hco.not_aborting (by rw [h.main]; rfl) h.uncancelled) u
    (List.mem_of_getElem? h.task)

theorem Calling.record_answered (h : Calling s t ts u) (actions : Option (List ActionObj)) :
    Calling (s.record (.answered ts.length actions))
      { t with conn := t.conn.record (.answered t.index actions) } ts u := by
  have hrecord := h.record (e := .answered ts.length actions) rfl
  simpa only [h.index] using hrecord

theorem Calling.ackToSend (h : Calling s t ts u) (actions : Option (List ActionObj)) :
    ackToSend (t.conn.record (.answered t.index actions)).writerClosing
      (t.conn.record (.answered t.index actions)).config.maxFrameSize u.metadata actions =
      SpoeForge.ackToSend s.writerClosing s.config.maxFrameSize u.metadata actions := by
  rw [h.conn]
  rfl

end Calls

section Steps

variable {s s' : Conn} {t : Serial} {i : ℕ}

theorem Serializes.start (h : Serializes s t) (hco : Coherent s)
    (hs : s.step (.start i) = some s') : ∃ t', t.step .call = some t' ∧ Serializes s' t' := by
  cases Conn.step_move hs with
  | neverStarts i u hu hphase hcancel =>
    obtain ⟨ts, rfl, hcall⟩ := h.live hu (by rw [hphase]; rfl)
    exact Bool.noConfusion (hcancel.symm.trans (hcall.not_cancelled hco))
  | starts i u hu hphase hcancel =>
    obtain ⟨ts, rfl, hcall⟩ := h.live hu (by rw [hphase]; rfl)
    have hset := hcall.setTask { u with phase := .running } rfl rfl
    refine ⟨_, ?_, .calling ts _ (hset.record (e := .invoked ts.length) rfl)⟩
    simp only [Serial.step, hcall.call, hphase, hcall.index]

theorem Serializes.handler (h : Serializes s t) (hco : Coherent s) {outcome : Outcome}
    (hanswers : outcome ≠ .cancelled) (hs : s.step (.handler i outcome) = some s') :
    ∃ t', t.step (.handler outcome) = some t' ∧ Serializes s' t' := by
  cases Conn.step_move hs with
  | goesOn i u hu hphase =>
    obtain ⟨ts, rfl, hcall⟩ := h.live hu (by rw [hphase]; rfl)
    have hset := hcall.setTask { u with cancelRequested := false } hcall.live rfl
    refine ⟨_, ?_, .calling ts _ hset⟩
    obtain ⟨conn, index, call⟩ := t
    have hc : call = some ⟨u.metadata, u.phase⟩ := hcall.call
    subst hc
    simp only [Serial.step, hphase, Serial.handlerStep]
  | ackFails i u actions e hu hphase hack =>
    obtain ⟨ts, rfl, hcall⟩ := h.live hu (by rw [hphase]; rfl)
    have hco' : Coherent (s.record (.answered ts.length actions)) := hco.congr rfl rfl rfl rfl rfl
    refine ⟨_, ?_, (hcall.record_answered actions).raises hco' e⟩
    simp only [Serial.step, hcall.call, hphase, Serial.handlerStep, Serial.acknowledge,
      hcall.ackToSend actions, hack]
  | ackSkipped i u actions hu hphase hack =>
    obtain ⟨ts, rfl, hcall⟩ := h.live hu (by rw [hphase]; rfl)
    refine ⟨_, ?_, (hcall.record_answered actions).returns⟩
    simp only [Serial.step, hcall.call, hphase, Serial.handlerStep, Serial.acknowledge,
      hcall.ackToSend actions, hack]
  | acks i u actions frame bytes hu hphase hack =>
    obtain ⟨ts, rfl, hcall⟩ := h.live hu (by rw [hphase]; rfl)
    have hset := (hcall.record_answered actions).setTask
      { u with phase := .draining, cancelRequested := false } rfl rfl
    refine ⟨_, ?_, .calling ts _ (hset.record (e := .wrote (some ts.length) frame bytes) rfl)⟩
    simp only [Serial.step, hcall.call, hphase, Serial.handlerStep, Serial.acknowledge,
      hcall.ackToSend actions, hack]
    simp only [hcall.index]
  | handlerRaises i u e hu hphase =>
    obtain ⟨ts, rfl, hcall⟩ := h.live hu (by rw [hphase]; rfl)
    refine ⟨_, ?_, hcall.raises hco e⟩
    simp only [Serial.step, hcall.call, hphase, Serial.handlerStep]
  | handlerCancelled i u hu hphase => exact absurd rfl hanswers

theorem Serializes.drained (h : Serializes s t) (hco : Coherent s) {io : Io}
    (hs : s.step (.drained i io) = some s') :
    ∃ t', t.step (.drained io) = some t' ∧ Serializes s' t' := by
  cases Conn.step_move hs with
  | drainCancelled i u io hu hphase hcancel =>
    obtain ⟨ts, rfl, hcall⟩ := h.live hu (by rw [hphase]; rfl)
    exact Bool.noConfusion (hcancel.symm.trans (hcall.not_cancelled hco))
  | drained i u hu hphase hcancel =>
    obtain ⟨ts, rfl, hcall⟩ := h.live hu (by rw [hphase]; rfl)
    refine ⟨_, ?_, hcall.returns⟩
    simp only [Serial.step, hcall.call, hphase, Serial.drainStep]
  | drainBroken i u text hu hphase hcancel =>
    obtain ⟨ts, rfl, hcall⟩ := h.live hu (by rw [hphase]; rfl)
    refine ⟨_, ?_, hcall.raises hco (connectionError text)⟩
    simp only [Serial.step, hcall.call, hphase, Serial.drainStep]

theorem Conn.Fails.congr {u : Task} {e : Exc} (h : s.Fails u e)
    (hc : s'.mainCancelled = s.mainCancelled) (herrors : s'.errors = s.errors)
    (hmain : s'.main = s.main) : s'.Fails u e := by
  cases h with
  | unseen hreported hc' herrors' hmain' =>
    exact .unseen hreported (hc.trans hc') (herrors.trans herrors') (hmain ▸ hmain')
  | seen hreported hc' herrors' hmain' =>
    exact .seen hreported (hc.trans hc') (herrors.trans herrors') (hmain ▸ hmain')

theorem Serializes.lost (h : Serializes s t) (hs : s.step .lost = some s') :
    ∃ t', t.step .lost = some t' ∧ Serializes s' t' := by
  cases hs
  refine ⟨{ t with conn := { t.conn with writerClosing := true } }, rfl, ?_⟩
  cases h with
  | idle h =>
    exact .idle ⟨by rw [h.conn]; rfl, h.index, h.call, h.main, h.uncancelled, h.returned, h.slots⟩
  | calling ts u h =>
    exact .calling ts u ⟨by rw [h.conn]; rfl, h.index, h.call, h.main, h.uncancelled, h.tasks,
      h.returned, h.live, h.slots⟩
  | failed ts u e hconn hcall htasks hts hu hfails =>
    exact .failed ts u e (by rw [hconn]; rfl) hcall htasks hts hu (hfails.congr rfl rfl rfl)

/-! ### The group sees a task end -/

theorem returned_set {ts : List Task} (hts : ∀ v ∈ ts, v.phase = .returned) {u' : Task}
    (hu' : u'.phase = .returned) : ∀ v ∈ ts.set i u', v.phase = .returned := by
  intro v hv
  rcases List.mem_or_eq_of_mem_set hv with hv | rfl
  · exact hts v hv
  · exact hu'

/-- The group sees the end of a task that has returned. -/
theorem Serializes.endSeen (h : Serializes s t) {u : Task} (hu : s.tasks[i]? = some u)
    (hphase : u.phase = .returned ∨ u.phase = .cancelled) :
    Serializes (s.setTask i { u with reported := true }) t := by
  have hobserved := Conn.setTask_observed hu { u with reported := true } rfl
  cases h with
  | idle h =>
    have hreturned := h.returned u (List.mem_of_getElem? hu)
    exact .idle ⟨h.conn.trans hobserved.symm, by simpa [Conn.setTask] using h.index, h.call, h.main,
      h.uncancelled, returned_set h.returned hreturned, h.slots⟩
  | calling ts v h =>
    have hget := hu
    rw [h.tasks] at hget
    rcases getElem?_last hget with ⟨hi, hmem⟩ | ⟨rfl, rfl⟩
    · have hset : (s.setTask i { u with reported := true }).tasks =
          ts.set i { u with reported := true } ++ [v] := by
        rw [Conn.setTask_tasks, h.tasks, List.set_append_left _ _ hi]
      exact .calling _ v ⟨h.conn, by simpa using h.index, h.call, h.main, h.uncancelled, hset,
        returned_set h.returned (h.returned u hmem), h.live, h.slots⟩
    · have hlive := h.live
      rcases hphase with hp | hp <;> rw [hp] at hlive <;> cases hlive
  | failed ts v e hconn hcall htasks hts hv hfails =>
    have hget := hu
    rw [htasks] at hget
    rcases getElem?_last hget with ⟨hi, hmem⟩ | ⟨rfl, rfl⟩
    · have hset : (s.setTask i { u with reported := true }).tasks =
          ts.set i { u with reported := true } ++ [v] := by
        rw [Conn.setTask_tasks, htasks, List.set_append_left _ _ hi]
      exact .failed _ v e (hconn.trans hobserved.symm) hcall hset
        (returned_set hts (hts u hmem)) hv (hfails.congr rfl rfl rfl)
    · rcases hphase with hp | hp <;> rw [hp] at hv <;> cases hv

theorem map_requestCancel_of_ended {ts : List Task} (h : ∀ u ∈ ts, u.phase.ended = true) :
    ts.map Task.requestCancel = ts := by
  calc ts.map Task.requestCancel = ts.map id :=
        List.map_congr_left fun u hu => by rw [Task.requestCancel, if_pos (h u hu)]; rfl
    _ = ts := List.map_id ts

theorem Serializes.raised (h : Serializes s t) {u : Task} {e : Exc} (hu : s.tasks[i]? = some u)
    (hphase : u.phase = .raised e) : ∃ ts, i = ts.length ∧ t.conn = s.observed ∧ t.call = none ∧
      s.tasks = ts ++ [u] ∧ (∀ v ∈ ts, v.phase = .returned) ∧ s.Fails u e := by
  have hnot : ∀ v : Task, v = u → v.phase ≠ .returned := by
    rintro v rfl hv
    rw [hphase] at hv
    cases hv
  cases h with
  | idle h => exact absurd (h.returned u (List.mem_of_getElem? hu)) (hnot u rfl)
  | calling ts v h =>
    rw [h.tasks] at hu
    rcases getElem?_last hu with ⟨-, hmem⟩ | ⟨rfl, rfl⟩
    · exact absurd (h.returned u hmem) (hnot u rfl)
    · have hlive := h.live
      rw [hphase] at hlive
      cases hlive
  | failed ts v e' hconn hcall htasks hts hv hfails =>
    rw [htasks] at hu
    rcases getElem?_last hu with ⟨-, hmem⟩ | ⟨rfl, rfl⟩
    · exact absurd (hts u hmem) (hnot u rfl)
    · rw [hphase, TaskPhase.raised.injEq] at hv
      subst hv
      exact ⟨ts, rfl, hconn, hcall, htasks, hts, hfails⟩

theorem Conn.Fails.unreported {u : Task} {e : Exc} (h : s.Fails u e) (hnew : u.reported = false) :
    s.mainCancelled = false ∧ s.errors = [] ∧ (s.main = .granted ∨ s.main = .reading) := by
  cases h with
  | unseen _ hc herrors hmain => exact ⟨hc, herrors, hmain⟩
  | seen hreported _ _ _ => exact Bool.noConfusion (hnew.symm.trans hreported)

theorem Conn.Fails.not_aborting {u : Task} {e : Exc} (h : s.Fails u e) (hco : Coherent s)
    (hnew : u.reported = false) : s.aborting = false := by
  obtain ⟨hc, -, hmain⟩ := h.unreported hnew
  exact hco.not_aborting (by rcases hmain with hm | hm <;> rw [hm] <;> rfl) hc

theorem Serializes.done (h : Serializes s t) (hco : Coherent s)
    (hs : s.step (.done i) = some s') : Serializes s' t := by
  cases Conn.step_move hs with
  | failureSeen i u e hu hphase hnew ha =>
    obtain ⟨ts, rfl, hconn, hcall, htasks, hts, hfails⟩ := h.raised hu hphase
    obtain ⟨hc, herrors, hmain⟩ := hfails.unreported hnew
    have htasks' : (s.tasks.set ts.length { u with reported := true }).map Task.requestCancel =
        ts ++ [{ u with reported := true }] := by
      rw [htasks, set_last]
      refine map_requestCancel_of_ended fun v hv => ?_
      rcases List.mem_append.mp hv with hv | hv
      · rw [hts v hv]
        rfl
      · rw [List.mem_singleton.mp hv]
        exact congrArg TaskPhase.ended hphase
    have hstanding := Conn.standing_failed (.inr hmain) htasks hts hphase
    refine .failed ts { u with reported := true } e ?_ hcall htasks' hts hphase
      (.seen rfl rfl (by simp [Conn.abort, herrors]) (hmain.imp_right .inl))
    have hstanding' : ({ { s.setTask ts.length { u with reported := true } with
        errors := s.errors ++ [e] }.abort with mainCancelled := true } : Conn).standing =
        .exiting (some e) := by
      refine Conn.standing_failed ?_ htasks' hts hphase
      exact .inr hmain
    rw [hconn, Conn.observed_eq hstanding, Conn.observed_eq hstanding']
    rfl
  | failureAdded i u e hu hphase hnew ha =>
    obtain ⟨ts, rfl, hconn, hcall, htasks, hts, hfails⟩ := h.raised hu hphase
    exact Bool.noConfusion (ha.symm.trans (hfails.not_aborting hco hnew))
  | endSeen i u hu hphase hnew => exact h.endSeen hu hphase

/-! ### Steps of the coroutine of the connection -/

theorem SameTasks.length {ts ts' : List Task} (h : SameTasks ts ts') : ts'.length = ts.length := by
  rcases h with rfl | rfl
  · rfl
  · exact List.length_map _

/-- The coroutine of the connection goes on without a NOTIFY. -/
structure Conn.GoesOn (s s' : Conn) : Prop where
  tasks : SameTasks s.tasks s'.tasks
  mainCancelled : s'.mainCancelled = s.mainCancelled
  slots : s'.slots = s.slots
  main : s'.main.held = 1 ∨ s'.main.left = true

/-- It runs the except* clauses. -/
structure Conn.RunsClauses (s s' : Conn) : Prop where
  tasks : s'.tasks = s.tasks
  mainCancelled : s'.mainCancelled = s.mainCancelled
  slots : s'.slots = s.slots
  errors : s'.errors = s.errors
  main : s'.main.reporting = true

theorem Conn.RunsClauses.finish (s : Conn) (group raised : List Exc) :
    s.RunsClauses (s.finish group raised) := by
  rcases s.finish_main group raised with ⟨-, he⟩ | he <;> rw [he]
  · exact ⟨rfl, rfl, rfl, rfl, rfl⟩
  · exact ⟨rfl, rfl, rfl, rfl, rfl⟩

theorem Conn.RunsClauses.reportsProtocol {group raised : List Exc}
    (h : s.ReportsProtocol group raised s') : s.RunsClauses s' := by
  cases h with
  | none _ => exact .finish s _ _
  | closed _ => exact .finish s _ _
  | refused e x _ _ _ => exact .finish s _ _
  | wrote e bytes _ _ _ => exact ⟨rfl, rfl, rfl, rfl, rfl⟩

theorem MainPhase.left_of_reporting {main : MainPhase} (h : main.reporting = true) :
    main.left = true := by
  cases main <;> simp [MainPhase.reporting, MainPhase.left] at h ⊢

theorem Conn.Move.runsClauses {io : Io} (hm : s.Move (.main io) s') (hleft : s.main.left = true) :
    s.RunsClauses s' := by
  have hnot : ∀ main : MainPhase, s.main = main → main.left = false → s.RunsClauses s' := by
    rintro main rfl h
    exact Bool.noConfusion (h.symm.trans hleft)
  cases hm with
  | cancelled io h _ =>
    rcases h with h | h
    · cases hp : s.main <;> simp [hp, MainPhase.left, MainPhase.awaitsTransport] at hleft h
    · exact hnot _ h rfl
  | slotReturned io h _ => exact hnot _ h rfl
  | broken text h _ =>
    cases hp : s.main <;> simp [hp, MainPhase.left, MainPhase.awaitsTransport] at hleft h
  | ends h _ => rcases h with h | h | h <;> exact hnot _ h rfl
  | noSemaphore h _ _ => exact hnot _ h rfl
  | serves h _ _ => exact hnot _ h rfl
  | reads io h _ => exact hnot _ h rfl
  | decodeFails e reader h _ _ => rcases h with h | h <;> exact hnot _ h rfl
  | helloFails s₁ frame size hello e h _ _ _ _ => exact hnot _ h rfl
  | greets s₁ s' frame size hello config h _ _ _ _ _ _ => exact hnot _ h rfl
  | incompatible s₁ s' frame size hello config code message h _ _ _ _ _ _ => exact hnot _ h rfl
  | notHello s₁ s' frame size code message h _ _ _ _ _ => exact hnot _ h rfl
  | dispatches s₁ frame size messages h _ _ _ => exact hnot _ h rfl
  | replies s₁ s' frame size code message h _ _ _ _ _ => exact hnot _ h rfl
  | reports s' io exc _ _ hr =>
    cases hr with
    | none s' _ hn => exact .reportsProtocol hn
    | closed s' _ hn => exact .reportsProtocol hn
    | refused e x s' _ _ _ hn => exact .reportsProtocol hn
    | wrote e bytes _ _ _ => exact ⟨rfl, rfl, rfl, rfl, rfl⟩
  | reportsNext s' io group _ hr => exact .reportsProtocol hr
  | reported io group raised _ => exact .finish s _ _
  | closes io _ => exact ⟨rfl, rfl, rfl, rfl, rfl⟩

theorem Conn.RunsClauses.goesOn (h : s.RunsClauses s') : s.GoesOn s' :=
  ⟨.inl h.tasks, h.mainCancelled, h.slots, .inr (MainPhase.left_of_reporting h.main)⟩

theorem Conn.GoesOn.leave {s₁ : Conn} (exc : Option Exc) (htasks : s₁.tasks = s.tasks)
    (hc : s₁.mainCancelled = s.mainCancelled) (hslots : s₁.slots = s.slots) :
    s.GoesOn (s₁.leave exc) where
  tasks := htasks ▸ s₁.leave_sameTasks exc
  mainCancelled := by simpa using hc
  slots := by simpa using hslots
  main := .inr rfl

theorem Conn.GoesOn.bodySends {s₁ : Conn} (htasks : s₁.tasks = s.tasks)
    (hc : s₁.mainCancelled = s.mainCancelled) (hslots : s₁.slots = s.slots) (frame : Frame) :
    s.GoesOn (s₁.bodySends (s₁.sendFrame none frame) .replying) := by
  have hs := s₁.bodySends_sends frame .replying
  generalize s₁.bodySends (s₁.sendFrame none frame) .replying = s' at hs ⊢
  cases hs with
  | refused e _ _ => exact .leave _ htasks hc hslots
  | closed _ => exact .leave _ htasks hc hslots
  | wrote bytes _ _ => exact ⟨.inl htasks, hc, hslots, .inl rfl⟩

theorem Conn.receive_same {s₁ : Conn} {result : Except Exc Frame} (h : s.receive = (result, s₁)) :
    s₁.tasks = s.tasks ∧ s₁.mainCancelled = s.mainCancelled ∧ s₁.slots = s.slots := by
  unfold Conn.receive at h
  split at h <;> (cases h; exact ⟨rfl, rfl, rfl⟩)

theorem Conn.readStep_goesOn (h : ∀ frame s₁ messages, s.receive = (.ok frame, s₁) →
    frame.payload ≠ .notify messages) : s.GoesOn s.readStep := by
  unfold Conn.readStep
  split
  · rename_i e s₁ hr
    obtain ⟨htasks, hc, hslots⟩ := Conn.receive_same hr
    exact .leave _ htasks hc hslots
  · rename_i frame s₁ hr
    obtain ⟨htasks, hc, hslots⟩ := Conn.receive_same hr
    split
    · exact .bodySends htasks hc hslots _
    · exact .bodySends htasks hc hslots _
    · rename_i messages hp
      exact absurd hp (h frame s₁ messages hr)
    · exact .bodySends htasks hc hslots _

/-! ### Between two calls and past the read loop -/

theorem Idle.failure (h : Idle s t) : ∀ u ∈ s.tasks, u.failure? = none := fun u hu =>
  Task.failure?_of_returned (h.returned u hu)

theorem Idle.errors (h : Idle s t) (hco : Coherent s) : s.errors = [] := hco.errors_eq_nil h.failure

theorem Idle.goesOn (h : Idle s t) {t' : Serial} (hg : s.GoesOn s') (hconn : t'.conn = s'.observed)
    (hindex : t'.index = t.index) (hcall : t'.call = none) : Serializes s' t' := by
  refine .idle ⟨hconn, ?_, hcall, hg.main, hg.mainCancelled.trans h.uncancelled, fun u hu => ?_,
    hg.slots.trans h.slots⟩
  · rw [hindex, h.index, hg.tasks.length]
  · obtain ⟨v, hv, hp, -, -⟩ := hg.tasks.mem hu
    exact hp.trans (h.returned v hv)

theorem Idle.leaves (h : Idle s t) (hco : Coherent s) (exc : Option Exc) {t' : Serial}
    (hconn : t'.conn = t.conn.leave exc) (hindex : t'.index = t.index) (hcall : t'.call = none) :
    Serializes (s.leave exc) t' := by
  refine h.goesOn (.leave _ rfl rfl rfl) ?_ hindex hcall
  rw [hconn, h.conn, Conn.observed, Conn.alone_leave, s.observed_leave (h.errors hco)]

theorem Idle.reading (h : Idle s t) (hmain : s.main = .reading) : t.conn = s.alone .reading := by
  rw [h.conn, Conn.observed_eq (Conn.standing_reading (.inr (.inr hmain)) h.failure)]

theorem Conn.step_granted {io : Io} (hmain : s.main = .granted) (hc : s.mainCancelled = false) :
    s.step (.main io) = some { s with main := .reading } := by
  simp only [Conn.step, Conn.mainStep, hmain, hc, Bool.false_eq_true, if_false]

theorem Conn.step_granted_cancelled {io : Io} (hmain : s.main = .granted)
    (hc : s.mainCancelled = true) :
    s.step (.main io) = some ({ s with slots := s.slots + 1 }.leave none) := by
  simp only [Conn.step, Conn.mainStep, hmain, hc, if_true]

theorem Idle.wakes (h : Idle s t) (hmain : s.main = .granted) :
    Serializes { s with main := .reading } t := by
  have hstanding := Conn.standing_reading (.inr (.inl hmain)) h.failure
  have hstanding' : ({ s with main := .reading } : Conn).standing = .reading := by
    refine Conn.standing_reading ?_ h.failure
    exact .inr (.inr rfl)
  refine .idle ⟨?_, h.index, h.call, .inl rfl, h.uncancelled, h.returned, h.slots⟩
  rw [h.conn, Conn.observed_eq hstanding, Conn.observed_eq hstanding']
  rfl

theorem Serial.mainStep_left {io : Io} (hcall : t.call = none)
    (hmain : t.conn.main.left = true) :
    t.step (.main io) = (t.conn.mainStep io).map fun conn => { t with conn := conn } := by
  simp only [Serial.step, Serial.mainStep, hcall]
  cases hm : t.conn.main <;> simp [hm, MainPhase.left] at hmain <;> cases io <;> rfl

theorem Conn.standing_left (hleft : s.main.left = true) : s.standing.left = true := by
  cases hm : s.main <;> simp [hm, MainPhase.left] at hleft <;>
    simp [Conn.standing, hm, MainPhase.left]

theorem Coherent.all_reported {io : Io} (hco : Coherent s) (hleft : s.main.left = true)
    (hs : s.step (.main io) = some s') : s.tasks.all Task.reported = true := by
  have hreporting : s.main.reporting = true → s.tasks.all Task.reported = true := fun h =>
    List.all_eq_true.mpr (hco.reporting_reported h)
  cases hm : s.main with
  | exiting exc =>
    simp only [Conn.step, Conn.mainStep, hm] at hs
    split at hs
    · rename_i hall
      exact hall
    · cases hs
  | _ =>
    rw [hm] at hreporting hleft
    first
    | exact hreporting rfl
    | exact Bool.noConfusion hleft

theorem Serial.conn_left (hconn : t.conn = s.observed) (hleft : s.main.left = true) :
    t.conn.main.left = true := by
  rw [hconn]
  exact Conn.standing_left hleft

/-- Past the read loop both run the same clauses. -/
theorem Serial.past {io : Io} (hco : Coherent s) (hconn : t.conn = s.observed)
    (hcall : t.call = none) (hleft : s.main.left = true)
    (hgroup : ∀ exc, s.main = .exiting exc → (s.group exc).head?.toList = s.group exc)
    (hs : s.step (.main io) = some s') :
    t.step (.main io) = some { t with conn := s'.observed } := by
  have hs' : s.mainStep io = some s' := hs
  rw [Serial.mainStep_left hcall (Serial.conn_left hconn hleft), hconn,
    Conn.observed_mainStep io hleft (hco.all_reported hleft hs) hgroup, hs']
  rfl

theorem Idle.group (h : Idle s t) (hco : Coherent s) :
    ∀ exc, s.main = .exiting exc → (s.group exc).head?.toList = s.group exc := by
  intro exc _
  cases exc <;> simp [Conn.group, h.errors hco]

theorem Idle.past {io : Io} (h : Idle s t) (hco : Coherent s) (hleft : s.main.left = true)
    (hs : s.step (.main io) = some s') :
    t.step (.main io) = some { t with conn := s'.observed } ∧
      Serializes s' { t with conn := s'.observed } := by
  exact ⟨Serial.past hco h.conn h.call hleft (h.group hco) hs,
    h.goesOn ((Conn.step_move hs).runsClauses hleft).goesOn rfl rfl h.call⟩

/-! ### The read loop -/

theorem Conn.readStep_notify {s₁ : Conn} {frame : Frame} {messages : Messages}
    (hr : s.receive = (.ok frame, s₁)) (hp : frame.payload = .notify messages) :
    s.readStep = { s₁ with tasks := s₁.tasks ++ [Task.new frame.metadata messages] }.acquire := by
  simp only [Conn.readStep, hr, hp]

theorem Serial.readStep_notify {conn : Conn} {frame : Frame} {messages : Messages}
    (hr : t.conn.receive = (.ok frame, conn)) (hp : frame.payload = .notify messages) :
    t.readStep = { t with conn := conn, call := some ⟨frame.metadata, .created⟩ } := by
  simp only [Serial.readStep, hr, hp]

theorem Serial.reply_eq (hcall : t.call = none) (code : DisconnectCode) (message : Str) :
    t.reply code message = { t with
      conn := t.conn.bodySends (t.conn.sendFrame none (disconnectFrame code message))
        .replying } := by
  unfold Serial.reply Conn.sendFrame
  cases encodeToSend t.conn.writerClosing t.conn.config.maxFrameSize
      (disconnectFrame code message) with
  | error e => simp [Conn.bodySends, Serial.stop, hcall]
  | ok sent =>
    cases sent with
    | none => simp [Conn.bodySends, Serial.stop, hcall]
    | some p => rfl

/-- Without a NOTIFY both loops do the same to the connection. -/
theorem Serial.readStep_quiet (hcall : t.call = none)
    (h : ∀ frame conn messages, t.conn.receive = (.ok frame, conn) →
      frame.payload ≠ .notify messages) :
    t.readStep = { t with conn := t.conn.readStep } := by
  unfold Serial.readStep Conn.readStep
  rcases hr : t.conn.receive with ⟨e | frame, conn⟩
  · simp only [Serial.stop, hcall]
  · have hcall₁ : ({ t with conn := conn } : Serial).call = none := hcall
    cases hp : frame.payload with
    | notify messages => exact absurd hp (h frame conn messages hr)
    | haproxyDisconnect p | agentDisconnect p =>
      simp only [hp, Serial.reply_eq hcall₁, Conn.sendDisconnect]
    | haproxyHello p | agentHello p | ack p =>
      simp only [hp, Serial.reply_eq hcall₁, Conn.sendDisconnectOnError, Conn.sendDisconnect]

/-- A NOTIFY makes a task that waits for its call, and the read loop waits for the slot. -/
theorem Idle.calls (h : Idle s t) (hmain : s.main = .reading) {s₁ : Conn} {frame : Frame}
    {messages : Messages} (hr : s.receive = (.ok frame, s₁))
    (hp : frame.payload = .notify messages) : Serializes s.readStep t.readStep := by
  obtain ⟨htasks, hc, hslots⟩ := Conn.receive_same hr
  have hr' : t.conn.receive = (.ok frame, s₁.alone .reading) := by
    rw [h.reading hmain, Conn.alone_receive, hr]
  rw [Conn.readStep_notify hr hp, Serial.readStep_notify hr' hp, Conn.acquire,
    if_neg (by simp [hslots, h.slots])]
  exact .calling s.tasks (Task.new frame.metadata messages) {
    conn := rfl
    index := h.index
    call := rfl
    main := rfl
    uncancelled := hc.trans h.uncancelled
    tasks := by rw [htasks]
    returned := h.returned
    live := rfl
    slots := hslots.trans h.slots }

theorem Idle.reads (h : Idle s t) (hco : Coherent s) (hmain : s.main = .reading) :
    Serializes s.readStep t.readStep := by
  by_cases hn : ∃ frame s₁ messages, s.receive = (.ok frame, s₁) ∧ frame.payload = .notify messages
  · obtain ⟨frame, s₁, messages, hr, hp⟩ := hn
    exact h.calls hmain hr hp
  · have hquiet : ∀ frame s₁ messages, s.receive = (.ok frame, s₁) →
        frame.payload ≠ .notify messages := fun frame s₁ messages hr hp =>
      hn ⟨frame, s₁, messages, hr, hp⟩
    have hquiet' : ∀ frame conn messages, t.conn.receive = (.ok frame, conn) →
        frame.payload ≠ .notify messages := by
      intro frame conn messages hr
      rw [h.reading hmain, Conn.alone_receive, Prod.mk.injEq] at hr
      exact hquiet frame s.receive.2 messages (Prod.ext hr.1 rfl)
    refine h.goesOn (Conn.readStep_goesOn hquiet) ?_ ?_ ?_
    · rw [Serial.readStep_quiet h.call hquiet', h.reading hmain]
      exact Conn.alone_readStep (h.errors hco) hquiet
    · rw [Serial.readStep_quiet h.call hquiet']
    · rw [Serial.readStep_quiet h.call hquiet']
      exact h.call

theorem Conn.step_body (io : Io) (hmain : s.main = .reading ∨ s.main = .replying)
    (hc : s.mainCancelled = false) : s.step (.main io) = some (match io with
      | .ok => if s.main = .reading then s.readStep else s.leave (some closeConnection)
      | .broken text => s.leave (some (connectionError text))) := by
  rcases hmain with hm | hm <;>
    simp only [Conn.step, Conn.mainStep, hm, Conn.bodyResumes, hc] <;> rfl

theorem Idle.reading_main {io : Io} (h : Idle s t) (hco : Coherent s) (hmain : s.main = .reading)
    (hs : s.step (.main io) = some s') :
    ∃ t', t.step (.main io) = some t' ∧ Serializes s' t' := by
  have hstep := Conn.step_body io (.inl hmain) h.uncancelled
  have hm : t.conn.main = .reading := by rw [h.reading hmain]; rfl
  cases io with
  | ok =>
    simp only [if_pos hmain] at hstep
    cases hs.symm.trans hstep
    refine ⟨t.readStep, ?_, h.reads hco hmain⟩
    simp only [Serial.step, Serial.mainStep, h.call, hm]
  | broken text =>
    cases hs.symm.trans hstep
    refine ⟨t.stop (some (connectionError text)), ?_, h.leaves hco _ rfl rfl rfl⟩
    simp only [Serial.step, Serial.mainStep, h.call, hm]

theorem Idle.replying_main {io : Io} (h : Idle s t) (hco : Coherent s) (hmain : s.main = .replying)
    (hs : s.step (.main io) = some s') :
    ∃ t', t.step (.main io) = some t' ∧ Serializes s' t' := by
  have hstep := Conn.step_body io (.inr hmain) h.uncancelled
  have hstanding : s.standing = .replying := by simp only [Conn.standing, hmain]
  have hconn : t.conn = s.alone .replying := by rw [h.conn, Conn.observed_eq hstanding]
  have hm : t.conn.main = .replying := by rw [hconn]; rfl
  cases io with
  | ok =>
    simp only [hmain, reduceCtorEq, if_false] at hstep
    cases hs.symm.trans hstep
    refine ⟨t.stop (some closeConnection), ?_, h.leaves hco _ rfl rfl rfl⟩
    simp only [Serial.step, Serial.mainStep, h.call, hm]
  | broken text =>
    cases hs.symm.trans hstep
    refine ⟨t.stop (some (connectionError text)), ?_, h.leaves hco _ rfl rfl rfl⟩
    simp only [Serial.step, Serial.mainStep, h.call, hm]

theorem Idle.main_step {io : Io} (h : Idle s t) (hco : Coherent s)
    (hs : s.step (.main io) = some s') :
    ∃ t', run Serial.step t (s.serialized (.main io)) = some t' ∧ Serializes s' t' := by
  by_cases hgranted : s.main = .granted
  · cases hs.symm.trans (Conn.step_granted hgranted h.uncancelled)
    exact ⟨t, by simp only [Conn.serialized, hgranted, true_or, if_true, run_nil], h.wakes hgranted⟩
  · have hseen : s.serialized (.main io) = [.main io] := by
      simp [Conn.serialized, hgranted, h.uncancelled]
    have hone : ∃ t', t.step (.main io) = some t' ∧ Serializes s' t' := by
      by_cases hreading : s.main = .reading
      · exact h.reading_main hco hreading hs
      · by_cases hreplying : s.main = .replying
        · exact h.replying_main hco hreplying hs
        · have hleft : s.main.left = true := by
            refine h.main.resolve_left fun hheld => ?_
            cases hm : s.main <;> simp [hm, MainPhase.held] at hheld hgranted hreading hreplying
          obtain ⟨hser, hto⟩ := h.past hco hleft hs
          exact ⟨_, hser, hto⟩
    obtain ⟨t', ht', hto⟩ := hone
    exact ⟨t', hseen ▸ run_cons_eq_some.mpr ⟨t', ht', rfl⟩, hto⟩

/-! ### Past a failure -/

theorem Conn.group_of_failure {e : Exc} (herrors : s.errors = [e])
    (hmain : s.main = .exiting none ∨ s.main.reporting = true) :
    ∀ exc, s.main = .exiting exc → (s.group exc).head?.toList = s.group exc := by
  intro exc he
  rcases hmain with hm | hm
  · rw [hm, MainPhase.exiting.injEq] at he
    subst he
    simp [Conn.group, herrors]
  · rw [he] at hm
    cases hm

/-- The failure of the last task ends the serial loop at once and the body of the group in a
step or two that the serial loop does not see. -/
theorem Conn.Fails.main_step {io : Io} {ts : List Task} {u : Task} {e : Exc} (h : s.Fails u e)
    (hco : Coherent s) (hconn : t.conn = s.observed) (hcall : t.call = none)
    (htasks : s.tasks = ts ++ [u]) (hts : ∀ v ∈ ts, v.phase = .returned) (hu : u.phase = .raised e)
    (hreads : s.main = .reading → u.reported = true) (hs : s.step (.main io) = some s') :
    ∃ t', run Serial.step t (s.serialized (.main io)) = some t' ∧ Serializes s' t' := by
  cases h with
  | unseen hreported hc herrors hmain =>
    have hgranted : s.main = .granted := hmain.resolve_right fun hm =>
      Bool.noConfusion (hreported.symm.trans (hreads hm))
    cases hs.symm.trans (Conn.step_granted hgranted hc)
    refine ⟨t, by simp only [Conn.serialized, hgranted, true_or, if_true, run_nil],
      .failed ts u e ?_ hcall htasks hts hu (.unseen hreported hc herrors (.inr rfl))⟩
    have hstanding := Conn.standing_failed (.inr (.inl hgranted)) htasks hts hu
    have hstanding' : ({ s with main := .reading } : Conn).standing = .exiting (some e) := by
      refine Conn.standing_failed ?_ htasks hts hu
      exact .inr (.inr rfl)
    rw [hconn, Conn.observed_eq hstanding, Conn.observed_eq hstanding']
    rfl
  | seen hreported hc herrors hmain =>
    have haborting := hco.cancelled_aborting hc
    -- the cancelled body leaves with the exception that the group has
    have hleaves : ∀ slots : ℕ, s.main = .granted ∨ s.main = .reading →
        Serializes ({ s with slots := slots }.leave none) t := by
      intro slots hm
      have hleave : ({ s with slots := slots } : Conn).leave none =
          { s with slots := slots, main := .exiting none } := by
        simp only [Conn.leave, haborting, if_true]
      have hstanding := Conn.standing_failed (.inr hm) htasks hts hu
      have hstanding' : ({ s with slots := slots, main := .exiting none } : Conn).standing =
          .exiting (some e) := by
        simp [Conn.standing, Conn.group, herrors]
      rw [hleave]
      refine .failed ts u e ?_ hcall htasks hts hu
        (.seen hreported hc herrors (.inr (.inr (.inl rfl))))
      rw [hconn, Conn.observed_eq hstanding, Conn.observed_eq hstanding']
      rfl
    -- past it both run the same clauses
    have hpast : s.main = .exiting none ∨ s.main.reporting = true →
        ∃ t', run Serial.step t (s.serialized (.main io)) = some t' ∧ Serializes s' t' := by
      intro hm
      have hleft : s.main.left = true := by
        rcases hm with hm | hm
        · rw [hm]
          rfl
        · exact MainPhase.left_of_reporting hm
      have hser := Serial.past hco hconn hcall hleft (Conn.group_of_failure herrors hm) hs
      have hseen : s.serialized (.main io) = [.main io] := by
        have hgranted : s.main ≠ .granted := fun hm => by
          rw [hm] at hleft
          cases hleft
        simp [Conn.serialized, hgranted, hleft]
      have hruns := (Conn.step_move hs).runsClauses hleft
      exact ⟨{ t with conn := s'.observed }, hseen ▸ run_cons_eq_some.mpr ⟨_, hser, rfl⟩,
        .failed ts u e rfl hcall (hruns.tasks.trans htasks) hts hu
          (.seen hreported (hruns.mainCancelled.trans hc) (hruns.errors.trans herrors)
            (.inr (.inr (.inr hruns.main))))⟩
    rcases hmain with hm | hm | hm | hm
    · cases hs.symm.trans (Conn.step_granted_cancelled hm hc)
      exact ⟨t, by simp only [Conn.serialized, hm, true_or, if_true, run_nil],
        hleaves (s.slots + 1) (.inl hm)⟩
    · have hstep : s.step (.main io) = some (s.leave none) := by
        simp only [Conn.step, Conn.mainStep, hm, Conn.bodyResumes, hc, if_true]
      cases hs.symm.trans hstep
      exact ⟨t, by simp [Conn.serialized, hm, hc, MainPhase.left], hleaves s.slots (.inr hm)⟩
    · exact hpast (.inl hm)
    · exact hpast (.inr hm)

/-! ### Any step -/

/-- Every step of the connection is one of the serial loop, or one that it does not see. -/
theorem Serializes.step {ev : Event} (h : Serializes s t) (hco : Coherent s)
    (hc : s.SeesFailures ev) (hs : s.step ev = some s') :
    ∃ t', run Serial.step t (s.serialized ev) = some t' ∧ Serializes s' t' := by
  have hone : ∀ d, (∃ t', t.step d = some t' ∧ Serializes s' t') →
      ∃ t', run Serial.step t [d] = some t' ∧ Serializes s' t' := by
    rintro d ⟨t', ht', hto⟩
    exact ⟨t', run_cons_eq_some.mpr ⟨t', ht', rfl⟩, hto⟩
  cases ev with
  | main io =>
    cases h with
    | idle h => exact h.main_step hco hs
    | calling ts u h =>
      simp only [Conn.step, Conn.mainStep, h.main, h.uncancelled, Bool.false_eq_true, if_false] at hs
      cases hs
    | failed ts u e hconn hcall htasks hts hu hfails =>
      refine hfails.main_step hco hconn hcall htasks hts hu (fun hm => ?_) hs
      refine hc.reads io rfl hm u (by rw [htasks]; simp) ?_
      rw [Task.failure?_of_raised hu]
      rfl
  | start i => exact hone _ (h.start hco hs)
  | handler i outcome =>
    exact hone _ (h.handler hco (fun ho => hc.answers i (by rw [ho])) hs)
  | drained i io => exact hone _ (h.drained hco hs)
  | done i => exact ⟨t, rfl, h.done hco hs⟩
  | lost => exact hone _ (h.lost hs)

end Steps

end SpoeForge
