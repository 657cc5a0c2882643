import SpoeForge.Server.SerialSteps

/-!
# Serial refinement

The connection without pipelining and the serial loop simulate each other: a step of the
serial loop is answered by the step of the connection and the steps that bring it to rest.
Both runs have one log, in which the ACKs follow the order of the NOTIFYs.
-/

namespace SpoeForge

open Fallible Runs

/-! ### Coming to rest -/

/-- No step is enabled that the serial loop does not see. -/
def Conn.AtRest (s : Conn) : Prop := ∀ ev s', s.serialized ev = [] → s.step ev ≠ some s'

/-- The tasks whose end the group has not seen. -/
def Conn.unseen (s : Conn) : ℕ := s.tasks.countP fun u => u.phase.ended && !u.reported

def MainPhase.unseen : MainPhase → ℕ
  | .granted => 2
  | .reading => 1
  | _ => 0

section Rest

variable {s s' : Conn} {t : Serial}

theorem map_requestCancel_unseen (ts : List Task) :
    (ts.map Task.requestCancel).countP (fun u => u.phase.ended && !u.reported) =
      ts.countP fun u => u.phase.ended && !u.reported := by
  rw [List.countP_map]
  congr 1
  funext u
  simp only [Function.comp_apply, u.requestCancel_phase, u.requestCancel_reported]

theorem Conn.leave_unseen (s : Conn) (exc : Option Exc) : (s.leave exc).unseen = s.unseen := by
  rcases s.leave_tasks exc with h | h
  · rw [Conn.unseen, h, Conn.unseen]
  · rw [Conn.unseen, h, map_requestCancel_unseen, Conn.unseen]

theorem Conn.setTask_unseen {i : ℕ} {u : Task} (hu : s.tasks[i]? = some u)
    (hended : u.phase.ended = true) (hnew : u.reported = false) :
    (s.setTask i { u with reported := true }).unseen + 1 = s.unseen := by
  have h := countP_set_add (fun u : Task => u.phase.ended && !u.reported) hu
    { u with reported := true }
  simpa [hended, hnew, Conn.unseen, Conn.setTask] using h

theorem Conn.done_unseen {i : ℕ} (hs : s.step (.done i) = some s') :
    s'.unseen + 1 = s.unseen ∧ s'.main = s.main := by
  cases Conn.step_move hs with
  | failureSeen i u e hu hphase hnew ha =>
    have h := Conn.setTask_unseen hu (by rw [hphase]; rfl) hnew
    refine ⟨?_, rfl⟩
    rw [← h]
    simp only [Conn.unseen, Conn.abort, map_requestCancel_unseen]
  | failureAdded i u e hu hphase hnew ha =>
    exact ⟨Conn.setTask_unseen hu (by rw [hphase]; rfl) hnew, rfl⟩
  | endSeen i u hu hphase hnew =>
    exact ⟨Conn.setTask_unseen hu (by rcases hphase with hp | hp <;> rw [hp] <;> rfl) hnew, rfl⟩

theorem Serializes.unseen_main (h : Serializes s t) {io : Io}
    (hseen : s.serialized (.main io) = []) (hs : s.step (.main io) = some s') :
    s.SeesFailures (.main io) ∧ s'.unseen = s.unseen ∧ s'.main.unseen < s.main.unseen := by
  have hwhen : s.main = .granted ∨ (s.mainCancelled = true ∧ s.main.left = false) := by
    by_contra hn
    rw [Conn.serialized, if_neg hn] at hseen
    cases hseen
  have hgranted : s.main = .granted →
      s'.unseen = s.unseen ∧ s'.main.unseen < s.main.unseen := by
    intro hm
    cases hc : s.mainCancelled with
    | true =>
      cases hs.symm.trans (Conn.step_granted_cancelled hm hc)
      exact ⟨Conn.leave_unseen _ _, by simp [hm, MainPhase.unseen]⟩
    | false =>
      cases hs.symm.trans (Conn.step_granted hm hc)
      exact ⟨rfl, by simp [hm, MainPhase.unseen]⟩
  have hseesGranted : s.main = .granted → s.SeesFailures (.main io) := fun hm =>
    ⟨fun i hi => (by cases hi), fun io _ hr => (by rw [hm] at hr; cases hr)⟩
  rcases hwhen with hm | ⟨hc, hleft⟩
  · exact ⟨hseesGranted hm, hgranted hm⟩
  · cases h with
    | idle h => exact Bool.noConfusion (h.uncancelled.symm.trans hc)
    | calling ts u h => exact Bool.noConfusion (h.uncancelled.symm.trans hc)
    | failed ts u e hconn hcall htasks hts hu hfails =>
      cases hfails with
      | unseen _ hc' _ _ => exact Bool.noConfusion (hc'.symm.trans hc)
      | seen hreported _ _ hmain =>
        rcases hmain with hm | hm | hm | hm
        · exact ⟨hseesGranted hm, hgranted hm⟩
        · have hsees : s.SeesFailures (.main io) := by
            refine ⟨fun i hi => (by cases hi), fun io _ _ v hv hfail => ?_⟩
            rw [htasks] at hv
            rcases List.mem_append.mp hv with hv | hv
            · rw [Task.failure?_of_returned (hts v hv)] at hfail
              cases hfail
            · rw [List.mem_singleton.mp hv, hreported]
          simp only [Conn.step, Conn.mainStep, hm, Conn.bodyResumes, hc, if_true] at hs
          cases hs
          exact ⟨hsees, Conn.leave_unseen _ _, by simp [hm, MainPhase.unseen]⟩
        · rw [hm] at hleft
          cases hleft
        · exact Bool.noConfusion (hleft.symm.trans (MainPhase.left_of_reporting hm))

theorem Serializes.rests (h : Serializes s t) (hco : Coherent s) :
    ∃ events s', Along Conn.step Conn.SeesFailures s events ∧ run Conn.step s events = some s' ∧
      Serializes s' t ∧ Coherent s' ∧ s'.AtRest := by
  induction hn : 3 * s.unseen + s.main.unseen using Nat.strong_induction_on generalizing s with
  | _ n ih =>
    subst hn
    by_cases hrest : s.AtRest
    · exact ⟨[], s, trivial, rfl, h, hco, hrest⟩
    · simp only [Conn.AtRest, not_forall, not_not] at hrest
      obtain ⟨ev, m, hseen, hs⟩ := hrest
      have hnext : s.SeesFailures ev ∧
          3 * m.unseen + m.main.unseen < 3 * s.unseen + s.main.unseen := by
        cases ev with
        | main io =>
          obtain ⟨hsees, htasks, hmain⟩ := h.unseen_main hseen hs
          exact ⟨hsees, by omega⟩
        | done i =>
          obtain ⟨htasks, hmain⟩ := Conn.done_unseen hs
          exact ⟨⟨fun i hi => (by cases hi), fun io hio => (by cases hio)⟩, by rw [hmain]; omega⟩
        | _ => cases hseen
      obtain ⟨t', ht', hto⟩ := h.step hco hnext.1 hs
      rw [hseen, run_nil, Option.some.injEq] at ht'
      subst ht'
      obtain ⟨events, s', hal, hr, hto', hco', hrest'⟩ :=
        ih _ hnext.2 hto (hco.move (Conn.step_move hs)) rfl
      exact ⟨ev :: events, s', .cons hnext.1 hs hal, run_cons_eq_some.mpr ⟨m, hs, hr⟩, hto', hco',
        hrest'⟩

/-! ### The connection answers the serial loop -/

theorem Conn.AtRest.reported (h : s.AtRest) {u : Task} (hu : u ∈ s.tasks)
    (hended : u.phase.ended = true) : u.reported = true := by
  by_contra hn
  obtain ⟨i, hi, rfl⟩ := List.mem_iff_getElem.mp hu
  refine h (.done i) (s.doneStep i s.tasks[i]) rfl ?_
  simp only [Conn.step, List.getElem?_eq_getElem hi]
  exact if_pos ⟨hended, by simpa using hn⟩

theorem Conn.AtRest.not_granted (h : s.AtRest) : s.main ≠ .granted := by
  intro hm
  have hseen : s.serialized (.main .ok) = [] := by simp [Conn.serialized, hm]
  cases hc : s.mainCancelled with
  | true => exact h (.main .ok) _ hseen (Conn.step_granted_cancelled hm hc)
  | false => exact h (.main .ok) _ hseen (Conn.step_granted hm hc)

theorem Serial.past_enabled {io : Io} {t' : Serial} (hconn : t.conn = s.observed)
    (hcall : t.call = none) (hleft : s.main.left = true)
    (hgroup : ∀ exc, s.main = .exiting exc → (s.group exc).head?.toList = s.group exc)
    (hall : ∀ u ∈ s.tasks, u.reported = true) (ht : t.step (.main io) = some t') :
    ∃ m, s.step (.main io) = some m := by
  rw [Serial.mainStep_left hcall (Serial.conn_left hconn hleft), hconn,
    Conn.observed_mainStep io hleft (List.all_eq_true.mpr hall) hgroup] at ht
  cases hm : s.mainStep io with
  | none =>
    rw [hm] at ht
    cases ht
  | some m => exact ⟨m, hm⟩

theorem Idle.answers {io : Io} {t' : Serial} (h : Idle s t) (hco : Coherent s) (hrest : s.AtRest)
    (ht : t.step (.main io) = some t') :
    s.serialized (.main io) = [.main io] ∧ s.SeesFailures (.main io) ∧
      ∃ m, s.step (.main io) = some m := by
  refine ⟨by simp [Conn.serialized, hrest.not_granted, h.uncancelled],
    ⟨fun i hi => (by cases hi), fun _ _ _ u hu hfail => ?_⟩, ?_⟩
  · rw [h.failure u hu] at hfail
    cases hfail
  · by_cases hbody : s.main = .reading ∨ s.main = .replying
    · exact ⟨_, Conn.step_body io hbody h.uncancelled⟩
    · have hleft : s.main.left = true := by
        refine h.main.resolve_left fun hheld => ?_
        have hgranted := hrest.not_granted
        cases hm : s.main <;> simp [hm, MainPhase.held] at hheld hgranted hbody
      exact Serial.past_enabled h.conn h.call hleft (h.group hco)
        (fun u hu => hrest.reported hu (by rw [h.returned u hu]; rfl)) ht

theorem Conn.Fails.answers {io : Io} {t' : Serial} {ts : List Task} {u : Task} {e : Exc}
    (h : s.Fails u e) (hrest : s.AtRest) (hconn : t.conn = s.observed) (hcall : t.call = none)
    (htasks : s.tasks = ts ++ [u]) (hts : ∀ v ∈ ts, v.phase = .returned) (hu : u.phase = .raised e)
    (ht : t.step (.main io) = some t') :
    s.serialized (.main io) = [.main io] ∧ s.SeesFailures (.main io) ∧
      ∃ m, s.step (.main io) = some m := by
  have hall : ∀ v ∈ s.tasks, v.reported = true := by
    intro v hv
    refine hrest.reported hv ?_
    rw [htasks] at hv
    rcases List.mem_append.mp hv with hv | hv
    · rw [hts v hv]
      rfl
    · rw [List.mem_singleton.mp hv, hu]
      rfl
  cases h with
  | unseen hreported _ _ _ =>
    have hr := hall u (by rw [htasks]; simp)
    exact Bool.noConfusion (hreported.symm.trans hr)
  | seen hreported hc herrors hmain =>
    have hmain : s.main = .exiting none ∨ s.main.reporting = true := by
      rcases hmain with hm | hm | hm | hm
      · exact absurd hm hrest.not_granted
      · refine absurd ?_ (hrest (.main .ok) (s.leave none)
          (by simp [Conn.serialized, hm, hc, MainPhase.left]))
        simp only [Conn.step, Conn.mainStep, hm, Conn.bodyResumes, hc, if_true]
      · exact .inl hm
      · exact .inr hm
    have hleft : s.main.left = true := by
      rcases hmain with hm | hm
      · rw [hm]
        rfl
      · exact MainPhase.left_of_reporting hm
    refine ⟨by simp [Conn.serialized, hrest.not_granted, hleft],
      ⟨fun i hi => (by cases hi), fun _ _ _ v hv _ => hall v hv⟩, ?_⟩
    exact Serial.past_enabled hconn hcall hleft (Conn.group_of_failure herrors hmain) hall ht

theorem Serializes.of_call (h : Serializes s t) {call : Call} (hcall : t.call = some call) :
    ∃ ts u, Calling s t ts u ∧ call = ⟨u.metadata, u.phase⟩ := by
  cases h with
  | idle h => cases h.call.symm.trans hcall
  | calling ts u h => exact ⟨ts, u, h, Option.some.inj (hcall.symm.trans h.call)⟩
  | failed ts u e _ hnone _ _ _ _ => cases hnone.symm.trans hcall

theorem Serial.call_of_step {d : SerialEvent} {t' : Serial} (hmain : ∀ io, d ≠ .main io)
    (hlost : d ≠ .lost) (ht : t.step d = some t') : ∃ md, (d = .call ∧ t.call = some ⟨md, .created⟩) ∨
      (∃ outcome, d = .handler outcome ∧ t.call = some ⟨md, .running⟩) ∨
      ∃ io, d = .drained io ∧ t.call = some ⟨md, .draining⟩ := by
  cases d with
  | main io => exact absurd rfl (hmain io)
  | lost => exact absurd rfl hlost
  | call =>
    simp only [Serial.step] at ht
    split at ht
    · rename_i md hcall
      exact ⟨md, .inl ⟨rfl, hcall⟩⟩
    · cases ht
  | handler outcome =>
    simp only [Serial.step] at ht
    split at ht
    · rename_i md hcall
      exact ⟨md, .inr (.inl ⟨outcome, rfl, hcall⟩)⟩
    · cases ht
  | drained io =>
    simp only [Serial.step] at ht
    split at ht
    · rename_i md hcall
      exact ⟨md, .inr (.inr ⟨io, rfl, hcall⟩)⟩
    · cases ht

theorem Serializes.answers {d : SerialEvent} {t' : Serial} (h : Serializes s t) (hco : Coherent s)
    (hrest : s.AtRest) (hd : d.Answers) (ht : t.step d = some t') :
    ∃ ev, s.serialized ev = [d] ∧ s.SeesFailures ev ∧ ∃ m, s.step ev = some m := by
  have hsees : ∀ ev, (∀ io, ev ≠ .main io) → (∀ i, ev ≠ .handler i .cancelled) →
      s.SeesFailures ev := fun ev hmain hhandler =>
    ⟨hhandler, fun io hev => absurd hev (hmain io)⟩
  by_cases hmain : ∃ io, d = .main io
  · obtain ⟨io, rfl⟩ := hmain
    cases h with
    | idle h => exact ⟨.main io, h.answers hco hrest ht⟩
    | calling ts u h =>
      simp only [Serial.step, Serial.mainStep, h.call] at ht
      cases ht
    | failed ts u e hconn hcall htasks hts hu hfails =>
      exact ⟨.main io, hfails.answers hrest hconn hcall htasks hts hu ht⟩
  · by_cases hlost : d = .lost
    · subst hlost
      exact ⟨.lost, rfl, hsees _ (by simp) (by simp), _, rfl⟩
    · obtain ⟨md, ⟨rfl, hcall⟩ | ⟨outcome, rfl, hcall⟩ | ⟨io, rfl, hcall⟩⟩ :=
        Serial.call_of_step (fun io hio => hmain ⟨io, hio⟩) hlost ht
      · obtain ⟨ts, u, hc, hp⟩ := h.of_call hcall
        rw [Call.mk.injEq] at hp
        refine ⟨.start ts.length, rfl, hsees _ (by simp) (by simp), s.startTask ts.length u, ?_⟩
        simp only [Conn.step, hc.task, if_pos hp.2.symm]
      · obtain ⟨ts, u, hc, hp⟩ := h.of_call hcall
        rw [Call.mk.injEq] at hp
        refine ⟨.handler ts.length outcome, rfl, hsees _ (by simp) (fun i hi => ?_),
          s.handlerStep ts.length u outcome, ?_⟩
        · rw [Event.handler.injEq] at hi
          exact hd hi.2
        · simp only [Conn.step, hc.task, if_pos hp.2.symm]
      · obtain ⟨ts, u, hc, hp⟩ := h.of_call hcall
        rw [Call.mk.injEq] at hp
        refine ⟨.drained ts.length io, rfl, hsees _ (by simp) (by simp),
          s.drainStep ts.length u io, ?_⟩
        simp only [Conn.step, hc.task, if_pos hp.2.symm]

end Rest

/-! ### Both directions -/

theorem Serializes.forward : Simulates Conn.step Conn.SeesFailures Serial.step
    (fun _ d => d.Answers) fun s t => Serializes s t ∧ Coherent s := by
  rintro s ev s' t ⟨h, hco⟩ hc hs
  obtain ⟨t', ht', hto⟩ := h.step hco hc hs
  have hone : ∀ d : SerialEvent, d.Answers →
      Along Serial.step (fun _ d => d.Answers) t [d] := fun d hd => ⟨hd, fun _ _ => trivial⟩
  refine ⟨s.serialized ev, t', ?_, ht', hto, hco.move (Conn.step_move hs)⟩
  cases ev with
  | main io =>
    simp only [Conn.serialized]
    split
    · trivial
    · exact hone _ trivial
  | start i => exact hone _ trivial
  | handler i outcome => exact hone _ fun ho => hc.answers i (by rw [ho])
  | drained i io => exact hone _ trivial
  | done i => trivial
  | lost => exact hone _ trivial

/-- The connection follows the serial loop, coming to rest after each of its steps. -/
theorem Serializes.backward : Simulates Serial.step (fun _ d => d.Answers) Conn.step
    Conn.SeesFailures fun t s => Serializes s t ∧ Coherent s ∧ s.AtRest := by
  rintro t d t' s ⟨h, hco, hrest⟩ hd ht
  obtain ⟨ev, hseen, hc, m, hm⟩ := h.answers hco hrest hd ht
  obtain ⟨t'', ht'', hto⟩ := h.step hco hc hm
  have heq : t'' = t' := by
    rw [hseen] at ht''
    obtain ⟨x, hx, hr⟩ := run_cons_eq_some.mp ht''
    cases hr
    exact Option.some.inj (hx.symm.trans ht)
  subst heq
  obtain ⟨events, s', hal, hr, hto', hco', hrest'⟩ := hto.rests (hco.move (Conn.step_move hm))
  exact ⟨ev :: events, s', .cons hc hm hal, run_cons_eq_some.mpr ⟨m, hm, hr⟩, hto', hco', hrest'⟩

theorem Conn.serve_starts {s₀ s : Conn} (hmain : s₀.main = .greeting false)
    (hcapabilities : PIPELINING ∉ s₀.config.capabilities) (hs : s₀.step (.main .ok) = some s)
    (hreading : s.main = .reading) :
    s.tasks = s₀.tasks ∧ s.mainCancelled = false ∧ s.slots = 0 := by
  have hlimit : s₀.config.limit = 1 := by rw [ServerConfiguration.limit, if_neg hcapabilities]
  simp only [Conn.step, Conn.mainStep, hmain, Conn.bodyResumes, Bool.false_eq_true, if_false,
    Option.some.injEq] at hs
  split at hs
  · subst hs
    cases hreading
  · rename_i hc
    rw [Conn.serve, hlimit, if_neg (by decide), Conn.acquire,
      if_pos (show 0 < Int.toNat 1 by decide)] at hs
    subst hs
    exact ⟨rfl, by simpa using hc, rfl⟩

/-- The connection at rest and the serial loop are in step there. -/
theorem Serializes.start_loop {s₀ s : Conn} (hco : Coherent s₀) (hmain : s₀.main = .greeting false)
    (hcapabilities : PIPELINING ∉ s₀.config.capabilities) (hs : s₀.step (.main .ok) = some s)
    (hreading : s.main = .reading) : s.tasks = [] ∧ Serializes s (.start s) ∧ s.AtRest := by
  obtain ⟨htasks, hc, hslots⟩ := Conn.serve_starts hmain hcapabilities hs hreading
  have hnil : s.tasks = [] := htasks.trans (hco.idle (by rw [hmain]; rfl))
  refine ⟨hnil, .idle ⟨rfl, by rw [hnil]; rfl, rfl, .inl (by rw [hreading]; rfl), hc, ?_, hslots⟩,
    fun ev s' hseen hs => ?_⟩
  · rw [hnil]
    simp
  · cases ev with
    | main io => simp [Conn.serialized, hreading, hc] at hseen
    | done i => simp [Conn.step, hnil] at hs
    | _ => cases hseen

/-! ### The order of the ACKs -/

/-- The tasks whose ACKs the log has, in order. -/
def ackTasksIn (log : List Entry) : List ℕ := (log.filterMap Entry.acked?).map Prod.fst

def Conn.ackTasks (s : Conn) : List ℕ := ackTasksIn s.log

theorem ackTasksIn_append (l l' : List Entry) :
    ackTasksIn (l ++ l') = ackTasksIn l ++ ackTasksIn l' := by
  simp [ackTasksIn]

theorem Conn.ackTasks_append {s s' : Conn} {l : List Entry} (hlog : s'.log = s.log ++ l)
    (hl : ackTasksIn l = []) : s'.ackTasks = s.ackTasks := by
  rw [Conn.ackTasks, hlog, ackTasksIn_append, hl, List.append_nil, Conn.ackTasks]

theorem Conn.Sends.ackTasks {s s' : Conn} {frame : Frame} {draining : MainPhase}
    (h : s.Sends frame draining s') : s'.ackTasks = s.ackTasks := by
  cases h with
  | refused e _ _ => simp only [Conn.ackTasks, Conn.leave_log]
  | closed _ => simp only [Conn.ackTasks, Conn.leave_log]
  | wrote bytes _ _ => exact Conn.ackTasks_append (l := [.wrote none frame bytes]) rfl rfl

theorem Conn.finish_ackTasks (s : Conn) (group raised : List Exc) :
    (s.finish group raised).ackTasks = s.ackTasks := by
  rcases s.finish_main group raised with ⟨-, he⟩ | he <;> rw [he] <;> rfl

theorem Conn.ReportsProtocol.ackTasks {s s' : Conn} {group raised : List Exc}
    (h : s.ReportsProtocol group raised s') : s'.ackTasks = s.ackTasks := by
  cases h with
  | none _ => exact s.finish_ackTasks _ _
  | closed _ => exact s.finish_ackTasks _ _
  | refused e x _ _ _ => exact s.finish_ackTasks _ _
  | wrote e bytes _ _ _ => exact Conn.ackTasks_append (l := [.wrote .none _ bytes]) rfl rfl

theorem Conn.Takes.ackTasks {s s₁ : Conn} {frame : Frame} {size : ℕ} (h : s.Takes frame size s₁) :
    s₁.ackTasks = s.ackTasks := by
  obtain ⟨reader, body, -, -, -, -, rfl⟩ := h
  exact Conn.ackTasks_append (l := [.received frame size]) rfl rfl

/-- Only a task that runs, and with an open writer, acknowledges. -/
theorem Conn.Move.ackTasks {s s' : Conn} {ev : Event} (hm : s.Move ev s') :
    s'.ackTasks = s.ackTasks ∨ ∃ i u, s.tasks[i]? = some u ∧ u.phase = .running ∧
      s.writerClosing = false ∧ s'.ackTasks = s.ackTasks ++ [i] := by
  have hsame : ∀ {s' : Conn}, s'.log = s.log → s'.ackTasks = s.ackTasks := fun hlog => by
    rw [Conn.ackTasks, hlog, Conn.ackTasks]
  have hended : ∀ (i : ℕ) (u : Task) (phase : TaskPhase) (l : List Entry), ackTasksIn l = [] →
      ({ s with log := s.log ++ l }.endTask i u phase).ackTasks = s.ackTasks := by
    intro i u phase l hl
    refine Conn.ackTasks_append (l := l ++ [.released i]) (by simp [Conn.endTask, Conn.setTask]) ?_
    rw [ackTasksIn_append, hl]
    rfl
  cases hm with
  | cancelled io _ _ => exact .inl (hsame (by simp))
  | slotReturned io _ _ => exact .inl (hsame (by simp))
  | broken text _ _ => exact .inl (hsame (by simp))
  | ends _ _ => exact .inl (hsame (by simp))
  | noSemaphore _ _ _ => exact .inl (hsame (by simp))
  | serves _ _ _ => exact .inl (hsame (by simp))
  | reads io _ _ => exact .inl rfl
  | decodeFails e reader _ _ _ => exact .inl (hsame (by simp))
  | helloFails s₁ frame size hello e _ _ ht _ _ =>
    exact .inl (by rw [Conn.ackTasks, Conn.leave_log]; exact ht.ackTasks)
  | greets s₁ s' frame size hello config _ _ ht _ _ _ hs => exact .inl (hs.ackTasks.trans ht.ackTasks)
  | incompatible s₁ s' frame size hello config code message _ _ ht _ _ _ hs =>
    exact .inl (hs.ackTasks.trans ht.ackTasks)
  | notHello s₁ s' frame size code message _ _ ht _ _ hs =>
    exact .inl (hs.ackTasks.trans ht.ackTasks)
  | dispatches s₁ frame size messages _ _ ht _ =>
    exact .inl (by rw [Conn.ackTasks, Conn.acquire_log]; exact ht.ackTasks)
  | replies s₁ s' frame size code message _ _ ht _ _ hs =>
    exact .inl (hs.ackTasks.trans ht.ackTasks)
  | reports s' io exc _ _ hr =>
    cases hr with
    | none s' _ hn => exact .inl hn.ackTasks
    | closed s' _ hn => exact .inl hn.ackTasks
    | refused e x s' _ _ _ hn => exact .inl hn.ackTasks
    | wrote e bytes _ _ _ => exact .inl (Conn.ackTasks_append (l := [.wrote .none _ bytes]) rfl rfl)
  | reportsNext s' io group _ hr => exact .inl hr.ackTasks
  | reported io group raised _ => exact .inl (s.finish_ackTasks _ _)
  | closes io _ => exact .inl rfl
  | neverStarts i u _ _ _ => exact .inl rfl
  | starts i u _ _ _ => exact .inl (Conn.ackTasks_append (l := [.invoked i]) rfl rfl)
  | goesOn i u _ _ => exact .inl rfl
  | ackFails i u actions e _ _ _ => exact .inl (hended i u _ [.answered i actions] rfl)
  | ackSkipped i u actions _ _ _ => exact .inl (hended i u _ [.answered i actions] rfl)
  | acks i u actions frame bytes hu hphase hack =>
    have hopen : s.writerClosing = false := by
      cases hc : s.writerClosing with
      | false => rfl
      | true =>
        rw [hc] at hack
        cases hack
    refine .inr ⟨i, u, hu, hphase, hopen, ?_⟩
    have hlog : (((s.record (.answered i actions)).setTask i
        { u with phase := .draining, cancelRequested := false }).record
          (.wrote (some i) frame bytes)).log =
        s.log ++ [.answered i actions, .wrote (some i) frame bytes] := by
      simp [Conn.record, Conn.setTask]
    rw [Conn.ackTasks, hlog, ackTasksIn_append]
    rfl
  | handlerRaises i u e _ _ => exact .inl (by simpa using hended i u (.raised e) [] rfl)
  | handlerCancelled i u _ _ => exact .inl (by simpa using hended i u .cancelled [] rfl)
  | drainCancelled i u io _ _ _ => exact .inl (by simpa using hended i u .cancelled [] rfl)
  | drained i u _ _ _ => exact .inl (by simpa using hended i u .returned [] rfl)
  | drainBroken i u text _ _ _ => exact .inl (by simpa using hended i u _ [] rfl)
  | failureSeen i u e _ _ _ _ => exact .inl rfl
  | failureAdded i u e _ _ _ _ => exact .inl rfl
  | endSeen i u _ _ _ => exact .inl rfl
  | lost => exact .inl rfl

/-- While the writer is open, the task that the serial loop is in the call of and that has not
acknowledged is the next one to do so. -/
theorem Calling.next_ack {s : Conn} {t : Serial} {ts : List Task} {u : Task}
    (h : Calling s t ts u) (hh : Historied s) (hopen : s.writerClosing = false)
    (hphase : u.phase = .running) {k : ℕ} (hk : s.ackTasks = List.range k) : k = ts.length := by
  have hmem : ∀ i, i < k ↔ ∃ frame bytes, .wrote (some i) frame bytes ∈ s.log := by
    intro i
    rw [← List.mem_range, ← hk, Conn.ackTasks, ackTasksIn, List.mem_map]
    constructor
    · rintro ⟨⟨j, frame⟩, hmem, rfl⟩
      exact ⟨frame, Conn.mem_ackedBy.mp hmem⟩
    · rintro ⟨frame, bytes, hw⟩
      exact ⟨(i, frame), Conn.mem_ackedBy.mpr ⟨bytes, hw⟩, rfl⟩
  rcases Nat.lt_trichotomy k ts.length with hlt | heq | hgt
  · -- task `k` has returned, so it has acknowledged
    have hget : s.tasks[k]? = some ts[k] := by
      rw [h.tasks, List.getElem?_append_left hlt, List.getElem?_eq_getElem hlt]
    have hreturned := h.returned _ (List.getElem_mem hlt)
    obtain ⟨frame, bytes, hw⟩ := (hh.task hget).acked_of_settled hopen (by rw [hreturned]; rfl)
      (by rw [hreturned]; simp)
    exact absurd ((hmem k).mpr ⟨frame, bytes, (Conn.mem_history.mp hw).1⟩) (Nat.lt_irrefl k)
  · exact heq
  · -- the last task runs its handler, so it has not
    obtain ⟨frame, bytes, hw⟩ := (hmem ts.length).mp hgt
    have htask := hh.task h.task
    rw [hphase] at htask
    have hin : .wrote (some ts.length) frame bytes ∈ s.history ts.length :=
      Conn.mem_history.mpr ⟨hw, by simp [Entry.isOf]⟩
    rw [htask.running_eq] at hin
    simp at hin

theorem Serializes.acks {s s' : Conn} {t : Serial} {ev : Event} (h : Serializes s t)
    (hh : Historied s) (hs : s.step ev = some s') (hk : ∃ k, s.ackTasks = List.range k) :
    ∃ k, s'.ackTasks = List.range k := by
  obtain ⟨k, hk⟩ := hk
  rcases (Conn.step_move hs).ackTasks with heq | ⟨i, u, hu, hphase, hopen, heq⟩
  · exact ⟨k, heq.trans hk⟩
  · obtain ⟨ts, rfl, hc⟩ := h.live hu (by rw [hphase]; rfl)
    have hnext := hc.next_ack hh hopen hphase hk
    exact ⟨k + 1, by rw [heq, hk, List.range_succ, hnext]⟩

/-- The ids of a frame. -/
def Frame.ids (f : Frame) : ℤ × ℤ := (f.metadata.streamId, f.metadata.frameId)

theorem Conn.acks_prefix {s : Conn} (hd : Dispatched s) (hh : Historied s) {k : ℕ}
    (hk : s.ackTasks = List.range k) : s.acks.map Frame.ids <+: s.notifies.map Frame.ids := by
  rw [Conn.acks_eq hd hh, List.map_map, List.prefix_iff_getElem?]
  intro i hi
  have hi : i < s.ackedBy.length := by simpa using hi
  have hrange : s.ackedBy.map Prod.fst = List.range k := hk
  have hik : i < k := by
    have hlength := congrArg List.length hrange
    rw [List.length_map, List.length_range] at hlength
    exact hlength ▸ hi
  have hfst : (s.ackedBy[i]).1 = i := by
    have hget : (s.ackedBy.map Prod.fst)[i]? = some (s.ackedBy[i]).1 := by
      rw [List.getElem?_map, List.getElem?_eq_getElem hi]
      rfl
    rw [hrange, List.getElem?_range hik] at hget
    exact (Option.some.inj hget).symm
  have hmem : (i, (s.ackedBy[i]).2) ∈ s.ackedBy := by
    have hin := List.getElem_mem hi
    rwa [← Prod.mk.eta (p := s.ackedBy[i]), hfst] at hin
  obtain ⟨notify, actions, hn, hstream, hframe, -, -⟩ := Conn.acknowledges hd hh hmem
  rw [List.getElem?_map, hn, List.getElem_map, Option.map_some, Function.comp_apply, Frame.ids,
    Frame.ids, hstream, hframe]

/-! ### The refinement -/

theorem Serializes.conn {s : Conn} {t : Serial} (h : Serializes s t) : t.conn = s.observed := by
  cases h with
  | idle h => exact h.conn
  | calling ts u h => exact h.observed
  | failed ts u e hconn _ _ _ _ _ => exact hconn

theorem Historied.task_of_invoked {s : Conn} (h : Historied s) {j : ℕ} (hj : .invoked j ∈ s.log) :
    ∃ u, s.tasks[j]? = some u := by
  have hmem : .invoked j ∈ s.history j := Conn.mem_history.mpr ⟨hj, by simp [Entry.isOf]⟩
  have hhistory := h j
  cases hu : s.tasks[j]? with
  | some u => exact ⟨u, rfl⟩
  | none =>
    rw [Conn.taskAt, hu] at hhistory
    simp only [Option.map_none] at hhistory
    rw [hhistory] at hmem
    cases hmem

/-- A handler is invoked when the tasks before have ended. -/
theorem Serializes.one_at_a_time {s : Conn} {t : Serial} (h : Serializes s t) (hh : Historied s)
    {j k : ℕ} {u : Task} (hj : .invoked j ∈ s.log) (hk : k < j) (hu : s.tasks[k]? = some u) :
    u.phase.ended = true := by
  by_contra hn
  obtain ⟨ts, rfl, hc⟩ := h.live hu (by simpa using hn)
  obtain ⟨v, hv⟩ := hh.task_of_invoked hj
  have hlt := (List.getElem?_eq_some_iff.mp hv).1
  rw [hc.tasks, List.length_append, List.length_singleton] at hlt
  omega

/-- The serial loop is somewhere in step with the connection, and the tasks have acknowledged
in order. -/
def Conn.InStep (s : Conn) : Prop := (∃ t, Serializes s t) ∧ ∃ k, s.ackTasks = List.range k

theorem Conn.ackTasks_of_nil {s : Conn} (hh : Historied s) (htasks : s.tasks = []) :
    s.ackTasks = List.range 0 := by
  have hempty : s.ackedBy = [] := by
    refine List.eq_nil_iff_forall_not_mem.mpr fun ⟨i, frame⟩ hmem => ?_
    obtain ⟨bytes, hw⟩ := Conn.mem_ackedBy.mp hmem
    exact hh.task_of_mem (i := i) hw (by simp [Entry.isOf]) htasks
  rw [Conn.ackTasks, ackTasksIn, ← Conn.ackedBy, hempty]
  rfl

theorem Conn.InStep.along {m c : ℤ} {inbound : Bytes} {s s' : Conn} {events : List Event}
    (h : s.InStep) (hreach : Reaches Conn.step (Conn.init m c inbound) s)
    (hal : Along Conn.step Conn.SeesFailures s events) (hr : run Conn.step s events = some s') :
    s'.InStep := by
  refine invariant_along ?_ h hal hr
  rintro x ev y ⟨es, hx⟩ ⟨⟨t, ht⟩, hk⟩ hcond hy
  have hreachx := hreach.append hx
  obtain ⟨t', -, ht'⟩ := ht.step (Coherent.reachable hreachx) hcond hy
  exact ⟨⟨t', ht'⟩, ht.acks (Historied.reachable hreachx) hy hk⟩

/-- From where the read loop starts without pipelining, as long as it takes no frame while the
failure of a task waits for its callback, the connection does what the serial loop does, and
the serial loop does nothing else. Its handlers run one at a time in the order of the NOTIFYs,
and its ACKs come in that order. -/
theorem serial_refinement (m c : ℤ) (inbound : Bytes) (s₀ s : Conn)
    (h : Reaches Conn.step (Conn.init m c inbound) s₀) (hmain : s₀.main = .greeting false)
    (hcapabilities : PIPELINING ∉ s₀.config.capabilities)
    (hs : s₀.step (.main .ok) = some s) (hreading : s.main = .reading) :
    (∀ events s', Along Conn.step Conn.SeesFailures s events → run Conn.step s events = some s' →
      (∃ ds t, Along Serial.step (fun _ d => d.Answers) (.start s) ds ∧
        run Serial.step (.start s) ds = some t ∧ t.conn = s'.observed) ∧
      (∀ j k u, .invoked j ∈ s'.log → k < j → s'.tasks[k]? = some u → u.phase.ended = true) ∧
      s'.acks.map Frame.ids <+: s'.notifies.map Frame.ids) ∧
    ∀ ds t, Along Serial.step (fun _ d => d.Answers) (.start s) ds →
      run Serial.step (.start s) ds = some t →
      ∃ events s', Along Conn.step Conn.SeesFailures s events ∧
        run Conn.step s events = some s' ∧ t.conn = s'.observed := by
  have hreach := h.tail hs
  have hco := Coherent.reachable hreach
  obtain ⟨hnil, hstart, hrest⟩ := Serializes.start_loop (Coherent.reachable h) hmain hcapabilities
    hs hreading
  constructor
  · intro events s' hal hr
    obtain ⟨ds, t, hal', hrun, hto, -⟩ := Serializes.forward.run ⟨hstart, hco⟩ hal hr
    have hreach' := hreach.append hr
    have hh := Historied.reachable hreach'
    have hin : s.InStep :=
      ⟨⟨_, hstart⟩, 0, Conn.ackTasks_of_nil (Historied.reachable hreach) hnil⟩
    obtain ⟨-, k, hk⟩ := hin.along hreach hal hr
    exact ⟨⟨ds, t, hal', hrun, hto.conn⟩, fun j k u hj hlt hu => hto.one_at_a_time hh hj hlt hu,
      Conn.acks_prefix (Dispatched.reachable hreach') hh hk⟩
  · intro ds t hal hr
    obtain ⟨events, s', hal', hrun, hto, -, -⟩ :=
      Serializes.backward.run ⟨hstart, hco, hrest⟩ hal hr
    exact ⟨events, s', hal', hrun, hto.conn⟩

/-- A connection without pipelining, on a NOTIFY and HAPROXY-DISCONNECT, after its read loop
has started and the events. -/
def Conn.unpipelined (events : List Event) : Conn :=
  Conn.after 16384 2 [helloFrame 16384 [], notifyFrame 7 1, haproxyDisconnectFrame]
    (.main .ok :: .main .ok :: events)

/-- The NOTIFY is answered before HAPROXY-DISCONNECT is. -/
def Conn.served : List Event :=
  [.main .ok, .start 0, .handler 0 (.returned (some [])), .drained 0 .ok, .main .ok, .main .ok]

theorem Conn.seesFailures_of_none {s : Conn} {ev : Event} (hev : ∀ i, ev ≠ .handler i .cancelled)
    (h : ∀ u ∈ s.tasks, u.failure? = none) : s.SeesFailures ev :=
  ⟨hev, fun _ _ _ u hu hfail => by simp [h u hu] at hfail⟩

theorem serial_refinement_served :
    ∃ ds t, run Serial.step (.start (Conn.unpipelined [])) ds = some t ∧
      t.conn = (Conn.unpipelined Conn.served).observed := by
  have hstep : ∀ n < 6, (Conn.unpipelined (Conn.served.take n)).step (Conn.served.getD n .lost) =
      some (Conn.unpipelined (Conn.served.take (n + 1))) := by decide +kernel
  have hnone : ∀ n < 6, ∀ u ∈ (Conn.unpipelined (Conn.served.take n)).tasks,
      u.failure? = none := by decide +kernel
  have hsees : ∀ n < 6, (Conn.unpipelined (Conn.served.take n)).SeesFailures
      (Conn.served.getD n .lost) := by
    intro n hn
    refine Conn.seesFailures_of_none ?_ (hnone n hn)
    have hcases : n = 0 ∨ n = 1 ∨ n = 2 ∨ n = 3 ∨ n = 4 ∨ n = 5 := by omega
    rcases hcases with rfl | rfl | rfl | rfl | rfl | rfl <;> simp [Conn.served]
  have hal : Along Conn.step Conn.SeesFailures (Conn.unpipelined []) Conn.served :=
    .cons (hsees 0 (by decide)) (hstep 0 (by decide)) (.cons (hsees 1 (by decide))
      (hstep 1 (by decide)) (.cons (hsees 2 (by decide)) (hstep 2 (by decide))
        (.cons (hsees 3 (by decide)) (hstep 3 (by decide)) (.cons (hsees 4 (by decide))
          (hstep 4 (by decide)) (.cons (hsees 5 (by decide)) (hstep 5 (by decide)) trivial)))))
  obtain ⟨⟨ds, t, -, hrun, hconn⟩, -, -⟩ := (serial_refinement 16384 2 _
    (Conn.after 16384 2 [helloFrame 16384 [], notifyFrame 7 1, haproxyDisconnectFrame] [.main .ok])
    (Conn.unpipelined []) ⟨[.main .ok], (by decide +kernel : run Conn.step (Conn.onFrames 16384 2
      [helloFrame 16384 [], notifyFrame 7 1, haproxyDisconnectFrame]) _ = some _)⟩
    (by decide +kernel) (by decide +kernel) (by decide +kernel) (by decide +kernel)).1
    Conn.served (Conn.unpipelined Conn.served) hal (by decide +kernel)
  exact ⟨ds, t, hrun, hconn⟩

/-- An integer of 4301 digits is answered, whose ACK fails, and the read loop takes
HAPROXY-DISCONNECT before the group sees the failure. -/
def Conn.overtaking : List Event :=
  [.main .ok, .start 0, .handler 0 (.returned (some [.ofSet .transaction (str "x")
    (.int (10 ^ 4300))])), .main .ok, .main .ok]

theorem Serializes.replied {s : Conn} {t : Serial} (h : Serializes s t) (hh : Historied s)
    (hmain : s.main = .replying) (hopen : s.writerClosing = false) {j : ℕ}
    (hj : .invoked j ∈ s.log) : ∃ frame bytes, .wrote (some j) frame bytes ∈ s.log := by
  obtain ⟨u, hu⟩ := hh.task_of_invoked hj
  have hreturned : u.phase = .returned := by
    cases h with
    | idle h => exact h.returned u (List.mem_of_getElem? hu)
    | calling ts v h => cases hmain.symm.trans h.main
    | failed ts v e _ _ _ _ _ hfails =>
      cases hfails with
      | unseen _ _ _ hm => rcases hm with hm | hm <;> cases hmain.symm.trans hm
      | seen _ _ _ hm =>
        rcases hm with hm | hm | hm | hm
        · cases hmain.symm.trans hm
        · cases hmain.symm.trans hm
        · cases hmain.symm.trans hm
        · rw [hmain] at hm
          cases hm
  obtain ⟨frame, bytes, hw⟩ := (hh.task hu).acked_of_settled hopen (by rw [hreturned]; rfl)
    (by rw [hreturned]; simp)
  exact ⟨frame, bytes, (Conn.mem_history.mp hw).1⟩

theorem Conn.main_of_standing {s : Conn} (h : s.standing = .replying) : s.main = .replying := by
  have hloop : (s.tasks.findSome? Task.failure?).elim MainPhase.reading
      (fun e => .exiting (some e)) ≠ .replying := by
    cases s.tasks.findSome? Task.failure? <;> simp
  unfold Conn.standing at h
  split at h
  · exact absurd h hloop
  · exact absurd h hloop
  · exact absurd h hloop
  · cases h
  · exact h

/-- AGENT-DISCONNECT is written after the answer whose ACK has failed; the serial loop, left by
that failure, does not read on. -/
theorem serial_loop_overtaken : ¬∀ (m c : ℤ) (inbound : Bytes) (s₀ s s' : Conn)
    (events : List Event), Reaches Conn.step (Conn.init m c inbound) s₀ →
    s₀.main = .greeting false → PIPELINING ∉ s₀.config.capabilities →
    s₀.step (.main .ok) = some s → s.main = .reading →
    (∀ ev ∈ events, ev.WellTyped ∧ ∀ i, ev ≠ .handler i .cancelled) →
    run Conn.step s events = some s' →
    (∀ f ∈ s'.notifies, 0 ≤ f.ids.1 ∧ f.ids.1 < 2 ^ 63 ∧ 0 ≤ f.ids.2 ∧ f.ids.2 < 2 ^ 63) →
    ∃ ds t, Along Serial.step (fun _ d => d.Answers) (.start s) ds ∧
      run Serial.step (.start s) ds = some t ∧ t.conn = s'.observed := by
  intro h
  have hreach : Reaches Conn.step (Conn.onFrames 16384 2
      [helloFrame 16384 [], notifyFrame 7 1, haproxyDisconnectFrame])
      (Conn.after 16384 2 [helloFrame 16384 [], notifyFrame 7 1, haproxyDisconnectFrame]
        [.main .ok]) := ⟨[.main .ok], by decide +kernel⟩
  have hmain : (Conn.after 16384 2 [helloFrame 16384 [], notifyFrame 7 1, haproxyDisconnectFrame]
      [.main .ok]).main = .greeting false := by decide +kernel
  have hcapabilities : PIPELINING ∉ (Conn.after 16384 2 [helloFrame 16384 [], notifyFrame 7 1,
      haproxyDisconnectFrame] [.main .ok]).config.capabilities := by decide +kernel
  have hs : (Conn.after 16384 2 [helloFrame 16384 [], notifyFrame 7 1, haproxyDisconnectFrame]
      [.main .ok]).step (.main .ok) = some (Conn.unpipelined []) := by decide +kernel
  have hreading : (Conn.unpipelined []).main = .reading := by decide +kernel
  have hevents : ∀ ev ∈ Conn.overtaking, ev.WellTyped ∧ ∀ i, ev ≠ .handler i .cancelled := by
    intro ev hev
    simp only [Conn.overtaking, List.mem_cons, List.not_mem_nil, or_false] at hev
    rcases hev with rfl | rfl | rfl | rfl | rfl
    · exact ⟨trivial, by simp⟩
    · exact ⟨trivial, by simp⟩
    · refine ⟨fun a ha => ?_, fun i hi => by cases hi⟩
      rw [List.mem_singleton.mp ha]
      exact .set _ _ _
    · exact ⟨trivial, by simp⟩
    · exact ⟨trivial, by simp⟩
  obtain ⟨ds, t, hal, hrun, hconn⟩ := h 16384 2 _ _ _ (Conn.unpipelined Conn.overtaking)
    Conn.overtaking hreach hmain hcapabilities hs hreading hevents (by decide +kernel)
    (by decide +kernel)
  -- the connection in step with the serial loop has the log and the main phase of the other
  obtain ⟨-, hstart, hrest⟩ := Serializes.start_loop (Coherent.reachable hreach) hmain
    hcapabilities hs hreading
  have hreach₁ := hreach.tail hs
  obtain ⟨events, s', -, hrun', hto, -, -⟩ :=
    Serializes.backward.run ⟨hstart, Coherent.reachable hreach₁, hrest⟩ hal hrun
  have hobserved := hto.conn.symm.trans hconn
  have hreplying : s'.main = .replying := Conn.main_of_standing
    ((congrArg Conn.main hobserved).trans (by decide +kernel))
  have hopen : s'.writerClosing = false :=
    (congrArg Conn.writerClosing hobserved).trans (by decide +kernel)
  have hlog : ∀ e : Entry, e.isReleased = false →
      (e ∈ s'.log ↔ e ∈ (Conn.unpipelined Conn.overtaking).observed.log) := by
    intro e he
    rw [← hobserved]
    simp [Conn.observed, Conn.alone, he]
  obtain ⟨frame, bytes, hw⟩ := hto.replied (Historied.reachable (hreach₁.append hrun')) hreplying
    hopen ((hlog (.invoked 0) rfl).mpr (by decide +kernel))
  have hnone : ∀ e ∈ (Conn.unpipelined Conn.overtaking).observed.log, e.acked? = none := by
    decide +kernel
  have hacked := hnone _ ((hlog _ rfl).mp hw)
  simp [Entry.acked?] at hacked

end SpoeForge
