import Mathlib.Tactic.IntervalCases
import SpoeForge.Server.Containment
import SpoeForge.Server.SendErrors

/-!
# The end of a connection

`core_handler` closes the connection and returns when every exception of the group is one
that an except* clause names, and no clause raises itself. The condition names the sources of
the others: a bad HELLO, an integer of too many digits, and a disconnect of an except* clause
that does not fit the limit or whose drain breaks.
-/

namespace SpoeForge

open Fallible Runs

/-- An except* clause of `core_handler` names the exception. -/
def Exc.isHandled (e : Exc) : Bool :=
  e.cls = .closeConnection || e.isSpoeForgeError || e.cls = .connectionError

theorem unhandled_eq_nil {group : List Exc} (h : ∀ e ∈ group, e.isHandled = true) :
    unhandled group = [] := by
  rw [unhandled, List.filter_eq_nil_iff]
  intro e he
  have hh := h e he
  unfold Exc.isHandled at hh
  simp [hh]

theorem Exc.isHandled_of_protocol {e : Exc} (h : e.isSpoeForgeError = true) :
    e.isHandled = true := by
  simp [Exc.isHandled, h]

theorem IsFrameError.isSpoeForgeError {e : Exc} (h : IsFrameError e) :
    e.isSpoeForgeError = true := by
  rcases h with rfl | h | h
  · rfl
  · simp [Exc.isSpoeForgeError, h.1]
  · simp [Exc.isSpoeForgeError, h.1]

/-! ### The condition -/

/-- The disconnect for the exception can be sent, or none is. -/
def Conn.CanReport (s : Conn) (code : DisconnectCode) (e : Exc) : Prop :=
  s.writerClosing = true ∨ ∃ bytes, (errorFrame code e).encode s.config.maxFrameSize = .ok bytes

/-- The HELLO announces a number as its size, and the negotiated size is printable. -/
def Conn.GoodHello (s : Conn) (hello : HaproxyHello) : Prop :=
  ∃ ha, hello.maxFrameSize.number? = some ha ∧ Printable (min s.config.maxFrameSize ha)

/-- The condition on a step of the coroutine of the connection. -/
def Conn.SurvivesMain (s : Conn) (io : Io) : Prop :=
  match s.main with
  | .handshake => io = .ok → ¬BadFrame s.reader s.config.maxFrameSize ∧
      ∀ frame reader, Frame.decode s.reader s.config.maxFrameSize = (.ok frame, reader) →
        (∀ hello, frame.payload = .haproxyHello hello → s.GoodHello hello) ∧
        ((∀ hello, frame.payload ≠ .haproxyHello hello) →
          s.writerClosing = true ∨ Printable s.config.maxFrameSize)
  | .reading => io = .ok → s.mainCancelled = false → ¬BadFrame s.reader s.config.maxFrameSize
  | .exiting exc =>
      (∀ e, (s.group exc).find? (fun e => e.cls = .spopFrameTooBigError) = some e →
        s.CanReport .frameTooBig e) ∧
      ((s.group exc).find? (fun e => e.cls = .spopFrameTooBigError) = none →
        ∀ e, (s.group exc).find? Exc.isProtocolError = some e → s.CanReport .protocolError e)
  | .reportingTooBig group => io = .ok ∧
      ∀ e, group.find? Exc.isProtocolError = some e → s.CanReport .protocolError e
  | .reportingProtocol _ _ => io = .ok
  | _ => True

/-- The condition on a step. -/
def Conn.Survives (s : Conn) : Event → Prop
  | .main io => s.SurvivesMain io
  | .handler i (.returned (some actions)) => s.writerClosing = true ∨
      (∃ t, s.tasks[i]? = some t ∧ (t.metadata.streamId < 0 ∨ t.metadata.frameId < 0)) ∨
      ∀ a ∈ actions, ∀ scope name v, a = .ofSet scope name (.int v) → Latin1 name → Printable v
  | _ => True

/-! ### The invariant -/

/-- The identifiers of the task are printable, and what it raised is handled. -/
def Task.Survivor (t : Task) : Prop :=
  Printable t.metadata.streamId ∧ Printable t.metadata.frameId ∧
    ∀ e, t.phase = .raised e → e.isHandled = true

/-- Every exception on its way to the end of the `try` statement is handled. -/
def Conn.SurvivesSoFar (s : Conn) : Prop :=
  match s.main with
  | .exiting exc => ∀ e, exc = some e → e.isHandled = true
  | .reportingTooBig group => ∀ e ∈ group, e.isHandled = true
  | .reportingProtocol group raised => (∀ e ∈ group, e.isHandled = true) ∧ raised = []
  | .closing | .returned => s.writerClosing = true
  | .failed _ => False
  | _ => True

structure Survivor (s : Conn) : Prop where
  tasks : ∀ t ∈ s.tasks, t.Survivor
  main : s.SurvivesSoFar

theorem Task.Survivor.requestCancel {t : Task} (h : t.Survivor) : t.requestCancel.Survivor := by
  unfold Task.Survivor
  rw [t.requestCancel_metadata, t.requestCancel_phase]
  exact h

theorem SameTasks.survivor {ts ts' : List Task} (h : SameTasks ts ts')
    (ht : ∀ t ∈ ts, t.Survivor) : ∀ t ∈ ts', t.Survivor := by
  rcases h with rfl | rfl
  · exact ht
  · intro t' ht'
    obtain ⟨t, hmem, rfl⟩ := List.mem_map.mp ht'
    exact (ht t hmem).requestCancel

section Moves

variable {s s' : Conn}

theorem Survivor.leave {s₁ : Conn} (h : Survivor s) (exc : Option Exc)
    (htasks : s₁.tasks = s.tasks) (he : ∀ e, exc = some e → e.isHandled = true) :
    Survivor (s₁.leave exc) :=
  ⟨(s₁.leave_sameTasks exc).survivor (htasks ▸ h.tasks), he⟩

theorem Survivor.sends {s₁ : Conn} {frame : Frame} {draining : MainPhase} (h : Survivor s)
    (hs : s₁.Sends frame draining s') (htasks : s₁.tasks = s.tasks)
    (hraises : s₁.writerClosing = false → RaisesProtocol (frame.encode s₁.config.maxFrameSize))
    (hdraining : draining.awaitsTransport = true) : Survivor s' := by
  cases hs with
  | refused e hopen he =>
    exact h.leave _ htasks fun x hx => by
      cases hx
      exact Exc.isHandled_of_protocol (hraises hopen e he)
  | closed _ => exact h.leave _ htasks fun x hx => by cases hx; rfl
  | wrote bytes _ _ =>
    refine ⟨htasks ▸ h.tasks, ?_⟩
    cases draining <;> trivial

theorem Survivor.finish (h : Survivor s) {group : List Exc}
    (hgroup : ∀ e ∈ group, e.isHandled = true) : Survivor (s.finish group []) := by
  rcases s.finish_main group [] with ⟨-, he⟩ | he
  · rw [he]
    exact ⟨h.tasks, rfl⟩
  · rw [Conn.finish, unhandled_eq_nil hgroup]
    exact ⟨h.tasks, rfl⟩

theorem Survivor.reportsProtocol (h : Survivor s) {group : List Exc}
    (hgroup : ∀ e ∈ group, e.isHandled = true) (hs : s.ReportsProtocol group [] s')
    (hfits : ∀ e, group.find? Exc.isProtocolError = some e → s.CanReport .protocolError e) :
    Survivor s' := by
  cases hs with
  | none _ => exact h.finish hgroup
  | closed _ => exact h.finish hgroup
  | refused e x hf hopen hx =>
    rcases hfits e hf with hc | ⟨bytes, hb⟩
    · exact Bool.noConfusion (hopen.symm.trans hc)
    · rw [hx] at hb
      cases hb
  | wrote e bytes _ _ _ => exact ⟨h.tasks, hgroup, rfl⟩

/-- The group that `TaskGroup.__aexit__` raises is handled. -/
theorem Survivor.group (h : Survivor s) (hco : Coherent s) {exc : Option Exc}
    (hmain : s.main = .exiting exc) : ∀ e ∈ s.group exc, e.isHandled = true := by
  have hexc := h.main
  simp only [Conn.SurvivesSoFar, hmain] at hexc
  intro e he
  rcases List.mem_append.mp he with he | he
  · obtain ⟨t, ht, hp⟩ := hco.errors_raised e he
    exact (h.tasks t ht).2.2 e hp
  · exact hexc e (Option.mem_toList.mp he)

theorem Survivor.reports (h : Survivor s) (hco : Coherent s) {io : Io} {exc : Option Exc}
    (hmain : s.main = .exiting exc) (hr : s.Reports (s.group exc) s')
    (hcond : s.SurvivesMain io) : Survivor s' := by
  have hgroup := h.group hco hmain
  simp only [Conn.SurvivesMain, hmain] at hcond
  cases hr with
  | none s' hf hn => exact h.reportsProtocol hgroup hn (hcond.2 hf)
  | closed s' hc hn => exact h.reportsProtocol hgroup hn fun _ _ => .inl hc
  | refused e x s' hf hopen hx hn =>
    rcases hcond.1 e hf with hc | ⟨bytes, hb⟩
    · exact Bool.noConfusion (hopen.symm.trans hc)
    · rw [hx] at hb
      cases hb
  | wrote e bytes _ _ _ => exact ⟨h.tasks, hgroup⟩

/-- A task acts while the coroutine of the connection stays where it is, or is handed a
slot. -/
theorem Survivor.task (h : Survivor s)
    (hmain : s'.main = s.main ∨ s'.main = .granted)
    (hc : s.writerClosing = true → s'.writerClosing = true)
    (htasks : ∀ t ∈ s'.tasks, t.Survivor) : Survivor s' := by
  refine ⟨htasks, ?_⟩
  rcases hmain with hm | hm
  · have hso := h.main
    unfold Conn.SurvivesSoFar at hso ⊢
    rw [hm]
    split at hso
    · exact hso
    · exact hso
    · exact hso
    · exact hc hso
    · exact hc hso
    · exact hso
    · trivial
  · simp [Conn.SurvivesSoFar, hm]

theorem Survivor.setTask (h : Survivor s) {i : ℕ} {t' : Task} (ht' : t'.Survivor) :
    Survivor (s.setTask i t') := by
  refine h.task (.inl rfl) id fun u hu => ?_
  rcases List.mem_or_eq_of_mem_set hu with hu | rfl
  · exact h.tasks u hu
  · exact ht'

theorem Survivor.endTask {s₁ : Conn} (h : Survivor s) {i : ℕ} {t : Task} {phase : TaskPhase}
    (ht : s.tasks[i]? = some t) (htasks : s₁.tasks = s.tasks) (hmain : s₁.main = s.main)
    (hc : s₁.writerClosing = s.writerClosing)
    (hphase : ∀ e, phase = .raised e → e.isHandled = true) : Survivor (s₁.endTask i t phase) := by
  obtain ⟨hs, hf, -⟩ := h.tasks t (List.mem_of_getElem? ht)
  refine h.task ?_ (fun hcl => by simpa [Conn.endTask, Conn.setTask, hc] using hcl) fun u hu => ?_
  · rcases (s₁.setTask i { t with phase := phase, cancelRequested := false }).release_main i with
      he | ⟨-, -, he⟩
    · exact .inl (he.trans hmain)
    · exact .inr he
  · rw [Conn.endTask, Conn.release_tasks, Conn.setTask_tasks, htasks] at hu
    rcases List.mem_or_eq_of_mem_set hu with hu | rfl
    · exact h.tasks u hu
    · exact ⟨hs, hf, hphase⟩

end Moves

theorem decodeBody_printable {body : Bytes} {frame : Frame} (h : decodeBody body = .ok frame) :
    Printable frame.metadata.streamId ∧ Printable frame.metadata.frameId := by
  have hbound : ∀ n, (cInt 64 n).natAbs < 2 ^ 64 := by
    intro n
    have hlt : n % 2 ^ 64 < 2 ^ 64 := Nat.mod_lt _ (by decide)
    simp only [cInt]
    split <;> omega
  obtain ⟨s, n, -, es, en⟩ := decodeBody_wireIds h
  rw [es, en]
  exact ⟨printable_of_natAbs_lt (hbound s), printable_of_natAbs_lt (hbound n)⟩

theorem negotiate_isOk {c : ServerConfiguration} (hversion : c.version = SPOE_VERSION)
    {versions caps : List Str} {v : Value} {ha : ℤ} (hnumber : v.number? = some ha)
    (hprint : Printable (min c.maxFrameSize ha)) {e : Exc} :
    c.negotiateServerCompatibility versions v caps ≠ .error e := by
  have hsize : ¬Unprintable (min c.maxFrameSize ha) := fun hu => hu.2 hprint
  intro h
  simp only [ServerConfiguration.negotiateServerCompatibility, negotiateWith,
    checkVersionCompatibility, hversion, parseVersion_agent, ok_bind,
    findMaxFrameSize_number hnumber, if_neg hsize] at h
  cases h

theorem negotiate_printable {c c' : ServerConfiguration} {versions caps : List Str} {v : Value}
    {ha : ℤ} (h : c.negotiateServerCompatibility versions v caps = .ok c')
    (hnumber : v.number? = some ha) (hprint : Printable (min c.maxFrameSize ha)) :
    Printable c'.maxFrameSize := by
  obtain ⟨ha', hnumber', hsize⟩ := (negotiate_ok h).size
  rw [hnumber] at hnumber'
  cases hnumber'
  rwa [hsize]

theorem Survivor.init (m c : ℤ) (inbound : Bytes) : Survivor (Conn.init m c inbound) :=
  ⟨by simp [Conn.init], trivial⟩

theorem Survivor.move {c₀ : ServerConfiguration} {c : ℤ} {s s' : Conn} {ev : Event}
    (h : Survivor s) (hco : Coherent s) (hff : FirstFrame c₀ s) (hb : SlotBalance c s)
    (hc₀ : c₀.version = SPOE_VERSION) (hpos : 1 ≤ c) (hev : ev.WellTyped) (hcond : s.Survives ev)
    (hm : s.Move ev s') : Survivor s' := by
  have hconfig : s.main = .handshake → s.config = c₀ := by
    intro hmain
    cases hff with
    | unread hconfig _ _ _ => exact hconfig
    | refused _ _ _ hne _ _ _ => exact absurd hmain hne
    | broke _ _ _ hne _ _ =>
      rcases hne with ⟨e, he, -⟩ | ⟨g, he⟩ <;> exact absurd (he.symm.trans hmain) (by simp)
    | negotiated _ _ _ _ hne _ _ => exact absurd hmain hne
  have hlimit : s.Opened → Printable s.config.maxFrameSize := fun ho => (hff.limit ho).2
  have htask : ∀ {i : ℕ} {t : Task}, s.tasks[i]? = some t → t.Survivor :=
    fun ht => h.tasks _ (List.mem_of_getElem? ht)
  have hopened : ∀ {i : ℕ} {t : Task}, s.tasks[i]? = some t → s.Opened := by
    intro i t ht
    refine .inr (.inr fun hnil => ?_)
    rw [hnil] at ht
    cases ht
  cases hm with
  | cancelled io _ _ => exact h.leave _ rfl (by simp)
  | slotReturned io _ _ => exact h.leave _ rfl (by simp)
  | broken text _ _ => exact h.leave _ rfl fun e he => by cases he; rfl
  | ends _ _ => exact h.leave _ rfl fun e he => by cases he; rfl
  | noSemaphore _ _ hneg =>
    have hpos' : 0 ≤ s.config.limit := by
      rw [hb.limit_eq]
      split <;> omega
    omega
  | serves hmain _ _ =>
    refine ⟨by simpa using h.tasks, ?_⟩
    rcases ({ s with slots := s.config.limit.toNat } : Conn).acquire_main with he | he <;>
      simp [Conn.SurvivesSoFar, he]
  | reads io hmain _ => exact ⟨h.tasks, trivial⟩
  | decodeFails e reader hmain hc hdecode =>
    have hbad : ¬BadFrame s.reader s.config.maxFrameSize := by
      simp only [Conn.Survives, Conn.SurvivesMain] at hcond
      rcases hmain with hmain | hmain
      · rw [hmain] at hcond
        exact (hcond trivial).1
      · rw [hmain] at hcond
        exact hcond trivial hc
    have he := (Frame.decode_fails hbad hdecode).isSpoeForgeError
    refine h.leave _ rfl fun x hx => ?_
    cases hx
    split
    · rfl
    · exact Exc.isHandled_of_protocol he
  | helloFails s₁ frame size hello e hmain hc ht hp hfails =>
    obtain ⟨reader, body, hd, -, -, -, rfl⟩ := ht
    simp only [Conn.Survives, Conn.SurvivesMain, hmain] at hcond
    obtain ⟨ha, hnumber, hprint⟩ := ((hcond trivial).2 frame reader hd).1 hello hp
    exact absurd hfails (negotiate_isOk (by rw [hconfig hmain, hc₀]) hnumber hprint)
  | greets s₁ s' frame size hello config hmain _ ht hp hn _ hs =>
    obtain ⟨reader, body, hd, -, -, -, rfl⟩ := ht
    simp only [Conn.Survives, Conn.SurvivesMain, hmain] at hcond
    obtain ⟨ha, hnumber, hmin⟩ := ((hcond trivial).2 frame reader hd).1 hello hp
    have hprint := negotiate_printable hn hnumber hmin
    exact h.sends hs rfl (fun _ => agentHelloFrame_raises hprint hprint) rfl
  | incompatible s₁ s' frame size hello config code message hmain _ ht hp hn _ hs =>
    obtain ⟨reader, body, hd, -, -, -, rfl⟩ := ht
    simp only [Conn.Survives, Conn.SurvivesMain, hmain] at hcond
    obtain ⟨ha, hnumber, hmin⟩ := ((hcond trivial).2 frame reader hd).1 hello hp
    have hprint := negotiate_printable hn hnumber hmin
    exact h.sends hs rfl (fun _ => disconnectFrame_raises code message hprint) rfl
  | notHello s₁ s' frame size code message hmain _ ht hp _ hs =>
    obtain ⟨reader, body, hd, -, -, -, rfl⟩ := ht
    simp only [Conn.Survives, Conn.SurvivesMain, hmain] at hcond
    refine h.sends hs rfl (fun hopen => ?_) rfl
    have hopen : s.writerClosing = false := hopen
    have hprint := (((hcond trivial).2 frame reader hd).2 hp).resolve_left (by simp [hopen])
    exact disconnectFrame_raises code message hprint
  | dispatches s₁ frame size messages hmain hc ht hp =>
    obtain ⟨reader, body, -, hbody, -, -, rfl⟩ := ht
    have hids := decodeBody_printable hbody
    refine ⟨fun t hmem => ?_, ?_⟩
    · rw [Conn.acquire_tasks] at hmem
      rcases List.mem_append.mp hmem with hmem | hmem
      · exact h.tasks t hmem
      · rw [List.mem_singleton.mp hmem]
        exact ⟨hids.1, hids.2, fun e he => by cases he⟩
    · rcases ({ s with
        reader := reader, log := s.log ++ [.received frame size],
        tasks := s.tasks ++ [Task.new frame.metadata messages] } : Conn).acquire_main with he | he <;>
        simp [Conn.SurvivesSoFar, he]
  | replies s₁ s' frame size code message hmain _ ht _ _ hs =>
    obtain ⟨reader, body, -, -, -, -, rfl⟩ := ht
    have hprint := hlimit (.inr (.inl (by rw [hmain]; rfl)))
    exact h.sends hs rfl (fun _ => disconnectFrame_raises code message hprint) rfl
  | reports s' io exc hmain hdone hr => exact h.reports hco hmain hr hcond
  | reportsNext s' io group hmain hr =>
    have hso := h.main
    simp only [Conn.SurvivesSoFar, hmain] at hso
    simp only [Conn.Survives, Conn.SurvivesMain, hmain] at hcond
    obtain ⟨rfl, hfits⟩ := hcond
    exact h.reportsProtocol hso hr hfits
  | reported io group raised hmain =>
    have hso := h.main
    simp only [Conn.SurvivesSoFar, hmain] at hso
    obtain ⟨hgroup, rfl⟩ := hso
    simp only [Conn.Survives, Conn.SurvivesMain, hmain] at hcond
    subst hcond
    exact h.finish hgroup
  | closes io hmain =>
    have hso := h.main
    simp only [Conn.SurvivesSoFar, hmain] at hso
    exact ⟨h.tasks, hso⟩
  | neverStarts i t ht hphase hc =>
    obtain ⟨hs, hf, -⟩ := htask ht
    exact h.setTask ⟨hs, hf, fun e he => by cases he⟩
  | starts i t ht hphase hc =>
    obtain ⟨hs, hf, -⟩ := htask ht
    have hset : Survivor (s.setTask i { t with phase := .running }) :=
      h.setTask ⟨hs, hf, fun e he => by cases he⟩
    exact hset.task (.inl rfl) id hset.tasks
  | goesOn i t ht hphase =>
    have hsurvivor : t.Survivor := htask ht
    exact h.setTask hsurvivor
  | ackFails i t actions e ht hphase hack =>
    obtain ⟨hs, hf, -⟩ := htask ht
    refine h.endTask ht rfl rfl rfl fun x hx => ?_
    cases hx
    cases actions with
    | none => exact hev.elim
    | some actions =>
      cases hcl : s.writerClosing with
      | true =>
        rw [hcl] at hack
        cases hack
      | false =>
        refine Exc.isHandled_of_protocol ?_
        rcases hcond.resolve_left (by simp [hcl]) with ⟨t', ht', hneg⟩ | hints
        · rw [ht] at ht'
          cases ht'
          exact ackToSend_negative _ hs hf hneg _ _ hack
        · have hcontained : ∀ a ∈ actions, a.Contained ∧ a.Shown :=
            fun a ha => (hev a ha).contained (hints a ha)
          exact ackToSend_raisesProtocol hs hf (hlimit (hopened ht)) hcontained _ hack
  | ackSkipped i t actions ht hphase _ =>
    exact h.endTask ht rfl rfl rfl fun x hx => by cases hx
  | acks i t actions frame bytes ht hphase _ =>
    obtain ⟨hs, hf, -⟩ := htask ht
    have hset : Survivor (s.setTask i { t with phase := .draining, cancelRequested := false }) :=
      h.setTask ⟨hs, hf, fun e he => by cases he⟩
    exact hset.task (.inl rfl) id hset.tasks
  | handlerRaises i t e ht hphase => exact hev.elim
  | handlerCancelled i t ht hphase => exact h.endTask ht rfl rfl rfl fun x hx => by cases hx
  | drainCancelled i t io ht hphase _ => exact h.endTask ht rfl rfl rfl fun x hx => by cases hx
  | drained i t ht hphase _ => exact h.endTask ht rfl rfl rfl fun x hx => by cases hx
  | drainBroken i t text ht hphase _ =>
    exact h.endTask ht rfl rfl rfl fun x hx => by cases hx; rfl
  | failureSeen i t e ht hphase _ _ =>
    have hsurvivor : t.Survivor := htask ht
    have hset : Survivor (s.setTask i { t with reported := true }) := h.setTask hsurvivor
    exact hset.task (.inl rfl) id (SameTasks.survivor (.inr rfl) hset.tasks)
  | failureAdded i t e ht hphase hnew ha =>
    have hsurvivor : t.Survivor := htask ht
    have hset : Survivor (s.setTask i { t with reported := true }) := h.setTask hsurvivor
    exact hset.task (.inl rfl) id hset.tasks
  | endSeen i t ht hphase hnew =>
    have hsurvivor : t.Survivor := htask ht
    exact h.setTask hsurvivor
  | lost => exact h.task (.inl rfl) (fun _ => rfl) h.tasks

/-- In every run whose handlers return lists of well-typed actions and whose steps meet the
condition, `core_handler` raises nothing, and has closed the connection when it returns. -/
theorem core_handler_returns (m c : ℤ) (hpos : 1 ≤ c) (inbound : Bytes) (events : List Event)
    (s : Conn)
    (hc : Along Conn.step (fun s ev => ev.WellTyped ∧ s.Survives ev) (Conn.init m c inbound) events)
    (h : run Conn.step (Conn.init m c inbound) events = some s) :
    (∀ group, s.main ≠ .failed group) ∧ (s.main = .returned → s.writerClosing = true) := by
  have hinv : Survivor s :=
    invariant_along (fun _ _ _ hr hi hcond hs => hi.move (Coherent.reachable hr)
      (FirstFrame.reachable hr) (SlotBalance.reachable hr) rfl hpos hcond.1 hcond.2
      (Conn.step_move hs)) (Survivor.init m c inbound) hc h
  have hso := hinv.main
  constructor
  · intro group hmain
    simp [Conn.SurvivesSoFar, hmain] at hso
  · intro hmain
    simpa [Conn.SurvivesSoFar, hmain] using hso

-- the states below are closed terms, which unifying two conditions would evaluate
attribute [irreducible] Conn.Survives

theorem decode_eq_of_toOption (reader : StreamReader) {m : ℤ} {frame : Frame}
    (h : (Frame.decode reader m).1.toOption = some frame) :
    Frame.decode reader m = (.ok frame, (Frame.decode reader m).2) := by
  rcases hd : Frame.decode reader m with ⟨e | f, r⟩
  · rw [hd] at h
    cases h
  · rw [hd] at h
    cases h
    rfl

theorem not_badFrame {reader : StreamReader} {m : ℤ}
    (h : FailsWithin Exc.IsDocumented (Frame.decode reader m).1) : ¬BadFrame reader m := by
  intro hb
  obtain ⟨e, reader', he, hn⟩ := Frame.decode_badFrame hb
  exact hn (h e (by rw [he]))

/-- HELLO with a size of 256, a NOTIFY, and a second NOTIFY that is longer than that. -/
def rudeFrames : List Frame :=
  [helloFrame 256 [PIPELINING], notifyFrame 7 1,
    Frame.construct 7 2 (.notify [(str "m", Dict.ofPairs [(str "a", .bytes (List.replicate 300 (byte 0)))])])]

/-- An action that does not encode and one that does. -/
def rudeActions : List ActionObj :=
  [.ofSet .session (str "a") (.str ['€']), .ofUnset .session (str "b")]

/-- The first NOTIFY gets the ACK of the second action; the second NOTIFY is refused, and the
connection reports that and ends. -/
def rudeEvents : List Event :=
  [.main .ok, .main .ok, .main .ok, .start 0, .handler 0 (.returned (some rudeActions)),
    .drained 0 .ok, .done 0, .main .ok, .main .ok, .main .ok, .main .ok]

def Conn.rude (n : ℕ) : Conn := Conn.after 16384 2 rudeFrames (rudeEvents.take n)

theorem rude_handshake : (Conn.rude 0).Survives (.main .ok) := by
  have hello := decode_eq_of_toOption (Conn.rude 0).reader
    (by decide +kernel : (Frame.decode (Conn.rude 0).reader
      (Conn.rude 0).config.maxFrameSize).1.toOption = some (helloFrame 256 [PIPELINING]))
  have hmain : (Conn.rude 0).main = .handshake := by decide +kernel
  rw [Conn.Survives, Conn.SurvivesMain, hmain]
  refine fun _ => ⟨not_badFrame (by decide +kernel), fun frame reader hd => ?_⟩
  rw [hello] at hd
  cases hd
  refine ⟨fun p hp => ?_, fun hne => absurd rfl (hne _)⟩
  cases hp
  exact ⟨256, rfl, printable_of_lt (by decide +kernel) (by decide +kernel)⟩

/-- The refusal of the second NOTIFY. -/
def rudeError : Exc := frameTooBig (str "Frame size 315 exceeds maximum size 256")

theorem rude_reports :
    (Conn.rude 8).Survives (.main .ok) ∧ (Conn.rude 9).Survives (.main .ok) := by
  have hgroup : (Conn.rude 8).group (some rudeError) = [rudeError] := by decide +kernel
  have hmain : (Conn.rude 8).main = .exiting (some rudeError) ∧
      (Conn.rude 9).main = .reportingTooBig [rudeError] := by
    decide +kernel
  have hbig : [rudeError].find? (fun e => e.cls = .spopFrameTooBigError) = some rudeError := by
    decide +kernel
  have hprotocol : [rudeError].find? Exc.isProtocolError = none := by decide +kernel
  have hfits : ((errorFrame .frameTooBig rudeError).encode (Conn.rude 8).config.maxFrameSize).isOk := by
    decide +kernel
  unfold Conn.Survives Conn.SurvivesMain
  rw [hmain.1, hmain.2]
  dsimp only
  rw [hgroup, hbig, hprotocol]
  refine ⟨⟨fun e he => .inr ?_, fun he => by cases he⟩, rfl, fun e he => by cases he⟩
  cases he
  cases henc : (errorFrame .frameTooBig rudeError).encode (Conn.rude 8).config.maxFrameSize with
  | ok bytes => exact ⟨bytes, rfl⟩
  | error x =>
    rw [henc] at hfits
    cases hfits

theorem rude_survives : ∀ n (h : n < rudeEvents.length),
    rudeEvents[n].WellTyped ∧ (Conn.rude n).Survives rudeEvents[n] := by
  have h0 := rude_handshake
  have h1 : (Conn.rude 1).Survives (.main .ok) := by
    rw [Conn.Survives, Conn.SurvivesMain, (by decide +kernel : (Conn.rude 1).main = .greeting false)]
    trivial
  have hreads : ∀ n, n = 2 ∨ n = 7 → (Conn.rude n).Survives (.main .ok) := by
    intro n hn
    have hmain : (Conn.rude n).main = .reading := by
      rcases hn with rfl | rfl <;> decide +kernel
    rw [Conn.Survives, Conn.SurvivesMain, hmain]
    rcases hn with rfl | rfl <;> exact fun _ _ => not_badFrame (by decide +kernel)
  have hanswer : (Conn.rude 4).Survives (.handler 0 (.returned (some rudeActions))) := by
    rw [Conn.Survives]
    refine .inr (.inr fun a ha scope name v he _ => ?_)
    rcases List.mem_pair.mp ha with rfl | rfl <;> simp [ActionObj.ofSet, ActionObj.ofUnset] at he
  have htyped : ∀ a ∈ rudeActions, a.WellTyped := by
    intro a ha
    rcases List.mem_pair.mp ha with rfl | rfl
    · exact .set .session (str "a") (.str ['€'])
    · exact .unset .session (str "b")
  have htask : (Conn.rude 3).Survives (.start 0) ∧ (Conn.rude 5).Survives (.drained 0 .ok) ∧
      (Conn.rude 6).Survives (.done 0) := by
    simp only [Conn.Survives, and_self]
  obtain ⟨h8, h9⟩ := rude_reports
  have h10 : (Conn.rude 10).Survives (.main .ok) := by
    rw [Conn.Survives, Conn.SurvivesMain, (by decide +kernel : (Conn.rude 10).main = .closing)]
    trivial
  intro n h
  have h : n < 11 := h
  interval_cases n
  · exact ⟨True.intro, h0⟩
  · exact ⟨True.intro, h1⟩
  · exact ⟨True.intro, hreads 2 (.inl rfl)⟩
  · exact ⟨True.intro, htask.1⟩
  · exact ⟨htyped, hanswer⟩
  · exact ⟨True.intro, htask.2.1⟩
  · exact ⟨True.intro, htask.2.2⟩
  · exact ⟨True.intro, hreads 7 (.inr rfl)⟩
  · exact ⟨True.intro, h8⟩
  · exact ⟨True.intro, h9⟩
  · exact ⟨True.intro, h10⟩

theorem core_handler_returns_rude : (Conn.rude 11).main = .returned ∧
    (Conn.rude 11).writerClosing = true := by
  have hmain : (Conn.rude 11).main = .returned := by decide +kernel
  have hinit : Conn.rude 0 = Conn.onFrames 16384 2 rudeFrames := by decide +kernel
  have hstep : ∀ n (h : n < rudeEvents.length),
      (Conn.rude n).step rudeEvents[n] = some (Conn.rude (n + 1)) := by
    decide +kernel
  have hc : Along Conn.step (fun s ev => ev.WellTyped ∧ s.Survives ev) (Conn.rude 0) rudeEvents :=
    along_of_states Conn.rude hstep rude_survives
  rw [hinit] at hc
  exact ⟨hmain, (core_handler_returns 16384 2 (by decide) _ rudeEvents _ hc
    (by decide +kernel)).2 hmain⟩

/-- A HELLO that announces 1 as its size: AGENT-HELLO does not fit, nor does the disconnect
that reports it, and the clause that sends the disconnect raises. -/
theorem core_handler_raises : ¬∀ (m c : ℤ) (inbound : Bytes) (events : List Event) (s : Conn),
    256 ≤ m → 1 ≤ c → (∀ ev ∈ events, ev.WellTyped) →
    run Conn.step (Conn.init m c inbound) events = some s → ∀ group, s.main ≠ .failed group := by
  intro h
  have hmain := h 16384 2 _ [.main .ok, .main .ok]
    (Conn.after 16384 2 [helloFrame 1 [PIPELINING]] [.main .ok, .main .ok]) (by decide) (by decide)
    (fun ev hev => by
      simp only [List.mem_cons, List.not_mem_nil, or_false, or_self] at hev
      rw [hev]
      trivial)
    (by decide +kernel : run Conn.step (Conn.onFrames 16384 2 [helloFrame 1 [PIPELINING]]) _ = some _)
    [frameTooBig (str "Frame size 67 exceeds maximum size 1")]
  exact hmain (by decide +kernel)

end SpoeForge
