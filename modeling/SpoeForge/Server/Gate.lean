import SpoeForge.Server.AckAccounting
import SpoeForge.Server.Slots

/-!
# The handshake gate and the size limit

Only a HELLO that negotiates opens the way to the read loop, and the configuration it
leaves behind stays to the end of the connection. So every frame written or accepted
after the HELLO is within the negotiated size.
-/

namespace SpoeForge

open Fallible Runs

/-! ### Steps after the handshake -/

/-- The body length of a frame read or written, without the length prefix. -/
def Entry.bodyLength? : Entry → Option ℕ
  | .received _ size => some size
  | .wrote _ _ bytes => some (bytes.length - 4)
  | _ => none

/-- A frame read is within the limit, a frame written is its encoding under the limit. -/
def Entry.Within (limit : ℤ) : Entry → Prop
  | .received _ size => size ≤ limit
  | .wrote _ frame bytes => frame.encode limit = .ok bytes
  | _ => True

theorem Entry.Within.bodyLength {limit : ℤ} {e : Entry} (h : e.Within limit) {len : ℕ}
    (hlen : e.bodyLength? = some len) : (len : ℤ) ≤ limit := by
  cases e with
  | received frame size =>
    cases hlen
    exact h
  | wrote source frame bytes =>
    cases hlen
    obtain ⟨out, len, -, hpack, hle, -, rfl⟩ := Frame.encode_ok.mp h
    have h4 := packU32_length hpack
    rw [List.length_append, h4]
    omega
  | _ => cases hlen

/-- What a step after the handshake keeps. -/
structure Conn.Follows (s s' : Conn) : Prop where
  config : s'.config = s.config
  log : ∃ l, s'.log = s.log ++ l ∧ ∀ e ∈ l, e.Within s.config.maxFrameSize ∧
    (s.main.serving = false → s.tasks = [] → ∃ frame bytes, e = .wrote none frame bytes)
  main : s'.main ≠ .handshake
  greeting : ∀ healthcheck, s'.main = .greeting healthcheck → s.main = .greeting healthcheck
  serving : s'.main.serving = true → s.main.serving = true ∨ s.main = .greeting false
  tasks : s'.tasks ≠ [] → s.tasks ≠ [] ∨ s.main.serving = true

theorem Conn.Follows.leave {s s₁ : Conn} (exc : Option Exc) {l : List Entry}
    (hconfig : s₁.config = s.config) (hlog : s₁.log = s.log ++ l)
    (hl : ∀ e ∈ l, e.Within s.config.maxFrameSize ∧
      (s.main.serving = false → s.tasks = [] → ∃ frame bytes, e = .wrote none frame bytes))
    (htasks : s₁.tasks = s.tasks) : s.Follows (s₁.leave exc) where
  config := by rw [Conn.leave_config, hconfig]
  log := ⟨l, by rw [Conn.leave_log, hlog], hl⟩
  main := by simp
  greeting := fun b hm => by cases hm
  serving := fun hm => by cases hm
  tasks := fun hne => .inl fun hnil => hne (by
    rcases s₁.leave_tasks exc with he | he <;> rw [he, htasks, hnil]
    rfl)

theorem Conn.Follows.sends {s s₁ s' : Conn} {frame sent : Frame} {size : ℕ} {draining : MainPhase}
    (ht : s.Takes frame size s₁) (hs : s₁.Sends sent draining s') (hmain : s.main.serving = true)
    (hdraining : draining = .replying) : s.Follows s' := by
  obtain ⟨reader, body, -, -, -, hle, rfl⟩ := ht
  have hread : (Entry.received frame size).Within s.config.maxFrameSize ∧
      (s.main.serving = false → s.tasks = [] →
        ∃ f b, Entry.received frame size = .wrote none f b) :=
    ⟨hle, fun hf => by simp [hmain] at hf⟩
  have hl : ∀ e ∈ [Entry.received frame size], e.Within s.config.maxFrameSize ∧
      (s.main.serving = false → s.tasks = [] → ∃ f b, e = .wrote none f b) := by
    intro e he
    rw [List.mem_singleton.mp he]
    exact hread
  cases hs with
  | refused e _ _ => exact .leave _ rfl rfl hl rfl
  | closed _ => exact .leave _ rfl rfl hl rfl
  | wrote bytes _ hb =>
    subst hdraining
    exact {
      config := rfl
      log := by
        refine ⟨[.received frame size, .wrote none sent bytes], by simp [Conn.record], ?_⟩
        intro e he
        rcases List.mem_cons.mp he with rfl | he
        · exact hread
        · rw [List.mem_singleton.mp he]
          exact ⟨hb, fun hf => by simp [hmain] at hf⟩
      main := by simp
      greeting := fun b hm => by cases hm
      serving := fun _ => .inl hmain
      tasks := fun _ => .inr hmain }

theorem Conn.Follows.finish {s : Conn} (group raised : List Exc) :
    s.Follows (s.finish group raised) := by
  rcases s.finish_main group raised with ⟨-, he⟩ | he <;> rw [he]
  · exact ⟨rfl, ⟨[], by simp, by simp⟩, by simp, fun b hm => (by cases hm), fun hm => (by cases hm),
      .inl⟩
  · exact ⟨rfl, ⟨[], by simp, by simp⟩, by simp, fun b hm => (by cases hm), fun hm => (by cases hm),
      .inl⟩

theorem MainPhase.serving_of_reporting {main : MainPhase} (h : main.reporting = true) :
    main.serving = false := by
  cases main <;> first | rfl | cases h

theorem Conn.Follows.reportsError {s : Conn} {frame : Frame} {bytes : Bytes} {main : MainPhase}
    (hb : frame.encode s.config.maxFrameSize = .ok bytes) (hreporting : main.reporting = true) :
    s.Follows { s.record (.wrote none frame bytes) with main := main } where
  config := rfl
  log := by
    refine ⟨[.wrote none frame bytes], rfl, fun e he => ?_⟩
    rw [List.mem_singleton.mp he]
    exact ⟨hb, fun _ _ => ⟨frame, bytes, rfl⟩⟩
  main := fun hm => by
    have hm : main = .handshake := hm
    simp [hm, MainPhase.reporting] at hreporting
  greeting := fun b hm => by
    have hm : main = .greeting b := hm
    simp [hm, MainPhase.reporting] at hreporting
  serving := fun hm => by
    have hm : main.serving = true := hm
    rw [MainPhase.serving_of_reporting hreporting] at hm
    cases hm
  tasks := .inl

theorem Conn.Follows.reportsProtocol {s s' : Conn} {group raised : List Exc}
    (hs : s.ReportsProtocol group raised s') : s.Follows s' := by
  cases hs with
  | none _ => exact .finish _ _
  | closed _ => exact .finish _ _
  | refused e x _ _ _ => exact .finish _ _
  | wrote e bytes _ _ hb => exact .reportsError hb rfl

theorem Conn.Follows.task {s s' : Conn} {i : ℕ} {t : Task} {l : List Entry}
    (ht : s.tasks[i]? = some t) (hgreeted : s.main.greeted = true) (hconfig : s'.config = s.config)
    (hmain : s'.main = s.main ∨ (s.main = .acquiring ∧ s'.main = .granted))
    (hlog : s'.log = s.log ++ l) (hl : ∀ e ∈ l, e.Within s.config.maxFrameSize) : s.Follows s' := by
  have hne : s.tasks ≠ [] := fun hnil => by
    rw [hnil] at ht
    cases ht
  constructor
  · exact hconfig
  · exact ⟨l, hlog, fun e he => ⟨hl e he, fun _ hnil => absurd hnil hne⟩⟩
  · rcases hmain with he | ⟨-, he⟩
    · exact fun hm => by simp [← he, hm, MainPhase.greeted] at hgreeted
    · exact fun hm => absurd (he.symm.trans hm) (by simp)
  · rcases hmain with he | ⟨-, he⟩
    · exact fun b hm => he ▸ hm
    · exact fun b hm => absurd (he.symm.trans hm) (by simp)
  · rcases hmain with he | ⟨he, -⟩
    · exact fun hm => .inl (he ▸ hm)
    · exact fun _ => .inl (by rw [he]; rfl)
  · exact fun _ => .inl hne

theorem Conn.Follows.endTask {s s₁ : Conn} {i : ℕ} {t : Task} {l : List Entry}
    (ht : s.tasks[i]? = some t) (hgreeted : s.main.greeted = true) (phase : TaskPhase)
    (hconfig : s₁.config = s.config) (hmain : s₁.main = s.main) (hlog : s₁.log = s.log ++ l)
    (hl : ∀ e ∈ l, e.Within s.config.maxFrameSize) : s.Follows (s₁.endTask i t phase) := by
  refine .task (l := l ++ [.released i]) ht hgreeted ?_ ?_ ?_ ?_
  · simp [Conn.endTask, Conn.setTask, hconfig]
  · rcases (s₁.setTask i { t with phase := phase, cancelRequested := false }).release_main i with
      he | ⟨ha, -, he⟩
    · exact .inl (he.trans hmain)
    · exact .inr ⟨hmain.symm.trans ha, he⟩
  · simp [Conn.endTask, Conn.setTask, hlog]
  · exact List.forall_mem_append.mpr ⟨hl, List.forall_mem_singleton.mpr trivial⟩

/-- What every step after the handshake keeps. -/
theorem Conn.Move.follows {s s' : Conn} {ev : Event} (hm : s.Move ev s') (hco : Coherent s)
    (hmain : s.main ≠ .handshake) : s.Follows s' := by
  have hnil : ∀ e ∈ ([] : List Entry), e.Within s.config.maxFrameSize ∧
      (s.main.serving = false → s.tasks = [] → ∃ f b, e = .wrote none f b) := by simp
  cases hm with
  | cancelled io _ _ => exact .leave _ rfl (List.append_nil _).symm hnil rfl
  | slotReturned io _ _ => exact .leave _ rfl (List.append_nil _).symm hnil rfl
  | broken text _ _ => exact .leave _ rfl (List.append_nil _).symm hnil rfl
  | ends _ _ => exact .leave _ rfl (List.append_nil _).symm hnil rfl
  | noSemaphore _ _ _ => exact .leave _ rfl (List.append_nil _).symm hnil rfl
  | serves hgreeting _ _ =>
    have hacq := ({ s with slots := s.config.limit.toNat } : Conn).acquire_main
    refine ⟨by simp, ⟨[], by simp, by simp⟩, fun hm => ?_, fun b hm => ?_, fun _ => .inr hgreeting,
      fun hne => .inl (by simpa using hne)⟩
    · rcases hacq with he | he <;> exact absurd (he.symm.trans hm) (by simp)
    · rcases hacq with he | he <;> exact absurd (he.symm.trans hm) (by simp)
  | reads io hgranted _ =>
    exact ⟨rfl, ⟨[], by simp, by simp⟩, by simp, fun b hm => (by cases hm),
      fun _ => .inl (by rw [hgranted]; rfl), .inl⟩
  | decodeFails e reader _ _ _ => exact .leave _ rfl (List.append_nil _).symm hnil rfl
  | helloFails s₁ frame size hello e hm _ _ _ _ => exact absurd hm hmain
  | greets s₁ s' frame size hello config hm _ _ _ _ _ _ => exact absurd hm hmain
  | incompatible s₁ s' frame size hello config code message hm _ _ _ _ _ _ => exact absurd hm hmain
  | notHello s₁ s' frame size code message hm _ _ _ _ _ => exact absurd hm hmain
  | dispatches s₁ frame size messages hreading hc ht hp =>
    obtain ⟨reader, body, -, -, -, hle, rfl⟩ := ht
    have hserving : s.main.serving = true := by rw [hreading]; rfl
    have hacq := ({ s with
      reader := reader, log := s.log ++ [.received frame size],
      tasks := s.tasks ++ [Task.new frame.metadata messages] } : Conn).acquire_main
    refine ⟨by simp, ⟨[.received frame size], by simp, fun e he => ?_⟩, fun hm => ?_,
      fun b hm => ?_, fun _ => .inl hserving, fun _ => .inr hserving⟩
    · rw [List.mem_singleton.mp he]
      exact ⟨hle, fun hf => by simp [hserving] at hf⟩
    · rcases hacq with he | he <;> exact absurd (he.symm.trans hm) (by simp)
    · rcases hacq with he | he <;> exact absurd (he.symm.trans hm) (by simp)
  | replies s₁ s' frame size code message hreading _ ht _ _ hs =>
    exact .sends ht hs (by rw [hreading]; rfl) rfl
  | reports s' io exc hexiting hdone hr =>
    cases hr with
    | none s' _ hn => exact .reportsProtocol hn
    | closed s' _ hn => exact .reportsProtocol hn
    | refused e x s' _ _ _ hn => exact .reportsProtocol hn
    | wrote e bytes _ _ hb => exact .reportsError hb rfl
  | reportsNext s' io group hreporting hr => exact .reportsProtocol hr
  | reported io group raised hreporting => exact .finish _ _
  | closes io hclosing =>
    exact ⟨rfl, ⟨[], by simp, by simp⟩, by simp, fun b hm => (by cases hm),
      fun hm => (by cases hm), .inl⟩
  | neverStarts i t ht hphase hc =>
    exact .task ht (hco.greeted_of_task ht) rfl (.inl rfl) (List.append_nil _).symm (by simp)
  | starts i t ht hphase hc =>
    exact .task (l := [.invoked i]) ht (hco.greeted_of_task ht) rfl (.inl rfl) rfl
      (by simp [Entry.Within])
  | goesOn i t ht hphase =>
    exact .task ht (hco.greeted_of_task ht) rfl (.inl rfl) (List.append_nil _).symm (by simp)
  | ackFails i t actions e ht hphase _ =>
    exact .endTask (l := [.answered i actions]) ht (hco.greeted_of_task ht) _ rfl rfl rfl
      (by simp [Entry.Within])
  | ackSkipped i t actions ht hphase _ =>
    exact .endTask (l := [.answered i actions]) ht (hco.greeted_of_task ht) _ rfl rfl rfl
      (by simp [Entry.Within])
  | acks i t actions frame bytes ht hphase hack =>
    exact .task (l := [.answered i actions, .wrote (some i) frame bytes]) ht
      (hco.greeted_of_task ht) rfl (.inl rfl) (by simp [Conn.record, Conn.setTask])
      (by simp [Entry.Within, (ackToSend_ackOf (ackToSend_some hack)).2])
  | handlerRaises i t e ht hphase =>
    exact .endTask ht (hco.greeted_of_task ht) _ rfl rfl (List.append_nil _).symm (by simp)
  | handlerCancelled i t ht hphase =>
    exact .endTask ht (hco.greeted_of_task ht) _ rfl rfl (List.append_nil _).symm (by simp)
  | drainCancelled i t io ht hphase _ =>
    exact .endTask ht (hco.greeted_of_task ht) _ rfl rfl (List.append_nil _).symm (by simp)
  | drained i t ht hphase _ =>
    exact .endTask ht (hco.greeted_of_task ht) _ rfl rfl (List.append_nil _).symm (by simp)
  | drainBroken i t text ht hphase _ =>
    exact .endTask ht (hco.greeted_of_task ht) _ rfl rfl (List.append_nil _).symm (by simp)
  | failureSeen i t e ht hphase _ _ =>
    exact .task ht (hco.greeted_of_task ht) rfl (.inl rfl) (List.append_nil _).symm (by simp)
  | failureAdded i t e ht hphase hnew ha =>
    exact .task ht (hco.greeted_of_task ht) rfl (.inl rfl) (List.append_nil _).symm (by simp)
  | endSeen i t ht hphase hnew =>
    exact .task ht (hco.greeted_of_task ht) rfl (.inl rfl) (List.append_nil _).symm (by simp)
  | lost => exact ⟨rfl, ⟨[], by simp, by simp⟩, hmain, fun b hm => hm, .inl, .inl⟩

/-! ### What the handshake makes of the first frame -/

/-- The way to the read loop is open, or has been. -/
def Conn.Opened (s : Conn) : Prop :=
  s.main = .greeting false ∨ s.main.serving = true ∨ s.tasks ≠ []

theorem Conn.Follows.opened {s s' : Conn} (h : s.Follows s') (ho : s'.Opened) : s.Opened := by
  rcases ho with hm | hm | hne
  · exact .inl (h.greeting false hm)
  · exact (h.serving hm).elim (fun hs => .inr (.inl hs)) .inl
  · exact (h.tasks hne).elim (fun hs => .inr (.inr hs)) fun hs => .inr (.inl hs)

/-- Before the way is open the connection writes its own frames only. -/
theorem Conn.Follows.own {s s' : Conn} (h : s.Follows s') (hclosed : ¬s.Opened) :
    ∃ l, s'.log = s.log ++ l ∧ ∀ e ∈ l, ∃ frame bytes, e = .wrote none frame bytes := by
  obtain ⟨l, hlog, hl⟩ := h.log
  have hserving : s.main.serving = false := by
    by_contra hs
    exact hclosed (.inr (.inl (by simpa using hs)))
  have htasks : s.tasks = [] := by
    by_contra hne
    exact hclosed (.inr (.inr hne))
  exact ⟨l, hlog, fun e he => (hl e he).2 hserving htasks⟩

/-- A connection that negotiates with `config`. -/
structure Negotiates (config : ServerConfiguration) (s : Conn) (frame : Frame)
    (hello : HaproxyHello) (rest : List Entry) : Prop where
  payload : frame.payload = .haproxyHello hello
  config : config.negotiateServerCompatibility hello.supportedVersions hello.maxFrameSize
    hello.capabilities = .ok s.config
  within : ∀ e ∈ rest, e.Within s.config.maxFrameSize
  opened : s.Opened → s.config.serverCompatible = true ∧ hello.healthcheck.truthy = false ∧
    ∃ bytes rest', rest = .wrote none (agentHelloFrame s.config) bytes :: rest'

/-- What has become of the first frame. -/
inductive FirstFrame (config : ServerConfiguration) (s : Conn) : Prop
  | unread (hconfig : s.config = config) (hfresh : s.main = .handshake → s.log = [])
      (hlog : ∀ e ∈ s.log, ∃ frame bytes, e = .wrote none frame bytes) (hclosed : ¬s.Opened)
  | refused (frame : Frame) (size : ℕ) (rest : List Entry) (hmain : s.main ≠ .handshake)
      (hlog : s.log = .received frame size :: rest)
      (hpayload : ∀ hello, frame.payload ≠ .haproxyHello hello) (hclosed : ¬s.Opened)
  | broke (frame : Frame) (size : ℕ) (hlog : s.log = [.received frame size])
      (hmain : (∃ e, s.main = .exiting (some e) ∧ (e.cls = .typeError ∨ e.cls = .valueError)) ∨
        ∃ group, s.main = .failed group) (htasks : s.tasks = []) (hclosed : ¬s.Opened)
  | negotiated (frame : Frame) (size : ℕ) (hello : HaproxyHello) (rest : List Entry)
      (hmain : s.main ≠ .handshake) (hlog : s.log = .received frame size :: rest)
      (hn : Negotiates config s frame hello rest)

theorem Conn.leave_not_opened {s : Conn} (exc : Option Exc) (htasks : s.tasks = []) :
    ¬(s.leave exc).Opened := by
  rintro (hm | hm | hne)
  · cases hm
  · cases hm
  · exact Conn.leave_nil hne htasks

/-- A connection that has failed to negotiate reports to no one. -/
theorem Conn.broke_step {s s' : Conn} {ev : Event} (hs : s.step ev = some s') (hco : Coherent s)
    (hmain : (∃ e, s.main = .exiting (some e) ∧ (e.cls = .typeError ∨ e.cls = .valueError)) ∨
      ∃ group, s.main = .failed group) (htasks : s.tasks = []) :
    s'.log = s.log ∧ s'.tasks = [] ∧
      ((∃ e, s'.main = .exiting (some e) ∧ (e.cls = .typeError ∨ e.cls = .valueError)) ∨
        ∃ group, s'.main = .failed group) := by
  cases ev with
  | lost =>
    cases hs
    exact ⟨rfl, htasks, hmain⟩
  | main io =>
    rcases hmain with ⟨e, hm, hcls⟩ | ⟨group, hm⟩
    · have herrors : s.errors = [] := by
        refine List.eq_nil_iff_forall_not_mem.mpr fun x hx => ?_
        obtain ⟨t, ht, -⟩ := hco.errors_raised x hx
        rw [htasks] at ht
        cases ht
      have hbig : e.cls ≠ .spopFrameTooBigError := by rcases hcls with h | h <;> simp [h]
      have hspoe : e.isSpoeForgeError = false := by
        rcases hcls with h | h <;> simp [Exc.isSpoeForgeError, h]
      have hun : unhandled [e] = [e] := by
        rcases hcls with h | h <;> simp [unhandled, hspoe, h]
      have hstep : s.mainStep io = some { s with main := .failed [e] } := by
        simp [Conn.mainStep, hm, htasks, Conn.group, herrors, Conn.tooBigClause, hbig,
          Conn.protocolClause, Exc.isProtocolError, hspoe, Conn.finish, hun]
      have hs : s.mainStep io = some s' := hs
      rw [hstep] at hs
      cases hs
      exact ⟨rfl, htasks, .inr ⟨_, rfl⟩⟩
    · simp [Conn.step, Conn.mainStep, hm] at hs
  | start i => simp [Conn.step, htasks] at hs
  | handler i outcome => simp [Conn.step, htasks] at hs
  | drained i io => simp [Conn.step, htasks] at hs
  | done i => simp [Conn.step, htasks] at hs

section Handshake

variable {config : ServerConfiguration} {s s' : Conn}

theorem FirstFrame.leave {s₁ : Conn} (exc : Option Exc) (hconfig : s₁.config = config)
    (hlog : s₁.log = []) (htasks : s₁.tasks = []) : FirstFrame config (s₁.leave exc) :=
  .unread (by rw [Conn.leave_config, hconfig]) (fun hm => (by cases hm))
    (by rw [Conn.leave_log, hlog]; simp) (Conn.leave_not_opened exc htasks)

theorem FirstFrame.answers {s₁ : Conn} {frame sent : Frame} {size : ℕ} {hello : HaproxyHello}
    {draining : MainPhase} (hs : s₁.Sends sent draining s')
    (hpayload : frame.payload = .haproxyHello hello)
    (hn : config.negotiateServerCompatibility hello.supportedVersions hello.maxFrameSize
      hello.capabilities = .ok s₁.config)
    (hlog : s₁.log = [.received frame size]) (htasks : s₁.tasks = [])
    (hdraining : draining ≠ .handshake) (hserving : draining.serving = false)
    (hopened : draining = .greeting false → s₁.config.serverCompatible = true ∧
      hello.healthcheck.truthy = false ∧ sent = agentHelloFrame s₁.config) :
    FirstFrame config s' := by
  have hleave : ∀ exc, FirstFrame config (s₁.leave exc) := by
    intro exc
    refine .negotiated frame size hello [] (by simp) (by rw [Conn.leave_log, hlog])
      ⟨hpayload, by rw [Conn.leave_config, hn], by simp, fun ho => ?_⟩
    exact absurd ho (Conn.leave_not_opened exc htasks)
  cases hs with
  | refused e _ _ => exact hleave _
  | closed _ => exact hleave _
  | wrote bytes _ hb =>
    refine .negotiated frame size hello [.wrote none sent bytes] hdraining
      (by simp [Conn.record, hlog]) ⟨hpayload, hn, fun e he => ?_, fun ho => ?_⟩
    · rw [List.mem_singleton.mp he]
      exact hb
    · rcases ho with hm | hm | hne
      · obtain ⟨hcompatible, hhealth, rfl⟩ := hopened hm
        exact ⟨hcompatible, hhealth, bytes, [], rfl⟩
      · have hm : draining.serving = true := hm
        rw [hserving] at hm
        cases hm
      · exact absurd htasks hne

/-- The handshake refuses a frame that is no HELLO. -/
theorem FirstFrame.refuses {s₁ : Conn} {frame sent : Frame} {size : ℕ}
    (hs : s₁.Sends sent .refusing s') (hpayload : ∀ hello, frame.payload ≠ .haproxyHello hello)
    (hlog : s₁.log = [.received frame size]) (htasks : s₁.tasks = []) : FirstFrame config s' := by
  cases hs with
  | refused e _ _ =>
    exact .refused frame size [] (by simp) (by rw [Conn.leave_log, hlog]) hpayload
      (Conn.leave_not_opened _ htasks)
  | closed _ =>
    exact .refused frame size [] (by simp) (by rw [Conn.leave_log, hlog]) hpayload
      (Conn.leave_not_opened _ htasks)
  | wrote bytes _ _ =>
    refine .refused frame size [.wrote none sent bytes] (by simp) (by simp [Conn.record, hlog])
      hpayload ?_
    rintro (hm | hm | hne)
    · cases hm
    · cases hm
    · exact hne htasks

theorem FirstFrame.handshake {ev : Event} (hm : s.Move ev s') (hmain : s.main = .handshake)
    (hlog : s.log = []) (htasks : s.tasks = []) (hconfig : s.config = config)
    (hversion : config.version = SPOE_VERSION) : FirstFrame config s' := by
  have hnone : ∀ {i : ℕ} {t : Task}, s.tasks[i]? ≠ some t := by simp [htasks]
  cases hm with
  | cancelled io _ _ => exact .leave _ hconfig hlog htasks
  | broken text _ _ => exact .leave _ hconfig hlog htasks
  | decodeFails e reader _ _ _ => exact .leave _ hconfig hlog htasks
  | helloFails s₁ frame size hello e _ _ ht hp hfails =>
    obtain ⟨reader, body, -, -, -, -, rfl⟩ := ht
    refine .broke frame size (by rw [Conn.leave_log, hlog]; rfl) (.inl ⟨e, rfl, ?_⟩) ?_
      (Conn.leave_not_opened _ htasks)
    · exact negotiate_fails (by rw [hconfig, hversion]) hfails
    · by_contra hne
      exact Conn.leave_nil hne htasks
  | greets s₁ s' frame size hello config' _ _ ht hp hn hcompatible hs =>
    obtain ⟨reader, body, -, -, -, -, rfl⟩ := ht
    refine .answers hs hp (hconfig ▸ hn) (by rw [hlog]; rfl) htasks (by simp) rfl fun he => ?_
    exact ⟨hcompatible, by simpa using he, rfl⟩
  | incompatible s₁ s' frame size hello config' code message _ _ ht hp hn _ hs =>
    obtain ⟨reader, body, -, -, -, -, rfl⟩ := ht
    exact .answers hs hp (hconfig ▸ hn) (by rw [hlog]; rfl) htasks (by simp) rfl (by simp)
  | notHello s₁ s' frame size code message _ _ ht hp _ hs =>
    obtain ⟨reader, body, -, -, -, -, rfl⟩ := ht
    exact .refuses hs hp (by rw [hlog]; rfl) htasks
  | lost =>
    refine .unread hconfig (fun _ => hlog) (by simp [hlog]) ?_
    rintro (hm | hm | hne)
    · exact absurd (hmain.symm.trans hm) (by simp)
    · have hm : s.main.serving = true := hm
      simp [hmain, MainPhase.serving] at hm
    · exact hne htasks
  | slotReturned io hm _ => simp [hmain] at hm
  | ends hm _ => simp [hmain] at hm
  | noSemaphore hm _ _ => simp [hmain] at hm
  | serves hm _ _ => simp [hmain] at hm
  | reads io hm _ => simp [hmain] at hm
  | dispatches s₁ frame size messages hm _ _ _ => simp [hmain] at hm
  | replies s₁ s' frame size code message hm _ _ _ _ _ => simp [hmain] at hm
  | reports s' io exc hm _ _ => simp [hmain] at hm
  | reportsNext s' io group hm _ => simp [hmain] at hm
  | reported io group raised hm => simp [hmain] at hm
  | closes io hm => simp [hmain] at hm
  | neverStarts i t ht _ _ => exact absurd ht hnone
  | starts i t ht _ _ => exact absurd ht hnone
  | goesOn i t ht _ => exact absurd ht hnone
  | ackFails i t actions e ht _ _ => exact absurd ht hnone
  | ackSkipped i t actions ht _ _ => exact absurd ht hnone
  | acks i t actions frame bytes ht _ _ => exact absurd ht hnone
  | handlerRaises i t e ht _ => exact absurd ht hnone
  | handlerCancelled i t ht _ => exact absurd ht hnone
  | drainCancelled i t io ht _ _ => exact absurd ht hnone
  | drained i t ht _ _ => exact absurd ht hnone
  | drainBroken i t text ht _ _ => exact absurd ht hnone
  | failureSeen i t e ht _ _ _ => exact absurd ht hnone
  | failureAdded i t e ht _ _ _ => exact absurd ht hnone
  | endSeen i t ht _ _ => exact absurd ht hnone

theorem FirstFrame.step {ev : Event} (h : FirstFrame config s) (hs : s.step ev = some s')
    (hco : Coherent s) (hversion : config.version = SPOE_VERSION) : FirstFrame config s' := by
  have hm := Conn.step_move hs
  cases h with
  | unread hconfig hfresh hlog hclosed =>
    by_cases hmain : s.main = .handshake
    · have htasks : s.tasks = [] := hco.idle (by simp [hmain, MainPhase.greeted])
      exact .handshake hm hmain (hfresh hmain) htasks hconfig hversion
    · have hf := hm.follows hco hmain
      obtain ⟨l, hl, hown⟩ := hf.own hclosed
      refine .unread (by rw [hf.config, hconfig]) (fun he => absurd he hf.main) (fun e he => ?_)
        (fun ho => hclosed (hf.opened ho))
      rw [hl] at he
      exact (List.mem_append.mp he).elim (hlog e) (hown e)
  | refused frame size rest hmain hlog hpayload hclosed =>
    have hf := hm.follows hco hmain
    obtain ⟨l, hl, -⟩ := hf.own hclosed
    exact .refused frame size (rest ++ l) hf.main (by rw [hl, hlog, List.cons_append]) hpayload
      (fun ho => hclosed (hf.opened ho))
  | broke frame size hlog hmain htasks hclosed =>
    obtain ⟨hl, ht, hm'⟩ := Conn.broke_step hs hco hmain htasks
    refine .broke frame size (hl.trans hlog) hm' ht ?_
    rintro (hm | hm | hne)
    · rcases hm' with ⟨e, he, -⟩ | ⟨g, he⟩ <;> exact absurd (he.symm.trans hm) (by simp)
    · rcases hm' with ⟨e, he, -⟩ | ⟨g, he⟩ <;> simp [he, MainPhase.serving] at hm
    · exact hne ht
  | negotiated frame size hello rest hmain hlog hn =>
    have hf := hm.follows hco hmain
    obtain ⟨l, hl, hwithin⟩ := hf.log
    refine .negotiated frame size hello (rest ++ l) hf.main (by rw [hl, hlog, List.cons_append]) ?_
    refine ⟨hn.payload, by rw [hf.config, hn.config], fun e he => ?_, fun ho => ?_⟩
    · rw [hf.config]
      exact (List.mem_append.mp he).elim (hn.within e) fun hel => (hwithin e hel).1
    · obtain ⟨hcompatible, hhealth, bytes, rest', hrest⟩ := hn.opened (hf.opened ho)
      exact ⟨by rw [hf.config, hcompatible], hhealth, bytes, rest' ++ l,
        by rw [hf.config, hrest, List.cons_append]⟩

end Handshake

theorem FirstFrame.reachable {m c : ℤ} {inbound : Bytes} {s : Conn}
    (h : Reaches Conn.step (Conn.init m c inbound) s) : FirstFrame (.init m c) s := by
  refine invariant (fun _ _ _ hr hi hs => hi.step hs (Coherent.reachable hr) rfl) ?_ h
  refine .unread rfl (fun _ => rfl) (by simp [Conn.init]) ?_
  rintro (hm | hm | hne)
  · cases hm
  · cases hm
  · exact hne rfl

/-! ### The gate -/

theorem Negotiates.negotiated {config : ServerConfiguration} {s : Conn} {frame : Frame}
    {hello : HaproxyHello} {rest : List Entry} (h : Negotiates config s frame hello rest) :
    Negotiated config s.config hello.supportedVersions hello.maxFrameSize hello.capabilities :=
  negotiate_ok h.config

theorem Historied.task_of_mem {s : Conn} (h : Historied s) {i : ℕ} {e : Entry} (he : e ∈ s.log)
    (hi : e.isOf i = true) : s.tasks ≠ [] := by
  intro hnil
  have hmem : e ∈ s.history i := Conn.mem_history.mpr ⟨he, hi⟩
  have hnone := h i
  simp only [Conn.taskAt, hnil, List.getElem?_nil, Option.map_none] at hnone
  rw [hnone] at hmem
  cases hmem

theorem Conn.ack_task {s : Conn} (hd : Dispatched s) (hh : Historied s) (h : s.acks ≠ []) :
    s.tasks ≠ [] := by
  rw [Conn.acks_eq hd hh] at h
  have hne : s.ackedBy ≠ [] := fun hnil => h (by rw [hnil]; rfl)
  obtain ⟨⟨i, frame⟩, hmem⟩ := List.exists_mem_of_ne_nil _ hne
  obtain ⟨bytes, hw⟩ := Conn.mem_ackedBy.mp hmem
  exact hh.task_of_mem (i := i) hw (by simp [Entry.isOf])

/-- A handler is invoked and an ACK written only after a HELLO that negotiated as compatible
and was no healthcheck, and after AGENT-HELLO. Every frame written or accepted after a HELLO
was processed has a body within both sizes. -/
theorem handshake_gate (m c : ℤ) (inbound : Bytes) (s : Conn)
    (h : Reaches Conn.step (Conn.init m c inbound) s) :
    ((∃ i, .invoked i ∈ s.log) ∨ s.acks ≠ [] →
      ∃ frame size hello bytes rest,
        s.log = .received frame size :: .wrote none (agentHelloFrame s.config) bytes :: rest ∧
        frame.payload = .haproxyHello hello ∧ hello.healthcheck.truthy = false ∧
        (ServerConfiguration.init m c).negotiateServerCompatibility hello.supportedVersions
          hello.maxFrameSize hello.capabilities = .ok s.config ∧
        s.config.serverCompatible = true ∧ s.config.version = SPOE_VERSION ∧
        ∀ x ∈ s.config.capabilities, x ∈ SPOE_CAPABILITIES ∧ x ∈ hello.capabilities) ∧
    (∀ frame size hello rest, s.log = .received frame size :: rest →
      frame.payload = .haproxyHello hello → ∀ e ∈ rest, ∀ len, e.bodyLength? = some len →
        (len : ℤ) ≤ m ∧ ∃ ha, hello.maxFrameSize.number? = some ha ∧ (len : ℤ) ≤ ha) := by
  have hd := Dispatched.reachable h
  have hh := Historied.reachable h
  have hf := FirstFrame.reachable h
  constructor
  · intro hused
    have htasks : s.tasks ≠ [] := by
      rcases hused with ⟨i, hi⟩ | hacks
      · exact hh.task_of_mem (i := i) hi (by simp [Entry.isOf])
      · exact Conn.ack_task hd hh hacks
    have hopened : s.Opened := .inr (.inr htasks)
    cases hf with
    | unread _ _ _ hclosed => exact absurd hopened hclosed
    | refused _ _ _ _ _ _ hclosed => exact absurd hopened hclosed
    | broke _ _ _ _ _ hclosed => exact absurd hopened hclosed
    | negotiated frame size hello rest _ hlog hn =>
      obtain ⟨hcompatible, hhealth, bytes, rest', rfl⟩ := hn.opened hopened
      refine ⟨frame, size, hello, bytes, rest', hlog, hn.payload, hhealth, hn.config, hcompatible,
        hn.negotiated.version, fun x hx => ?_⟩
      rw [hn.negotiated.capabilities] at hx
      exact ⟨(List.mem_filter.mp hx).1, of_decide_eq_true (List.mem_filter.mp hx).2⟩
  · intro frame size hello rest hlog hpayload e he len hlen
    cases hf with
    | unread _ _ hown _ =>
      obtain ⟨f, b, hw⟩ := hown (.received frame size) (by rw [hlog]; exact List.mem_cons_self ..)
      cases hw
    | refused frame' _ _ _ hlog' hno _ =>
      rw [hlog] at hlog'
      cases hlog'
      exact absurd hpayload (hno hello)
    | broke _ _ hlog' _ _ _ =>
      rw [hlog] at hlog'
      cases hlog'
      cases he
    | negotiated frame' _ hello' rest' _ hlog' hn =>
      rw [hlog] at hlog'
      cases hlog'
      have hsame := hn.payload
      rw [hpayload] at hsame
      cases hsame
      have hle := (hn.within e he).bodyLength hlen
      obtain ⟨ha, hha, hsize⟩ := hn.negotiated.size
      rw [hsize] at hle
      exact ⟨hle.trans (min_le_left _ _), ha, hha, hle.trans (min_le_right _ _)⟩

theorem handshake_gate_acknowledged :
    Conn.acknowledged.config.serverCompatible = true ∧
      Conn.acknowledged.config.version = SPOE_VERSION := by
  obtain ⟨-, -, -, -, -, -, -, -, -, hcompatible, hversion, -⟩ := (handshake_gate 16384 2
    (Conn.onFrames 16384 2 [helloFrame 16384 [PIPELINING], notifyFrame 7 1]).reader.buffer
    Conn.acknowledged
    ⟨[.main .ok, .main .ok, .main .ok, .start 0, .handler 0 (.returned (some []))],
      by decide +kernel⟩).1 (.inr (by decide +kernel))
  exact ⟨hcompatible, hversion⟩

end SpoeForge
