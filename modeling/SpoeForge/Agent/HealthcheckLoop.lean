import SpoeForge.Agent.Healthcheck

/-!
# The health check of this agent

The request of `healthcheck` at a connection of the agent, under every interleaving and
every fault of the transport: no task is created, and the check passes exactly for limits
that hold the request, whether or not the agent can serve.
-/

namespace SpoeForge

open Fallible Grammar Runs

/-- What the health check makes of the bytes that the connection has written. -/
def Conn.verdict (s : Conn) : Except Exc (Bool × List Str) :=
  healthcheck ⟨.ok (), .ok (), .ok ⟨s.output⟩, .ok ()⟩ true

/-! ### Winding up -/

/-- A connection without tasks that goes on to its end writes disconnects only. -/
structure Conn.Winds (s s' : Conn) : Prop where
  main : s'.main = s.main ∨ s'.main.left = true
  tasks : s'.tasks = []
  config : s'.config = s.config
  sent : ∃ l, s'.sent = s.sent ++ l ∧ ∀ f ∈ l, f.frameType = .agentDisconnect ∧ f.Carried

section Winds

variable {s s' : Conn}

theorem Conn.Winds.silent (hmain : s'.main = s.main ∨ s'.main.left = true) (ht : s'.tasks = [])
    (hconfig : s'.config = s.config) (hlog : s'.log = s.log) : s.Winds s' :=
  ⟨hmain, ht, hconfig, [], by rw [Conn.sent, hlog, List.append_nil, Conn.sent],
    List.forall_mem_nil _⟩

theorem Conn.leave_no_tasks (exc : Option Exc) (ht : s.tasks = []) : (s.leave exc).tasks = [] := by
  rcases s.leave_tasks exc with h | h <;> rw [h, ht]
  rfl

theorem Conn.Winds.leave (exc : Option Exc) (ht : s.tasks = []) : s.Winds (s.leave exc) :=
  .silent (.inr rfl) (Conn.leave_no_tasks exc ht) (s.leave_config exc) (s.leave_log exc)

theorem Conn.Winds.finish (group raised : List Exc) (ht : s.tasks = []) :
    s.Winds (s.finish group raised) := by
  rcases s.finish_main group raised with ⟨-, he⟩ | he <;> rw [he] <;>
    exact .silent (.inr rfl) ht rfl rfl

theorem Conn.Winds.reportsError {code : DisconnectCode} {e : Exc} {bytes : Bytes}
    {main : MainPhase} (hmain : main.left = true) (ht : s.tasks = []) :
    s.Winds { s.record (.wrote none (errorFrame code e) bytes) with main := main } := by
  refine ⟨.inr hmain, ht, rfl, [errorFrame code e], ?_, ?_⟩
  · simp [Conn.sent, Conn.record, Entry.wrote?]
  · exact List.forall_mem_singleton.mpr ⟨rfl, disconnectFrame_carried _ _⟩

theorem Conn.ReportsProtocol.winds {group raised : List Exc}
    (hr : s.ReportsProtocol group raised s') (ht : s.tasks = []) : s.Winds s' := by
  cases hr with
  | none _ | closed _ | refused e x _ _ _ => exact .finish _ _ ht
  | wrote e bytes _ _ _ => exact .reportsError rfl ht

theorem Conn.Reports.winds {group : List Exc} (hr : s.Reports group s') (ht : s.tasks = []) :
    s.Winds s' := by
  cases hr with
  | none s' _ hn | closed s' _ hn | refused e x s' _ _ _ hn => exact hn.winds ht
  | wrote e bytes _ _ _ => exact .reportsError rfl ht

/-- A step of a connection without tasks is one of its coroutine, or the transport closes. -/
theorem Conn.step_no_tasks {ev : Event} (ht : s.tasks = []) (hs : s.step ev = some s') :
    (ev = .lost ∧ s' = { s with writerClosing := true }) ∨
      ∃ io, ev = .main io ∧ s.mainStep io = some s' := by
  cases ev with
  | main io => exact .inr ⟨io, rfl, hs⟩
  | lost =>
    cases hs
    exact .inl ⟨rfl, rfl⟩
  | start i | handler i outcome | drained i io | done i => simp [Conn.step, ht] at hs

theorem Conn.step_winds {ev : Event} (ht : s.tasks = [])
    (hmain : s.main = .greeting true ∨ s.main.left = true) (hs : s.step ev = some s') :
    s.Winds s' := by
  rcases Conn.step_no_tasks ht hs with ⟨-, rfl⟩ | ⟨io, -, hs⟩
  · exact .silent (.inl rfl) ht rfl rfl
  · unfold Conn.mainStep at hs
    cases hphase : s.main <;> simp only [hphase] at hs hmain
    case greeting healthcheck =>
      have htrue : healthcheck = true := by simpa [MainPhase.left] using hmain
      subst htrue
      rw [if_pos rfl, Option.some.injEq] at hs
      subst hs
      unfold Conn.bodyResumes
      split
      · exact .leave _ ht
      · cases io <;> exact .leave _ ht
    case exiting exc =>
      split at hs
      · cases hs
        exact (s.tooBigClause_reports _).winds ht
      · cases hs
    case reportingTooBig group =>
      cases hs
      exact (s.protocolClause_reports _ _).winds ht
    case reportingProtocol group raised =>
      cases hs
      exact .finish _ _ ht
    case closing =>
      cases hs
      exact .silent (.inr rfl) ht rfl rfl
    all_goals simp [MainPhase.left] at hmain hs

end Winds

/-! ### The request -/

/-- A connection on which the peer sends the request of the health check. -/
inductive Checked (m c : ℤ) (s : Conn) : Prop
  | asked (hmain : s.main = .handshake) (hc : s.mainCancelled = false)
      (hreader : s.reader = ⟨healthcheckBytes⟩) (hconfig : s.config = .init m c)
      (hsent : s.sent = [])
  | greeted (hfits : 88 ≤ m) (hmain : s.main = .greeting true ∨ s.main.left = true)
      (hconfig : s.config = checkConfig m c) (rest : List Frame)
      (hsent : s.sent = agentHelloFrame (checkConfig m c) :: rest)
  | refused (hmain : s.main.left = true)
      (hsent : ∀ f ∈ s.sent, f.frameType = .agentDisconnect ∧ f.Carried)

section Request

variable {m c : ℤ} {s s' : Conn}

theorem Checked.left (hmain : s.main.left = true) (hsent : s.sent = []) : Checked m c s :=
  .refused hmain (by rw [hsent]; exact List.forall_mem_nil _)

theorem Conn.handshakeStep_request (hreader : s.reader = ⟨healthcheckBytes⟩)
    (hconfig : s.config = .init m c) (h : 88 ≤ m) :
    ∃ s₁ : Conn, s₁.tasks = s.tasks ∧ s₁.sent = s.sent ∧ s₁.writerClosing = s.writerClosing ∧
      s₁.config = checkConfig m c ∧ s.handshakeStep = s₁.bodySends
        (s₁.sendFrame none (agentHelloFrame (checkConfig m c))) (.greeting true) := by
  have hdecode : Frame.decode s.reader s.config.maxFrameSize = (.ok healthcheckHello, ⟨[]⟩) := by
    rw [hreader, hconfig]
    exact request_decode h
  have hnegotiates := request_negotiates c (m := m) (by omega)
  refine ⟨{ s with
    reader := ⟨[]⟩
    log := s.log ++ [.received healthcheckHello (s.reader.buffer.length - 0 - 4)]
    config := checkConfig m c }, rfl, by simp [Conn.sent, Entry.wrote?], rfl, rfl, ?_⟩
  have hpayload : healthcheckHello.payload = .haproxyHello ⟨[str "2.0"], .int DEFAULT_FRAME_SIZE,
      [str "pipelining"], .none, .bool true⟩ := rfl
  have hcompatible : (checkConfig m c).serverCompatible = true := rfl
  unfold Conn.handshakeStep Conn.receive
  rw [hdecode]
  simp only [hpayload, Conn.record, hconfig, hnegotiates, hcompatible, if_true]
  rfl

theorem Conn.handshakeStep_refused (hreader : s.reader = ⟨healthcheckBytes⟩)
    (hconfig : s.config = .init m c) (h : m < 88) :
    ∃ e reader, s.handshakeStep = Conn.leave { s with reader := reader } (some e) := by
  obtain ⟨e, reader, hdecode⟩ := request_refused h
  have hdecode : Frame.decode s.reader s.config.maxFrameSize = (.error e, reader) := by
    rw [hreader, hconfig]
    exact hdecode
  refine ⟨e, reader, ?_⟩
  unfold Conn.handshakeStep Conn.receive
  rw [hdecode]

theorem Conn.Sends.checked (hs : s.Sends (agentHelloFrame (checkConfig m c)) (.greeting true) s')
    (hfits : 88 ≤ m) (ht : s.tasks = []) (hconfig : s.config = checkConfig m c)
    (hsent : s.sent = []) : Checked m c s' ∧ s'.tasks = [] ∧
      (s.writerClosing = false → s'.sent = [agentHelloFrame (checkConfig m c)]) := by
  cases hs with
  | refused e _ he =>
    obtain ⟨bytes, hbytes⟩ := agentHello_encode c hfits
    rw [hconfig, hbytes] at he
    cases he
  | closed hc =>
    refine ⟨.left rfl ?_, Conn.leave_no_tasks _ ht, fun hopen => ?_⟩
    · rw [Conn.sent, Conn.leave_log]
      exact hsent
    · rw [hc] at hopen
      cases hopen
  | wrote bytes _ _ =>
    have hwritten : (s.record (.wrote none (agentHelloFrame (checkConfig m c)) bytes)).sent =
        [agentHelloFrame (checkConfig m c)] := by
      rw [Conn.sent, Conn.record_log, List.filterMap_append, ← Conn.sent, hsent]
      rfl
    exact ⟨.greeted hfits (.inl rfl) hconfig [] hwritten, ht, fun _ => hwritten⟩

/-- No fault of the transport. -/
def Event.Undisturbed : Event → Prop
  | .lost | .main (.broken _) => False
  | _ => True

theorem Conn.step_asked {ev : Event} (ht : s.tasks = []) (hmain : s.main = .handshake)
    (hc : s.mainCancelled = false) (hreader : s.reader = ⟨healthcheckBytes⟩)
    (hconfig : s.config = .init m c) (hsent : s.sent = []) (hs : s.step ev = some s') :
    Checked m c s' ∧ s'.tasks = [] ∧ (88 ≤ m → s.writerClosing = false → ev.Undisturbed →
      s'.sent = [agentHelloFrame (checkConfig m c)]) := by
  have hleave : ∀ reader exc, Checked m c (Conn.leave { s with reader := reader } exc) ∧
      (Conn.leave { s with reader := reader } exc).tasks = [] := by
    intro reader exc
    refine ⟨.left rfl ?_, Conn.leave_no_tasks exc ht⟩
    rw [Conn.sent, Conn.leave_log]
    exact hsent
  rcases Conn.step_no_tasks ht hs with ⟨rfl, rfl⟩ | ⟨io, rfl, hnext⟩
  · exact ⟨.asked hmain hc hreader hconfig hsent, ht, fun _ _ hev => hev.elim⟩
  · simp only [Conn.mainStep, hmain, Conn.bodyResumes, hc, Option.some.injEq, Bool.false_eq_true,
      if_false] at hnext
    subst hnext
    cases io with
    | broken text => exact ⟨(hleave s.reader _).1, (hleave s.reader _).2, fun _ _ hev => hev.elim⟩
    | ok =>
      dsimp only
      by_cases hfits : 88 ≤ m
      · obtain ⟨s₁, htasks, hsent₁, hclosing, hconfig₁, he⟩ :=
          Conn.handshakeStep_request hreader hconfig hfits
        obtain ⟨hchecked, hnone, hwritten⟩ := (s₁.bodySends_sends _ _).checked hfits
          (htasks.trans ht) hconfig₁ (hsent₁.trans hsent)
        rw [he]
        exact ⟨hchecked, hnone, fun _ hopen _ => hwritten (hclosing.trans hopen)⟩
      · obtain ⟨e, reader, he⟩ := Conn.handshakeStep_refused hreader hconfig (by omega)
        rw [he]
        exact ⟨(hleave reader _).1, (hleave reader _).2, fun h => absurd h hfits⟩

theorem Checked.step {ev : Event} (h : Checked m c s) (ht : s.tasks = [])
    (hs : s.step ev = some s') : Checked m c s' ∧ s'.tasks = [] := by
  cases h with
  | asked hmain hc hreader hconfig hsent =>
    obtain ⟨hchecked, hnone, -⟩ := Conn.step_asked ht hmain hc hreader hconfig hsent hs
    exact ⟨hchecked, hnone⟩
  | greeted hfits hmain hconfig rest hsent =>
    obtain ⟨hmain', hnone, hconfig', l, hl, -⟩ := Conn.step_winds ht hmain hs
    refine ⟨.greeted hfits ?_ (hconfig'.trans hconfig) (rest ++ l) ?_, hnone⟩
    · rcases hmain' with he | he
      · rwa [he]
      · exact .inr he
    · rw [hl, hsent, List.cons_append]
  | refused hmain hsent =>
    obtain ⟨hmain', hnone, -, l, hl, hclosing⟩ := Conn.step_winds ht (.inr hmain) hs
    refine ⟨.refused ?_ ?_, hnone⟩
    · rcases hmain' with he | he
      · rwa [he]
      · exact he
    · rw [hl]
      exact List.forall_mem_append.mpr ⟨hsent, hclosing⟩

theorem Checked.reachable (h : Reaches Conn.step (Conn.init m c healthcheckBytes) s) :
    Checked m c s ∧ s.tasks = [] := by
  have hstep : ∀ s ev s', Reaches Conn.step (Conn.init m c healthcheckBytes) s →
      (Checked m c s ∧ s.tasks = []) → s.step ev = some s' → Checked m c s' ∧ s'.tasks = [] :=
    fun _ _ _ _ hi hs => hi.1.step hi.2 hs
  exact invariant hstep ⟨.asked rfl rfl rfl rfl rfl, rfl⟩ h

theorem Checked.answers {events : List Event} (hfits : 88 ≤ m)
    (hu : ∀ ev ∈ events, ev.Undisturbed)
    (h : run Conn.step (Conn.init m c healthcheckBytes) events = some s) :
    (s.main = .handshake ∧ s.writerClosing = false) ∨
      ∃ rest, s.sent = agentHelloFrame (checkConfig m c) :: rest := by
  have hstep : ∀ s ev s', Reaches Conn.step (Conn.init m c healthcheckBytes) s →
      ((s.main = .handshake ∧ s.writerClosing = false) ∨
        ∃ rest, s.sent = agentHelloFrame (checkConfig m c) :: rest) → ev.Undisturbed →
      s.step ev = some s' → ((s'.main = .handshake ∧ s'.writerClosing = false) ∨
        ∃ rest, s'.sent = agentHelloFrame (checkConfig m c) :: rest) := by
    rintro s ev s' hr (⟨hmain, hopen⟩ | ⟨rest, hrest⟩) hev hs
    · obtain ⟨hchecked, ht⟩ := Checked.reachable hr
      cases hchecked with
      | asked _ hc hreader hconfig hsent =>
        exact .inr ⟨[], (Conn.step_asked ht hmain hc hreader hconfig hsent hs).2.2 hfits hopen hev⟩
      | greeted _ hmain' _ _ _ => simp [hmain, MainPhase.left] at hmain'
      | refused hmain' _ => simp [hmain, MainPhase.left] at hmain'
    · rcases (Conn.step_move hs).logsTo.output with ⟨he, -⟩ | ⟨frame, bytes, -, -, he, -⟩
      · exact .inr ⟨rest, he.trans hrest⟩
      · exact .inr ⟨rest ++ [frame], by rw [he, hrest, List.cons_append]⟩
  exact invariant_along hstep (.inl ⟨rfl, rfl⟩)
    (along_of_forall fun ev hev _ => hu ev hev) h

end Request

/-! ### The verdict -/

section Verdict

variable {s : Conn}

theorem Conn.verdict_unwritten (he : Encoded s) (hsent : s.sent = []) :
    s.verdict = .ok (false, []) := by
  have houtput : s.output = [] := by
    rw [Encoded, hsent] at he
    exact (Except.ok.inj he).symm
  rw [Conn.verdict, houtput]
  decide +kernel

theorem Conn.verdict_first (he : Encoded s) {f : Frame} {rest : List Frame}
    (hsent : s.sent = f :: rest) (hf : f.Carried) :
    (f.frameType ≠ .agentHello → s.verdict = .ok (false, [])) ∧
      (f.frameType = .agentHello → s.config.maxFrameSize ≤ DEFAULT_FRAME_SIZE →
        s.verdict = .ok (true, [])) := by
  rw [Encoded, hsent] at he
  obtain ⟨x, out, hx, -, houtput⟩ := extendAll_cons_ok.mp he
  have hframe := Frame.encode_isFrame hf hx
  have hanswers : Network.Answers ⟨.ok (), .ok (), .ok ⟨s.output⟩, .ok ()⟩ ⟨s.output⟩ := ⟨rfl, rfl, rfl⟩
  constructor
  · intro htype
    rw [Conn.verdict, healthcheck, healthcheckBody_answered hanswers, houtput]
    obtain ⟨len, body, hlen, -, hbody, rfl⟩ := hframe
    by_cases hfits : (body.length : ℤ) ≤ DEFAULT_FRAME_SIZE
    · have hsmall : IsFrame DEFAULT_FRAME_SIZE f (len ++ body) :=
        ⟨len, body, hlen, hfits, hbody, rfl⟩
      rw [hsmall.decode out]
      simp [htype, checkFailed]
    · have hbig : (body.length : ℤ) > DEFAULT_FRAME_SIZE := by omega
      have hdecode : (Frame.decode ⟨len ++ body ++ out⟩ DEFAULT_FRAME_SIZE).1 =
          .error (frameTooBig (str "Frame size " ++ natText body.length ++
            str " exceeds maximum size " ++ intText DEFAULT_FRAME_SIZE)) := by
        rw [List.append_assoc]
        simp only [Frame.decode, readexactly_prefix hlen, decodeFrameLen, hlen, if_pos hbig,
          tooBig_printable _ default_printable]
      rw [hdecode]
      rfl
  · intro htype hsize
    rw [Conn.verdict, healthcheck, healthcheckBody_answered hanswers, houtput,
      (hframe.mono hsize).decode out]
    simp [htype]

end Verdict

/-- At every point of every run of the agent on the request there is no task, so no handler runs,
and the check on what the agent has written gives a verdict, which passes only if the limit
holds the 88 bytes of the request. Undisturbed by the transport the agent that has such a
limit passes from its first step on, whatever its bound on concurrent NOTIFYs. -/
theorem healthcheck_loop (m c : ℤ) (events : List Event) (s : Conn)
    (h : run Conn.step (Conn.init m c healthcheckBytes) events = some s) :
    s.tasks = [] ∧ (∃ passed, s.verdict = .ok (passed, []) ∧ (passed = true → 88 ≤ m)) ∧
      (88 ≤ m → (∀ ev ∈ events, ev.Undisturbed) → s.main ≠ .handshake →
        s.verdict = .ok (true, [])) := by
  have hreach : Reaches Conn.step (Conn.init m c healthcheckBytes) s := ⟨events, h⟩
  have he := Encoded.reachable hreach
  obtain ⟨hchecked, ht⟩ := Checked.reachable hreach
  have hcarried : (agentHelloFrame (checkConfig m c)).Carried := agentHelloFrame_carried fun _ => id
  refine ⟨ht, ?_, fun hfits hu hmain => ?_⟩
  · cases hchecked with
    | asked _ _ _ _ hsent => exact ⟨false, Conn.verdict_unwritten he hsent, fun h => by cases h⟩
    | greeted hfits _ hconfig rest hsent =>
      have hsize : s.config.maxFrameSize ≤ DEFAULT_FRAME_SIZE := by
        rw [hconfig]
        exact min_le_right _ _
      exact ⟨true, (Conn.verdict_first he hsent hcarried).2 rfl hsize, fun _ => hfits⟩
    | refused _ hsent =>
      refine ⟨false, ?_, fun h => by cases h⟩
      cases hs : s.sent with
      | nil => exact Conn.verdict_unwritten he hs
      | cons f rest =>
        obtain ⟨htype, hf⟩ := hsent f (by rw [hs]; exact List.mem_cons_self ..)
        exact (Conn.verdict_first he hs hf).1 (by rw [htype]; decide)
  · rcases Checked.answers hfits hu h with ⟨hfresh, -⟩ | ⟨rest, hsent⟩
    · exact absurd hfresh hmain
    · cases hchecked with
      | asked hfresh _ _ _ _ => exact absurd hfresh hmain
      | greeted _ _ hconfig _ _ =>
        have hsize : s.config.maxFrameSize ≤ DEFAULT_FRAME_SIZE := by
          rw [hconfig]
          exact min_le_right _ _
        exact (Conn.verdict_first he hsent hcarried).2 rfl hsize
      | refused _ hall =>
        have hfirst := (hall _ (by rw [hsent]; exact List.mem_cons_self ..)).1
        cases hfirst

/-- An agent that can serve no NOTIFY passes. -/
theorem healthcheck_loop_starved : ∃ s, run Conn.step (Conn.init 16384 0 healthcheckBytes)
    [.main .ok, .main .ok, .main .ok, .main .ok] = some s ∧ s.main = .returned ∧
      s.verdict = .ok (true, []) := by
  have hsome : (run Conn.step (Conn.init 16384 0 healthcheckBytes)
      [.main .ok, .main .ok, .main .ok, .main .ok]).any (fun s => s.main = .returned) := by
    decide +kernel
  obtain ⟨s, hr, hmain⟩ := (Option.any_eq_true _ _).mp hsome
  have hmain : s.main = .returned := of_decide_eq_true hmain
  refine ⟨s, hr, hmain, (healthcheck_loop 16384 0 _ s hr).2.2 (by decide) ?_ ?_⟩
  · intro ev hev
    simp only [List.mem_cons, List.not_mem_nil, or_false, or_self] at hev
    rw [hev]
    exact True.intro
  · rw [hmain]
    decide

end SpoeForge
