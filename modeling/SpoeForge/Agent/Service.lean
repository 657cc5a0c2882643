import Mathlib.Data.List.Perm.Subperm
import SpoeForge.Agent.Dispatch
import SpoeForge.Library.Pool
import SpoeForge.Server.Containment
import SpoeForge.Server.Traffic

/-!
# The service (`spoe_forge.py`)

`SpoeForge` serves any number of connections with one registry and a fresh configuration
for each. What a connection sends is compared with the replies to its NOTIFYs one by one:
the tasks change the order of the ACKs and leave some out, and nothing else. A handler is a
function of the message and its arguments here.
-/

namespace SpoeForge

open Fallible Grammar Runs

/-- `SpoeForge`, `spoe_forge.py:21-56`. -/
structure Forge where
  registry : AgentRegistry
  maxFrameSize : ℤ
  maxConcurrentFrames : ℤ

/-- `SpoeForge.__init__`, `spoe_forge.py:36-56`. -/
def Forge.init (maxFrameSize maxConcurrentFrames : ℤ) : Forge :=
  ⟨.empty, maxFrameSize, maxConcurrentFrames⟩

/-- The decorator that `message` gives, `spoe_forge.py:62-84`. -/
def Forge.message (app : Forge) (message : Str) (func : Handler) : Forge :=
  { app with registry := app.registry.register message func }

/-- `_handler`, `spoe_forge.py:118-132`, on a connection on which the peer sends `inbound`. -/
def Forge.handler (app : Forge) (inbound : Bytes) : Conn :=
  Conn.init app.maxFrameSize app.maxConcurrentFrames inbound

/-- `serve`, `spoe_forge.py:134-149`: the server calls `_handler` for each connection. -/
def Forge.serve (app : Forge) :
    List (Bytes × Conn) → Pool.Event Bytes Event → Option (List (Bytes × Conn)) :=
  Pool.step app.handler Conn.step

/-- The handler of the tasks is `_notify_handler`, which may be cancelled; a task whose handler
raises a `CancelledError` ends as a cancelled one. -/
def Forge.Serves (app : Forge) (s : Conn) : Event → Prop
  | .handler i (.returned actions) => ∃ t as, s.tasks[i]? = some t ∧
      app.registry.notifyHandler t.messages = .ok as ∧ actions = some as
  | .handler i (.raised e) => ∃ t, s.tasks[i]? = some t ∧
      app.registry.notifyHandler t.messages = .error e ∧ e.cls ≠ .cancelledError
  | _ => True

/-- The ACK of one NOTIFY, if it has one, whatever else the connection is doing. -/
def Forge.reply (app : Forge) (maxFrameSize : ℤ) (job : MetaData × Messages) :
    Option Frame :=
  match app.registry.notifyHandler job.2 with
  | .error _ => none
  | .ok actions =>
    match ackToSend false maxFrameSize job.1 (some actions) with
    | .ok (some (frame, _)) => some frame
    | _ => none

/-! ### Numbered replies -/

section Numbered

variable {α β : Type} {g : α → Option β} {xs : List α} {ps : List (ℕ × β)}

/-- Results that are numbered by their places in a list, no place twice. -/
theorem numbered_places (h : ∀ p ∈ ps, xs[p.1]?.bind g = some p.2) :
    ps.map Prod.snd = (ps.map Prod.fst).filterMap (fun i => xs[i]?.bind g) ∧
      ps.map Prod.fst ⊆ List.range xs.length := by
  induction ps with
  | nil => exact ⟨rfl, List.nil_subset _⟩
  | cons p ps ih =>
    obtain ⟨hmap, hsub⟩ := ih fun q hq => h q (List.mem_cons_of_mem _ hq)
    have hp := h p (List.mem_cons_self ..)
    constructor
    · rw [List.map_cons, List.map_cons, List.filterMap_cons, hp, hmap]
    · rw [List.map_cons]
      refine List.cons_subset.mpr ⟨?_, hsub⟩
      cases hx : xs[p.1]? with
      | none =>
        rw [hx] at hp
        cases hp
      | some x => exact List.mem_range.mpr (List.getElem?_eq_some_iff.mp hx).1

theorem filterMap_range (g : α → Option β) (xs : List α) :
    (List.range xs.length).filterMap (fun i => xs[i]?.bind g) = xs.filterMap g := by
  induction xs with
  | nil => rfl
  | cons x xs ih =>
    have htail : ((fun i => (x :: xs)[i]?.bind g) ∘ Nat.succ) = fun i => xs[i]?.bind g := by
      funext i
      simp
    rw [List.length_cons, List.range_succ_eq_map, List.filterMap_cons, List.filterMap_map, htail, ih,
      List.filterMap_cons]
    rfl

theorem numbered_subperm (hn : (ps.map Prod.fst).Nodup)
    (h : ∀ p ∈ ps, xs[p.1]?.bind g = some p.2) :
    (ps.map Prod.snd).Subperm (xs.filterMap g) := by
  obtain ⟨hmap, hsub⟩ := numbered_places h
  obtain ⟨l, hperm, hl⟩ := List.subperm_of_subset hn hsub
  rw [hmap, ← filterMap_range g xs]
  exact ⟨l.filterMap _, hperm.filterMap _, hl.filterMap _⟩

theorem numbered_perm (hn : (ps.map Prod.fst).Nodup) (h : ∀ p ∈ ps, xs[p.1]?.bind g = some p.2)
    (hall : ∀ i < xs.length, i ∈ ps.map Prod.fst) : (ps.map Prod.snd).Perm (xs.filterMap g) := by
  obtain ⟨hmap, hsub⟩ := numbered_places h
  have hperm : (ps.map Prod.fst).Perm (List.range xs.length) :=
    (List.perm_ext_iff_of_nodup hn List.nodup_range).mpr fun i =>
      ⟨fun hi => hsub hi, fun hi => hall i (List.mem_range.mp hi)⟩
  rw [hmap, ← filterMap_range g xs]
  exact hperm.filterMap _

end Numbered

/-! ### One connection -/

theorem Conn.Intake.jobs_get {s s' : Conn} (hi : s.Intake s') {i : ℕ} {job : MetaData × Messages}
    (h : s.jobs[i]? = some job) : s'.jobs[i]? = some job := by
  cases hi with
  | nothing _ _ hjobs _ _ => rw [hjobs, h]
  | failed _ _ _ _ _ hjobs _ _ => rw [hjobs, h]
  | first _ _ _ _ _ _ hjobs _ => rw [hjobs, h]
  | next _ _ _ _ _ _ hjobs _ =>
    rw [hjobs, List.getElem?_append_left (List.getElem?_eq_some_iff.mp h).1, h]

theorem Conn.jobs_of_task {s : Conn} {i : ℕ} {t : Task} (ht : s.tasks[i]? = some t) :
    s.jobs[i]? = some (t.metadata, t.messages) := by
  rw [Conn.jobs, List.getElem?_map, ht]
  rfl

/-- Every answer of a handler is what `_notify_handler` gives for the messages of its NOTIFY. -/
def Conn.AnsweredBy (s : Conn) (app : Forge) : Prop :=
  ∀ i actions, .answered i actions ∈ s.log → ∃ job as, s.jobs[i]? = some job ∧
    app.registry.notifyHandler job.2 = .ok as ∧ actions = some as

theorem Conn.AnsweredBy.step {s s' : Conn} {app : Forge} {ev : Event} (h : s.AnsweredBy app)
    (hserves : app.Serves s ev) (hs : s.step ev = some s') : s'.AnsweredBy app := by
  have hm := Conn.step_move hs
  obtain ⟨l, hlog, hl⟩ := hm.logsTo
  intro i actions hmem
  rw [hlog] at hmem
  rcases List.mem_append.mp hmem with hmem | hmem
  · obtain ⟨job, as, hjob, hanswer, heq⟩ := h i actions hmem
    exact ⟨job, as, hm.intake.jobs_get hjob, hanswer, heq⟩
  · have hnew : ev = .handler i (.returned actions) := by
      cases hl <;> simp_all
    subst hnew
    obtain ⟨t, as, ht, hanswer, heq⟩ := hserves
    exact ⟨_, as, hm.intake.jobs_get (Conn.jobs_of_task ht), hanswer, heq⟩

theorem TaskHistory.ack {s : Conn} {i : ℕ} {md : MetaData} {phase : TaskPhase} {l : List Entry}
    (h : TaskHistory s i md phase l) {frame : Frame} {bytes : Bytes}
    (hw : .wrote (some i) frame bytes ∈ l) : ∃ actions, .answered i actions ∈ l ∧
      ackToSend false s.config.maxFrameSize md actions = .ok (some (frame, bytes)) := by
  cases h with
  | draining actions frame' bytes' hack =>
    simp only [List.mem_cons, Entry.wrote.injEq, List.not_mem_nil, or_false, false_or,
      reduceCtorEq, true_and] at hw
    obtain ⟨rfl, rfl⟩ := hw
    exact ⟨actions, by simp, hack⟩
  | acked actions frame' bytes' _ _ hack =>
    simp only [List.mem_cons, Entry.wrote.injEq, List.not_mem_nil, or_false, false_or,
      reduceCtorEq, true_and] at hw
    obtain ⟨rfl, rfl⟩ := hw
    exact ⟨actions, by simp, hack⟩
  | created | neverStarted | running | failed | refused | skipped => simp at hw

/-- Every ACK written is the reply to the NOTIFY of its task. -/
theorem Conn.ackedBy_reply {s : Conn} {app : Forge} (hh : Historied s) (ha : s.AnsweredBy app) :
    ∀ p ∈ s.ackedBy, s.jobs[p.1]?.bind (app.reply s.config.maxFrameSize) = some p.2 := by
  rintro ⟨i, frame⟩ hmem
  obtain ⟨bytes, hw⟩ := Conn.mem_ackedBy.mp hmem
  obtain ⟨t, -, ht, -⟩ := hh.wrote hw
  obtain ⟨actions, hanswered, hack⟩ := (hh.task ht).ack
    (Conn.mem_history.mpr ⟨hw, by simp [Entry.isOf]⟩)
  obtain ⟨job, as, hjob, hanswer, rfl⟩ := ha i actions (Conn.mem_history.mp hanswered).1
  have htask := Conn.jobs_of_task ht
  rw [hjob] at htask
  cases htask
  simp [hjob, Forge.reply, hanswer, hack]

theorem Conn.settled_acked {s : Conn} (hh : Historied s) (hopen : s.writerClosing = false)
    (hall : ∀ t ∈ s.tasks, t.phase = .draining ∨ t.phase = .returned) :
    ∀ i < s.jobs.length, i ∈ s.ackedBy.map Prod.fst := by
  intro i hi
  rw [Conn.jobs, List.length_map] at hi
  have ht := List.getElem?_eq_getElem hi
  have hphase := hall _ (List.getElem_mem hi)
  obtain ⟨frame, bytes, hw⟩ := (hh.task ht).acked_of_settled hopen
    (by rcases hphase with hp | hp <;> rw [hp] <;> rfl)
    (by rcases hphase with hp | hp <;> simp [hp])
  have hmem := Conn.mem_ackedBy.mpr ⟨bytes, (Conn.mem_history.mp hw).1⟩
  exact List.mem_map.mpr ⟨(i, frame), hmem, rfl⟩

theorem Conn.AnsweredBy.along {m c : ℤ} {inbound : Bytes} {events : List Event} {s : Conn}
    {app : Forge} (hc : Along Conn.step app.Serves (Conn.init m c inbound) events)
    (h : run Conn.step (Conn.init m c inbound) events = some s) : s.AnsweredBy app := by
  have hinit : (Conn.init m c inbound).AnsweredBy app := fun i actions hmem => by
    simp [Conn.init] at hmem
  have hstep : ∀ s ev s', Reaches Conn.step (Conn.init m c inbound) s → s.AnsweredBy app →
      app.Serves s ev → s.step ev = some s' → s'.AnsweredBy app :=
    fun _ _ _ _ hi hserves hs => hi.step hserves hs
  exact invariant_along hstep hinit hc h

/-- What a connection has sent, against the replies to its NOTIFYs one by one. -/
theorem Conn.acks_replies {m c : ℤ} {inbound : Bytes} {es : List Event} {s : Conn} {app : Forge}
    (hal : Along Conn.step app.Serves (Conn.init m c inbound) es)
    (hrun : run Conn.step (Conn.init m c inbound) es = some s) :
    s.acks.Subperm (s.jobs.filterMap (app.reply s.config.maxFrameSize)) ∧
      (s.writerClosing = false → (∀ t ∈ s.tasks, t.phase = .draining ∨ t.phase = .returned) →
        s.acks.Perm (s.jobs.filterMap (app.reply s.config.maxFrameSize))) := by
  have hreach : Reaches Conn.step (Conn.init m c inbound) s := ⟨es, hrun⟩
  have hh := Historied.reachable hreach
  have hreply := Conn.ackedBy_reply hh (Conn.AnsweredBy.along hal hrun)
  rw [Conn.acks_eq (Dispatched.reachable hreach) hh]
  exact ⟨numbered_subperm hh.ackedBy_nodup hreply, fun hopen hall =>
    numbered_perm hh.ackedBy_nodup hreply (Conn.settled_acked hh hopen hall)⟩

theorem InOrder.jobs_sublist {m : ℤ} {inbound : Bytes} {s : Conn} (h : InOrder m inbound s) :
    s.jobs.Sublist ((decodeStream m ⟨inbound⟩).1.tail.filterMap Frame.job?) := by
  obtain ⟨bs, rest, hmany, rfl, -⟩ := h.consumed
  rw [h.jobs, decodeStream_append hmany]
  exact ((List.sublist_append_left _ _).tail).filterMap _

theorem InOrder.received_all {m : ℤ} {inbound : Bytes} {s : Conn} (h : InOrder m inbound s)
    (hleft : s.main.left = false) (hread : s.reader.buffer = []) :
    s.received = (decodeStream m ⟨inbound⟩).1 := by
  obtain ⟨bs, rest, hmany, rfl, hrest⟩ := h.consumed
  rw [← hrest hleft, hread, List.append_nil, decodeStream_many hmany]

/-! ### The service -/

/-- However the connections and their tasks interleave, each connection sends no ACK but the
replies to NOTIFYs that its own peer has sent after the HELLO, at most one for each; when all
its tasks have come to their ACKs, it has sent the replies to all NOTIFYs read. -/
theorem service_replies (app : Forge) (events : List (Pool.Event Bytes Event))
    (p : List (Bytes × Conn)) (hc : Along app.serve (Pool.Each app.Serves) [] events)
    (hr : run app.serve [] events = some p) (k : ℕ) (inbound : Bytes) (s : Conn)
    (hk : p[k]? = some (inbound, s)) :
    s.acks.Subperm (((decodeStream app.maxFrameSize ⟨inbound⟩).1.tail.filterMap
      Frame.job?).filterMap (app.reply s.config.maxFrameSize)) ∧
    (s.writerClosing = false → (∀ t ∈ s.tasks, t.phase = .draining ∨ t.phase = .returned) →
      s.acks.Perm ((s.received.tail.filterMap Frame.job?).filterMap
        (app.reply s.config.maxFrameSize))) := by
  obtain ⟨es, hal, hrun⟩ := Pool.member_run hc hr hk
  have hin : InOrder app.maxFrameSize inbound s := InOrder.reachable ⟨es, hrun⟩
  obtain ⟨hsub, hperm⟩ := Conn.acks_replies hal hrun
  refine ⟨hsub.trans (hin.jobs_sublist.filterMap _).subperm, fun hopen hall => ?_⟩
  rw [← hin.jobs]
  exact hperm hopen hall

/-- An agent with one handler, and a connection to it with one NOTIFY for the handler. -/
def checkCalls : List (Str × Handler) :=
  [(str "check", .coroutineFunction fun _ => .ok (.list [.ofUnset .session (str "a")]))]

def Forge.checker : Forge :=
  checkCalls.foldl (fun app call => app.message call.1 call.2) (Forge.init 16384 2)

def checkFrames : List Frame :=
  [helloFrame 16384 [PIPELINING], Frame.construct 7 1 (.notify [(str "check", Dict.empty)])]

def checkBytes : Bytes := (Conn.onFrames 16384 2 checkFrames).reader.buffer

/-- The connections after the events, if all are enabled. -/
def Forge.after (app : Forge) (events : List (Pool.Event Bytes Event)) : List (Bytes × Conn) :=
  (run app.serve [] events).getD []

def checkEvents : List (Pool.Event Bytes Event) :=
  [.start checkBytes, .member 0 (.main .ok), .member 0 (.main .ok), .member 0 (.main .ok),
    .member 0 (.start 0)]

def checkAnswer : Pool.Event Bytes Event :=
  .member 0 (.handler 0 (.returned (some [.ofUnset .session (str "a")])))

theorem checker_serves : Along Forge.checker.serve (Pool.Each Forge.checker.Serves) []
    (checkEvents ++ [checkAnswer]) := by
  have hbefore : run Forge.checker.serve [] checkEvents =
      some (Forge.checker.after checkEvents) := by decide +kernel
  have htask : (Forge.checker.after checkEvents)[0]?.bind (fun q => q.2.tasks[0]?) =
      some ⟨⟨⟨true, false⟩, 7, 1⟩, [(str "check", Dict.empty)], .running, false, false⟩ := by
    decide +kernel
  refine Along.append (along_of_forall ?_) hbefore ⟨?_, fun _ _ => trivial⟩
  · intro e he p
    simp only [checkEvents, List.mem_cons, List.not_mem_nil, or_false] at he
    rcases he with rfl | rfl | rfl | rfl | rfl
    · exact True.intro
    all_goals exact fun _ _ _ => True.intro
  · intro input s hs
    rw [hs] at htask
    exact ⟨_, _, htask, rfl, rfl⟩

theorem service_replies_checker : ∃ q : Bytes × Conn,
    (Forge.checker.after (checkEvents ++ [checkAnswer]))[0]? = some q ∧
      q.2.acks.Perm ((q.2.received.tail.filterMap Frame.job?).filterMap
        (Forge.checker.reply q.2.config.maxFrameSize)) := by
  have hafter : run Forge.checker.serve [] (checkEvents ++ [checkAnswer]) =
      some (Forge.checker.after (checkEvents ++ [checkAnswer])) := by decide +kernel
  have hsome : (Forge.checker.after (checkEvents ++ [checkAnswer]))[0]?.isSome := by decide +kernel
  have hopen : ∀ q ∈ Forge.checker.after (checkEvents ++ [checkAnswer]),
      q.2.writerClosing = false ∧ ∀ t ∈ q.2.tasks, t.phase = .draining ∨ t.phase = .returned := by
    decide +kernel
  obtain ⟨q, hq⟩ := Option.isSome_iff_exists.mp hsome
  obtain ⟨hclosing, htasks⟩ := hopen q (List.mem_of_getElem? hq)
  exact ⟨q, hq, (service_replies Forge.checker _ _ checker_serves hafter 0 q.1 q.2 hq).2 hclosing
    htasks⟩

/-! ### From the frames of the peer to the ACKs -/

/-- The ACK that a NOTIFY is to have: what the handlers registered last for the names of its
messages contribute, in the order of the messages, as far as it encodes and fits. -/
def answer (calls : List (Str × Handler)) (maxFrameSize : ℤ) (job : MetaData × Messages) : Frame :=
  ackFrame job.1 (some (keptActions maxFrameSize job.1 (job.2.flatMap (contribution calls))))

/-- The handlers contribute objects that the ACK of the NOTIFY can hold or leave out, and its
length fits in four bytes. -/
structure Answerable (calls : List (Str × Handler)) (maxFrameSize : ℤ)
    (job : MetaData × Messages) : Prop where
  contributes : ∀ m ∈ job.2, ∀ handler, calls.reverse.lookup m.1 = some handler →
    handler.Contributes ⟨m.1, m.2⟩
  salvageable : Salvageable (ackBudget maxFrameSize job.1) (job.2.flatMap (contribution calls))
  length : keptLength maxFrameSize job.1 (job.2.flatMap (contribution calls)) < 2 ^ 32

/-- Ids that are read back from the wire as they are. -/
def MetaData.Carried (md : MetaData) : Prop :=
  (0 ≤ md.streamId ∧ md.streamId < 2 ^ 63) ∧ 0 ≤ md.frameId ∧ md.frameId < 2 ^ 63

section Answer

variable {calls : List (Str × Handler)} {m : ℤ} {job : MetaData × Messages}

theorem Answerable.reply (h : Answerable calls m job) (hm : Printable m) (hlimit : 25 ≤ m)
    (hids : job.1.Carried) {app : Forge} (happ : app.registry = registerAll calls) :
    app.reply m job = some (answer calls m job) := by
  have hnotify : app.registry.notifyHandler job.2 = .ok (job.2.flatMap (contribution calls)) := by
    rw [happ, notifyHandler_eq, extendAll_eq_flatMap_iff fun m x h => turn_ok h]
    exact fun m hm => turn_eq_contribution_iff.mpr (h.contributes m hm)
  obtain ⟨⟨hs, hs'⟩, hf, hf'⟩ := hids
  have hroom := ackHeaderLength_le hs' hf'
  obtain ⟨bytes, hack⟩ := ackToSend_contained hs hf hm (by omega) h.salvageable h.length
  simp only [Forge.reply, hnotify, hack, answer]

theorem Frame.job?_carried {frame : Frame} {size : ℤ} {bytes : Bytes} (hc : frame.Carried)
    (h : frame.encode size = .ok bytes) (hjob : frame.job? = some job) : job.1.Carried := by
  have hmd : job.1 = frame.metadata := by
    unfold Frame.job? at hjob
    split at hjob
    · exact (Prod.mk.inj (Option.some.inj hjob)).1.symm
    · cases hjob
  obtain ⟨out, len, hout, -⟩ := Frame.encode_ok.mp h
  obtain ⟨md, payload, hencode, -⟩ := Frame.body_ok.mp hout
  obtain ⟨hs, hf, -⟩ := encodeMetadata_ok.mp hencode
  rw [hmd]
  exact ⟨⟨hs, hc.streamId_lt⟩, hf, hc.frameId_lt⟩

theorem filterMap_eq_map_of_forall {α β : Type} {f : α → Option β} {g : α → β} {xs : List α}
    (h : ∀ x ∈ xs, f x = some (g x)) : xs.filterMap f = xs.map g := by
  rw [← List.filterMap_eq_map]
  exact List.filterMap_congr h

/-- Once there are tasks, the limit has been negotiated. -/
theorem Conn.limit_of_job {m c : ℤ} {inbound : Bytes} {s : Conn}
    (h : Reaches Conn.step (Conn.init m c inbound) s) (hjob : job ∈ s.jobs) :
    25 ≤ s.config.maxFrameSize ∧ Printable s.config.maxFrameSize := by
  refine (FirstFrame.reachable h).limit (.inr (.inr fun hnil => ?_))
  rw [Conn.jobs, hnil] at hjob
  cases hjob

end Answer

/-- A peer that sends frames, a HELLO and then NOTIFYs among others, which the handlers can answer,
gets for its NOTIFYs the ACKs of the contributions of the handlers, each at most once and in some
order; and for all of them, when all that it has sent is read and every task has come to its ACK.
The other connections and the interleaving have no part in what the ACKs hold. -/
theorem service_end_to_end (app : Forge) (calls : List (Str × Handler))
    (happ : app.registry = registerAll calls) (events : List (Pool.Event Bytes Event))
    (p : List (Bytes × Conn)) (hc : Along app.serve (Pool.Each app.Serves) [] events)
    (hr : run app.serve [] events = some p) (k : ℕ) (frames : List Frame) (inbound : Bytes)
    (hcarried : ∀ f ∈ frames, f.Carried) (size : ℤ) (hsize : size ≤ app.maxFrameSize)
    (hsends : extendAll (fun f => Frame.encode f size) frames = .ok inbound) (s : Conn)
    (hk : p[k]? = some (inbound, s)) (hanswerable : ∀ job ∈ frames.tail.filterMap Frame.job?,
      Answerable calls s.config.maxFrameSize job) :
    s.acks.Subperm ((frames.tail.filterMap Frame.job?).map
      (answer calls s.config.maxFrameSize)) ∧
    (s.main.left = false → s.reader.buffer = [] → s.writerClosing = false →
      (∀ t ∈ s.tasks, t.phase = .draining ∨ t.phase = .returned) →
      s.acks.Perm ((frames.tail.filterMap Frame.job?).map
        (answer calls s.config.maxFrameSize))) := by
  have hstream : (decodeStream app.maxFrameSize ⟨inbound⟩).1 = frames := by
    rw [decodeStream_many ((many_isFrame hcarried hsends).mono fun _ _ hf => hf.mono hsize)]
  obtain ⟨es, hal, hrun⟩ := Pool.member_run hc hr hk
  have hreach : Reaches Conn.step (Conn.init app.maxFrameSize app.maxConcurrentFrames inbound) s :=
    ⟨es, hrun⟩
  have hin : InOrder app.maxFrameSize inbound s := InOrder.reachable hreach
  have hjobs : s.jobs.Sublist (frames.tail.filterMap Frame.job?) := hstream ▸ hin.jobs_sublist
  have hreply : ∀ job ∈ s.jobs, app.reply s.config.maxFrameSize job =
      some (answer calls s.config.maxFrameSize job) := by
    intro job hjob
    have hsent := hjobs.subset hjob
    obtain ⟨frame, hmem, hf⟩ := List.mem_filterMap.mp hsent
    have hmem := List.mem_of_mem_tail hmem
    obtain ⟨bytes, hb⟩ := extendAll_isOk.mp ⟨inbound, hsends⟩ frame hmem
    obtain ⟨hlimit, hm⟩ := Conn.limit_of_job hreach hjob
    exact (hanswerable job hsent).reply hm hlimit
      (Frame.job?_carried (hcarried frame hmem) hb hf) happ
  obtain ⟨hsub, hperm⟩ := Conn.acks_replies hal hrun
  rw [filterMap_eq_map_of_forall hreply] at hsub hperm
  constructor
  · exact hsub.trans (hjobs.map _).subperm
  · intro hleft hread hopen hall
    rw [← hstream, ← hin.received_all hleft hread, ← hin.jobs]
    exact hperm hopen hall

theorem check_answerable : ∀ job ∈ checkFrames.tail.filterMap Frame.job?,
    Answerable checkCalls 16384 job := by
  intro job hjob
  have hjob : job = (⟨⟨true, false⟩, 7, 1⟩, [(str "check", Dict.empty)]) := by
    simpa [checkFrames, Frame.job?, Frame.construct] using hjob
  subst hjob
  refine ⟨fun m hm handler hl => ?_, by decide +kernel, by decide +kernel⟩
  rw [List.mem_singleton.mp hm] at hl ⊢
  cases hl
  exact True.intro

theorem service_end_to_end_checker : ∃ q : Bytes × Conn,
    (Forge.checker.after (checkEvents ++ [checkAnswer]))[0]? = some q ∧
      q.2.acks.Perm ((checkFrames.tail.filterMap Frame.job?).map (answer checkCalls 16384)) := by
  have hafter : run Forge.checker.serve [] (checkEvents ++ [checkAnswer]) =
      some (Forge.checker.after (checkEvents ++ [checkAnswer])) := by decide +kernel
  have hsome : (Forge.checker.after (checkEvents ++ [checkAnswer]))[0]?.isSome := by decide +kernel
  have hstate : ∀ q ∈ Forge.checker.after (checkEvents ++ [checkAnswer]),
      (q.1 = checkBytes ∧ q.2.config.maxFrameSize = 16384) ∧ q.2.main.left = false ∧
        q.2.reader.buffer = [] ∧ q.2.writerClosing = false ∧
        ∀ t ∈ q.2.tasks, t.phase = .draining ∨ t.phase = .returned := by
    decide +kernel
  have hcarried : ∀ f ∈ checkFrames, f.Carried := by
    intro f hf
    simp only [checkFrames, List.mem_cons, List.not_mem_nil, or_false] at hf
    rcases hf with rfl | rfl
    · refine ⟨by decide, by decide, ?_⟩
      simp only [helloFrame, Frame.construct, Payload.Carried]
      decide +kernel
    · refine ⟨by decide, by decide, ?_⟩
      simp only [Frame.construct, Payload.Carried]
      decide +kernel
  have hsends : extendAll (fun f => Frame.encode f 16384) checkFrames = .ok checkBytes := by
    decide +kernel
  obtain ⟨q, hq⟩ := Option.isSome_iff_exists.mp hsome
  obtain ⟨⟨hinput, hsize⟩, hleft, hread, hopen, htasks⟩ := hstate q (List.mem_of_getElem? hq)
  have hk : (Forge.checker.after (checkEvents ++ [checkAnswer]))[0]? = some (checkBytes, q.2) := by
    rw [hq, ← hinput]
  have hanswerable : ∀ job ∈ checkFrames.tail.filterMap Frame.job?,
      Answerable checkCalls q.2.config.maxFrameSize job := by
    rw [hsize]
    exact check_answerable
  have h := service_end_to_end Forge.checker checkCalls rfl _ _ checker_serves hafter 0 checkFrames
    checkBytes hcarried 16384 (le_refl _) hsends q.2 hk hanswerable
  rw [hsize] at h
  exact ⟨q, hq, h.2 hleft hread hopen htasks⟩

end SpoeForge
