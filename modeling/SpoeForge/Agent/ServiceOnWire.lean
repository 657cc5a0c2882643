import SpoeForge.Agent.Service
import SpoeForge.Server.ArrivalRefinement

/-!
# The service on the wire

The connections of `SpoeForge` with their transports. A connection does nothing that depends
on bytes which have not arrived, so that its ACKs are the replies to NOTIFYs that have arrived
in full; and when it waits for more and its tasks have come to their ACKs, to all of these.
-/

namespace SpoeForge

open Grammar Runs

/-! ### Bytes that have not arrived -/

/-- The link with other bytes on the wire. -/
def Link.withWire (l : Link) (wire : Bytes) : Link := { l with wire := wire }

theorem Link.decodeStep_withWire {l l' : Link} (wire : Bytes) (h : l.decodeStep = some l') :
    l'.wire = l.wire ∧ (l.withWire wire).decodeStep = some (l'.withWire wire) := by
  unfold Link.decodeStep at h
  split at h
  · rename_i point reader hr
    split at h
    · cases h
    · rename_i hpoint
      cases h
      have hr' : (l.withWire wire).point.resume (l.withWire wire).conn.reader (l.withWire wire).eof
          (l.withWire wire).conn.config.maxFrameSize = (.waits point, reader) := hr
      unfold Link.decodeStep
      rw [hr']
      exact ⟨rfl, if_neg hpoint⟩
  · rename_i result reader hr
    cases h
    have hr' : (l.withWire wire).point.resume (l.withWire wire).conn.reader (l.withWire wire).eof
        (l.withWire wire).conn.config.maxFrameSize = (.ends result, reader) := hr
    unfold Link.decodeStep
    rw [hr']
    exact ⟨rfl, rfl⟩

theorem Link.step_without {l l' : Link} {ev : LinkEvent} {x w : Bytes} (hs : l.step ev = some l')
    (hw : l'.wire = x ++ w) :
    ∃ y, l.wire = y ++ w ∧ (l.withWire y).step ev = some (l'.withWire x) := by
  cases ev with
  | arrive n =>
    simp only [Link.step] at hs
    split at hs
    · cases hs
    · rename_i hopen
      cases hs
      change l.wire.drop n = x ++ w at hw
      have hcut : l.wire = l.wire.take n ++ x ++ w := by
        rw [List.append_assoc, ← hw, List.take_append_drop]
      have hlen : (l.wire.take n).length = n ∨ x = [] := by
        rw [List.length_take]
        by_cases hn : n ≤ l.wire.length
        · exact .inl (by omega)
        · rw [List.drop_of_length_le (by omega)] at hw
          exact .inr (List.append_eq_nil_iff.mp hw.symm).1
      have htake : (l.wire.take n ++ x).take n = l.wire.take n ∧
          (l.wire.take n ++ x).drop n = x := by
        rcases hlen with hlen | rfl
        · exact ⟨List.take_left' hlen, List.drop_left' hlen⟩
        · rw [List.append_nil, List.take_take, Nat.min_self]
          exact ⟨rfl, List.drop_of_length_le (List.length_take_le ..)⟩
      refine ⟨l.wire.take n ++ x, hcut, ?_⟩
      simp only [Link.step, Link.withWire, if_neg hopen, htake.1, htake.2]
  | eof =>
    simp only [Link.step] at hs
    split at hs
    · rename_i hend
      cases hs
      change l.wire = x ++ w at hw
      rw [hend.1] at hw
      obtain ⟨rfl, rfl⟩ := List.append_eq_nil_iff.mp hw.symm
      refine ⟨[], hend.1, ?_⟩
      simp only [Link.step, Link.withWire, hend.2, true_and, if_true]
    · cases hs
  | conn e =>
    simp only [Link.step] at hs
    split at hs
    · rename_i hd
      obtain ⟨hwire, hs'⟩ := Link.decodeStep_withWire x hs
      rw [hwire] at hw
      have hstep : (l.withWire x).step (.conn e) = (l.withWire x).decodeStep := if_pos hd
      exact ⟨x, hw, by rw [hstep, hs']⟩
    · rename_i hd
      obtain ⟨s', hs', rfl⟩ := Option.map_eq_some_iff.mp hs
      refine ⟨x, hw, ?_⟩
      have hstep : (l.withWire x).step (.conn e) =
          (l.conn.step e).map fun s => { l.withWire x with conn := s } := if_neg hd
      rw [hstep, hs']
      rfl

/-- A run without the bytes that are still on the wire at its end. -/
theorem Link.run_without {D : Conn → Event → Prop} {l l' : Link} {es : List LinkEvent}
    {x w : Bytes} (hal : Along Link.step (Link.Meets D) l es) (hr : run Link.step l es = some l')
    (hw : l'.wire = x ++ w) :
    ∃ y, l.wire = y ++ w ∧ Along Link.step (Link.Meets D) (l.withWire y) es ∧
      run Link.step (l.withWire y) es = some (l'.withWire x) := by
  induction es generalizing l with
  | nil =>
    cases hr
    exact ⟨x, hw, True.intro, rfl⟩
  | cons e es ih =>
    obtain ⟨mid, hs, hr⟩ := run_cons_eq_some.mp hr
    obtain ⟨y, hy, hal', hr'⟩ := ih (hal.2 mid hs) hr
    obtain ⟨z, hz, hs'⟩ := Link.step_without hs hy
    exact ⟨z, hz, .cons hal.1 hs' hal', run_cons_eq_some.mpr ⟨_, hs', hr'⟩⟩

/-- What a link does, the connection does to which the peer sends no more than has arrived. -/
theorem Link.run_arrived_only {D : Conn → Event → Prop} (hD : IgnoresReader D) {m c : ℤ}
    {inbound : Bytes} {l : Link} {es : List LinkEvent}
    (hal : Along Link.step (Link.Meets D) (Link.init m c inbound) es)
    (hr : run Link.step (Link.init m c inbound) es = some l) :
    ∃ arrived ds, inbound = arrived ++ l.wire ∧ l.point.Passed l.conn.config.maxFrameSize ∧
      Along Conn.step D (Conn.init m c arrived) ds ∧
      run Conn.step (Conn.init m c arrived) ds = some (l.conn.withReader ⟨l.held⟩) := by
  obtain ⟨arrived, harrived, hal', hr'⟩ := Link.run_without (x := []) hal hr rfl
  obtain ⟨ds, s, hds, hs, hsound, rfl⟩ :=
    (Link.simulates hD).run (Link.init_sound m c arrived) hal' hr'
  refine ⟨arrived, ds, harrived, hsound.passed, hds, ?_⟩
  rw [hs]
  simp only [Link.whole, Link.unread, Link.withWire, Link.held, List.append_nil]

/-- There is no frame in the bytes that a waiting connection holds. -/
theorem DecodePoint.Waits.no_frame {point : DecodePoint} {stream : Bytes} {r : StreamReader}
    {eof : Bool} {size m : ℤ} (h : point.Waits stream r eof size) (hsize : size ≤ m) :
    (decodeStream m ⟨stream⟩).1 = [] := by
  have hshort := h.short
  have hpassed := h.passed
  rw [← h.kept]
  cases point with
  | length =>
    rw [DecodePoint.taken, List.nil_append, decodeStream_error (Frame.decode_short m hshort)]
  | body lenBuf n =>
    obtain ⟨hlen, hle⟩ := hpassed
    obtain ⟨e, he, -⟩ := Frame.decode_inside hlen (le_trans hle hsize) hshort
    rw [DecodePoint.taken, decodeStream_error he]

/-! ### The service -/

/-- `serve`, with the transport of each connection. -/
def Forge.serveLinks (app : Forge) :
    List (Bytes × Link) → Pool.Event Bytes LinkEvent → Option (List (Bytes × Link)) :=
  Pool.step (Link.init app.maxFrameSize app.maxConcurrentFrames) Link.step

/-- The replies to the NOTIFYs among the frames of a stream, after the first frame. -/
def Forge.replies (app : Forge) (maxFrameSize : ℤ) (stream : Bytes) : List Frame :=
  ((decodeStream app.maxFrameSize ⟨stream⟩).1.tail.filterMap Frame.job?).filterMap
    (app.reply maxFrameSize)

theorem Forge.serves_ignoresReader (app : Forge) : IgnoresReader app.Serves := by
  intro s r ev h
  cases ev with
  | handler i outcome => cases outcome <;> exact h
  | main | start | drained | done | lost => exact True.intro

/-- However the bytes of the peers are cut and the connections and tasks interleave, a connection
sends no ACK but replies to NOTIFYs that have arrived in full, at most one for each; and when it
waits for more bytes, with its writer open and its tasks come to their ACKs, it has sent the
replies to all NOTIFYs that have arrived. -/
theorem service_on_wire (app : Forge) (events : List (Pool.Event Bytes LinkEvent))
    (p : List (Bytes × Link))
    (hc : Along app.serveLinks (Pool.Each (Link.Meets app.Serves)) [] events)
    (hr : run app.serveLinks [] events = some p) (k : ℕ) (inbound : Bytes) (l : Link)
    (hk : p[k]? = some (inbound, l)) :
    ∃ arrived, inbound = arrived ++ l.wire ∧
      l.conn.acks.Subperm (app.replies l.conn.config.maxFrameSize arrived) ∧
      (l.conn.Decoding → l.step (.conn (.main .ok)) = none → l.conn.writerClosing = false →
        (∀ t ∈ l.conn.tasks, t.phase = .draining ∨ t.phase = .returned) →
          l.conn.acks.Perm (app.replies l.conn.config.maxFrameSize arrived)) := by
  obtain ⟨es, hal, hrun⟩ := Pool.member_run hc hr hk
  obtain ⟨arrived, ds, harrived, hpassed, hds, hs⟩ :=
    Link.run_arrived_only app.serves_ignoresReader hal hrun
  have hin : InOrder app.maxFrameSize arrived (l.conn.withReader ⟨l.held⟩) :=
    InOrder.reachable ⟨ds, hs⟩
  obtain ⟨hsub, hperm⟩ := Conn.acks_replies hds hs
  refine ⟨arrived, harrived, hsub.trans (hin.jobs_sublist.filterMap _).subperm, ?_⟩
  intro hd hwait hopen hall
  obtain ⟨r, hwaits⟩ := Link.waits_of_none hpassed hd hwait
  have hleft : l.conn.main.left = false := by
    rcases hd.1 with hmain | hmain <;> rw [hmain] <;> rfl
  -- what the connection holds is all that is not read, and there is no frame in it
  have hall_read : (decodeStream app.maxFrameSize ⟨arrived⟩).1 =
      (l.conn.withReader ⟨l.held⟩).received := by
    obtain ⟨bs, rest, hmany, hsplit, hrest⟩ := hin.consumed
    have hheld : l.held = rest := hrest hleft
    rw [hsplit, decodeStream_append hmany, ← hheld, hwaits.no_frame hin.size, List.append_nil]
  have hjobs := hperm hopen hall
  rw [hin.jobs, ← hall_read] at hjobs
  exact hjobs

/-- The first NOTIFY has arrived in two pieces; of the second one the last byte is missing. -/
def wireBytes : Bytes :=
  (Conn.onFrames 16384 2 (checkFrames ++ [Frame.construct 7 2 (.notify [])])).reader.buffer

def wireEvents : List (Pool.Event Bytes LinkEvent) :=
  [.start wireBytes, .member 0 (.arrive 101), .member 0 (.conn (.main .ok)),
    .member 0 (.conn (.main .ok)), .member 0 (.conn (.main .ok)), .member 0 (.arrive 19),
    .member 0 (.conn (.main .ok)), .member 0 (.conn (.start 0)), .member 0 (.conn (.main .ok))]

def wireAnswer : Pool.Event Bytes LinkEvent :=
  .member 0 (.conn (.handler 0 (.returned (some [.ofUnset .session (str "a")]))))

/-- The links after the events, if all are enabled. -/
def Forge.linksAfter (app : Forge) (events : List (Pool.Event Bytes LinkEvent)) :
    List (Bytes × Link) :=
  (run app.serveLinks [] events).getD []

theorem wire_serves : Along Forge.checker.serveLinks
    (Pool.Each (Link.Meets Forge.checker.Serves)) [] (wireEvents ++ [wireAnswer]) := by
  have hbefore : run Forge.checker.serveLinks [] wireEvents =
      some (Forge.checker.linksAfter wireEvents) := by decide +kernel
  have htask : (Forge.checker.linksAfter wireEvents)[0]?.bind (fun q => q.2.conn.tasks[0]?) =
      some ⟨⟨⟨true, false⟩, 7, 1⟩, [(str "check", Dict.empty)], .running, false, false⟩ := by
    decide +kernel
  refine Along.append (along_of_forall ?_) hbefore ⟨?_, fun _ _ => True.intro⟩
  · intro e he p
    simp only [wireEvents, List.mem_cons, List.not_mem_nil, or_false] at he
    rcases he with rfl | rfl | rfl | rfl | rfl | rfl | rfl | rfl | rfl
    · exact True.intro
    all_goals exact fun _ _ _ _ he => by cases he <;> exact True.intro
  · intro input l hl e he
    cases he
    rw [hl] at htask
    exact ⟨_, _, htask, rfl, rfl⟩

theorem service_on_wire_waiting : ∃ q : Bytes × Link,
    (Forge.checker.linksAfter (wireEvents ++ [wireAnswer]))[0]? = some q ∧
      ∃ arrived, q.1 = arrived ++ q.2.wire ∧
        q.2.conn.acks.Perm (Forge.checker.replies q.2.conn.config.maxFrameSize arrived) := by
  have hafter : run Forge.checker.serveLinks [] (wireEvents ++ [wireAnswer]) =
      some (Forge.checker.linksAfter (wireEvents ++ [wireAnswer])) := by decide +kernel
  have hsome : (Forge.checker.linksAfter (wireEvents ++ [wireAnswer]))[0]?.isSome := by
    decide +kernel
  have hstate : ∀ q ∈ Forge.checker.linksAfter (wireEvents ++ [wireAnswer]), q.2.conn.Decoding ∧
      q.2.step (.conn (.main .ok)) = none ∧ q.2.conn.writerClosing = false ∧
        ∀ t ∈ q.2.conn.tasks, t.phase = .draining ∨ t.phase = .returned := by
    decide +kernel
  obtain ⟨q, hq⟩ := Option.isSome_iff_exists.mp hsome
  obtain ⟨hd, hwait, hopen, htasks⟩ := hstate q (List.mem_of_getElem? hq)
  obtain ⟨arrived, harrived, -, hperm⟩ :=
    service_on_wire Forge.checker _ _ wire_serves hafter 0 q.1 q.2 hq
  exact ⟨q, hq, arrived, harrived, hperm hd hwait hopen htasks⟩

end SpoeForge
