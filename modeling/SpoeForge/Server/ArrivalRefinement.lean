import SpoeForge.Server.Arrival
import SpoeForge.Server.Traffic

/-!
# The connection on a wire refines `Conn`

`Frame.decode` in steps gives what it gives on the whole stream, so that a `Link` does what
the `Conn` with all its bytes does, one step for each that ends a wait; and a `Link` to which
all bytes have come is that `Conn`.
-/

namespace SpoeForge

open Runs

/-! ### Decoding what has arrived -/

section Decode

variable {r r' : StreamReader} {eof : Bool} {m : ℤ} {wire : Bytes}

theorem StreamReader.await_none {n : ℕ} (h : r.await eof n = none) :
    eof = false ∧ r.buffer.length < n := by
  unfold StreamReader.await at h
  split at h
  · rename_i hwait
    exact ⟨hwait.2, hwait.1⟩
  · cases h

theorem StreamReader.await_reads {n : ℕ} {p : Option Bytes × StreamReader}
    (h : r.await eof n = some p) :
    r.readexactly n = p ∧ (r.buffer.length < n → eof = true) := by
  unfold StreamReader.await at h
  split at h
  · cases h
  · rename_i hwait
    refine ⟨Option.some.inj h, fun hlt => ?_⟩
    cases eof
    · exact absurd ⟨hlt, rfl⟩ hwait
    · rfl

/-- When `readexactly` does not wait, what has not arrived has no part in it. -/
theorem StreamReader.await_some {n : ℕ} {x : Option Bytes} (heof : eof = true → wire = [])
    (h : r.await eof n = some (x, r')) :
    StreamReader.readexactly ⟨r.buffer ++ wire⟩ n = (x, ⟨r'.buffer ++ wire⟩) := by
  obtain ⟨hread, hshort⟩ := StreamReader.await_reads h
  by_cases hlt : r.buffer.length < n
  · rw [StreamReader.readexactly, if_pos hlt] at hread
    cases hread
    rw [heof (hshort hlt), List.append_nil, List.append_nil]
    exact if_pos hlt
  · rw [StreamReader.readexactly, if_neg hlt] at hread
    cases hread
    have hlt' : ¬(r.buffer ++ wire).length < n := by
      rw [List.length_append]
      omega
    rw [StreamReader.readexactly, if_neg hlt', List.take_append_of_le_length (by omega),
      List.drop_append_of_le_length (by omega)]

theorem StreamReader.await_incomplete {n : ℕ} (h : r.await eof n = some (none, r')) :
    eof = true ∧ r' = ⟨[]⟩ := by
  obtain ⟨hread, hshort⟩ := StreamReader.await_reads h
  unfold StreamReader.readexactly at hread
  split at hread
  · rename_i hlt
    cases hread
    exact ⟨hshort hlt, rfl⟩
  · cases hread

theorem tooBig_map {α β : Type} (f : α → β) (n : ℕ) (m : ℤ) :
    (tooBig n m : Except Exc α).map f = tooBig n m := by
  unfold tooBig
  cases intStr m <;> rfl

/-- The bytes of the frame that `Frame.decode` has taken off the reader. -/
def DecodePoint.taken : DecodePoint → Bytes
  | .length => []
  | .body lenBuf _ => lenBuf

/-- The bytes that `Frame.decode` waits for. -/
def DecodePoint.wanted : DecodePoint → ℕ
  | .length => 4
  | .body _ frameLen => frameLen

/-- A suspended `Frame.decode` has passed its checks. -/
def DecodePoint.Passed (maxFrameSize : ℤ) : DecodePoint → Prop
  | .length => True
  | .body lenBuf frameLen => unpackU32 lenBuf = some frameLen ∧ (frameLen : ℤ) ≤ maxFrameSize

/-- `Frame.decode` that has ended gives what it gives on the whole stream. -/
def DecodesAs (m : ℤ) (stream wire : Bytes) (result : Except Exc (Frame × ℕ)) (r' : StreamReader) :
    Prop :=
  Frame.decode ⟨stream⟩ m = (result.map Prod.fst, ⟨r'.buffer ++ wire⟩) ∧
    ∀ frame size, result = .ok (frame, size) → stream.length = 4 + size + (r'.buffer ++ wire).length

theorem decodeRest_ends {lenBuf : Bytes} {n : ℕ} {result : Except Exc (Frame × ℕ)}
    (heof : eof = true → wire = []) (hlen : unpackU32 lenBuf = some n) (hle : (n : ℤ) ≤ m)
    (h : decodeRest r eof lenBuf n = (.ends result, r')) :
    DecodesAs m (lenBuf ++ (r.buffer ++ wire)) wire result r' := by
  have hn : ¬(n : ℤ) > m := by omega
  unfold DecodesAs
  simp only [Frame.decode, readexactly_prefix hlen, decodeFrameLen, hlen, if_neg hn]
  unfold decodeRest at h
  split at h
  · cases h
  · rename_i mid hr
    cases h
    rw [StreamReader.await_some heof hr]
    exact ⟨rfl, fun _ _ hok => by cases hok⟩
  · rename_i body mid hr
    cases h
    have hread := StreamReader.await_some heof hr
    have hlength := StreamReader.readexactly_length hread
    dsimp only at hlength
    rw [hread]
    cases hd : decodeBody body with
    | error e => exact ⟨by simp only [hd]; rfl, fun _ _ hok => by cases hok⟩
    | ok f =>
      refine ⟨by simp only [hd]; rfl, fun frame size hok => ?_⟩
      cases hok
      rw [List.length_append, hlength, unpackU32_length hlen]
      omega

theorem decodeFrameLen_ok {lenBuf : Bytes} {n : ℕ} (h : decodeFrameLen lenBuf = .ok n) :
    unpackU32 lenBuf = some n := by
  unfold decodeFrameLen at h
  split at h
  · cases h
    assumption
  · cases h

theorem decodeFirst_ends {result : Except Exc (Frame × ℕ)} (heof : eof = true → wire = [])
    (h : decodeFirst r eof m = (.ends result, r')) :
    DecodesAs m (r.buffer ++ wire) wire result r' := by
  unfold decodeFirst at h
  split at h
  · cases h
  · rename_i mid hr
    obtain ⟨rfl, rfl⟩ := StreamReader.await_incomplete hr
    have hread := StreamReader.await_some heof hr
    cases h
    refine ⟨?_, fun _ _ hok => by cases hok⟩
    rw [heof rfl] at hread ⊢
    simp only [Frame.decode, hread]
    rfl
  · rename_i lenBuf mid hr
    have hread := StreamReader.await_some heof hr
    have hbuffer := readexactly_some hread
    dsimp only at hbuffer
    split at h
    · rename_i e he
      cases h
      refine ⟨?_, fun _ _ hok => by cases hok⟩
      simp only [Frame.decode, hread, he]
      rfl
    · rename_i n hn
      split at h
      · rename_i hbig
        simp only [Prod.mk.injEq, Resumed.ends.injEq] at h
        obtain ⟨rfl, rfl⟩ := h
        refine ⟨?_, fun _ _ hok => absurd hok (tooBig_ne_ok _ _ _)⟩
        simp only [Frame.decode, hread, hn, if_pos hbig, tooBig_map]
      · rename_i hsmall
        rw [hbuffer]
        exact decodeRest_ends heof (decodeFrameLen_ok hn) (by omega) h

theorem DecodePoint.resume_ends {point : DecodePoint} {result : Except Exc (Frame × ℕ)}
    (hpoint : point.Passed m) (heof : eof = true → wire = [])
    (h : point.resume r eof m = (.ends result, r')) :
    DecodesAs m (point.taken ++ (r.buffer ++ wire)) wire result r' := by
  cases point with
  | length => exact decodeFirst_ends heof h
  | body lenBuf n => exact decodeRest_ends heof hpoint.1 hpoint.2 h

/-- `Frame.decode` waits for more than it has, drops nothing and has passed its checks. -/
structure DecodePoint.Waits (point : DecodePoint) (stream : Bytes) (r : StreamReader) (eof : Bool)
    (m : ℤ) : Prop where
  open_ : eof = false
  passed : point.Passed m
  kept : point.taken ++ r.buffer = stream
  short : r.buffer.length < point.wanted

theorem decodeRest_waits {lenBuf : Bytes} {n : ℕ} {point : DecodePoint}
    (hlen : unpackU32 lenBuf = some n) (hle : (n : ℤ) ≤ m)
    (h : decodeRest r eof lenBuf n = (.waits point, r')) :
    point.Waits (lenBuf ++ r.buffer) r' eof m := by
  unfold decodeRest at h
  split at h
  · rename_i hr
    cases h
    obtain ⟨hopen, hshort⟩ := StreamReader.await_none hr
    exact ⟨hopen, ⟨hlen, hle⟩, rfl, hshort⟩
  · cases h
  · cases h

theorem decodeFirst_waits {point : DecodePoint}
    (h : decodeFirst r eof m = (.waits point, r')) : point.Waits r.buffer r' eof m := by
  unfold decodeFirst at h
  split at h
  · rename_i hr
    cases h
    obtain ⟨hopen, hshort⟩ := StreamReader.await_none hr
    exact ⟨hopen, True.intro, rfl, hshort⟩
  · split at h <;> cases h
  · rename_i lenBuf mid hr
    split at h
    · cases h
    · rename_i n hn
      split at h
      · rw [Prod.mk.injEq] at h
        cases h.1
      · rename_i hsmall
        rw [readexactly_some (StreamReader.await_reads hr).1]
        exact decodeRest_waits (decodeFrameLen_ok hn) (by omega) h

theorem DecodePoint.resume_waits {point next : DecodePoint} (hpoint : point.Passed m)
    (h : point.resume r eof m = (.waits next, r')) :
    next.Waits (point.taken ++ r.buffer) r' eof m := by
  cases point with
  | length => exact decodeFirst_waits h
  | body lenBuf n => exact decodeRest_waits hpoint.1 hpoint.2 h

end Decode

/-! ### One step -/

theorem Conn.handshakeStep_eq (s : Conn) :
    s.handshakeStep = s.receive.2.handshakeOn s.receive.1 := by
  unfold Conn.handshakeStep Conn.handshakeOn
  rcases s.receive with ⟨e | frame, s₁⟩ <;> rfl

theorem Conn.readStep_eq (s : Conn) : s.readStep = s.receive.2.readOn s.receive.1 := by
  unfold Conn.readStep Conn.readOn
  rcases s.receive with ⟨e | frame, s₁⟩ <;> rfl

theorem Conn.receive_main (s : Conn) : s.receive.2.main = s.main := by
  unfold Conn.receive
  rcases Frame.decode s.reader s.config.maxFrameSize with ⟨e | frame, r⟩ <;> rfl

theorem Conn.step_decoding {s : Conn} (h : s.Decoding) :
    s.step (.main .ok) = some (s.receive.2.goOn s.receive.1) := by
  obtain ⟨hmain, hc⟩ := h
  have hresumes : ∀ next, s.bodyResumes .ok next = next := by
    intro next
    rw [Conn.bodyResumes, hc]
    rfl
  rcases hmain with hmain | hmain
  · simp only [Conn.step, Conn.mainStep, hmain, hresumes, Conn.goOn, Conn.receive_main,
      Conn.handshakeStep_eq, if_true]
  · simp only [Conn.step, Conn.mainStep, hmain, hresumes, Conn.goOn, Conn.receive_main,
      Conn.readStep_eq, reduceCtorEq, if_false]

/-- The connection with the whole stream does in one step what the end of a wait leads to. -/
theorem Conn.step_decodesAs {s : Conn} {stream wire : Bytes} {result : Except Exc (Frame × ℕ)}
    {r' : StreamReader} (hd : s.Decoding)
    (h : DecodesAs s.config.maxFrameSize stream wire result r') :
    (s.withReader ⟨stream⟩).step (.main .ok) =
      some ((Conn.decoded (s.withReader r') result).withReader ⟨r'.buffer ++ wire⟩) := by
  obtain ⟨hdecode, hsize⟩ := h
  have hd' : (s.withReader ⟨stream⟩).Decoding := hd
  rw [Conn.step_decoding hd', Conn.receive, Conn.withReader_reader, Conn.withReader_config, hdecode,
    ← Conn.decoded_withReader]
  cases result with
  | error e => rfl
  | ok p =>
    have hlength : stream.length - (r'.buffer ++ wire).length - 4 = p.2 := by
      rw [hsize p.1 p.2 rfl]
      omega
    dsimp only [Except.map, Conn.withReader_reader]
    rw [hlength]
    rfl

theorem Conn.decoded_reader (s : Conn) (r : StreamReader) (result : Except Exc (Frame × ℕ)) :
    ((s.withReader r).decoded result).reader = r := by
  rw [Conn.decoded_withReader, Conn.withReader_reader]

theorem Conn.step_quiet {s s' : Conn} {ev : Event} (h : ¬(ev = .main .ok ∧ s.Decoding))
    (hs : s.step ev = some s') : s'.reader = s.reader ∧ s'.config = s.config := by
  have hsame := s.step_withReader s.reader ev h
  have hself : s.withReader s.reader = s := rfl
  rw [hself, hs, Option.map_some, Option.some.injEq] at hsame
  have hreader : s'.reader = s.reader := by
    rw [hsame]
    rfl
  refine ⟨hreader, ?_⟩
  cases (Conn.step_move hs).intake with
  | nothing _ _ _ hconfig _ => exact hconfig
  | failed _ _ _ _ _ _ hconfig _ => exact hconfig
  | next _ _ _ _ _ _ _ hconfig => exact hconfig
  | first frame _ _ _ hdecode _ _ _ =>
    have hlt := Frame.decode_shrinks hdecode
    rw [hreader] at hlt
    omega

/-! ### The simulation -/

/-- What the connection has not decoded: the bytes of the frame under way, those that have
arrived, and those that have not. -/
def Link.unread (l : Link) : Bytes := l.point.taken ++ (l.conn.reader.buffer ++ l.wire)

/-- The connection with all its bytes. -/
def Link.whole (l : Link) : Conn := l.conn.withReader ⟨l.unread⟩

structure Link.Sound (l : Link) : Prop where
  eof : l.eof = true → l.wire = []
  passed : l.point.Passed l.conn.config.maxFrameSize

theorem Link.decodeStep_sound {l l' : Link} (h : l.Sound) (hd : l.conn.Decoding)
    (hs : l.decodeStep = some l') :
    l'.Sound ∧ (l'.whole = l.whole ∨ l.whole.step (.main .ok) = some l'.whole) := by
  unfold Link.decodeStep at hs
  split at hs
  · rename_i point reader hr
    split at hs
    · cases hs
    · cases hs
      have hw := DecodePoint.resume_waits h.passed hr
      refine ⟨⟨h.eof, hw.passed⟩, .inl ?_⟩
      have hunread : point.taken ++ (reader.buffer ++ l.wire) = l.unread := by
        rw [Link.unread, ← List.append_assoc, ← List.append_assoc, hw.kept]
      unfold Link.whole
      rw [← hunread]
      rfl
  · rename_i result reader hr
    cases hs
    have hends := DecodePoint.resume_ends h.passed h.eof hr
    refine ⟨⟨h.eof, True.intro⟩, .inr ?_⟩
    have hreader : (Conn.decoded { l.conn with reader := reader } result).reader = reader :=
      Conn.decoded_reader l.conn reader result
    unfold Link.whole Link.unread
    rw [Conn.step_decodesAs hd hends, hreader]
    rfl

/-- A step of the link is none of the connection with all its bytes, or one. -/
theorem Link.step_sound {l l' : Link} {ev : LinkEvent} (h : l.Sound) (hs : l.step ev = some l') :
    l'.Sound ∧ (l'.whole = l.whole ∨ ∃ e, ev = .conn e ∧ l.whole.step e = some l'.whole) := by
  cases ev with
  | arrive n =>
    simp only [Link.step] at hs
    split at hs
    · cases hs
    · rename_i hopen
      cases hs
      refine ⟨⟨fun he => absurd he hopen, h.passed⟩, .inl ?_⟩
      simp only [Link.whole, Link.unread, List.append_assoc, List.take_append_drop]
      rfl
  | eof =>
    simp only [Link.step] at hs
    split at hs
    · rename_i hwire
      cases hs
      exact ⟨⟨fun _ => hwire.1, h.passed⟩, .inl rfl⟩
    · cases hs
  | conn e =>
    simp only [Link.step] at hs
    split at hs
    · rename_i hd
      obtain ⟨rfl, hdecoding⟩ := hd
      obtain ⟨hsound, hsame | hstep⟩ := Link.decodeStep_sound h hdecoding hs
      · exact ⟨hsound, .inl hsame⟩
      · exact ⟨hsound, .inr ⟨_, rfl, hstep⟩⟩
    · rename_i hd
      obtain ⟨s', hs', rfl⟩ := Option.map_eq_some_iff.mp hs
      obtain ⟨hreader, hconfig⟩ := Conn.step_quiet hd hs'
      refine ⟨⟨h.eof, ?_⟩, .inr ⟨e, rfl, ?_⟩⟩
      · rw [hconfig]
        exact h.passed
      · rw [Link.whole, Conn.step_withReader _ _ _ hd, hs', Option.map_some, Link.whole, Link.unread,
          Link.unread, hreader]

/-- A condition on the steps of a connection that does not depend on its reader. -/
def IgnoresReader (D : Conn → Event → Prop) : Prop := ∀ s r ev, D s ev → D (s.withReader r) ev

/-- The steps of the event loop meet the condition. -/
def Link.Meets (D : Conn → Event → Prop) (l : Link) (ev : LinkEvent) : Prop :=
  ∀ e, ev = .conn e → D l.conn e

theorem Link.simulates {D : Conn → Event → Prop} (hD : IgnoresReader D) :
    Simulates Link.step (Link.Meets D) Conn.step D fun l s => l.Sound ∧ l.whole = s := by
  rintro l ev l' _ ⟨hsound, rfl⟩ hmeets hs
  obtain ⟨hsound', hsame | ⟨e, rfl, hstep⟩⟩ := Link.step_sound hsound hs
  · exact ⟨[], l.whole, True.intro, rfl, hsound', hsame⟩
  · have hmet : D l.whole e := hD l.conn _ e (hmeets e rfl)
    exact ⟨[e], l'.whole, ⟨hmet, fun _ _ => True.intro⟩,
      run_cons_eq_some.mpr ⟨l'.whole, hstep, rfl⟩, hsound', rfl⟩

theorem Link.init_sound (m c : ℤ) (inbound : Bytes) :
    (Link.init m c inbound).Sound ∧ (Link.init m c inbound).whole = Conn.init m c inbound :=
  ⟨⟨fun h => Bool.noConfusion h, True.intro⟩, rfl⟩

/-! ### The link to which all bytes have come -/

theorem Link.run_arrivals (s : Conn) (wire : Bytes) (cuts : List ℕ) :
    run Link.step ⟨s, .length, wire, false⟩ (cuts.map .arrive) =
      some ⟨s.withReader ⟨s.reader.buffer ++ wire.take cuts.sum⟩, .length, wire.drop cuts.sum,
        false⟩ := by
  induction cuts generalizing s wire with
  | nil =>
    simp only [List.map_nil, run_nil, List.sum_nil, List.take_zero, List.append_nil, List.drop_zero]
    rfl
  | cons n cuts ih =>
    refine run_cons_eq_some.mpr ⟨_, rfl, ?_⟩
    rw [ih, List.sum_cons, List.take_add, List.drop_drop, ← List.append_assoc]
    rfl

theorem Link.step_arrived (s : Conn) (e : Event) :
    Link.step ⟨s, .length, [], true⟩ (.conn e) =
      (s.step e).map fun s' => ⟨s', .length, [], true⟩ := by
  have hpassed : DecodePoint.length.Passed s.config.maxFrameSize := True.intro
  simp only [Link.step]
  split
  · rename_i hd
    obtain ⟨rfl, hdecoding⟩ := hd
    unfold Link.decodeStep
    split
    · rename_i point reader hr
      cases (DecodePoint.resume_waits hpassed hr).open_
    · rename_i result reader hr
      have hends : DecodesAs s.config.maxFrameSize (s.reader.buffer ++ []) [] result reader :=
        DecodePoint.resume_ends hpassed (fun _ => rfl) hr
      have hstep := Conn.step_decodesAs hdecoding hends
      have hreader : (s.withReader reader).decoded result =
          ((s.withReader reader).decoded result).withReader reader := by
        rw [← Conn.decoded_withReader]
        rfl
      rw [List.append_nil, List.append_nil, ← hreader] at hstep
      have hself : s.withReader ⟨s.reader.buffer⟩ = s := rfl
      rw [← hself, hstep]
      rfl
  · rfl

theorem Link.run_arrived {s s' : Conn} {ds : List Event} (h : run Conn.step s ds = some s') :
    run Link.step ⟨s, .length, [], true⟩ (ds.map .conn) = some ⟨s', .length, [], true⟩ := by
  induction ds generalizing s with
  | nil =>
    cases h
    rfl
  | cons e ds ih =>
    obtain ⟨mid, hs, hr⟩ := run_cons_eq_some.mp h
    refine run_cons_eq_some.mpr ⟨⟨mid, .length, [], true⟩, ?_, ih hr⟩
    rw [Link.step_arrived, hs, Option.map_some]

/-- A connection on a wire and the connection with all its bytes do the same, however the bytes
are cut and whenever they arrive: every run on the wire is one of the connection with all
bytes, under any condition on its steps that does not depend on the reader; and every such run
is one on the wire, after any arrivals of all bytes. -/
theorem arrival_refinement {D : Conn → Event → Prop} (hD : IgnoresReader D) (m c : ℤ)
    (inbound : Bytes) :
    (∀ es l, Along Link.step (Link.Meets D) (Link.init m c inbound) es →
      run Link.step (Link.init m c inbound) es = some l →
        ∃ ds, Along Conn.step D (Conn.init m c inbound) ds ∧
          run Conn.step (Conn.init m c inbound) ds = some l.whole) ∧
    ∀ (cuts : List ℕ) (ds : List Event) (s : Conn), inbound.length ≤ cuts.sum →
      run Conn.step (Conn.init m c inbound) ds = some s →
      run Link.step (Link.init m c inbound) (cuts.map .arrive ++ .eof :: ds.map .conn) =
        some ⟨s, .length, [], true⟩ := by
  constructor
  · intro es l hal hr
    obtain ⟨ds, s, hd, hs, -, rfl⟩ :=
      (Link.simulates hD).run (Link.init_sound m c inbound) hal hr
    exact ⟨ds, hd, hs⟩
  · intro cuts ds s hcuts hr
    have harrive := Link.run_arrivals (Conn.init m c []) inbound cuts
    rw [List.take_of_length_le hcuts, List.drop_of_length_le hcuts] at harrive
    refine run_append harrive (run_cons_eq_some.mpr ⟨⟨_, .length, [], true⟩, rfl, ?_⟩)
    exact Link.run_arrived hr

/-- HELLO and a NOTIFY on the wire; the body of the HELLO comes in two pieces. -/
def cutBytes : Bytes :=
  (Conn.onFrames 16384 2 [helloFrame 16384 [PIPELINING], notifyFrame 7 1]).reader.buffer

/-- The link after the events, if all are enabled. -/
def Link.after (inbound : Bytes) (events : List LinkEvent) : Link :=
  (run Link.step (Link.init 16384 2 inbound) events).getD (Link.init 16384 2 inbound)

def cutEvents : List LinkEvent :=
  [.arrive 3, .arrive 10, .conn (.main .ok), .arrive 1000, .conn (.main .ok), .conn (.main .ok),
    .conn (.main .ok), .conn (.start 0)]

theorem arrival_refinement_cut : ∃ ds,
    run Conn.step (Conn.init 16384 2 cutBytes) ds =
      some (Link.after cutBytes cutEvents).whole := by
  have hD : IgnoresReader fun _ ev => ev ≠ .lost := fun _ _ _ h => h
  have hal : Along Link.step (Link.Meets fun _ ev => ev ≠ .lost) (Link.init 16384 2 cutBytes)
      cutEvents := by
    refine along_of_forall fun ev hev l e he => ?_
    subst he
    rintro rfl
    revert hev
    decide
  have hr : run Link.step (Link.init 16384 2 cutBytes) cutEvents =
      some (Link.after cutBytes cutEvents) := by
    decide +kernel
  obtain ⟨ds, -, hds⟩ := (arrival_refinement hD 16384 2 cutBytes).1 cutEvents _ hal hr
  exact ⟨ds, hds⟩

/-! ### Waiting -/

theorem DecodePoint.Waits.bound {point : DecodePoint} {stream : Bytes} {r : StreamReader}
    {eof : Bool} {m : ℤ} (h : point.Waits stream r eof m) :
    (stream.length : ℤ) < 4 + max 0 m := by
  have hshort := h.short
  have hpassed := h.passed
  rw [← h.kept, List.length_append]
  cases point with
  | length =>
    simp only [DecodePoint.wanted] at hshort
    simp only [DecodePoint.taken, List.length_nil]
    omega
  | body lenBuf n =>
    obtain ⟨hlen, hle⟩ := hpassed
    simp only [DecodePoint.wanted] at hshort
    simp only [DecodePoint.taken, unpackU32_length hlen]
    omega

/-- The bytes that have arrived and belong to no frame that was read. -/
def Link.held (l : Link) : Bytes := l.point.taken ++ l.conn.reader.buffer

theorem Link.waits_of_none {l : Link} (hpassed : l.point.Passed l.conn.config.maxFrameSize)
    (hd : l.conn.Decoding) (hw : l.step (.conn (.main .ok)) = none) :
    ∃ r, l.point.Waits l.held r l.eof l.conn.config.maxFrameSize := by
  simp only [Link.step, true_and, if_pos hd] at hw
  unfold Link.decodeStep at hw
  split at hw
  · rename_i point reader hresume
    split at hw
    · rename_i hpoint
      subst hpoint
      exact ⟨reader, DecodePoint.resume_waits hpassed hresume⟩
    · cases hw
  · cases hw

/-- A connection that waits inside `Frame.decode` has less than one frame within the limit of
the agent, with its length, and the peer can still send. -/
theorem waiting_bounded (m c : ℤ) (inbound : Bytes) (l : Link)
    (h : Reaches Link.step (Link.init m c inbound) l) (hd : l.conn.Decoding)
    (hw : l.step (.conn (.main .ok)) = none) :
    l.eof = false ∧ (l.held.length : ℤ) < 4 + max 0 m := by
  obtain ⟨es, hr⟩ := h
  have hany : IgnoresReader fun _ _ => True := fun _ _ _ _ => True.intro
  obtain ⟨ds, s, -, hs, hsound, rfl⟩ := (Link.simulates hany).run (Link.init_sound m c inbound)
    (along_of_forall fun _ _ _ _ _ => True.intro) hr
  have hsize : l.conn.config.maxFrameSize ≤ m :=
    (InOrder.reachable ⟨ds, hs⟩ : InOrder m inbound l.whole).size
  obtain ⟨r, hwaits⟩ := Link.waits_of_none hsound.passed hd hw
  have hbound := hwaits.bound
  exact ⟨hwaits.open_, by omega⟩

/-- The first piece is not the whole body. -/
theorem waiting_bounded_cut :
    ((Link.after cutBytes (cutEvents.take 3)).held.length : ℤ) < 4 + max 0 16384 := by
  have hr : run Link.step (Link.init 16384 2 cutBytes) (cutEvents.take 3) =
      some (Link.after cutBytes (cutEvents.take 3)) := by
    decide +kernel
  have hd : (Link.after cutBytes (cutEvents.take 3)).conn.Decoding := by decide +kernel
  have hw : (Link.after cutBytes (cutEvents.take 3)).step (.conn (.main .ok)) = none := by
    decide +kernel
  exact (waiting_bounded 16384 2 cutBytes _ ⟨_, hr⟩ hd hw).2

end SpoeForge
