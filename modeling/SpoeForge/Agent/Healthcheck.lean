import SpoeForge.Cli
import SpoeForge.Server.DisconnectSize
import SpoeForge.Server.Traffic

/-!
# The health check (`cli.py`)

What the verdict says of the first frame that the agent sends, and what it is when the
agent is this one: the request runs through the connection, and the verdict is on what the
connection has written.
-/

namespace SpoeForge

open Fallible Grammar Runs

/-! ### The verdict -/

def healthcheckBytes : Bytes := (healthcheckHello.encode DEFAULT_FRAME_SIZE).toOption.getD []

theorem healthcheckHello_encode (m : ℤ) (h : m = 88 ∨ m = DEFAULT_FRAME_SIZE) :
    healthcheckHello.encode m = .ok healthcheckBytes := by
  rcases h with rfl | rfl <;> decide +kernel

theorem default_printable : Printable DEFAULT_FRAME_SIZE := by
  decide +kernel

/-- The agent answers with a HELLO within the limit one of whose lists is no string. -/
def BadAnswer (stream : Bytes) : Prop :=
  ∃ len body rest, unpackU32 len = some body.length ∧ (body.length : ℤ) ≤ DEFAULT_FRAME_SIZE ∧
    BadHello body ∧ stream = len ++ (body ++ rest)

/-- The agent answers with this frame within the limit. -/
def AnswersWith (stream : Bytes) (f : Frame) : Prop :=
  ∃ bs rest, IsFrame DEFAULT_FRAME_SIZE f bs ∧ stream = bs ++ rest

section Verdict

variable {net : Network} {quiet : Bool} {reader : StreamReader}

/-- Nothing fails up to the wait for the answer. -/
structure Network.Answers (net : Network) (reader : StreamReader) : Prop where
  connect : net.connect = .ok ()
  drain : net.drain = .ok ()
  answer : net.answer = .ok reader

/-- The agent is reached, its first frame is an AGENT-HELLO, and the connection closes. -/
def Network.Passes (net : Network) : Prop :=
  ∃ reader f, net.Answers reader ∧ AnswersWith reader.buffer f ∧ net.close = .ok () ∧
    f.frameType = .agentHello

/-- The check meets an exception that its except clause does not name: of an await that all before
it let happen, or of a bad answer. -/
inductive Network.Breaks (net : Network) : Prop
  | connect (e : Exc) (he : net.connect = .error e) (hcls : e.failsCheck = false)
  | drain (e : Exc) (hconnect : net.connect = .ok ()) (he : net.drain = .error e)
      (hcls : e.failsCheck = false)
  | answer (e : Exc) (hconnect : net.connect = .ok ()) (hdrain : net.drain = .ok ())
      (he : net.answer = .error e) (hcls : e.failsCheck = false)
  | badAnswer (reader : StreamReader) (h : net.Answers reader) (hbad : BadAnswer reader.buffer)
  | close (reader : StreamReader) (f : Frame) (e : Exc) (h : net.Answers reader)
      (hf : AnswersWith reader.buffer f) (he : net.close = .error e) (hcls : e.failsCheck = false)

theorem BadAnswer.decode (h : BadAnswer reader.buffer) :
    ∃ e reader', Frame.decode reader DEFAULT_FRAME_SIZE = (.error e, reader') ∧
      e.failsCheck = false := by
  obtain ⟨len, body, rest, hlen, hle, hbad, hbuffer⟩ := h
  obtain ⟨e, he, hcls⟩ := decodeBody_badHello hbad
  have hn : ¬(body.length : ℤ) > DEFAULT_FRAME_SIZE := by omega
  have hreader : reader = ⟨len ++ (body ++ rest)⟩ := by
    rw [← hbuffer]
  refine ⟨e, ⟨rest⟩, ?_, ?_⟩
  · rw [hreader]
    simp only [Frame.decode, readexactly_prefix hlen, decodeFrameLen, hlen, if_neg hn,
      readexactly_append, he]
  · rcases hcls with hc | hc <;> simp [Exc.failsCheck, Exc.isSpoeForgeError, hc]

theorem BadFrame.answer (h : BadFrame reader DEFAULT_FRAME_SIZE) : BadAnswer reader.buffer := by
  obtain ⟨len, mid, n, hlen, hu, ⟨-, hprint⟩ | ⟨hle, body, rest, hbody, hbad⟩⟩ := h
  · exact absurd default_printable hprint
  · have hlength := StreamReader.readexactly_length hbody
    have hmid := readexactly_some hbody
    have hn : n = body.length := by
      rw [hmid, List.length_append] at hlength
      omega
    rw [hn] at hu hle
    exact ⟨len, body, rest.buffer, hu, hle, hbad, by rw [readexactly_some hlen, hmid]⟩

theorem answer_ok {f : Frame} : (Frame.decode reader DEFAULT_FRAME_SIZE).1 = .ok f ↔
    AnswersWith reader.buffer f := by
  constructor
  · intro hd
    obtain ⟨bs, hbs, hbuffer⟩ := Frame.decode_isFrame
      (show Frame.decode reader DEFAULT_FRAME_SIZE =
        (.ok f, (Frame.decode reader DEFAULT_FRAME_SIZE).2) from Prod.ext hd rfl)
    exact ⟨bs, _, hbs, hbuffer⟩
  · rintro ⟨bs, rest, hbs, hbuffer⟩
    have hreader : reader = ⟨bs ++ rest⟩ := by
      rw [← hbuffer]
    rw [hreader, hbs.decode rest]

/-- Of the errors of `Frame.decode` only those for a bad answer are not named. -/
theorem answer_error : (∃ e, (Frame.decode reader DEFAULT_FRAME_SIZE).1 = .error e ∧
    e.failsCheck = false) ↔ BadAnswer reader.buffer := by
  constructor
  · rintro ⟨e, he, hcls⟩
    by_contra hbad
    rcases Frame.decode_fails (fun hb => hbad hb.answer) (show
      Frame.decode reader DEFAULT_FRAME_SIZE =
        (.error e, (Frame.decode reader DEFAULT_FRAME_SIZE).2) from Prod.ext he rfl) with
      rfl | hdec | hbig
    · cases hcls
    · simp [Exc.failsCheck, Exc.isSpoeForgeError, hdec.1] at hcls
    · simp [Exc.failsCheck, Exc.isSpoeForgeError, hbig.1] at hcls
  · intro hbad
    obtain ⟨e, reader', hd, hcls⟩ := hbad.decode
    exact ⟨e, by rw [hd], hcls⟩

/-- The awaits up to the answer have ended well. -/
theorem healthcheckBody_answered (h : net.Answers reader) : healthcheckBody net quiet = (do
    let agentHello ← (Frame.decode reader DEFAULT_FRAME_SIZE).1
    net.close
    if agentHello.frameType ≠ .agentHello then
      .ok (checkFailed quiet (str "unexpected response " ++ agentHello.frameType.name))
    else .ok (true, [])) := by
  rw [healthcheckBody, h.connect, h.drain, h.answer, healthcheckHello_encode _ (.inr rfl)]
  rfl

theorem healthcheckBody_passes :
    (∃ lines, healthcheckBody net quiet = .ok (true, lines)) ↔ net.Passes := by
  constructor
  · rintro ⟨lines, h⟩
    obtain ⟨⟨⟩, hconnect, h⟩ := bind_eq_ok.mp h
    obtain ⟨bytes, -, h⟩ := bind_eq_ok.mp h
    obtain ⟨⟨⟩, hdrain, h⟩ := bind_eq_ok.mp h
    obtain ⟨reader, hanswer, h⟩ := bind_eq_ok.mp h
    obtain ⟨f, hf, h⟩ := bind_eq_ok.mp h
    obtain ⟨⟨⟩, hclose, h⟩ := bind_eq_ok.mp h
    refine ⟨reader, f, ⟨hconnect, hdrain, hanswer⟩, answer_ok.mp hf, hclose, ?_⟩
    by_contra htype
    rw [if_pos htype] at h
    cases h
  · rintro ⟨reader, f, h, hf, hclose, htype⟩
    refine ⟨[], ?_⟩
    rw [healthcheckBody_answered h, answer_ok.mpr hf, ok_bind, hclose, ok_bind,
      if_neg (not_not.mpr htype)]

theorem healthcheckBody_breaks :
    (∃ e, healthcheckBody net quiet = .error e ∧ e.failsCheck = false) ↔ net.Breaks := by
  constructor
  · rintro ⟨e, h, hcls⟩
    obtain he | ⟨⟨⟩, hconnect, h⟩ := bind_eq_error.mp h
    · exact .connect e he hcls
    rw [healthcheckHello_encode _ (.inr rfl), ok_bind] at h
    obtain he | ⟨⟨⟩, hdrain, h⟩ := bind_eq_error.mp h
    · exact .drain e hconnect he hcls
    obtain he | ⟨reader, hanswer, h⟩ := bind_eq_error.mp h
    · exact .answer e hconnect hdrain he hcls
    have hanswers : net.Answers reader := ⟨hconnect, hdrain, hanswer⟩
    obtain he | ⟨f, hf, h⟩ := bind_eq_error.mp h
    · exact .badAnswer reader hanswers (answer_error.mp ⟨e, he, hcls⟩)
    obtain he | ⟨⟨⟩, hclose, h⟩ := bind_eq_error.mp h
    · exact .close reader f e hanswers (answer_ok.mp hf) he hcls
    · split at h <;> cases h
  · intro h
    cases h with
    | connect e he hcls => exact ⟨e, by rw [healthcheckBody, he]; rfl, hcls⟩
    | drain e hconnect he hcls =>
      refine ⟨e, ?_, hcls⟩
      rw [healthcheckBody, hconnect, he, healthcheckHello_encode _ (.inr rfl)]
      rfl
    | answer e hconnect hdrain he hcls =>
      refine ⟨e, ?_, hcls⟩
      rw [healthcheckBody, hconnect, hdrain, he, healthcheckHello_encode _ (.inr rfl)]
      rfl
    | badAnswer reader hanswers hbad =>
      obtain ⟨e, he, hcls⟩ := answer_error.mpr hbad
      exact ⟨e, by rw [healthcheckBody_answered hanswers, he, error_bind], hcls⟩
    | close reader f e hanswers hf he hcls =>
      refine ⟨e, ?_, hcls⟩
      rw [healthcheckBody_answered hanswers, answer_ok.mpr hf, ok_bind, he, error_bind]

/-- The exit code of the command is the verdict; the exceptions that escape it are those of the
`try` block that the except clause does not name. -/
theorem main_exit (net : Network) (quiet : Bool) :
    ((∃ lines, main (some (net, quiet)) = .ok (0, lines)) ↔
      ∃ lines, healthcheckBody net quiet = .ok (true, lines)) ∧
    ((∃ e, main (some (net, quiet)) = .error e) ↔
      ∃ e, healthcheckBody net quiet = .error e ∧ e.failsCheck = false) ∧
    ((∃ lines, main (some (net, quiet)) = .ok (0, lines)) ∨
      (∃ e, main (some (net, quiet)) = .error e) ∨
      ∃ lines, main (some (net, quiet)) = .ok (1, lines)) := by
  simp only [main, healthcheckCommand, healthcheck]
  rcases healthcheckBody net quiet with e | ⟨result, lines⟩
  · cases hcls : e.failsCheck <;> simp [checkFailed, hcls]
  · cases result <;> cases quiet <;> simp

/-- The command exits with 0 exactly when it reaches the agent, the first frame of the answer is an
AGENT-HELLO within 4096 bytes, whatever it offers, and the connection closes; an exception escapes
exactly when an await raises one that is neither an `OSError` nor of the package, or the answer is a
HELLO with a list that is no string; in all other cases it exits with 1. -/
theorem healthcheck_outcome (net : Network) (quiet : Bool) :
    ((∃ lines, main (some (net, quiet)) = .ok (0, lines)) ↔ net.Passes) ∧
    ((∃ e, main (some (net, quiet)) = .error e) ↔ net.Breaks) ∧
    ((∃ lines, main (some (net, quiet)) = .ok (1, lines)) ↔ ¬net.Passes ∧ ¬net.Breaks) := by
  obtain ⟨hexit, hescapes, hall⟩ := main_exit net quiet
  rw [healthcheckBody_passes] at hexit
  rw [healthcheckBody_breaks] at hescapes
  refine ⟨hexit, hescapes, ?_, ?_⟩
  · rintro ⟨lines, hone⟩
    rw [← hexit, ← hescapes, hone]
    simp
  · rintro ⟨hpasses, hbreaks⟩
    rw [hexit, hescapes] at hall
    exact (hall.resolve_left hpasses).resolve_left hbreaks

-- A port beyond 65535: `open_connection` raises `OverflowError`.
example : main (some (⟨.error ⟨.exception, []⟩, .ok (), .ok ⟨[]⟩, .ok ()⟩, true)) =
    .error ⟨.exception, []⟩ := by decide

end Verdict

/-! ### The request at the agent -/

/-- The configuration that the request negotiates. -/
def checkConfig (m c : ℤ) : ServerConfiguration :=
  { ServerConfiguration.init (min m DEFAULT_FRAME_SIZE) c with capabilities := SPOE_CAPABILITIES }

theorem healthcheckHello_carried : healthcheckHello.Carried := by
  refine ⟨by decide, by decide, ?_⟩
  simp only [healthcheckHello, Frame.construct, Payload.Carried]
  decide +kernel

theorem request_decode {m : ℤ} (h : 88 ≤ m) :
    Frame.decode ⟨healthcheckBytes⟩ m = (.ok healthcheckHello, ⟨[]⟩) := by
  have hframe : IsFrame 88 healthcheckHello healthcheckBytes :=
    Frame.encode_isFrame healthcheckHello_carried (healthcheckHello_encode 88 (.inl rfl))
  have hdecode := (hframe.mono h).decode []
  rwa [List.append_nil] at hdecode

theorem request_refused {m : ℤ} (h : m < 88) :
    ∃ e reader, Frame.decode ⟨healthcheckBytes⟩ m = (.error e, reader) := by
  have hread : StreamReader.readexactly ⟨healthcheckBytes⟩ 4 =
      (some [0, 0, 0, 88], ⟨healthcheckBytes.drop 4⟩) := by
    decide +kernel
  have hlen : unpackU32 [0, 0, 0, 88] = some 88 := by decide +kernel
  have hbig : ((88 : ℕ) : ℤ) > m := by omega
  simp only [Frame.decode, hread, decodeFrameLen, hlen, if_pos hbig]
  cases hresult : (tooBig 88 m : Except Exc Frame) with
  | error e => exact ⟨e, _, rfl⟩
  | ok f => exact absurd hresult (tooBig_ne_ok _ _ _)

theorem request_negotiates {m : ℤ} (c : ℤ) (h : 0 < m) :
    (ServerConfiguration.init m c).negotiateServerCompatibility [str "2.0"]
      (.int DEFAULT_FRAME_SIZE) [str "pipelining"] = .ok (checkConfig m c) := by
  have hversion : checkVersionCompatibility intOfStr (.init m c) [str "2.0"] =
      .ok (.init m c) := by
    have hcompatible : someCompatible intOfStr (2, 0) [str "2.0"] = true := by decide +kernel
    simp only [checkVersionCompatibility, ServerConfiguration.init, parseVersion_agent, hcompatible]
  have hpos : 0 < min m DEFAULT_FRAME_SIZE := lt_min h (by decide)
  have hsize : findMaxFrameSize (.init m c) (.int DEFAULT_FRAME_SIZE) =
      .ok (.init (min m DEFAULT_FRAME_SIZE) c) := by
    have hnumber : (Value.int DEFAULT_FRAME_SIZE).number? = some DEFAULT_FRAME_SIZE := rfl
    have hprint : ¬Unprintable (min (ServerConfiguration.init m c).maxFrameSize
        DEFAULT_FRAME_SIZE) := fun hu => absurd hu.1 (not_le.mpr hpos)
    rw [findMaxFrameSize_number hnumber, if_neg hprint]
    simp [ServerConfiguration.init, hpos]
  have hcommon : SPOE_CAPABILITIES.filter (fun x => x ∈ [str "pipelining"]) =
      SPOE_CAPABILITIES := by decide
  simp only [ServerConfiguration.negotiateServerCompatibility, negotiateWith, hversion, hsize,
    ok_bind, findCommonCapabilities, hcommon, checkConfig]

theorem agentHello_body {size : ℤ} (hl : 0 ≤ size) (hh : size ≤ DEFAULT_FRAME_SIZE) : ∃ out,
    (Frame.construct 0 0 (.agentHello ⟨.str SPOE_VERSION, .int size, SPOE_CAPABILITIES⟩)).body =
      .ok out ∧ out.length ≤ 71 := by
  have hmax : DEFAULT_FRAME_SIZE < 2 ^ 63 := by decide
  obtain ⟨x, hversion, lx⟩ : ∃ x, composeKvPair keyVersion (.str SPOE_VERSION) = .ok x ∧
      x.length = 13 :=
    ⟨[7, 118, 101, 114, 115, 105, 111, 110, 8, 3, 50, 46, 48], by decide +kernel, rfl⟩
  obtain ⟨z, hcapabilities, lz⟩ : ∃ z, composeKvPair keyCapabilities
      (.str (toSpopList SPOE_CAPABILITIES)) = .ok z ∧ z.length = 25 :=
    ⟨[12, 99, 97, 112, 97, 98, 105, 108, 105, 116, 105, 101, 115, 8, 10, 112, 105, 112, 101, 108,
      105, 110, 105, 110, 103], by decide +kernel, rfl⟩
  obtain ⟨y, hsize, ly⟩ : ∃ y, composeKvPair keyMaxFrameSize (.int size) = .ok y ∧
      y.length ≤ 26 := by
    obtain ⟨k, hk, lk⟩ := encodeString_length (show Latin1 keyMaxFrameSize by decide)
    have hrange : INT64_MIN ≤ size ∧ size ≤ INT64_MAX := by
      simp only [INT64_MIN, INT64_MAX]
      omega
    have hmask : (maskUint 64 size).toNat = size.toNat := by
      rw [maskUint, Int.emod_eq_of_lt hl (by omega)]
    have hvarint := varintBytes_length_le (n := size.toNat) (by omega)
    have lkey : keyMaxFrameSize.length = 14 := by decide
    refine ⟨_, composeKvPair_ok.mpr ⟨k, _, hk, autoEncodeDtVar_int hrange, rfl⟩, ?_⟩
    rw [lkey, varintBytes_length_short (by decide)] at lk
    simp only [hmask, List.length_append, List.length_singleton, typeData, lk]
    omega
  have hpairs : extendAll (fun p => composeKvPair p.1 p.2)
      [(keyVersion, Value.str SPOE_VERSION), (keyMaxFrameSize, .int size),
        (keyCapabilities, .str (toSpopList SPOE_CAPABILITIES))] = .ok (x ++ (y ++ (z ++ []))) := by
    simp only [extendAll, hversion, hsize, hcapabilities, ok_bind]
  have hpayload : (Payload.agentHello ⟨.str SPOE_VERSION, .int size, SPOE_CAPABILITIES⟩).encode =
      .ok (x ++ (y ++ (z ++ []))) := hpairs
  have hmeta : encodeMetadata ⟨⟨true, false⟩, 0, 0⟩ = .ok [0, 0, 0, 1, 0, 0] := by decide +kernel
  refine ⟨_, Frame.body_ok.mpr ⟨_, _, hmeta, hpayload, rfl⟩, ?_⟩
  simp only [List.length_append, List.length_cons, List.length_nil, lx, lz]
  omega

theorem agentHello_encode {m : ℤ} (c : ℤ) (h : 88 ≤ m) : ∃ bytes,
    (agentHelloFrame (checkConfig m c)).encode (checkConfig m c).maxFrameSize = .ok bytes := by
  have hl : 88 ≤ (checkConfig m c).maxFrameSize := le_min h (by decide)
  have hh : (checkConfig m c).maxFrameSize ≤ DEFAULT_FRAME_SIZE := min_le_right _ _
  have hmax : DEFAULT_FRAME_SIZE < 2 ^ 63 := by decide
  obtain ⟨out, hout, hlen⟩ := agentHello_body (by omega) hh
  obtain ⟨len, hpack⟩ := packU32_ok (n := out.length) (by omega)
  exact ⟨len ++ out, Frame.encode_ok.mpr ⟨out, len, hout, hpack, by omega,
    printable_of_lt (by omega) (by omega), rfl⟩⟩

end SpoeForge
