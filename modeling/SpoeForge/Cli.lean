import SpoeForge.Frame

/-!
# The health check (`cli.py`)

The awaits of `healthcheck` on the network are its arguments: how each of them ended, and
what the agent sends.
-/

namespace SpoeForge

def DEFAULT_FRAME_SIZE : ℤ := 1024 * 4

/-- How the awaits of `healthcheck` end, in order: normally or with an exception; `answer` is the
stream of the agent, up to where the wait for a frame ends. -/
structure Network where
  connect : Except Exc Unit
  drain : Except Exc Unit
  answer : Except Exc StreamReader
  close : Except Exc Unit

/-- The HAPROXY-HELLO of the health check, `cli.py:37-45`. -/
def healthcheckHello : Frame :=
  Frame.construct 0 0 (.haproxyHello
    ⟨[str "2.0"], .int DEFAULT_FRAME_SIZE, [str "pipelining"], .none, .bool true⟩)

/-- `logger.error` unless quiet, and `return False`. -/
def checkFailed (quiet : Bool) (reason : Str) : Bool × List Str :=
  (false, if quiet then [] else [str "Health check failed: " ++ reason])

/-- The `try` block of `healthcheck`, `cli.py:30-64`: the verdict and the lines logged. -/
def healthcheckBody (net : Network) (quiet : Bool) : Except Exc (Bool × List Str) := do
  net.connect
  let _ ← healthcheckHello.encode DEFAULT_FRAME_SIZE
  net.drain
  let reader ← net.answer
  let agentHello ← (Frame.decode reader DEFAULT_FRAME_SIZE).1
  net.close
  if agentHello.frameType ≠ .agentHello then
    .ok (checkFailed quiet (str "unexpected response " ++ agentHello.frameType.name))
  else .ok (true, [])

/-- `isinstance(e, (OSError, asyncio.TimeoutError, SpoeForgeError))`; `TimeoutError` is an
`OSError`. -/
def Exc.failsCheck (e : Exc) : Bool :=
  e.isSpoeForgeError || e.cls = .connectionError || e.cls = .osError

/-- `healthcheck`, `cli.py:18-69`. -/
def healthcheck (net : Network) (quiet : Bool) : Except Exc (Bool × List Str) :=
  match healthcheckBody net quiet with
  | .ok result => .ok result
  | .error e => if e.failsCheck then .ok (checkFailed quiet e.text) else .error e

/-- `healthcheck_command`, `cli.py:72-81`: the exit code and the lines logged. -/
def healthcheckCommand (net : Network) (quiet : Bool) : Except Exc (ℕ × List Str) :=
  match healthcheck net quiet with
  | .error e => .error e
  | .ok (result, lines) =>
    if !result then .ok (1, lines)
    else if !quiet then .ok (0, lines ++ [str "Health check passed"])
    else .ok (0, lines)

/-- `main` on parsed arguments, `cli.py:84-123`: without a command it prints the help. -/
def main (args : Option (Network × Bool)) : Except Exc (ℕ × List Str) :=
  match args with
  | some (net, quiet) => healthcheckCommand net quiet
  | none => .ok (2, [])

end SpoeForge
