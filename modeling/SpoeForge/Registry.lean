import SpoeForge.SpopTypes

/-!
# Message handlers (`agent/registry.py`, `spoe_forge.py:86-116`)

A handler is any callable on an `AgentContext`. What it does with its context is a
parameter: how the call ends or, for an `async def` function, how awaiting it ends.
-/

namespace SpoeForge

/-- `AgentContext`, `agent/context.py`. -/
structure AgentContext where
  message : Str
  args : Args
  deriving DecidableEq, Repr

/-- What `except Exception` and `asyncio.to_thread` tell apart in what is raised. -/
inductive RaisedKind where
  /-- a `BaseException` that is no `Exception` -/
  | base
  /-- `concurrent.futures.CancelledError`, an `Exception` -/
  | futureCancelled
  /-- `StopIteration` -/
  | stopIteration
  /-- any other `Exception` -/
  | exception
  deriving DecidableEq, Repr

/-- What a handler raises; `strRaises` is what its `str` raises instead of giving a text. -/
structure Raised where
  exc : Exc
  kind : RaisedKind
  strRaises : Option Exc
  deriving DecidableEq, Repr

/-- An object that a call or an await gives; `other` is an instance of any other class. -/
inductive Yielded where
  | none
  | list (actions : List ActionObj)
  | other (cls : Str)
  | awaitable (ending : Except Raised Yielded)

/-- How a call, or awaiting its coroutine, ends. -/
abbrev Ending := Except Raised Yielded

/-- `MessageHandlerFunc`, `registry.py:12`; the first kind is what
`inspect.iscoroutinefunction` recognises. -/
inductive Handler where
  | coroutineFunction (awaited : AgentContext → Ending)
  | callable (called : AgentContext → Ending)

/-- `AgentRegistry`, `registry.py:15-24`. -/
structure AgentRegistry where
  handlers : Dict Str Handler

def AgentRegistry.empty : AgentRegistry := ⟨Dict.empty⟩

/-- `AgentRegistry.register`, `registry.py:26-37`. -/
def AgentRegistry.register (r : AgentRegistry) (messageName : Str) (handler : Handler) :
    AgentRegistry :=
  ⟨r.handlers.set messageName handler⟩

/-- What `await asyncio.to_thread(...)` raises when the call raises: the future of the call
takes the cancellation of another future for its own, and cannot hold a `StopIteration`. -/
def Raised.toThread (raised : Raised) : Raised :=
  match raised.kind with
  | .futureCancelled => ⟨⟨.cancelledError, raised.exc.text⟩, .base, raised.strRaises⟩
  | .stopIteration => ⟨⟨.exception, str
      "StopIteration interacts badly with generators and cannot be raised into a Future"⟩,
      .exception, none⟩
  | .exception | .base => raised

/-- The `try` block of `handle_message`, `registry.py:64-68`: `to_thread` gives what the call
gives, also when that is an awaitable. -/
def Handler.run (handler : Handler) (ctx : AgentContext) : Ending :=
  match handler with
  | .coroutineFunction awaited => awaited ctx
  | .callable called => (called ctx).mapError Raised.toThread

/-- `handle_message`, `registry.py:39-73`; the log line of a caught exception formats it. -/
def AgentRegistry.handleMessage (r : AgentRegistry) (message : Str) (args : Args) :
    Except Exc Yielded :=
  match r.handlers.get? message with
  | none => .ok (.list [])
  | some handler =>
    match handler.run ⟨message, args⟩ with
    | .ok y => .ok y
    | .error raised =>
      if raised.kind = .base then .error raised.exc
      else
        match raised.strRaises with
        | none => .ok (.list [])
        | some e => .error e

/-- What `_notify_handler` adds for what a handler gave, `spoe_forge.py:101-114`. -/
def Yielded.actions : Yielded → List ActionObj
  | .list actions => actions
  | _ => []

/-- The `for` loop of `_notify_handler`, `spoe_forge.py:98-114`. -/
def AgentRegistry.notifyLoop (r : AgentRegistry) (actions : List ActionObj) :
    Messages → Except Exc (List ActionObj)
  | [] => .ok actions
  | (message, args) :: rest => do
    let handlerActions ← r.handleMessage message args
    r.notifyLoop (actions ++ handlerActions.actions) rest

/-- `_notify_handler`, `spoe_forge.py:86-116`. -/
def AgentRegistry.notifyHandler (r : AgentRegistry) (messages : Messages) :
    Except Exc (List ActionObj) :=
  r.notifyLoop [] messages

end SpoeForge
