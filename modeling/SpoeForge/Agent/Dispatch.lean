import SpoeForge.Registry
import SpoeForge.Library.Fallible

/-!
# Dispatch of a list of messages

Every message contributes what the handler registered last for its name gives for its own
arguments. `_notify_handler` returns the contributions in order, unless a handler that is no
`async def` function gives an awaitable, which nothing awaits, or an exception gets out: one
that has no text, one that is no `Exception`, or the cancellation of a future in a thread.
-/

namespace SpoeForge

open Fallible

/-! ### Contributions -/

/-- The list in what a call or an await gives; nothing for any other object and for an
exception. -/
def Ending.actions : Ending → List ActionObj
  | .ok y => y.actions
  | .error _ => []

/-- The list that a handler yields, awaited first when the call gives an awaitable. -/
def Handler.contribution (ctx : AgentContext) : Handler → List ActionObj
  | .coroutineFunction awaited => Ending.actions (awaited ctx)
  | .callable called =>
    match called ctx with
    | .ok (.awaitable ending) => Ending.actions ending
    | ending => Ending.actions ending

/-- The calls of `register`, in order. -/
def registerAll (calls : List (Str × Handler)) : AgentRegistry :=
  calls.foldl (fun r call => r.register call.1 call.2) .empty

/-- What a message contributes under the handler registered last for its name. -/
def contribution (calls : List (Str × Handler)) (m : Str × Args) : List ActionObj :=
  match calls.reverse.lookup m.1 with
  | none => []
  | some handler => handler.contribution ⟨m.1, m.2⟩

/-- An `Exception` whose `str` gives a text. -/
def Raised.Logged (raised : Raised) : Prop :=
  raised.kind ≠ .base ∧ raised.strRaises = none

/-- The same for what is raised in a thread, where a `StopIteration` is replaced by an exception
that has a text, and the cancellation of a future by one that is no `Exception`. -/
def Raised.LoggedFromThread (raised : Raised) : Prop :=
  match raised.kind with
  | .base | .futureCancelled => False
  | .stopIteration => True
  | .exception => raised.strRaises = none

/-- The handler raises nothing but exceptions that get logged, and gives no awaitable of actions
unless it is an `async def` function. -/
def Handler.Contributes (ctx : AgentContext) : Handler → Prop
  | .coroutineFunction awaited =>
    match awaited ctx with
    | .ok _ => True
    | .error raised => raised.Logged
  | .callable called =>
    match called ctx with
    | .ok (.awaitable ending) => Ending.actions ending = []
    | .ok _ => True
    | .error raised => raised.LoggedFromThread

/-! ### The registry -/

theorem registerAll_get? (calls : List (Str × Handler)) (name : Str) :
    (registerAll calls).handlers.get? name = calls.reverse.lookup name := by
  induction calls using List.reverseRecOn with
  | nil => rfl
  | append_singleton calls call ih =>
    have hlast : registerAll (calls ++ [call]) = (registerAll calls).register call.1 call.2 := by
      rw [registerAll, List.foldl_append]
      rfl
    rw [hlast, AgentRegistry.register, Dict.get?_set, ih, List.reverse_append,
      List.reverse_singleton, List.singleton_append, List.lookup_cons]
    by_cases h : name = call.1
    · simp [h]
    · have hne : (name == call.1) = false := beq_eq_false_iff_ne.mpr h
      simp [h, hne]

/-! ### One message -/

/-- One turn of the loop: what the message adds to the actions. -/
def AgentRegistry.turn (r : AgentRegistry) (m : Str × Args) : Except Exc (List ActionObj) :=
  (r.handleMessage m.1 m.2).map Yielded.actions

theorem notifyLoop_eq (r : AgentRegistry) (messages : Messages) (actions : List ActionObj) :
    r.notifyLoop actions messages =
      (extendAll r.turn messages).map fun added => actions ++ added := by
  induction messages generalizing actions with
  | nil => simp [AgentRegistry.notifyLoop, extendAll, Except.map]
  | cons m messages ih =>
    obtain ⟨message, args⟩ := m
    simp only [AgentRegistry.notifyLoop, extendAll, AgentRegistry.turn, ih]
    cases r.handleMessage message args with
    | error e => rfl
    | ok y =>
      simp only [ok_bind, Except.map]
      cases extendAll r.turn messages with
      | error e => rfl
      | ok added => simp [List.append_assoc]

theorem notifyHandler_eq (r : AgentRegistry) (messages : Messages) :
    r.notifyHandler messages = extendAll r.turn messages := by
  rw [AgentRegistry.notifyHandler, notifyLoop_eq]
  cases extendAll r.turn messages <;> rfl

theorem Raised.logged_toThread {raised : Raised} :
    raised.toThread.Logged ↔ raised.LoggedFromThread := by
  unfold Logged LoggedFromThread toThread
  cases h : raised.kind <;> simp [h]

/-- The contribution is what the call or the await of the `try` block gives, except that nothing
awaits the awaitable of a plain callable. -/
theorem Handler.contribution_eq (handler : Handler) (ctx : AgentContext) :
    handler.contribution ctx = Ending.actions (handler.run ctx) ∨
      Ending.actions (handler.run ctx) = [] := by
  cases handler with
  | coroutineFunction awaited => exact .inl rfl
  | callable called =>
    rw [contribution, run]
    cases called ctx with
    | error raised => exact .inr rfl
    | ok y =>
      cases y with
      | awaitable ending => exact .inr rfl
      | none => exact .inl rfl
      | list actions => exact .inl rfl
      | other cls => exact .inl rfl

theorem Handler.contributes_iff (handler : Handler) (ctx : AgentContext) :
    handler.Contributes ctx ↔ handler.contribution ctx = Ending.actions (handler.run ctx) ∧
      ∀ raised, handler.run ctx = .error raised → raised.Logged := by
  cases handler with
  | coroutineFunction awaited =>
    rw [Contributes, contribution, run]
    cases awaited ctx with
    | error raised => simp
    | ok y => simp
  | callable called =>
    rw [Contributes, contribution, run]
    cases called ctx with
    | error raised => simp [Except.mapError, Raised.logged_toThread, Ending.actions]
    | ok y => cases y <;> simp [Except.mapError, Ending.actions, Yielded.actions]

section Turn

variable {calls : List (Str × Handler)} {m : Str × Args}

theorem turn_of_unregistered (h : calls.reverse.lookup m.1 = none) :
    (registerAll calls).turn m = .ok [] := by
  simp only [AgentRegistry.turn, AgentRegistry.handleMessage, registerAll_get?, h]
  rfl

variable {handler : Handler} (hl : calls.reverse.lookup m.1 = some handler)
include hl

theorem turn_eq_ok_iff {x : List ActionObj} : (registerAll calls).turn m = .ok x ↔
    x = Ending.actions (handler.run ⟨m.1, m.2⟩) ∧
      ∀ raised, handler.run ⟨m.1, m.2⟩ = .error raised → raised.Logged := by
  simp only [AgentRegistry.turn, AgentRegistry.handleMessage, registerAll_get?, hl]
  cases handler.run ⟨m.1, m.2⟩ with
  | ok y => simp [Except.map, Ending.actions, eq_comm]
  | error raised =>
    simp only [Ending.actions, Except.error.injEq, forall_eq', Raised.Logged]
    by_cases hbase : raised.kind = .base
    · simp [hbase, Except.map]
    · cases raised.strRaises <;> simp [hbase, Except.map, Yielded.actions, eq_comm]

omit hl

/-- What the loop adds for a message is what the message contributes, or nothing. -/
theorem turn_ok {x : List ActionObj} (h : (registerAll calls).turn m = .ok x) :
    x = contribution calls m ∨ x = [] := by
  cases hl : calls.reverse.lookup m.1 with
  | none =>
    rw [turn_of_unregistered hl] at h
    cases h
    exact .inr rfl
  | some handler =>
    obtain ⟨rfl, -⟩ := (turn_eq_ok_iff hl).mp h
    simp only [contribution, hl]
    exact (handler.contribution_eq ⟨m.1, m.2⟩).imp Eq.symm id

theorem turn_eq_contribution_iff : (registerAll calls).turn m = .ok (contribution calls m) ↔
    ∀ handler, calls.reverse.lookup m.1 = some handler → handler.Contributes ⟨m.1, m.2⟩ := by
  cases hl : calls.reverse.lookup m.1 with
  | none =>
    rw [turn_of_unregistered hl, contribution, hl]
    simp
  | some handler =>
    simp only [Option.some.injEq, forall_eq', contribution, hl]
    rw [turn_eq_ok_iff hl, handler.contributes_iff]

end Turn

/-- `_notify_handler` returns the contributions in the order of the messages exactly when every
handler contributes. In any case its result is put together from the turns of its loop, one for
each message, and the handlers of one name only decide the turns of the messages of this name. -/
theorem dispatch_iff (calls : List (Str × Handler)) (messages : Messages) :
    ((registerAll calls).notifyHandler messages = .ok (messages.flatMap (contribution calls)) ↔
      ∀ m ∈ messages, ∀ handler, calls.reverse.lookup m.1 = some handler →
        handler.Contributes ⟨m.1, m.2⟩) ∧
    (registerAll calls).notifyHandler messages = extendAll (registerAll calls).turn messages ∧
    ∀ (calls' : List (Str × Handler)) (name : Str),
      (∀ n, n ≠ name → calls'.reverse.lookup n = calls.reverse.lookup n) →
      (registerAll calls').notifyHandler messages = extendAll (registerAll calls').turn messages ∧
      ∀ m, m.1 ≠ name → (registerAll calls').turn m = (registerAll calls).turn m ∧
        contribution calls' m = contribution calls m := by
  refine ⟨?_, notifyHandler_eq _ _, fun calls' name hsame => ⟨notifyHandler_eq _ _, ?_⟩⟩
  · rw [notifyHandler_eq, extendAll_eq_flatMap_iff fun m x h => turn_ok h]
    exact forall₂_congr fun m _ => turn_eq_contribution_iff
  · intro m hm
    simp only [AgentRegistry.turn, AgentRegistry.handleMessage, registerAll_get?, contribution,
      hsame m.1 hm, and_self]

/-- A handler that raises and one for another name. -/
theorem dispatch_failing :
    (registerAll [(str "bad", .callable fun _ => .error
          ⟨⟨.valueError, str "boom"⟩, .exception, none⟩),
        (str "good", .coroutineFunction fun _ => .ok (.list [.ofUnset .session (str "a")]))]
      ).notifyHandler [(str "bad", Dict.empty), (str "good", Dict.empty), (str "new", Dict.empty)] =
        .ok [.ofUnset .session (str "a")] := by
  apply (dispatch_iff _ _).1.mpr
  intro m hm handler hl
  simp only [List.mem_cons, List.not_mem_nil, or_false] at hm
  rcases hm with rfl | rfl | rfl
  · cases hl
    rfl
  · cases hl
    exact True.intro
  · cases hl

/-- A plain function that gives the coroutine of an `async def` function. -/
def delegating : Handler :=
  .callable fun _ => .ok (.awaitable (.ok (.list [.ofUnset .session (str "a")])))

/-- Its action is lost: nothing awaits the coroutine. -/
theorem dispatch_unawaited :
    (registerAll [(str "check", delegating)]).notifyHandler [(str "check", Dict.empty)] = .ok [] ∧
    [(str "check", Dict.empty)].flatMap (contribution [(str "check", delegating)]) =
      [.ofUnset .session (str "a")] :=
  ⟨rfl, rfl⟩

-- The result of a future that was cancelled, asked for in a thread, cancels the task.
example : (registerAll [(str "check", .callable fun _ =>
      .error ⟨⟨.exception, []⟩, .futureCancelled, none⟩)]).notifyHandler
    [(str "check", Dict.empty)] = .error ⟨.cancelledError, []⟩ := rfl

end SpoeForge
