import Costwise.Proofs.Publication

/-!
# What Records Are About

A record holds the source and the function that it is about. The message need not
name them if a block around it has: there is one context, which a block adds to when
it is entered and puts back when it is left. A message with keys of its own is in a
small block of its own. Blocks nest, a block may name a key again or name it without a
value, and a failure may leave several blocks at once. This file shows what comes of
that, for every program of such blocks.

A `Script` is such a program, made of messages, blocks, failures and handlers for
failures. It can be read in two ways. Performed, it changes the context and writes
records. Read off the page, `outline` lists the messages that are reached, each with
the keys of everything around it, the nearest first. The first reading carries one
context along and has to put it back; the second passes the surroundings down and
puts nothing back.

The two agree because inside any number of blocks the context is what these blocks
make of the context at the start (`contextIn`), and because leaving a block has only
that to restore: records are written in the same way whatever the context is
(`write_withLog`). What the context holds under a key is then the value from the
nearest surroundings that give one (`get?_contextIn`).

## Main definitions

* `Context.passed?`: The value that keys give to one of them.
* `Context.contextIn`: The context inside blocks.
* `Script`: Messages, blocks, failures and handlers.
* `Script.action`: A script as an action.
* `Call`, `Call.stamp`: A message with its surroundings, and the value from the nearest.
* `Script.outline`: The messages that a script reaches, and how it ends.
* `Script.emitted`: The records that are made while a script is performed.
* `Script.Performs`: The parts of a script that are performed.

## Theorems

* `get?_extend_given`: What a block adds, key by key.
* `get?_contextIn`: What the context holds inside blocks.
* `perform_tryCatch_of_error`, `perform_outcome`: What becomes of failures.
* `perform_noteAbout`: A message, with the context that its record gets.
* `perform_within`: A block, however it is left.
* `perform_action`: The two readings of a script agree.
* `emitted_eq_records`: The records that are made are those of the outline.
* `Performs.configured`: Every part of a script finds a log that is set up.
* `stamped_by_innermost`: What records are about.
-/

namespace Costwise

namespace Log

/-- What a record holds under a key, nothing if the key is not there. -/
def Record.stamp (record : Record) (key : String) : Json :=
  (Keyed.get? record.context key).getD .null

namespace Context

/-- The value that keys give to one of them: the last that is a value at all. -/
def passed? (keys : Keyed Json) (key : String) : Option Json :=
  (keys.reverse.find? fun entry => entry.1 == key && isValue entry.2).map (·.2)

theorem passed?_cons (name key : String) (value : Json) (rest : Keyed Json) :
    passed? ((name, value) :: rest) key
      = (passed? rest key).or (if name = key ∧ isValue value then some value else none) := by
  rw [passed?, List.reverse_cons, List.find?_append, Option.map_or, passed?]
  congr 1
  by_cases hname : name = key
  · cases hvalue : isValue value with
    | false => simp [hname, hvalue]
    | true => simp [hname, hvalue]
  · simp [hname]

theorem extend_cons (context : Context) (key : String) (value : Json) (added : Context) :
    extend context ((key, value) :: added) = extend (Keyed.put key value context) added := rfl

/-- What a block adds, key by key. -/
theorem get?_extend_given (context : Context) (keys : Keyed Json) (key : String) :
    Keyed.get? (context.extend (given keys)) key
      = (passed? keys key).or (Keyed.get? context key) := by
  induction keys generalizing context with
  | nil => rfl
  | cons entry rest ih =>
      rcases entry with ⟨name, value⟩
      rw [passed?_cons]
      cases hvalue : isValue value with
      | false =>
          -- A key without a value counts as not named.
          have hgiven : given ((name, value) :: rest) = given rest := by
            simp only [given, List.filter_cons, hvalue, Bool.false_eq_true, if_false]
          rw [hgiven, ih]
          simp only [Bool.false_eq_true, and_false, if_false, Option.or_none]
      | true =>
          have hgiven : given ((name, value) :: rest) = (name, value) :: given rest := by
            simp only [given, List.filter_cons, hvalue, if_true]
          rw [hgiven, extend_cons, ih, Option.or_assoc]
          by_cases hname : name = key
          · rw [hname, Keyed.get?_put_self, if_pos ⟨rfl, rfl⟩, Option.some_or]
          · rw [Keyed.get?_put_of_ne _ _ (Ne.symm hname), if_neg fun h => hname h.1,
              Option.none_or]

/-- The context inside some blocks, the nearest first. -/
def contextIn (start : Context) (around : List (Keyed Json)) : Context :=
  around.foldr (fun keys context => context.extend (given keys)) start

/-- Inside blocks, a key has the value from the nearest that gives one. -/
theorem get?_contextIn (start : Context) (around : List (Keyed Json)) (key : String) :
    Keyed.get? (contextIn start around) key
      = (around.findSome? (passed? · key)).or (Keyed.get? start key) := by
  induction around with
  | nil => rfl
  | cons keys rest ih =>
      have hinside : contextIn start (keys :: rest)
          = (contextIn start rest).extend (given keys) := rfl
      rw [hinside, get?_extend_given, ih, List.findSome?_cons]
      cases passed? keys key with
      | none => rw [Option.none_or]
      | some value => rw [Option.some_or, Option.some_or]

end Context

namespace Session

variable (setup : Setup) (context : Context) (keys : Keyed Json)

theorem enter_eq :
    enter ⟨some setup, some context⟩ keys
      = if (Context.given keys).isEmpty then (⟨some setup, some context⟩, none)
        else (⟨some setup, some (context.extend (Context.given keys))⟩, some context) := rfl

/-- A block extends the context, also where it has nothing to add. -/
theorem enter_configured :
    (enter ⟨some setup, some context⟩ keys).1
      = ⟨some setup, some (context.extend (Context.given keys))⟩ := by
  rw [enter_eq]
  cases Context.given keys with
  | nil => rfl
  | cons entry rest => rfl

theorem record?_configured (level : Level) (message : String) :
    record? ⟨some setup, some context⟩ level message
      = if setup.threshold ≤ level then some ⟨level, message, context⟩ else none := rfl

theorem setup_ready (session : Session) : ∃ setup, session.ready.setup = some setup := by
  rcases session with ⟨_ | setup, context⟩
  · exact ⟨{}, rfl⟩
  · exact ⟨setup, rfl⟩

theorem ready_of_setup {session : Session} (h : ∃ setup, session.setup = some setup) :
    session.ready = session := by
  rcases h with ⟨setup, h⟩
  rw [ready, configure, h]

/-- Everything that entering a block can do to a log: set it up, and extend a context. -/
theorem enter_cases (session : Session) :
    session.enter keys = (session.ready, none) ∨
      ∃ found, session.ready.context = some found ∧
        session.enter keys
          = (⟨session.ready.setup, some (found.extend (Context.given keys))⟩, some found) := by
  unfold enter
  dsimp only
  cases session.ready.context with
  | none => exact .inl rfl
  | some found =>
      cases Context.given keys with
      | nil => exact .inl rfl
      | cons entry rest => exact .inr ⟨found, rfl, rfl⟩

theorem setup_enter (session : Session) : (session.enter keys).1.setup = session.ready.setup := by
  rcases enter_cases keys session with h | ⟨found, _, h⟩
  · rw [h]
  · rw [h]

/-- Inside a block the log is set up. -/
theorem ready_enter (session : Session) :
    (session.enter keys).1.ready = (session.enter keys).1 := by
  refine ready_of_setup ?_
  rw [setup_enter]
  exact setup_ready session

/-- A block that is left puts back what it found, also where it remembers nothing. -/
theorem leave_enter (session : Session) :
    (session.enter keys).1.leave (session.enter keys).2 = some session.ready := by
  rcases enter_cases keys session with h | ⟨found, hfound, h⟩
  · rw [h, leave]
  · rw [h, leave, Option.map_some, ← hfound]

end Session

end Log

namespace Command

open Log (Record Setup Context)

namespace Environment

/-- The environment with another log. -/
def withLog (env : Environment) (log : Log.Session) : Environment :=
  { env with log }

theorem withLog_self (env : Environment) : env.withLog env.log = env := rfl

theorem log_withLog (env : Environment) (log : Log.Session) : (env.withLog log).log = log := rfl

theorem withLog_withLog (env : Environment) (log other : Log.Session) :
    (env.withLog log).withLog other = env.withLog other := rfl

theorem withLog_ready {env : Environment} {setup : Setup} {context : Context}
    (hlog : env.log = ⟨some setup, some context⟩) : env.withLog env.log.ready = env := by
  have hready : env.log.ready = env.log := Log.Session.ready_of_setup ⟨setup, by rw [hlog]⟩
  rw [hready, withLog_self]

/-- A record is written in the same way whatever the context is. -/
theorem write_withLog {env : Environment} {log : Log.Session} (h : log.setup = env.log.setup)
    (record : Record) : (env.withLog log).write record = (env.write record).withLog log := by
  rcases log with ⟨setup, context⟩
  obtain rfl : setup = env.log.setup := h
  rfl

theorem foldl_write_withLog {env : Environment} {log : Log.Session}
    (h : log.setup = env.log.setup) (records : List Record) :
    records.foldl write (env.withLog log) = (records.foldl write env).withLog log := by
  induction records generalizing env with
  | nil => rfl
  | cons record rest ih =>
      rw [List.foldl_cons, write_withLog h, List.foldl_cons]
      exact ih h

theorem log_foldl_write (env : Environment) (records : List Record) :
    (records.foldl write env).log = env.log := by
  induction records generalizing env with
  | nil => rfl
  | cons record rest ih => rw [List.foldl_cons, ih]; rfl

end Environment

namespace Action

variable {α : Type} {action : Action α} {env after : Environment}

/-- A failure is handled in the environment that it leaves behind. -/
theorem perform_tryCatch_of_error {handler : Failure → Action α} {failure : Failure}
    (h : action.perform env = (.error failure, after)) :
    (tryCatch action handler).perform env = (handler failure).perform after := by
  have hrun : StateT.run (ExceptT.run action) env = (.error failure, after) := h
  unfold perform
  rw [ExceptT.run_tryCatch, StateT.run_bind, hrun]
  rfl

theorem perform_tryCatch_of_ok {handler : Failure → Action α} {value : α}
    (h : action.perform env = (.ok value, after)) :
    (tryCatch action handler).perform env = (.ok value, after) := by
  have hrun : StateT.run (ExceptT.run action) env = (.ok value, after) := h
  unfold perform
  rw [ExceptT.run_tryCatch, StateT.run_bind, hrun]
  rfl

/-- The outcome of an action is a value, also if the action fails. -/
theorem perform_outcome {result : Except Failure α} (h : action.perform env = (result, after)) :
    (outcome action).perform env = (.ok result, after) := by
  rw [outcome, map_eq_pure_bind]
  cases result with
  | ok value => exact perform_tryCatch_of_ok (perform_bind_of_ok h)
  | error failure =>
      rw [perform_tryCatch_of_error (perform_bind_of_error h)]
      rfl

theorem perform_get (env : Environment) :
    (get : Action Environment).perform env = (.ok env, env) := rfl

theorem perform_enter (keys : Keyed Json) (env : Environment) :
    (enter keys).perform env
      = (.ok (env.log.enter keys).2, env.withLog (env.log.enter keys).1) := rfl

theorem perform_leave {block : Log.Block} {log : Log.Session}
    (h : env.log.leave block = some log) :
    (leave block).perform env = (.ok (), env.withLog log) := by
  rw [leave, perform_bind_of_ok (perform_get env), h]
  rfl

theorem perform_note (level : Log.Level) (message : String) (env : Environment) :
    (note level message).perform env
      = (.ok (), (env.log.ready.record? level message).toList.foldl Environment.write
          (env.withLog env.log.ready)) := by
  have hmodify (change : Environment → Environment) :
      (modify change : Action Unit).perform env = (.ok (), change env) := rfl
  rw [note, hmodify]
  dsimp only
  cases env.log.ready.record? level message <;> rfl

/-- An action in a block ends as it does on its own. Whatever becomes of it, the records
    that it has written are all that is left. -/
theorem perform_within {keys : Keyed Json} {result : Except Failure α} {records : List Record}
    (h : action.perform (env.withLog (env.log.enter keys).1)
      = (result, records.foldl Environment.write (env.withLog (env.log.enter keys).1))) :
    (within keys action).perform env
      = (result, records.foldl Environment.write (env.withLog env.log.ready)) := by
  -- The records may as well have been written outside the block.
  have houtside : records.foldl Environment.write (env.withLog (env.log.enter keys).1)
      = (records.foldl Environment.write (env.withLog env.log.ready)).withLog
        (env.log.enter keys).1 := by
    rw [← Environment.foldl_write_withLog (Log.Session.setup_enter keys env.log),
      Environment.withLog_withLog]
  have hsame : (records.foldl Environment.write (env.withLog env.log.ready)).withLog env.log.ready
      = records.foldl Environment.write (env.withLog env.log.ready) :=
    congrArg _ (Environment.log_foldl_write (env.withLog env.log.ready) records).symm
  rw [houtside] at h
  rw [within, perform_bind_of_ok (perform_enter keys env), perform_bind_of_ok (perform_outcome h),
    perform_bind_of_ok (perform_leave (Log.Session.leave_enter keys env.log)),
    Environment.withLog_withLog, hsame]
  cases result with
  | ok value => rfl
  | error failure => rfl

/-- A message with keys of its own leaves the record that is made in the block around
    it. -/
theorem perform_noteAbout (keys : Keyed Json) (level : Log.Level) (message : String)
    (env : Environment) :
    (noteAbout keys level message).perform env
      = (.ok (), ((env.log.enter keys).1.record? level message).toList.foldl Environment.write
          (env.withLog env.log.ready)) := by
  refine perform_within ?_
  rw [perform_note, Environment.log_withLog, Environment.withLog_withLog,
    Log.Session.ready_enter]

end Action

/-- What a program does with its log. -/
inductive Script where
  /-- Nothing. -/
  | done
  /-- A message, with keys for it alone. -/
  | note (keys : Keyed Json) (level : Log.Level) (message : String)
  /-- A failure. -/
  | fail (failure : Failure)
  /-- One thing after the other. -/
  | andThen (first second : Script)
  /-- A block. -/
  | within (keys : Keyed Json) (body : Script)
  /-- Something that may fail, and what is done if it does. -/
  | recover (body : Script) (handler : Failure → Script)

/-- A message that is made, with the keys of all that is around it, the nearest first: its
    own, then those of the blocks from the innermost to the outermost. -/
structure Call where
  /-- How important it is. -/
  level : Log.Level
  /-- What it says. -/
  message : String
  /-- The keys around it. -/
  around : List (Keyed Json)

namespace Call

/-- The value that the nearest keys give, or else the value at the start. -/
def stamp (start : Context) (call : Call) (key : String) : Json :=
  ((call.around.findSome? (Context.passed? · key)).or (Keyed.get? start key)).getD .null

/-- The record that a message leaves. -/
def record (start : Context) (call : Call) : Record :=
  ⟨call.level, call.message, Context.contextIn start call.around⟩

theorem stamp_record (start : Context) (call : Call) (key : String) :
    (call.record start).stamp key = call.stamp start key := by
  rw [Record.stamp, record, Context.get?_contextIn, stamp]

end Call

namespace Script

/-- A script as an action. -/
def action : Script → Action Unit
  | done => pure ()
  | note keys level message => Action.noteAbout keys level message
  | fail failure => throw failure
  | andThen first second => first.action >>= fun _ => second.action
  | within keys body => Action.within keys body.action
  | recover body handler => tryCatch body.action fun failure => (handler failure).action

/-- The messages that are reached, and how a script ends. The blocks around it are
    passed down and need not be left. -/
def outline (around : List (Keyed Json)) : Script → List Call × Except Failure Unit
  | done => ([], .ok ())
  | note keys level message => ([⟨level, message, keys :: around⟩], .ok ())
  | fail failure => ([], .error failure)
  | andThen first second =>
    match first.outline around with
    | (calls, .ok ()) =>
      let (more, ending) := second.outline around
      (calls ++ more, ending)
    | (calls, .error failure) => (calls, .error failure)
  | within keys body => body.outline (keys :: around)
  | recover body handler =>
    match body.outline around with
    | (calls, .ok ()) => (calls, .ok ())
    | (calls, .error failure) =>
      let (more, ending) := (handler failure).outline around
      (calls ++ more, ending)

/-- The records of the messages that are important enough. -/
def records (setup : Setup) (start : Context) (calls : List Call) : List Record :=
  (calls.filter fun call => setup.threshold ≤ call.level).map (Call.record start)

theorem records_append (setup : Setup) (start : Context) (calls more : List Call) :
    records setup start (calls ++ more)
      = records setup start calls ++ records setup start more := by
  rw [records, List.filter_append, List.map_append, records, records]

theorem records_singleton (setup : Setup) (start : Context) (call : Call) :
    records setup start [call]
      = if setup.threshold ≤ call.level then [call.record start] else [] := by
  by_cases himportant : setup.threshold ≤ call.level
  · simp only [records, List.filter_cons, himportant, decide_true]
    rfl
  · simp only [records, List.filter_cons, himportant, decide_false]
    rfl

/-- Performed inside some blocks, a script ends as its outline says, and what it leaves are
    the records of the messages there. -/
theorem perform_action (setup : Setup) (start : Context) (script : Script)
    (around : List (Keyed Json)) (env : Environment)
    (hlog : env.log = ⟨some setup, some (Context.contextIn start around)⟩) :
    script.action.perform env = ((script.outline around).2,
      (records setup start (script.outline around).1).foldl Environment.write env) := by
  induction script generalizing around env with
  | done => rfl
  | fail failure => rfl
  | note keys level message =>
      rw [action, Action.perform_noteAbout, Environment.withLog_ready hlog, hlog,
        Log.Session.enter_configured, Log.Session.record?_configured, outline, records_singleton]
      by_cases himportant : setup.threshold ≤ level
      · rw [if_pos himportant, if_pos himportant]
        rfl
      · rw [if_neg himportant, if_neg himportant]
        rfl
  | within keys body ih =>
      have hinside : (env.log.enter keys).1
          = ⟨some setup, some (Context.contextIn start (keys :: around))⟩ := by
        rw [hlog, Log.Session.enter_configured]
        rfl
      have hready : env.withLog env.log.ready = env := Environment.withLog_ready hlog
      rw [action, outline, Action.perform_within (ih (keys :: around) _ hinside), hready]
  | andThen first second ihFirst ihSecond =>
      have hfirst := ihFirst around env hlog
      rcases houtline : first.outline around with ⟨calls, ending⟩
      rw [houtline] at hfirst
      cases ending with
      | error failure =>
          simp only [action, outline, houtline]
          exact Action.perform_bind_of_error hfirst
      | ok value =>
          -- The log is as it was, so the second part starts in the same surroundings.
          simp only [action, outline, houtline]
          rw [Action.perform_bind_of_ok hfirst, records_append, List.foldl_append]
          exact ihSecond around _ ((Environment.log_foldl_write _ _).trans hlog)
  | recover body handler ihBody ihHandler =>
      have hbody := ihBody around env hlog
      rcases houtline : body.outline around with ⟨calls, ending⟩
      rw [houtline] at hbody
      cases ending with
      | ok value =>
          simp only [action, outline, houtline]
          exact Action.perform_tryCatch_of_ok hbody
      | error failure =>
          -- The failure has left all blocks of the body before it is handled.
          simp only [action, outline, houtline]
          rw [Action.perform_tryCatch_of_error hbody, records_append, List.foldl_append]
          exact ihHandler failure around _ ((Environment.log_foldl_write _ _).trans hlog)

/-- The records that are made while a script is performed, whether or not they can be told
    apart once they are written. -/
def emitted : Script → Environment → List Record
  | done, _ => []
  | note keys level message, env =>
    (((Action.enter keys).perform env).2.log.record? level message).toList
  | fail _, _ => []
  | andThen first second, env =>
    match first.action.perform env with
    | (.ok _, between) => first.emitted env ++ second.emitted between
    | (.error _, _) => first.emitted env
  | within keys body, env => body.emitted ((Action.enter keys).perform env).2
  | recover body handler, env =>
    match body.action.perform env with
    | (.ok _, _) => body.emitted env
    | (.error failure, between) => body.emitted env ++ (handler failure).emitted between

/-- The records that are made are those of the messages in the outline. -/
theorem emitted_eq_records (setup : Setup) (start : Context) (script : Script)
    (around : List (Keyed Json)) (env : Environment)
    (hlog : env.log = ⟨some setup, some (Context.contextIn start around)⟩) :
    script.emitted env = records setup start (script.outline around).1 := by
  induction script generalizing around env with
  | done => rfl
  | fail failure => rfl
  | note keys level message =>
      rw [emitted, Action.perform_enter, Environment.log_withLog, hlog,
        Log.Session.enter_configured, Log.Session.record?_configured, outline, records_singleton]
      by_cases himportant : setup.threshold ≤ level
      · rw [if_pos himportant, if_pos himportant]
        rfl
      · rw [if_neg himportant, if_neg himportant]
        rfl
  | within keys body ih =>
      rw [emitted, Action.perform_enter, outline]
      refine ih (keys :: around) _ ?_
      rw [Environment.log_withLog, hlog, Log.Session.enter_configured]
      rfl
  | andThen first second ihFirst ihSecond =>
      have hfirst := perform_action setup start first around env hlog
      rcases houtline : first.outline around with ⟨calls, ending⟩
      have hmade := ihFirst around env hlog
      rw [houtline] at hfirst hmade
      cases ending with
      | error failure => simp only [emitted, hfirst, outline, houtline, hmade]
      | ok value =>
          have hkept := (Environment.log_foldl_write env (records setup start calls)).trans hlog
          simp only [emitted, hfirst, outline, houtline, hmade, ihSecond around _ hkept,
            records_append]
  | recover body handler ihBody ihHandler =>
      have hbody := perform_action setup start body around env hlog
      rcases houtline : body.outline around with ⟨calls, ending⟩
      have hmade := ihBody around env hlog
      rw [houtline] at hbody hmade
      cases ending with
      | ok value => simp only [emitted, hbody, outline, houtline, hmade]
      | error failure =>
          have hkept := (Environment.log_foldl_write env (records setup start calls)).trans hlog
          simp only [emitted, hbody, outline, houtline, hmade, ihHandler failure around _ hkept,
            records_append]

/-- The parts of a script that are performed, each with the environment in which it
    starts. -/
inductive Performs : Script → Environment → Script → Environment → Prop where
  | whole (script : Script) (env : Environment) : Performs script env script env
  | first {first second part : Script} {env before : Environment} :
      Performs first env part before → Performs (.andThen first second) env part before
  | second {first second part : Script} {env between before : Environment} :
      first.action.perform env = (.ok (), between) → Performs second between part before →
      Performs (.andThen first second) env part before
  | inside {keys : Keyed Json} {body part : Script} {env inside before : Environment}
      {block : Log.Block} :
      (Action.enter keys).perform env = (.ok block, inside) → Performs body inside part before →
      Performs (.within keys body) env part before
  | tried {body part : Script} {handler : Failure → Script} {env before : Environment} :
      Performs body env part before → Performs (.recover body handler) env part before
  | handled {body part : Script} {handler : Failure → Script} {failure : Failure}
      {env between before : Environment} :
      body.action.perform env = (.error failure, between) →
      Performs (handler failure) between part before →
      Performs (.recover body handler) env part before

section Configured

variable {env : Environment} {setup : Setup}

/-- A script leaves the log as it finds it, however the script ends. -/
theorem log_perform_action {context : Context} (hlog : env.log = ⟨some setup, some context⟩)
    (script : Script) : (script.action.perform env).2.log = env.log := by
  rw [perform_action setup context script [] env hlog]
  exact Environment.log_foldl_write env _

/-- Every part of a script finds a log that is set up as it was at the start, with some
    context. -/
theorem Performs.configured {script part : Script} {before : Environment}
    (h : Performs script env part before)
    (hlog : ∃ context, env.log = ⟨some setup, some context⟩) :
    ∃ context, before.log = ⟨some setup, some context⟩ := by
  induction h with
  | whole script env => exact hlog
  | first _ ih => exact ih hlog
  | tried _ ih => exact ih hlog
  | @second first second part env between before hfirst _ ih =>
      rcases hlog with ⟨context, hlog⟩
      have hkept := log_perform_action hlog first
      rw [hfirst] at hkept
      exact ih ⟨context, hkept.trans hlog⟩
  | @inside keys body part env inside before block henter _ ih =>
      rcases hlog with ⟨context, hlog⟩
      have hinside : inside = env.withLog (env.log.enter keys).1 :=
        congrArg Prod.snd (henter.symm.trans (Action.perform_enter keys env))
      refine ih ⟨context.extend (Context.given keys), ?_⟩
      rw [hinside, Environment.log_withLog, hlog, Log.Session.enter_configured]
  | @handled body part handler failure env between before hbody _ ih =>
      rcases hlog with ⟨context, hlog⟩
      have hkept := log_perform_action hlog body
      rw [hbody] at hkept
      exact ih ⟨context, hkept.trans hlog⟩

end Configured

/-- Whatever a program does with a log that is set up, its effect is to write records,
    one for each message that is reached and important enough. Under every key a record
    holds the value from the nearest keys around the message that give one: its own, then
    those of the innermost block, and so on. If none do, it holds what the log held at the
    start, which is nothing for a log that was just set up. Each block that is entered on
    the way leaves the log, and so the context, as it found it, whether the block is left
    in the end or by a failure. -/
theorem stamped_by_innermost (script : Script) (env : Environment) (setup : Setup)
    (start : Context) (hlog : env.log = ⟨some setup, some start⟩) :
    let made := (script.outline []).1.filter fun call => setup.threshold ≤ call.level
    script.action.perform env
      = ((script.outline []).2, (script.emitted env).foldl Environment.write env) ∧
    (script.emitted env).map (fun record => (record.level, record.message))
      = made.map (fun call => (call.level, call.message)) ∧
    (∀ key, (script.emitted env).map (·.stamp key) = made.map (·.stamp start key)) ∧
    ∀ keys body before, Performs script env (.within keys body) before →
      ((Script.within keys body).action.perform before).2.log = before.log := by
  intro made
  have hemitted := emitted_eq_records setup start script [] env hlog
  refine ⟨?_, ?_, ?_, ?_⟩
  · rw [hemitted]
    exact perform_action setup start script [] env hlog
  · rw [hemitted, records, List.map_map]
    rfl
  · intro key
    rw [hemitted, records, List.map_map]
    exact List.map_congr_left fun call _ => call.stamp_record start key
  · intro keys body before hperforms
    rcases hperforms.configured ⟨start, hlog⟩ with ⟨context, hbefore⟩
    exact log_perform_action hbefore (.within keys body)

end Script

end Command

/-! Two blocks, the inner one with a source that is no value. A failure leaves both, and
    the message about it is about nothing. -/

namespace LeftByFailure

open Command

def inner : Script :=
  .within [("function", .str "sort"), ("source", .null)] <|
    .andThen (.note [] .info "classified") <|
    .andThen (.note [("function", .str "swap")] .warning "slow") <|
    .andThen (.note [] .debug "not recorded") <|
    .fail (.job "interrupted")

def script : Script :=
  .recover
    (.within [("source", .str "sort.js")] (.andThen (.note [] .info "parsed") inner))
    fun failure => .note [] .error failure.message

def env : Environment where
  disk := { here := "/work", home := "/home", items := [] }
  log := Log.Session.ready {}
  clock := ⟨"", ""⟩
  parse := fun _ => default

theorem records_of_two_blocks :
    env.log = ⟨some {}, some []⟩ ∧
    script.action.perform env = (.ok (), (script.emitted env).foldl Environment.write env) ∧
    (script.emitted env).map (fun record => (record.level, record.message))
      = [(.info, "parsed"), (.info, "classified"), (.warning, "slow"), (.error, "interrupted")] ∧
    (script.emitted env).map (·.stamp "source")
      = [.str "sort.js", .str "sort.js", .str "sort.js", .null] ∧
    (script.emitted env).map (·.stamp "function") = [.null, .str "sort", .str "swap", .null] ∧
    ∃ before, Script.Performs script env inner before ∧
      before.log.context = some [("source", .str "sort.js")] ∧
      (inner.action.perform before).2.log = before.log := by
  have hlog : env.log = ⟨some {}, some []⟩ := rfl
  rcases Script.stamped_by_innermost script env {} [] hlog with
    ⟨hperform, hmade, hstamps, hblocks⟩
  -- The outer block has been entered, and the first message has been made.
  have houter := Action.perform_enter [("source", .str "sort.js")] env
  have hinside : (env.log.enter [("source", .str "sort.js")]).1
      = ⟨some {}, some [("source", .str "sort.js")]⟩ := Log.Session.enter_configured _ _ _
  have hparsed := Script.perform_action {} [] (.note [] .info "parsed")
    [[("source", .str "sort.js")]] (env.withLog _) hinside
  have hinner : Script.Performs script env inner _ :=
    .tried (.inside houter (.second hparsed (.whole inner _)))
  have hkept := hblocks _ _ _ hinner
  refine ⟨hlog, hperform, hmade, hstamps "source", hstamps "function", _, hinner, ?_, ?_⟩
  · rw [Environment.log_foldl_write, Environment.log_withLog]
    rfl
  · rw [inner]
    exact hkept

end LeftByFailure

end Costwise
