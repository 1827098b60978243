/-
The state of logging: channels, sinks, open scopes and the installed logger.

Loggers of one name share a channel, which holds their level and their sinks.  A
channel whose level is zero takes that of the nearest channel above it, found by
cutting its name at a dot; the root has a level of its own.  Scopes belong to
threads: a thread's context is what its open scopes hold, the inner over the outer.

Main statements:
  * `context_openScope` : opening a scope merges its values into the context;
  * `context_openScope_of_ne` : the contexts of other threads are left alone;
  * `context_closeScope_openScope` : closing a scope restores the context.
-/
import ExcludeRules.Log.LogFile
import ExcludeRules.Log.Record

namespace ExcludeRules.Log

/-- Where the records of a channel go. -/
inductive Target
  /-- A list that is kept in memory. -/
  | collector
  | console
  | file (file : LogFile)
  deriving DecidableEq, Repr

/-- A target that was attached to a channel; two sinks may have equal targets. -/
structure Sink where
  id : Nat
  target : Target
  deriving DecidableEq, Repr

structure Channel where
  level : Int
  sinks : List Sink
  deriving DecidableEq, Repr

/-- A handle on a channel; loggers are told apart even where they share one. -/
structure Logger where
  id : Nat
  name : String
  deriving DecidableEq, Repr

/-- Why a thread has no scope to close. -/
inductive ScopeFault
  /-- The thread never made use of scopes. -/
  | untouched
  /-- All its scopes are closed. -/
  | noneOpen
  deriving DecidableEq, Repr

structure State where
  channels : List (String × Channel)
  /-- The scopes of each thread that has any, the innermost last. -/
  scopes : List (Nat × List Context)
  /-- The logger that is used where none is given. -/
  installed : Option Logger
  /-- The number of loggers and sinks that were made. -/
  issued : Nat
  disk : Disk
  /-- What collectors were given. -/
  records : List Record
  /-- What was written to the console. -/
  console : String
  /-- The date and time that lines begin with. -/
  stamp : String

namespace State

/-- The level of the root. -/
def rootLevel : Int := 30

/-- The state before anything was logged. -/
def start (disk : Disk) (stamp : String) : State :=
  ⟨[], [], none, 0, disk, [], "", stamp⟩

/-! ### Channels -/

/-- The name of the channel of a logger; the root has two. -/
def channelName (name : String) : String := if name = "" then "root" else name

/-- The channel of a name; one that was never used has no level of its own. -/
def channel (s : State) (name : String) : Channel :=
  match s.channels.find? (·.1 = name) with
  | some (_, c) => c
  | none => ⟨if name = "root" then rootLevel else 0, []⟩

/-- Sets the channel of a name. -/
def setChannel (s : State) (name : String) (c : Channel) : State :=
  { s with channels := (name, c) :: s.channels.filter (·.1 ≠ name) }

/--
The names above a name, which is reversed: what stands in front of each dot.  A
dot right behind the one before is not looked at, and neither is one in front.
-/
def above : List Char → List String
  | '.' :: c :: before => String.ofList (c :: before).reverse :: above before
  | _ :: rest => above rest
  | [] => []

/-- The channels that a channel may take its level from, itself first. -/
def lineage (name : String) : List String :=
  if name = "root" then [name] else name :: above name.toList.reverse ++ ["root"]

/-- The level that counts for a channel. -/
def effectiveLevel (s : State) (name : String) : Int :=
  (((lineage name).map fun n => (s.channel n).level).find? (· ≠ 0)).getD 0

/-- Whether messages of a level are let through; those of level zero and below never are. -/
def isEnabled (s : State) (name : String) (level : Int) : Bool :=
  0 < level && s.effectiveLevel name ≤ level

/-! ### Scopes -/

/-- The scopes of a thread; there is always one to begin with, and it is empty. -/
def scopesOf (s : State) (thread : Nat) : List Context :=
  match s.scopes.find? (·.1 = thread) with
  | some (_, scopes) => scopes
  | none => [[]]

def setScopes (s : State) (thread : Nat) (scopes : List Context) : State :=
  { s with scopes := (thread, scopes) :: s.scopes.filter (·.1 ≠ thread) }

/-- What the open scopes of a thread hold. -/
def context (s : State) (thread : Nat) : Context := (s.scopesOf thread).foldl .merge []

/-- Opens a scope in a thread. -/
def openScope (s : State) (thread : Nat) (values : Context) : State :=
  s.setScopes thread (s.scopesOf thread ++ [values])

/-- Closes the innermost scope of a thread. -/
def closeScope (s : State) (thread : Nat) : State :=
  s.setScopes thread (s.scopesOf thread).dropLast

/-- Notes that a thread has made use of its scopes. -/
def touch (s : State) (thread : Nat) : State := s.setScopes thread (s.scopesOf thread)

/--
Closes the innermost scope of a thread, if it has one.  Scopes that were opened in
one thread and are closed in another can leave a thread without any.
-/
def closeScope? (s : State) (thread : Nat) : Except ScopeFault State :=
  match s.scopes.find? (·.1 = thread) with
  | none => .error .untouched
  | some (_, []) => .error .noneOpen
  | some _ => .ok (s.closeScope thread)

theorem scopesOf_setScopes_self (s : State) (thread : Nat) (scopes : List Context) :
    (s.setScopes thread scopes).scopesOf thread = scopes := by
  simp [scopesOf, setScopes]

theorem find?_filter_ne {κ α : Type} [DecidableEq κ] {a b : κ} (h : a ≠ b) (l : List (κ × α)) :
    (l.filter (·.1 ≠ b)).find? (·.1 = a) = l.find? (·.1 = a) := by
  induction l with
  | nil => rfl
  | cons e l ih =>
    by_cases hb : e.1 = b
    · have ha : e.1 ≠ a := fun hea => h (hea.symm.trans hb)
      rw [List.filter_cons_of_neg (by simp [hb]), ih, List.find?_cons_of_neg (by simp [ha])]
    · rw [List.filter_cons_of_pos (by simp [hb])]
      by_cases ha : e.1 = a
      · rw [List.find?_cons_of_pos (by simp [ha]), List.find?_cons_of_pos (by simp [ha])]
      · rw [List.find?_cons_of_neg (by simp [ha]), ih, List.find?_cons_of_neg (by simp [ha])]

theorem scopesOf_setScopes_of_ne (s : State) {a b : Nat} (h : a ≠ b) (scopes : List Context) :
    (s.setScopes b scopes).scopesOf a = s.scopesOf a := by
  rw [scopesOf, setScopes, List.find?_cons_of_neg (by simp [h.symm]), find?_filter_ne h, scopesOf]

/-- Opening a scope merges its values into the context. -/
theorem context_openScope (s : State) (thread : Nat) (values : Context) :
    (s.openScope thread values).context thread = (s.context thread).merge values := by
  simp [context, openScope, scopesOf_setScopes_self]

theorem context_touch (s : State) (a b : Nat) : (s.touch b).context a = s.context a := by
  by_cases h : a = b
  · subst h
    simp [context, touch, scopesOf_setScopes_self]
  · simp [context, touch, scopesOf_setScopes_of_ne s h]

/-- Closing the scope that was just opened restores the context. -/
theorem context_closeScope_openScope (s : State) (thread : Nat) (values : Context) :
    ((s.openScope thread values).closeScope thread).context thread = s.context thread := by
  simp [context, openScope, closeScope, scopesOf_setScopes_self]

/-- Opening a scope leaves the contexts of other threads alone. -/
theorem context_openScope_of_ne (s : State) {a b : Nat} (h : a ≠ b) (values : Context) :
    (s.openScope b values).context a = s.context a := by
  simp [context, openScope, scopesOf_setScopes_of_ne s h]

/-! ### Records -/

/-- Gives a record to one target. -/
def deliver (r : Record) (s : State) : Target → State
  | .collector => { s with records := s.records ++ [r] }
  | .console => { s with console := s.console ++ r.line s.stamp ++ "\n" }
  | .file file => { s with disk := file.write s.disk (r.line s.stamp ++ "\n") }

/--
Gives a record to the sinks of its channel.  A channel without sinks shows
warnings and worse on the console, as bare messages.
-/
def emit (s : State) (r : Record) : State :=
  match (s.channel r.channel).sinks with
  | [] =>
    if Level.warning.number ≤ r.level.number then
      { s with console := s.console ++ r.body r.message ++ "\n" }
    else s
  | sinks => sinks.foldl (fun s sink => s.deliver r sink.target) s

end State

end ExcludeRules.Log
