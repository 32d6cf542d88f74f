import Anbox.Foundation.OrderedMap
import Anbox.Foundation.Runs
import Anbox.Foundation.TerminatedText

/-!
# AT commands

The GSM service of the emulator gets AT commands as a stream of bytes.
`GsmMessageProcessor` appends what arrives to `buffer_`, and `AtParser` goes
over the whole buffer each time, runs the commands that have ended, and erases
them.

A command goes to the first handler, in the order of their names, whose name
it begins with.
-/

namespace Anbox.Qemu.AtParser

open Std
open Anbox.Foundation.OrderedMap
open Anbox.Foundation.Runs
open Anbox.Foundation.TerminatedText

abbrev Bytes := List UInt8

variable {Handler : Type}

/-! ## The parser -/

/-- A call of a handler. -/
structure Invocation (Handler : Type) where
  handler : Handler
  command : Bytes
deriving DecidableEq, Repr

/-- The handlers by the names of their commands. -/
structure Parser (Handler : Type) where
  handlers : TreeMap Bytes Handler

/-- `insert` keeps the handler of a name that is registered already. -/
def registerCommand (parser : Parser Handler) (command : Bytes)
    (handler : Handler) : Parser Handler :=
  ⟨parser.handlers.insertIfNew command handler⟩

/-- The letters `AT`. -/
def atLetters : Bytes := [65, 84]

def stringStartsWith (text start : Bytes) : Bool := start.isPrefixOf text

/-- The handler that is called, if there is one. -/
def processCommand (parser : Parser Handler) (command : Bytes) :
    Option (Invocation Handler) :=
  if !stringStartsWith command atLetters then none
  else
    let realCommand := (command.drop 2).take (command.length - 2)
    match parser.handlers.toList.find? fun entry =>
        stringStartsWith realCommand entry.1 with
    | none => none
    | some entry => some ⟨entry.2, realCommand⟩

/-- A newline or a carriage return. -/
def isTerminator (byte : UInt8) : Bool := byte = 10 || byte = 13

/-- The loop of `process_data`: the bytes processed and the calls. -/
def processLoop (parser : Parser Handler) (data : Bytes)
    (pos bytesProcessed : Nat) (calls : List (Invocation Handler)) :
    Nat × List (Invocation Handler) :=
  if inside : pos < data.length then
    if isTerminator data[pos] then
      let command :=
        (data.drop bytesProcessed).take (pos - bytesProcessed)
      processLoop parser data (pos + 1)
        (bytesProcessed + ((pos - bytesProcessed) + 1))
        (calls ++ (processCommand parser command).toList)
    else processLoop parser data (pos + 1) bytesProcessed calls
  else (bytesProcessed, calls)
termination_by data.length - pos

/-- What is left of the data, and the calls. -/
def processData (parser : Parser Handler) (data : Bytes) :
    Bytes × List (Invocation Handler) :=
  let result := processLoop parser data 0 0 []
  (data.drop result.1, result.2)

/-- The message processor, with the calls of handlers so far. -/
structure GsmMessageProcessor (Handler : Type) where
  parser : Parser Handler
  buffer : Bytes
  calls : List (Invocation Handler)

/-- `GsmMessageProcessor::process_data`. -/
def receive (processor : GsmMessageProcessor Handler) (data : Bytes) :
    GsmMessageProcessor Handler :=
  let result := processData processor.parser (processor.buffer ++ data)
  { processor with
    buffer := result.1
    calls := processor.calls ++ result.2 }

/-- A processor after commands have been registered one after another. -/
def processorWith (registrations : List (Bytes × Handler)) :
    GsmMessageProcessor Handler :=
  { parser :=
      registrations.foldl
        (fun parser entry => registerCommand parser entry.1 entry.2) ⟨∅⟩
    buffer := []
    calls := [] }

/-! ## What is meant -/

/-- The lexicographically first of some names. -/
def firstName : List Bytes → Option Bytes
  | [] => none
  | name :: names =>
      match firstName names with
      | none => some name
      | some other =>
          some (if (compare name other).isLE then name else other)

/-- The handler that was registered first for a name. -/
def handlerOf (registrations : List (Bytes × Handler)) (name : Bytes) :
    Option Handler :=
  (registrations.find? (·.1 = name)).map Prod.snd

/--
The call that a segment of the stream stands for.  Without `AT` there is none,
and otherwise what is behind goes to the first command that it begins with.
-/
def dispatch (registrations : List (Bytes × Handler)) (segment : Bytes) :
    Option (Invocation Handler) :=
  if atLetters <+: segment then do
    let rest := segment.drop 2
    let name ← firstName
      ((registrations.map Prod.fst).filter fun name => name.isPrefixOf rest)
    let handler ← handlerOf registrations name
    some ⟨handler, rest⟩
  else none

theorem firstName_eq_none_iff {names : List Bytes} :
    firstName names = none ↔ names = [] := by
  cases names with
  | nil => simp [firstName]
  | cons name names =>
      rw [firstName]
      split
      · simp
      · simp

theorem mem_of_firstName {names : List Bytes} {name : Bytes}
    (found : firstName names = some name) : name ∈ names := by
  induction names generalizing name with
  | nil => cases found
  | cons first names inductionHypothesis =>
      rw [firstName] at found
      split at found
      · cases found
        exact List.mem_cons_self
      · rename_i other otherFound
        split at found
        · cases found
          exact List.mem_cons_self
        · cases found
          exact List.mem_cons_of_mem first (inductionHypothesis otherFound)

/-- A name that is before all others is the first one. -/
theorem firstName_eq_some {names : List Bytes} {name : Bytes}
    (member : name ∈ names)
    (least : ∀ other ∈ names, (compare name other).isLE) :
    firstName names = some name := by
  induction names with
  | nil => cases member
  | cons first names inductionHypothesis =>
      have later : ∀ other ∈ names, (compare name other).isLE :=
        fun other inside => least other (List.mem_cons_of_mem first inside)
      rw [firstName]
      cases found : firstName names with
      | none =>
          rw [firstName_eq_none_iff.mp found, List.mem_singleton] at member
          rw [member]
      | some other =>
          dsimp only
          rcases List.mem_cons.mp member with rfl | inside
          · rw [if_pos (later other (mem_of_firstName found))]
          · rw [inductionHypothesis inside later, Option.some.injEq] at found
            subst found
            split
            · rename_i before
              have after := least first List.mem_cons_self
              have same := OrientedCmp.isLE_antisymm before after
              rw [LawfulEqCmp.compare_eq_iff_eq.mp same]
            · rfl

/-! ## One command -/

theorem handlers_processorWith (registrations : List (Bytes × Handler)) :
    (processorWith registrations).parser.handlers =
      insertAllIfNew ∅ registrations := by
  have folded (parser : Parser Handler) :
      (registrations.foldl
        (fun parser entry => registerCommand parser entry.1 entry.2)
          parser).handlers =
        insertAllIfNew parser.handlers registrations := by
    induction registrations generalizing parser with
    | nil => rfl
    | cons entry registrations inductionHypothesis =>
        exact inductionHypothesis _
  exact folded ⟨∅⟩

section Commands

variable {registrations : List (Bytes × Handler)}

theorem getElem?_handlers (name : Bytes) :
    (processorWith registrations).parser.handlers[name]? =
      handlerOf registrations name := by
  rw [handlers_processorWith, getElem?_insertAllIfNew]
  simp [handlerOf]

theorem mem_handlers_iff {name : Bytes} :
    name ∈ (processorWith registrations).parser.handlers ↔
      name ∈ registrations.map Prod.fst := by
  rw [TreeMap.mem_iff_isSome_getElem?, getElem?_handlers, handlerOf]
  simp

/-- The first handler in order is the one that is meant. -/
theorem processCommand_eq (command : Bytes) :
    processCommand (processorWith registrations).parser command =
      dispatch registrations command := by
  have starts :
      stringStartsWith command atLetters = true ↔ atLetters <+: command :=
    List.isPrefixOf_iff_prefix
  unfold processCommand dispatch
  by_cases isAt : atLetters <+: command
  · have whole : (command.drop 2).take (command.length - 2) =
        command.drop 2 := by
      apply List.take_of_length_le
      rw [List.length_drop]
    rw [if_neg (by simp [starts.mpr isAt]), if_pos isAt]
    simp only [whole, Option.bind_eq_bind]
    cases found :
        (processorWith registrations).parser.handlers.toList.find?
          fun entry => stringStartsWith (command.drop 2) entry.1 with
    | none =>
        have nowhere := @find?_toList_eq_none _ _ _ _ _
          (processorWith registrations).parser.handlers
          (stringStartsWith (command.drop 2)) found
        have nothing : (registrations.map Prod.fst).filter
            (fun name => name.isPrefixOf (command.drop 2)) = [] := by
          rw [List.filter_eq_nil_iff]
          intro name registered isPrefix
          have notHere := nowhere name (mem_handlers_iff.mpr registered)
          rw [stringStartsWith, isPrefix] at notHere
          cases notHere
        rw [firstName_eq_none_iff.mpr nothing]
        rfl
    | some entry =>
        rcases entry with ⟨name, handler⟩
        rcases @find?_toList_eq_some _ _ _ _ _
          (processorWith registrations).parser.handlers name
          (stringStartsWith (command.drop 2)) handler found with
          ⟨held, isPrefix, least⟩
        have first : firstName ((registrations.map Prod.fst).filter
            fun name => name.isPrefixOf (command.drop 2)) = some name := by
          apply firstName_eq_some
          · rw [List.mem_filter]
            refine ⟨mem_handlers_iff.mp ?_, isPrefix⟩
            rw [TreeMap.mem_iff_isSome_getElem?, held]
            rfl
          · intro other inside
            rcases List.mem_filter.mp inside with ⟨registered, otherPrefix⟩
            exact least other (mem_handlers_iff.mpr registered) otherPrefix
        rw [getElem?_handlers] at held
        simp [first, held]
  · have notAt : stringStartsWith command atLetters = false := by
      rw [← Bool.not_eq_true, starts]
      exact isAt
    rw [if_pos (by simp [notAt]), if_neg isAt]

end Commands

/-! ## One buffer -/

/-- The loop, when nothing behind `bytes_processed` has ended yet. -/
theorem processLoop_spec (parser : Parser Handler) {data : Bytes}
    {pos bytesProcessed : Nat} (calls : List (Invocation Handler))
    (behind : bytesProcessed ≤ pos)
    (unended :
      Unended isTerminator
        ((data.drop bytesProcessed).take (pos - bytesProcessed))) :
    data.drop (processLoop parser data pos bytesProcessed calls).1 =
        remainder isTerminator (data.drop bytesProcessed) ∧
      (processLoop parser data pos bytesProcessed calls).2 =
        calls ++
          (finished isTerminator (data.drop bytesProcessed)).filterMap
            (processCommand parser) := by
  fun_induction processLoop parser data pos bytesProcessed calls with
  | case1 pos bytesProcessed calls inside ended command
      inductionHypothesis =>
      have next : bytesProcessed + (pos - bytesProcessed + 1) = pos + 1 := by
        omega
      have split : data.drop bytesProcessed =
          command ++ data[pos] :: data.drop (pos + 1) := by
        have rest : data.drop pos =
            (data.drop bytesProcessed).drop (pos - bytesProcessed) := by
          rw [List.drop_drop, Nat.add_sub_cancel' behind]
        rw [← List.drop_eq_getElem_cons inside, rest,
          List.take_append_drop]
      rw [next] at inductionHypothesis ⊢
      rcases inductionHypothesis (Nat.le_refl _)
        (by simpa using Unended.nil) with ⟨left, called⟩
      rw [split, remainder_append_cons ended, finished_append_cons ended,
        finished_of_unended unended, remainder_of_unended unended]
      refine ⟨left, ?_⟩
      rw [called, List.nil_append, List.append_assoc, List.filterMap_cons]
      cases processCommand parser command with
      | none => rfl
      | some call => rfl
  | case2 pos bytesProcessed calls inside notEnded inductionHypothesis =>
      apply inductionHypothesis (Nat.le_succ_of_le behind)
      have next : pos + 1 - bytesProcessed = pos - bytesProcessed + 1 := by
        omega
      have place : bytesProcessed + (pos - bytesProcessed) = pos := by omega
      rw [next, List.take_add_one]
      apply unended.append
      intro byte member
      rw [List.getElem?_drop, place, List.getElem?_eq_getElem inside,
        Option.toList_some, List.mem_singleton] at member
      rw [member]
      simpa using notEnded
  | case3 pos bytesProcessed calls outside =>
      rw [List.take_of_length_le] at unended
      · rw [remainder_of_unended unended, finished_of_unended unended]
        simp
      · rw [List.length_drop]
        omega

theorem processData_eq (parser : Parser Handler) (data : Bytes) :
    processData parser data =
      (remainder isTerminator data,
        (finished isTerminator data).filterMap
          (processCommand parser)) := by
  rcases @processLoop_spec _ parser data 0 0 [] (Nat.le_refl 0)
    (by simpa using Unended.nil) with ⟨left, called⟩
  exact Prod.ext left called

/-! ## Any number of parts -/

/--
However the stream arrives, each of its segments has been dispatched once and
in order, and what is behind the last terminator is in the buffer.
-/
theorem receive_chunks (registrations : List (Bytes × Handler))
    (chunks : List Bytes) :
    let processor :=
      runFrom receive (processorWith registrations) chunks
    processor.calls =
        (finished isTerminator chunks.flatten).filterMap
          (dispatch registrations) ∧
      processor.buffer = remainder isTerminator chunks.flatten := by
  suffices received :
      runFrom receive (processorWith registrations) chunks =
        { processorWith registrations with
          buffer := remainder isTerminator chunks.flatten
          calls := (finished isTerminator chunks.flatten).filterMap
            (dispatch registrations) } by
    simp [received]
  refine @run_history _ _ receive (processorWith registrations)
    (fun chunks processor =>
      processor =
        { processorWith registrations with
          buffer := remainder isTerminator chunks.flatten
          calls := (finished isTerminator chunks.flatten).filterMap
            (dispatch registrations) }) ?_ ?_ chunks
  · rfl
  · intro chunks chunk received
    have commands : processCommand (processorWith registrations).parser =
        dispatch registrations :=
      funext processCommand_eq
    rw [received, receive, processData_eq, List.flatten_append,
      List.flatten_singleton, finished_append chunks.flatten,
      remainder_append chunks.flatten, List.filterMap_append, commands]

end Anbox.Qemu.AtParser
