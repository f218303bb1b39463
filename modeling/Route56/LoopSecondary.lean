import Route56.LoopFrames
import Route56.Lib.LinkedList
import Route56.Lib.Transition

namespace Route56

open LinkedList

/-- The messages about transactions and the calls of the driver. -/
inductive SecondaryEvent where
  | queued (t : AppTransaction) (count : Int)
  | waiting (t : AppTransaction) (count : Int)
  | completed (t : AppTransaction)
  | stillPending (t : AppTransaction)
  | noMatchingFound (t : AppTransaction)
  | write (f : LoopFrame) (accepted : Bool)
  | loopTxDone
  deriving DecidableEq

/-- Where the main loop is: in `CheckReceive` or behind it. -/
inductive SecondaryPhase where
  | receiving
  | checking
  deriving DecidableEq

/-- What `APP_DATA` has for a secondary station. -/
structure Secondary where
  addrFilter : BitVec 8
  newTransactionInterval : BitVec 32
  numTransactions : BitVec 32
  newTransactionTimer : BitVec 32 := 0
  elapsedMS : BitVec 32 := 0
  receiveCount : BitVec 8 := 0
  sendCount : BitVec 8 := 0
  initialized : Bool := false
  showedLimitHitMessage : Bool := false
  lastTransactionNumber : BitVec 32 := 0
  numQueuedTransactions : Int := 0
  queuedTransactionList : Queue := {}
  numPendingTransactions : Int := 0
  pendingTransactionList : Queue := {}
  heap : Heap AppTransaction := ∅
  phase : SecondaryPhase := .receiving
  trace : List SecondaryEvent := []

namespace Secondary

def log (s : Secondary) (e : SecondaryEvent) : Secondary := { s with trace := s.trace ++ [e] }

/-- `NR`. -/
def nr (s : Secondary) : BitVec 8 := s.receiveCount <<< 5

/-- `NS`. -/
def ns (s : Secondary) : BitVec 8 := s.sendCount <<< 1

def sendFrame (s : Secondary) (f : LoopFrame) (accepted : Bool) : Bool × Secondary :=
  (accepted, s.log (.write f accepted))

def loopModeSendLastFrame (s : Secondary) (f : LoopFrame) (accepted : Bool) : Bool × Secondary :=
  let (frameSent, s) := s.sendFrame f accepted
  (frameSent, s.log .loopTxDone)

def sendSIMRequest (s : Secondary) (accepted : Bool) : Bool × Secondary :=
  s.loopModeSendLastFrame ⟨s.addrFilter, simControl, .absent⟩ accepted

def sendDiscResponse (s : Secondary) (accepted : Bool) : Bool × Secondary :=
  s.loopModeSendLastFrame ⟨s.addrFilter, discControl, .absent⟩ accepted

/-- `AddToQueuedTransactionList`. -/
def addToQueuedTransactionList (s : Secondary) (p : Nat) : Option Secondary := do
  let (heap, list) ← s.queuedTransactionList.append p s.heap
  let node ← heap.lookup p
  some ({ s with
    heap := heap, queuedTransactionList := list, numQueuedTransactions := s.numQueuedTransactions + 1
  }.log (.queued node.value (s.numQueuedTransactions + 1)))

/-- `RemoveQueuedTransationListHead`: the link is cleared before it is read. -/
def removeQueuedTransationListHead (s : Secondary) : Option (Option Nat × Secondary) :=
  match s.queuedTransactionList.first with
  | none => some (none, s)
  | some p => do
    let heap ← setNext s.heap p none
    let node ← heap.lookup p
    some (some p, { s with
      heap := heap
      queuedTransactionList := ⟨node.next, s.queuedTransactionList.last⟩
      numQueuedTransactions := s.numQueuedTransactions - 1 })

/-- `AddToPendingTransactionList`. -/
def addToPendingTransactionList (s : Secondary) (p : Nat) : Option Secondary := do
  let (heap, list) ← s.pendingTransactionList.append p s.heap
  let node ← heap.lookup p
  some ({ s with
    heap := heap, pendingTransactionList := list, numPendingTransactions := s.numPendingTransactions + 1
  }.log (.waiting node.value (s.numPendingTransactions + 1)))

/-- `MoveQueuedTransactionToPendingList`. -/
def moveQueuedTransactionToPendingList (s : Secondary) : Option (Bool × Secondary) := do
  let (head, s) ← s.removeQueuedTransationListHead
  match head with
  | some p => do
    let s ← s.addToPendingTransactionList p
    some (true, s)
  | none => some (false, s)

/-- The loop of `DoPollResponse` over the queued transactions; `accepted n` is the driver's answer to the `n`-th
frame. -/
def sendQueuedTransactions (accepted : Nat → Bool) : Nat → Nat → Secondary → Option (Bool × Secondary)
  | fuel, n, s =>
    match s.queuedTransactionList.first with
    | none => some (true, s)
    | some p =>
      match fuel with
      | 0 => none
      | fuel + 1 => do
        let node ← s.heap.lookup p
        let final := if node.next = none then finalBit else 0
        let frame : LoopFrame := ⟨s.addrFilter, s.nr ||| s.ns ||| final, .transaction node.value⟩
        let (result, s) :=
          if node.next ≠ none then s.sendFrame frame (accepted n) else s.loopModeSendLastFrame frame (accepted n)
        if result then do
          let (_, s) ← s.moveQueuedTransactionToPendingList
          sendQueuedTransactions accepted fuel (n + 1) { s with sendCount := (s.sendCount + 1) &&& 0x07 }
        else some (false, s)

/-- `DoPollResponse`. -/
def doPollResponse (s : Secondary) (accepted : Nat → Bool) : Option (Bool × Secondary) :=
  match s.queuedTransactionList.first with
  | none => some (s.loopModeSendLastFrame ⟨s.addrFilter, s.nr ||| receiverReady ||| finalBit, .absent⟩ (accepted 0))
  | some _ => sendQueuedTransactions accepted s.heap.keys.card 0 s

/-- `ReconcileTransaction`: the response `t` ends the first pending transaction that it matches. -/
def reconcileTransaction (s : Secondary) (t : AppTransaction) (now : Timeval) : Option (Bool × Secondary) := do
  let t := { t with completionTimeStamp := now }
  let (passed, found) ← search s.heap (fun other => other.key = t.key) s.heap.keys.card none
    s.pendingTransactionList.first
  let s := { s with trace := s.trace ++ passed.map SecondaryEvent.stillPending }
  match found with
  | some (before, p) => do
    let (heap, list) ← s.pendingTransactionList.remove before p s.heap
    some (true, { s with
      heap := heap, pendingTransactionList := list, numPendingTransactions := s.numPendingTransactions - 1
    }.log (.completed t))
  | none => some (false, s.log (.noMatchingFound t))

/-- `CheckForNewTransactions`; `memory` is the address that `malloc` finds, if it does. -/
def checkForNewTransactions (s : Secondary) (now : Timeval) (memory : Option Nat) : Option Secondary :=
  if s.newTransactionTimer ≠ 0 then some s
  else if s.numTransactions ≠ 0 ∧ s.numTransactions ≤ s.lastTransactionNumber then
    some { s with showedLimitHitMessage := true }
  else
    match malloc s.heap memory with
    | none => some s
    | some p => do
      let number := s.lastTransactionNumber + 1
      let t : AppTransaction :=
        { addr := s.addrFilter, request := true, transactionNumber := number, creationTimeStamp := now }
      let s := { s with lastTransactionNumber := number, heap := s.heap.insert p ⟨t, none⟩ }
      let s ← s.addToQueuedTransactionList p
      some { s with newTransactionTimer := s.newTransactionInterval }

/-- `ProcessRxFrame`: whether `CheckReceive` is to go on, and the station then. -/
def processRxFrame (s : Secondary) (r : ReceivedFrame) (now : Timeval) (accepted : Nat → Bool) :
    Option (Bool × Secondary) :=
  if r.size = 2 ∧ r.ctrl = discControl then
    if s.initialized then
      let (sent, s) := s.sendDiscResponse (accepted 0)
      some (false, if sent then { s with initialized := false } else s)
    else some (false, s)
  else if !s.initialized then
    if r.size = 2 ∧ isFinal r.ctrl ∧ isReceiverReady r.ctrl then
      some (false, (s.sendSIMRequest (accepted 0)).2)
    else if r.size = 3 ∧ r.ctrl = simControl then
      some (false, { s with
        initialized := true, newTransactionTimer := s.newTransactionInterval, sendCount := 0 })
    else some (true, s)
  else if r.size = 2 ∧ isPoll r.ctrl then do
    let (_, s) ← s.doPollResponse accepted
    some (false, s)
  else if isInformation r.ctrl then do
    let s ← if r.info.request then some s else (s.reconcileTransaction r.info now).map Prod.snd
    some (!decide (isFinal r.ctrl), s)
  else some (true, s)

/-- `signal_handler` for `SIGALRM`. -/
def alarm (s : Secondary) : Secondary :=
  let s := { s with elapsedMS := s.elapsedMS + 100 }
  if s.elapsedMS % 1000 = 0 ∧ s.newTransactionTimer ≠ 0 then
    { s with newTransactionTimer := s.newTransactionTimer - 1 }
  else s

end Secondary

/-- What happens to a secondary station: `CheckReceive` reads a frame or gives up waiting, the main loop looks for new
transactions, the interval timer goes off. -/
inductive SecondaryInput where
  | frame (r : ReceivedFrame) (now : Timeval) (accepted : Nat → Bool)
  | timeout
  | check (now : Timeval) (memory : Option Nat)
  | alarm

namespace Secondary

def enabled (s : Secondary) : SecondaryInput → Prop
  | .frame _ _ _ => s.phase = .receiving
  | .timeout => s.phase = .receiving
  | .check _ _ => s.phase = .checking
  | .alarm => True

instance (s : Secondary) : DecidablePred s.enabled
  | .frame _ _ _ => inferInstanceAs (Decidable (s.phase = .receiving))
  | .timeout => inferInstanceAs (Decidable (s.phase = .receiving))
  | .check _ _ => inferInstanceAs (Decidable (s.phase = .checking))
  | .alarm => inferInstanceAs (Decidable True)

/-- One round of `SecondaryLoopTest` and of `CheckReceive`, call by call. There is no result where an operation would
follow a dangling pointer. -/
def run (s : Secondary) : SecondaryInput → Option Secondary
  | .frame r now accepted =>
    if r.Passed false then do
      let (more, s) ← s.processRxFrame r now accepted
      some (if more then s else { s with phase := .checking })
    else some s
  | .timeout => some { s with phase := .checking }
  | .check now memory => do
    let s ← if s.initialized then s.checkForNewTransactions now memory else some s
    some { s with phase := .receiving }
  | .alarm => some s.alarm

def Step (s : Secondary) (e : SecondaryInput) (t : Secondary) : Prop := s.enabled e ∧ s.run e = some t

def next (s : Secondary) (e : SecondaryInput) : Option Secondary := if s.enabled e then s.run e else none

theorem step_of_next {s t : Secondary} {e : SecondaryInput} (done : s.next e = some t) : s.Step e t := by
  unfold next at done
  split at done
  · exact ⟨by assumption, done⟩
  · cases done

end Secondary

end Route56
