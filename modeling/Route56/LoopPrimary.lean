import Route56.Header
import Route56.LoopFrames
import Route56.Lib.LinkedList
import Route56.Lib.Transition

namespace Route56

open LinkedList

/-- `CLIENT` without its link; `Nr` is only ever cleared. -/
structure Client where
  addr : BitVec 8
  nr : BitVec 8 := 0
  ns : BitVec 8 := 0
  deriving DecidableEq

/-- The messages about transactions and the calls of the driver. -/
inductive PrimaryEvent where
  | queuing (t : AppTransaction)
  | queued (t : AppTransaction) (count : Int)
  | discarded (t : AppTransaction)
  | responseSent (t : AppTransaction)
  | write (f : LoopFrame) (accepted : Bool)
  | setIdle (mode : Nat)
  deriving DecidableEq

/-- Where `PrimaryLoopTest` and, at the end, `DoDisc` are. -/
inductive PrimaryPhase where
  | top
  | receiving
  | transmitting
  | disconnecting
  | awaitingDisc
  | ended
  deriving DecidableEq

/-- What `APP_DATA` has for the primary station. -/
structure Primary where
  pollInterval : BitVec 32
  pollTimer : BitVec 32 := 0
  elapsedMS : BitVec 32 := 0
  exitApplication : Bool := false
  clientHeap : Heap Client := ∅
  clientList : Option Nat := none
  heap : Heap ReceivedFrame := ∅
  queuedTransactionList : Queue := {}
  numQueuedTransactions : Int := 0
  phase : PrimaryPhase := .top
  trace : List PrimaryEvent := []

namespace Primary

def log (p : Primary) (e : PrimaryEvent) : Primary := { p with trace := p.trace ++ [e] }

def sendFrame (p : Primary) (f : LoopFrame) (accepted : Bool) : Bool × Primary :=
  (accepted, p.log (.write f accepted))

/-- The search that `AllocateClient`, `DeallocateClient` and `GetClientInfo` make: the client's node with the one
before it. -/
def findClient (p : Primary) (addr : BitVec 8) : Option (Option (Option Nat × Nat)) :=
  (search p.clientHeap (fun c => c.addr = addr) p.clientHeap.keys.card none p.clientList).map Prod.snd

/-- `AllocateClient`. -/
def allocateClient (p : Primary) (addr : BitVec 8) (memory : Option Nat) : Option (Bool × Primary) := do
  let found ← p.findClient addr
  match found with
  | some (_, a) => do
    let node ← p.clientHeap.lookup a
    let heap ← setValue p.clientHeap a { node.value with nr := 0, ns := 0 }
    some (true, { p with clientHeap := heap })
  | none =>
    match malloc p.clientHeap memory with
    | none => some (false, p)
    | some a =>
      let heap := p.clientHeap.insert a ⟨{ addr := addr }, none⟩
      match p.clientList with
      | none => some (true, { p with clientHeap := heap, clientList := some a })
      | some first => do
        let end' ← tail heap heap.keys.card first
        let heap ← setNext heap end' (some a)
        some (true, { p with clientHeap := heap })

/-- `DeallocateClient`. -/
def deallocateClient (p : Primary) (addr : BitVec 8) : Option Primary := do
  let found ← p.findClient addr
  match found with
  | none => some p
  | some (before, a) => do
    let (heap, list) ← unlink p.clientHeap p.clientList before a
    some { p with clientHeap := heap.erase a, clientList := list }

/-- `GetClientInfo`. -/
def getClientInfo (p : Primary) (addr : BitVec 8) : Option (Option Nat) :=
  (p.findClient addr).map fun found => found.map Prod.snd

def sendSIMResponse (p : Primary) (addr : BitVec 8) (accepted : Bool) : Bool × Primary :=
  p.sendFrame ⟨addr, simControl, .address addr⟩ accepted

def sendGeneralPoll (p : Primary) (accepted : Bool) : Bool × Primary :=
  p.sendFrame ⟨broadcastAddr, pollBit ||| receiverReady, .absent⟩ accepted

/-- `QueueTransaction`: without memory for the entry the check behind it reads through the null pointer; `copy` says
whether there is memory for the copy of the frame. -/
def queueTransaction (p : Primary) (r : ReceivedFrame) (now : Timeval) (memory : Option Nat) (copy : Bool) :
    Option (Bool × Primary) :=
  let r := { r with info := { r.info with primaryReceiptTimeStamp := now } }
  let p := p.log (.queuing r.info)
  match malloc p.heap memory with
  | none => none
  | some a =>
    if !copy then some (false, p)
    else do
      let (heap, list) ← p.queuedTransactionList.append a (p.heap.insert a ⟨r, none⟩)
      some (true, { p with
        heap := heap, queuedTransactionList := list, numQueuedTransactions := p.numQueuedTransactions + 1
      }.log (.queued r.info (p.numQueuedTransactions + 1)))

/-- `RemoveQueuedTransationListHead`. -/
def removeQueuedTransationListHead (p : Primary) : Option Primary :=
  match p.queuedTransactionList.first with
  | none => some p
  | some _ => do
    let (heap, list) ← p.queuedTransactionList.pop p.heap
    some { p with
      heap := heap, queuedTransactionList := list, numQueuedTransactions := p.numQueuedTransactions - 1 }

/-- The loop of `SendTransactionResponses`; `now n` and `accepted n` are the clock and the driver's answer in its
`n`-th round. A transaction that reaches beyond the copy of its frame cannot be read. -/
def sendQueuedResponses (now : Nat → Timeval) (accepted : Nat → Bool) : Nat → Nat → Primary → Option Primary
  | fuel, n, p =>
    match p.queuedTransactionList.first with
    | none => some p
    | some a =>
      match fuel with
      | 0 => none
      | fuel + 1 => do
        let node ← p.heap.lookup a
        let r := node.value
        if ¬ r.Whole then none
        else do
          let client ← p.getClientInfo r.addr
          match client with
          | none => do
            let p ← (p.log (.discarded r.info)).removeQueuedTransationListHead
            sendQueuedResponses now accepted fuel (n + 1) p
          | some c => do
            let t := { r.info with primaryTimeStamp := now n, request := false }
            let heap ← setValue p.heap a { r with info := t }
            let entry ← p.clientHeap.lookup c
            let clientHeap ← setValue p.clientHeap c { entry.value with ns := (entry.value.ns + 1) &&& 0x07 }
            let (sent, p) := { p with heap := heap, clientHeap := clientHeap }.sendFrame
              ⟨r.addr, entry.value.ns <<< 1, .transaction t⟩ (accepted n)
            if sent then do
              let p ← (p.log (.responseSent t)).removeQueuedTransationListHead
              sendQueuedResponses now accepted fuel (n + 1) p
            else some p

/-- `SendTransactionResponses`; while there is more than one response the line idles flags. -/
def sendTransactionResponses (p : Primary) (now : Nat → Timeval) (accepted : Nat → Bool) (pollAccepted : Bool) :
    Option Primary :=
  match p.queuedTransactionList.first with
  | none => some p
  | some a => do
    let node ← p.heap.lookup a
    let resetIdleMode := node.next.isSome
    let p := if resetIdleMode then p.log (.setIdle hdlcTxidleFlags) else p
    let p ← sendQueuedResponses now accepted p.heap.keys.card 0 p
    let p := (p.sendGeneralPoll pollAccepted).2
    some (if resetIdleMode then p.log (.setIdle hdlcTxidleOnes) else p)

/-- `CheckTransmit`. -/
def checkTransmit (p : Primary) (now : Nat → Timeval) (accepted : Nat → Bool) (pollAccepted : Bool) : Option Primary :=
  if p.pollTimer ≠ 0 then some p
  else do
    let p ← if p.queuedTransactionList.first ≠ none then p.sendTransactionResponses now accepted pollAccepted
      else some (p.sendGeneralPoll pollAccepted).2
    some { p with pollTimer := p.pollInterval }

/-- `ProcessRxFrames`, which always has `CheckReceive` go on. -/
def processRxFrames (p : Primary) (r : ReceivedFrame) (now : Timeval) (memory : Option Nat) (copy accepted : Bool) :
    Option Primary :=
  if r.size = 2 ∧ r.ctrl = simControl then do
    let (allocated, p) ← p.allocateClient r.addr memory
    some (if allocated then (p.sendSIMResponse r.addr accepted).2 else p)
  else if r.size = 2 ∧ r.ctrl = discControl then p.deallocateClient r.addr
  else if isInformation r.ctrl then do
    let client ← p.getClientInfo r.addr
    match client with
    | none => some p
    | some _ => if r.info.request then (p.queueTransaction r now memory copy).map Prod.snd else some p
  else some p

/-- `ProcessRxDiscFrames`. -/
def processRxDiscFrames (p : Primary) (r : ReceivedFrame) : Option Primary :=
  if r.size = 2 ∧ r.ctrl = discControl then p.deallocateClient r.addr else some p

/-- The broadcast in the loop of `DoDisc`; a frame that the driver does not take ends it. -/
def broadcastDisc (p : Primary) (accepted : Bool) : Primary :=
  if p.pollTimer = 0 then
    let (sent, p) := p.sendFrame ⟨broadcastAddr, discControl, .absent⟩ accepted
    if sent then { p with pollTimer := p.pollInterval, phase := .awaitingDisc } else { p with phase := .ended }
  else { p with phase := .awaitingDisc }

/-- `signal_handler` for `SIGALRM`. -/
def alarm (p : Primary) : Primary :=
  let p := { p with elapsedMS := p.elapsedMS + 100 }
  if p.elapsedMS % 1000 = 0 ∧ p.pollTimer ≠ 0 then { p with pollTimer := p.pollTimer - 1 } else p

end Primary

/-- What happens to the primary station: its main loop goes round, `CheckReceive` reads a frame or gives up waiting, it
is time to transmit or to broadcast, a signal arrives. -/
inductive PrimaryInput where
  | loop
  | frame (r : ReceivedFrame) (now : Timeval) (memory : Option Nat) (copy accepted : Bool)
  | timeout
  | transmit (now : Nat → Timeval) (accepted : Nat → Bool) (pollAccepted : Bool)
  | broadcast (accepted : Bool)
  | alarm
  | interrupt

namespace Primary

def enabled (p : Primary) : PrimaryInput → Prop
  | .loop => p.phase = .top
  | .frame _ _ _ _ _ => p.phase = .receiving ∨ p.phase = .awaitingDisc
  | .timeout => p.phase = .receiving ∨ p.phase = .awaitingDisc
  | .transmit _ _ _ => p.phase = .transmitting
  | .broadcast _ => p.phase = .disconnecting
  | .alarm => True
  | .interrupt => True

instance (p : Primary) : DecidablePred p.enabled
  | .loop => inferInstanceAs (Decidable (p.phase = .top))
  | .frame _ _ _ _ _ => inferInstanceAs (Decidable (p.phase = .receiving ∨ p.phase = .awaitingDisc))
  | .timeout => inferInstanceAs (Decidable (p.phase = .receiving ∨ p.phase = .awaitingDisc))
  | .transmit _ _ _ => inferInstanceAs (Decidable (p.phase = .transmitting))
  | .broadcast _ => inferInstanceAs (Decidable (p.phase = .disconnecting))
  | .alarm => inferInstanceAs (Decidable True)
  | .interrupt => inferInstanceAs (Decidable True)

/-- `PrimaryLoopTest` with `DoDisc` at its end, call by call. -/
def run (p : Primary) : PrimaryInput → Option Primary
  | .loop =>
    if p.exitApplication then
      some { p with pollTimer := p.pollInterval, exitApplication := false, phase := .disconnecting }
    else some { p with phase := .receiving }
  | .frame r now memory copy accepted =>
    if r.Passed true then
      if p.phase = .receiving then p.processRxFrames r now memory copy accepted else p.processRxDiscFrames r
    else some p
  | .timeout =>
    if p.phase = .receiving then some { p with phase := .transmitting }
    else if p.clientList = none ∨ p.exitApplication then some { p with phase := .ended }
    else some { p with phase := .disconnecting }
  | .transmit now accepted pollAccepted => do
    let p ← p.checkTransmit now accepted pollAccepted
    some { p with phase := .top }
  | .broadcast accepted => some (p.broadcastDisc accepted)
  | .alarm => some p.alarm
  | .interrupt => some { p with exitApplication := true }

def Step (p : Primary) (e : PrimaryInput) (q : Primary) : Prop := p.enabled e ∧ p.run e = some q

def next (p : Primary) (e : PrimaryInput) : Option Primary := if p.enabled e then p.run e else none

theorem step_of_next {p q : Primary} {e : PrimaryInput} (done : p.next e = some q) : p.Step e q := by
  unfold next at done
  split at done
  · exact ⟨by assumption, done⟩
  · cases done

end Primary

end Route56
