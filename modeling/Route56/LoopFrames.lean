import Mathlib.Tactic

namespace Route56

/-- `struct timeval`. -/
structure Timeval where
  sec : Int := 0
  usec : Int := 0
  deriving DecidableEq

/-- `APP_TRANSACTION` without its link. -/
structure AppTransaction where
  addr : BitVec 8 := 0
  request : Bool := false
  transactionNumber : BitVec 32 := 0
  creationTimeStamp : Timeval := {}
  primaryReceiptTimeStamp : Timeval := {}
  primaryTimeStamp : Timeval := {}
  completionTimeStamp : Timeval := {}
  deriving DecidableEq

/-- What a response is matched with its request by. -/
def AppTransaction.key (t : AppTransaction) : BitVec 32 × Timeval := (t.transactionNumber, t.creationTimeStamp)

/-- A transaction as it was created, without what the primary and the completion add. -/
def AppTransaction.bare (t : AppTransaction) : AppTransaction :=
  { addr := t.addr, request := true, transactionNumber := t.transactionNumber, creationTimeStamp := t.creationTimeStamp }

/-- `sizeof(APP_TRANSACTION)` on the i386. -/
def sizeofTransaction : Nat := 44

def broadcastAddr : BitVec 8 := 0xff

def discControl : BitVec 8 := 0x53
def simControl : BitVec 8 := 0x17
def pollBit : BitVec 8 := 0x10
def finalBit : BitVec 8 := 0x10
def receiverReady : BitVec 8 := 0x01

def isPoll (c : BitVec 8) : Prop := c &&& pollBit ≠ 0
def isFinal (c : BitVec 8) : Prop := c &&& finalBit ≠ 0
def isReceiverReady (c : BitVec 8) : Prop := c &&& 0x0f = receiverReady

/-- Bit 0 of the control field is clear in an information frame. -/
def isInformation (c : BitVec 8) : Prop := c &&& 0x01 = 0

instance : DecidablePred isPoll := fun c => inferInstanceAs (Decidable (c &&& pollBit ≠ 0))
instance : DecidablePred isFinal := fun c => inferInstanceAs (Decidable (c &&& finalBit ≠ 0))
instance : DecidablePred isReceiverReady := fun c => inferInstanceAs (Decidable (c &&& 0x0f = receiverReady))
instance : DecidablePred isInformation := fun c => inferInstanceAs (Decidable (c &&& 0x01 = 0))

theorem isFinal_iff : ∀ c : BitVec 8, isFinal c ↔ c.getLsbD 4 = true := by decide

theorem isInformation_iff : ∀ c : BitVec 8, isInformation c ↔ c.getLsbD 0 = false := by decide

inductive InfoField where
  | absent
  | address (addr : BitVec 8)
  | transaction (t : AppTransaction)
  deriving DecidableEq

/-- A frame as a station passes it to the driver. -/
structure LoopFrame where
  addr : BitVec 8
  ctrl : BitVec 8
  info : InfoField := .absent
  deriving DecidableEq

def LoopFrame.size (f : LoopFrame) : Nat :=
  match f.info with
  | .absent => 2
  | .address _ => 3
  | .transaction _ => 2 + sizeofTransaction

def LoopFrame.transaction? (f : LoopFrame) : Option AppTransaction :=
  match f.info with
  | .transaction t => some t
  | _ => none

/-- A frame in the receive buffer: `info` is what the buffer holds behind the control field, whatever the frame's size. -/
structure ReceivedFrame where
  addr : BitVec 8
  ctrl : BitVec 8
  size : Nat
  info : AppTransaction

/-- What a station finds in its buffer when a frame has arrived. -/
structure LoopFrame.ArrivesAs (f : LoopFrame) (r : ReceivedFrame) : Prop where
  addr : r.addr = f.addr
  ctrl : r.ctrl = f.ctrl
  size : r.size = f.size
  info : ∀ t, f.info = .transaction t → r.info = t

instance (f : LoopFrame) (r : ReceivedFrame) : Decidable (f.ArrivesAs r) :=
  decidable_of_iff (r.addr = f.addr ∧ r.ctrl = f.ctrl ∧ r.size = f.size ∧ ∀ t ∈ f.transaction?, r.info = t) <| by
    have carries : ∀ t, t ∈ f.transaction? ↔ f.info = .transaction t := by
      intro t
      unfold LoopFrame.transaction?
      split <;> simp_all
    simp only [carries]
    exact ⟨fun ⟨addr, ctrl, size, info⟩ => ⟨addr, ctrl, size, info⟩, fun ⟨addr, ctrl, size, info⟩ => ⟨addr, ctrl, size, info⟩⟩

/-- The buffer of the frame reaches to the end of a transaction. -/
def ReceivedFrame.Whole (r : ReceivedFrame) : Prop := 2 + sizeofTransaction ≤ r.size

instance (r : ReceivedFrame) : Decidable r.Whole := inferInstanceAs (Decidable (_ ≤ _))

/-- The frames that `CheckReceive` passes to its callback: a primary does not look at its own broadcasts. -/
def ReceivedFrame.Passed (primary : Bool) (r : ReceivedFrame) : Prop := primary = true → r.addr ≠ broadcastAddr

instance (primary : Bool) (r : ReceivedFrame) : Decidable (r.Passed primary) :=
  inferInstanceAs (Decidable (_ → _))

theorem LoopFrame.ArrivesAs.whole {f : LoopFrame} {r : ReceivedFrame} {t : AppTransaction} (arrives : f.ArrivesAs r)
    (carries : f.info = .transaction t) : r.Whole := by
  rw [ReceivedFrame.Whole, arrives.size, LoopFrame.size, carries]

end Route56
