import Route56.Driver

namespace Route56

def rt56EventDsrActive : U32 := 0x0001
def rt56EventDsrInactive : U32 := 0x0002
def rt56EventCtsActive : U32 := 0x0004
def rt56EventCtsInactive : U32 := 0x0008
def rt56EventDcdActive : U32 := 0x0010
def rt56EventDcdInactive : U32 := 0x0020
def rt56EventRiActive : U32 := 0x0040
def rt56EventRiInactive : U32 := 0x0080
def rt56EventExitHuntMode : U32 := 0x0100
def rt56EventIdleReceived : U32 := 0x0200

/-- `Rt56Event_ExitHuntMode + Rt56Event_IdleReceived`. -/
def rt56EventHuntIdle : U32 := rt56EventExitHuntMode + rt56EventIdleReceived

def tiocmCts : U32 := 0x020
def tiocmCd : U32 := 0x040
def tiocmRng : U32 := 0x080
def tiocmDsr : U32 := 0x100

/-- The events in the mask that the input lines show at entry. -/
def levelEvents (signals : U8) (mask : U32) : U32 :=
  mask &&& ((if signals &&& serialSignalDsr ≠ 0 then rt56EventDsrActive else rt56EventDsrInactive) +
    (if signals &&& serialSignalDcd ≠ 0 then rt56EventDcdActive else rt56EventDcdInactive) +
    (if signals &&& serialSignalCts ≠ 0 then rt56EventCtsActive else rt56EventCtsInactive) +
    (if signals &&& serialSignalRi ≠ 0 then rt56EventRiActive else rt56EventRiInactive))

/-- The RICR bits a mask asks for. -/
def armBits (mask : U32) : U16 :=
  (if mask &&& rt56EventExitHuntMode ≠ 0 then rxstatusExitedHunt else 0) +
    (if mask &&& rt56EventIdleReceived ≠ 0 then rxstatusIdleReceived else 0)

/-- The statements that enable the hunt and idle interrupts at entry. -/
def armEvents (u : Usc) (mask : U32) : Usc :=
  if mask &&& rt56EventHuntIdle ≠ 0 then
    let oldreg := uscInReg u .ricr
    let newreg := oldreg + armBits mask
    if oldreg ≠ newreg then uscOutReg u .ricr newreg else u
  else u

/-- The statements that disable them at the end; `active` is `waitqueue_active`. -/
def disarmEvents (u : Usc) (mask : U32) (active : Bool) : Usc :=
  if mask &&& rt56EventHuntIdle ≠ 0 then
    if active then u
    else uscOutReg u .ricr (uscInReg u .ricr &&& ~~~(rxstatusExitedHunt + rxstatusIdleReceived))
  else u

/-- What both functions copy of the counters. -/
structure EventCounts where
  icount : R56Icount
  sigs : InputSignalEvents

def R56Struct.eventCounts (info : R56Struct) : EventCounts where
  icount := info.icount
  sigs := info.inputSignalEvents

/-- The event bits of the counters that differ. -/
def changedEvents (old new : EventCounts) : U32 :=
  (if new.sigs.dsrUp ≠ old.sigs.dsrUp then rt56EventDsrActive else 0) +
    (if new.sigs.dsrDown ≠ old.sigs.dsrDown then rt56EventDsrInactive else 0) +
    (if new.sigs.dcdUp ≠ old.sigs.dcdUp then rt56EventDcdActive else 0) +
    (if new.sigs.dcdDown ≠ old.sigs.dcdDown then rt56EventDcdInactive else 0) +
    (if new.sigs.ctsUp ≠ old.sigs.ctsUp then rt56EventCtsActive else 0) +
    (if new.sigs.ctsDown ≠ old.sigs.ctsDown then rt56EventCtsInactive else 0) +
    (if new.sigs.riUp ≠ old.sigs.riUp then rt56EventRiActive else 0) +
    (if new.sigs.riDown ≠ old.sigs.riDown then rt56EventRiInactive else 0) +
    (if new.icount.exithunt ≠ old.icount.exithunt then rt56EventExitHuntMode else 0) +
    (if new.icount.rxidle ≠ old.icount.rxidle then rt56EventIdleReceived else 0)

/-- The test for a wait that was aborted: no counter differs. -/
def unchangedEvents (old new : EventCounts) : Prop :=
  new.sigs.dsrUp = old.sigs.dsrUp ∧ new.sigs.dsrDown = old.sigs.dsrDown ∧
    new.sigs.dcdUp = old.sigs.dcdUp ∧ new.sigs.dcdDown = old.sigs.dcdDown ∧
    new.sigs.ctsUp = old.sigs.ctsUp ∧ new.sigs.ctsDown = old.sigs.ctsDown ∧
    new.sigs.riUp = old.sigs.riUp ∧ new.sigs.riDown = old.sigs.riDown ∧
    new.icount.exithunt = old.icount.exithunt ∧ new.icount.rxidle = old.icount.rxidle

instance (old new : EventCounts) : Decidable (unchangedEvents old new) :=
  inferInstanceAs (Decidable (_ ∧ _))

def unchangedInputs (old new : EventCounts) : Prop :=
  new.icount.rng = old.icount.rng ∧ new.icount.dsr = old.icount.dsr ∧
    new.icount.dcd = old.icount.dcd ∧ new.icount.cts = old.icount.cts

instance (old new : EventCounts) : Decidable (unchangedInputs old new) :=
  inferInstanceAs (Decidable (_ ∧ _))

/-- An input in the argument has changed. -/
def changedInput (arg : U32) (old new : EventCounts) : Prop :=
  arg &&& tiocmRng ≠ 0 ∧ new.icount.rng ≠ old.icount.rng ∨ arg &&& tiocmDsr ≠ 0 ∧ new.icount.dsr ≠ old.icount.dsr ∨
    arg &&& tiocmCd ≠ 0 ∧ new.icount.dcd ≠ old.icount.dcd ∨ arg &&& tiocmCts ≠ 0 ∧ new.icount.cts ≠ old.icount.cts

instance (arg : U32) (old new : EventCounts) : Decidable (changedInput arg old new) :=
  inferInstanceAs (Decidable (_ ∨ _))

/-- `r56_get_stats` without a buffer. -/
def r56ResetStats (info : R56Struct) : R56Struct := { info with icount := {} }

end Route56
