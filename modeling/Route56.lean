import Route56.Lib.CInteger
import Route56.Lib.CircularBuffer
import Route56.Lib.Cycle
import Route56.Lib.Ledger
import Route56.Lib.LinkedList
import Route56.Lib.Memory
import Route56.Lib.Nearest
import Route56.Lib.Transition
import Route56.Header
import Route56.Usc
import Route56.Struct
import Route56.Receiver
import Route56.Transmitter
import Route56.Interrupt
import Route56.Configuration
import Route56.Frame
import Route56.Driver
import Route56.Watchdog
import Route56.Line
import Route56.Control
import Route56.Parts
import Route56.AutoRts
import Route56.NoEcho
import Route56.Wire
import Route56.RawWrite
import Route56.HoldingRing
import Route56.BhFlags
import Route56.BottomHalf
import Route56.Lifecycle
import Route56.Events
import Route56.RicrArming
import Route56.Primitives
import Route56.ModeAgreement
import Route56.IdlePattern
import Route56.AsyncTransmit
import Route56.XChar
import Route56.TransmitRing
import Route56.WriteRoom
import Route56.DmaAccounting
import Route56.Drained
import Route56.WaitedEvent
import Route56.EventWait
import Route56.RxRing
import Route56.RxChip
import Route56.RawReceive
import Route56.RxFrame
import Route56.RxStatistics
import Route56.RxBounds
import Route56.FlagBuffer
import Route56.Overrun
import Route56.AsyncReceive
import Route56.BufferCounts
import Route56.Resources
import Route56.Arbitration
import Route56.ClockConstants
import Route56.MemoryTest
import Route56.DmaLists
import Route56.LineSettings
import Route56.Programming
import Route56.RawLengths
import Route56.CommandWords
import Route56.RegisterWindow
import Route56.Lib.BitField
import Route56.LoopRelease
import Route56.ThrottledRts
import Route56.FlushBuffer
import Route56.Options
import Route56.OptionFold
import Route56.HdlcReceive
import Route56.Recedes
import Route56.Restart
import Route56.ReceiverOff
import Route56.HdlcDev
import Route56.Link
import Route56.LoopFrames
import Route56.LoopSecondary
import Route56.LoopAccounts
import Route56.LoopPrimary
import Route56.LoopResponses
import Route56.LoopProtocol
