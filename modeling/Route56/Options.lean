import Route56.Struct

namespace Route56

def rs485TermNe : U8 := 0x84
def rs485NotermNe : U8 := 0x85
def loopStd : U8 := 0x0a
def loopDiff : U8 := 0x0b
def v35 : U8 := 0x0e
def rs530a : U8 := 0x0f
def r56InterfaceDisable : U8 := 0

def hdlcPreambleLength8bits : U8 := 0
def hdlcPreamblePatternZeros : U8 := 1

namespace R56util

/-- What the options change: the parameters and idle mode read back from the driver, and the variables
of the program. -/
structure Settings where
  build : Build := {}
  params : R56Params
  idleMode : Int
  quiet : Int := 0
  cisco : Int := 1
  keepalive : Int := 0
  syncpppOptionsSet : Int := 0

/-- An `int` as an `unsigned long`. -/
def Settings.ulong (s : Settings) (n : Int) : Nat := (n % 2 ^ (if s.build.lp64 then 64 else 32)).toNat

/-- The input ended before the conversion, did not match, or gave a number; a number that the
variable cannot hold leaves the behaviour undefined. -/
inductive Scan (α : Type)
  | eof
  | failed
  | value (n : α)
  | overflow

def isSpace (c : Char) : Bool := c == ' ' || ('\t' ≤ c && c ≤ '\r')

def digitValue (c : Char) : Nat :=
  if '0' ≤ c ∧ c ≤ '9' then c.toNat - 48
  else if 'a' ≤ c ∧ c ≤ 'f' then c.toNat - 87
  else if 'A' ≤ c ∧ c ≤ 'F' then c.toNat - 55
  else 16

/-- The longest string of digits in front, and whether there is a digit. -/
def scanDigits (base : Nat) (text : List Char) : Option Nat :=
  let digits := text.takeWhile fun c => digitValue c < base
  if digits.isEmpty then none else some (digits.foldl (fun n c => n * base + digitValue c) 0)

/-- A number without sign. The base is 16 after 0x, and otherwise `base`, or if that is 0, 8 after 0 or 10. -/
def scanMagnitude (base : Nat) : List Char → Option Nat
  | '0' :: 'x' :: text => scanDigits 16 text
  | '0' :: 'X' :: text => scanDigits 16 text
  | '0' :: text => scanDigits (if base = 0 then 8 else base) ('0' :: text)
  | text => scanDigits (if base = 0 then 10 else base) text

def scanNumber (base : Nat) (text : List Char) : Scan Int :=
  match text.dropWhile isSpace with
  | [] => .eof
  | '-' :: text => (scanMagnitude base text).elim .failed fun n => .value (-n)
  | '+' :: text => (scanMagnitude base text).elim .failed fun n => .value n
  | text => (scanMagnitude base text).elim .failed fun n => .value n

/-- `sscanf` with `%i`. -/
def sscanfInt (text : String) : Scan Int :=
  match scanNumber 0 text.toList with
  | .value n => if -2 ^ 31 ≤ n ∧ n < 2 ^ 31 then .value n else .overflow
  | scan => scan

/-- `sscanf` with `%hx`. -/
def sscanfHex (text : String) : Scan U16 :=
  match scanNumber 16 text.toList with
  | .value n => if 0 ≤ n ∧ n < 2 ^ 16 then .value (BitVec.ofInt 16 n) else .overflow
  | .eof => .eof
  | .failed => .failed
  | .overflow => .overflow

/-- What a handler does: it takes some arguments, or returns an error, or uses an uninitialised variable. -/
inductive Handled
  | takes (count : Nat) (s : Settings)
  | fails (s : Settings)
  | undefined

/-- A handler of an option, which is the first of the arguments. -/
abbrev Handler := List String → Settings → Handled

def setting (f : Settings → Settings) : Handler := fun _ s => .takes 1 (f s)

def setField (f : R56Params → R56Params) : Handler := setting fun s => { s with params := f s.params }

def changeFlags (f : U16 → U16) : Handler := setField fun params => { params with flags := f params.flags }

def clearFlags (group : U16) : Handler := changeFlags fun flags => flags &&& ~~~group

def replaceFlags (group bit : U16) : Handler := changeFlags fun flags => (flags &&& ~~~group) ||| bit

def orFlags (bit : U16) : Handler := changeFlags fun flags => flags ||| bit

def addFlags (bit : U16) : Handler := changeFlags fun flags => flags + bit

/-- An option with an argument. `sscanf` returns EOF, which is not 0, for an empty argument. -/
def withArgument {α : Type} (sscanf : String → Scan α) (f : α → Settings → Option Settings) : Handler
  | _ :: arg :: _, s =>
    match sscanf arg with
    | .failed => .fails s
    | .value n => (f n s).elim (.fails s) (.takes 2)
    | .eof | .overflow => .undefined
  | _, s => .fails s

def underrunFlags : U16 := hdlcFlagUnderrunAbort15 + hdlcFlagUnderrunFlag + hdlcFlagUnderrunCrc
def rxcFlags : U16 := hdlcFlagRxcDpll + hdlcFlagRxcBrg + hdlcFlagRxcTxcpin
def txcFlags : U16 := hdlcFlagTxcDpll + hdlcFlagTxcBrg + hdlcFlagTxcRxcpin
def dpllDivFlags : U16 := hdlcFlagDpllDiv8 + hdlcFlagDpllDiv16

def setAsync : Handler := setField fun params => { params with mode := r56ModeAsync }
def setHdlc : Handler := setField fun params => { params with mode := r56ModeHdlc }
def setRaw : Handler := setField fun params => { params with mode := r56ModeRaw }
def setLoopback : Handler := setField fun params => { params with loopback := 1 }
def setNoloopback : Handler := setField fun params => { params with loopback := 0 }
def setRs485t : Handler := setField fun params => { params with interface := rs485Term }
def setRs485tNe : Handler := setField fun params => { params with interface := rs485TermNe }
def setRs485u : Handler := setField fun params => { params with interface := rs485Noterm }
def setRs485uNe : Handler := setField fun params => { params with interface := rs485NotermNe }
def setRs530 : Handler := setField fun params => { params with interface := rs530 }
def setRs530a : Handler := setField fun params => { params with interface := rs530a }
def setV35 : Handler := setField fun params => { params with interface := v35 }
def setSeloop : Handler := setField fun params => { params with interface := loopStd }
def setDifloop : Handler := setField fun params => { params with interface := loopDiff }
def setUa7 : Handler := clearFlags underrunFlags
def setUa15 : Handler := replaceFlags underrunFlags hdlcFlagUnderrunAbort15
def setUflag : Handler := replaceFlags underrunFlags hdlcFlagUnderrunFlag
def setUcrc : Handler := replaceFlags underrunFlags hdlcFlagUnderrunCrc
def setSharezero : Handler := orFlags hdlcFlagShareZero
def setNosharezero : Handler := clearFlags hdlcFlagShareZero
def setAutocts : Handler := addFlags hdlcFlagAutoCts
def setNoautocts : Handler := clearFlags hdlcFlagAutoCts
def setAutodcd : Handler := addFlags hdlcFlagAutoDcd
def setNoautodcd : Handler := clearFlags hdlcFlagAutoDcd
def setAutorts : Handler := addFlags hdlcFlagAutoRts
def setNoautorts : Handler := clearFlags hdlcFlagAutoRts
def setRxc : Handler := clearFlags rxcFlags
def setRxdpll : Handler := replaceFlags rxcFlags hdlcFlagRxcDpll
def setRxbrg : Handler := replaceFlags rxcFlags hdlcFlagRxcBrg
def setRxtxc : Handler := replaceFlags rxcFlags hdlcFlagRxcTxcpin
def setTxc : Handler := clearFlags txcFlags
def setTxdpll : Handler := replaceFlags txcFlags hdlcFlagTxcDpll
def setTxbrg : Handler := replaceFlags txcFlags hdlcFlagTxcBrg
def setTxrxc : Handler := replaceFlags txcFlags hdlcFlagTxcRxcpin
def setDplldiv8 : Handler := replaceFlags dpllDivFlags hdlcFlagDpllDiv8
def setDplldiv16 : Handler := replaceFlags dpllDivFlags hdlcFlagDpllDiv16
def setDplldiv32 : Handler := clearFlags dpllDivFlags
def setNrz : Handler := setField fun params => { params with encoding := hdlcEncodingNrz }
def setNrzi : Handler := setField fun params => { params with encoding := hdlcEncodingNrziSpace }
def setNrzb : Handler := setField fun params => { params with encoding := hdlcEncodingNrzb }
def setNrzimark : Handler := setField fun params => { params with encoding := hdlcEncodingNrziMark }
def setBimark : Handler := setField fun params => { params with encoding := hdlcEncodingBiphaseMark }
def setBispace : Handler := setField fun params => { params with encoding := hdlcEncodingBiphaseSpace }
def setBilevel : Handler := setField fun params => { params with encoding := hdlcEncodingBiphaseLevel }
def setBidiff : Handler := setField fun params => { params with encoding := hdlcEncodingDiffBiphaseLevel }

/-- The value is converted from `int` to `unsigned long`. -/
def setClock : Handler := withArgument sscanfInt fun newClock s =>
  some { s with params := { s.params with clockSpeed := s.ulong newClock } }

def setAddr : Handler := withArgument sscanfHex fun newAddr s =>
  some { s with params := { s.params with addrFilter := newAddr.setWidth 8 } }

def setCrcnone : Handler := setField fun params => { params with crcType := hdlcCrcNone }
def setCrc16 : Handler := setField fun params => { params with crcType := hdlcCrc16Ccitt }
def setCrc16ex : Handler := setField fun params => { params with crcType := hdlcCrc16Ccitt ||| hdlcCrcReturnEx }
def setCrc32 : Handler := setField fun params => { params with crcType := hdlcCrc32Ccitt }
def setCrc32ex : Handler := setField fun params => { params with crcType := hdlcCrc32Ccitt ||| hdlcCrcReturnEx }
def setPrenone : Handler := setField fun params => { params with preamble := hdlcPreamblePatternNone }
def setPreone : Handler := setField fun params => { params with preamble := hdlcPreamblePatternOnes }
def setPrezero : Handler := setField fun params => { params with preamble := hdlcPreamblePatternZeros }
def setPre10 : Handler := setField fun params => { params with preamble := hdlcPreamblePattern10 }
def setPre01 : Handler := setField fun params => { params with preamble := hdlcPreamblePattern01 }
def setPreflag : Handler := setField fun params => { params with preamble := hdlcPreamblePatternFlags }
def setPre8 : Handler := setField fun params => { params with preambleLength := hdlcPreambleLength8bits }
def setPre16 : Handler := setField fun params => { params with preambleLength := hdlcPreambleLength16bits }
def setPre32 : Handler := setField fun params => { params with preambleLength := hdlcPreambleLength32bits }
def setPre64 : Handler := setField fun params => { params with preambleLength := hdlcPreambleLength64bits }

def setRate : Handler := withArgument sscanfInt fun newRate s =>
  some { s with params := { s.params with dataRate := s.ulong newRate } }

def setDatabits : Handler := withArgument sscanfInt fun newDatabits s =>
  if newDatabits < 5 ∨ newDatabits > 8 then none
  else some { s with params := { s.params with dataBits := BitVec.ofInt 8 newDatabits } }

def setParitynone : Handler := setField fun params => { params with parity := asyncParityNone }
def setParityodd : Handler := setField fun params => { params with parity := asyncParityOdd }
def setParityeven : Handler := setField fun params => { params with parity := asyncParityEven }

def setStopbits : Handler := withArgument sscanfInt fun newStopbits s =>
  if newStopbits < 1 ∨ newStopbits > 2 then none
  else some { s with params := { s.params with stopBits := BitVec.ofInt 8 newStopbits } }

def setHdlcloop : Handler := addFlags hdlcFlagHdlcLoopmode
def setNohdlcloop : Handler := clearFlags hdlcFlagHdlcLoopmode

/-- Reads the counters of the device and prints them. -/
def displayStats : Handler := setting id

def setIdle0 : Handler := setting fun s => { s with idleMode := hdlcTxidleZeros }
def setIdle1 : Handler := setting fun s => { s with idleMode := hdlcTxidleOnes }
def setIdle01 : Handler := setting fun s => { s with idleMode := hdlcTxidleAltZerosOnes }
def setIdleflag : Handler := setting fun s => { s with idleMode := hdlcTxidleFlags }
def setIdlemark : Handler := setting fun s => { s with idleMode := hdlcTxidleMark }
def setIdlespace : Handler := setting fun s => { s with idleMode := hdlcTxidleSpace }
def setIdlemarkspace : Handler := setting fun s => { s with idleMode := hdlcTxidleAltMarkSpace }
def setQuiet : Handler := setting fun s => { s with quiet := 1 }

/-- A request to the driver. -/
def clearmodcount : Handler := setting id

def setCisco : Handler := setting fun s => { s with cisco := 1, syncpppOptionsSet := 1 }
def clearCisco : Handler := setting fun s => { s with cisco := 0, syncpppOptionsSet := 1 }
def setKeepalive : Handler := setting fun s => { s with keepalive := 1, syncpppOptionsSet := 1 }
def clearKeepalive : Handler := setting fun s => { s with keepalive := 0, syncpppOptionsSet := 1 }
def setIfdisable : Handler := setField fun params => { params with interface := r56InterfaceDisable }
def setRs232 : Handler := setField fun params => { params with interface := rs232 }

/-- `cmd_table`. -/
def cmdTable : List (String × Handler) :=
  [("async", setAsync), ("hdlc", setHdlc), ("raw", setRaw), ("loopback", setLoopback),
    ("+loopback", setLoopback), ("-loopback", setNoloopback), ("ifdisable", setIfdisable), ("rs232", setRs232),
    ("rs485t", setRs485t), ("rs485t_ne", setRs485tNe), ("rs485u", setRs485u), ("rs485u_ne", setRs485uNe),
    ("rs530", setRs530), ("rs530a", setRs530a), ("seloop", setSeloop), ("difloop", setDifloop),
    ("v35", setV35), ("ua7", setUa7), ("ua15", setUa15), ("uflag", setUflag), ("ucrc", setUcrc),
    ("sharezero", setSharezero), ("+sharezero", setSharezero), ("-sharezero", setNosharezero),
    ("autocts", setAutocts), ("+autocts", setAutocts), ("-autocts", setNoautocts), ("autodcd", setAutodcd),
    ("+autodcd", setAutodcd), ("-autodcd", setNoautodcd), ("autorts", setAutorts), ("+autorts", setAutorts),
    ("-autorts", setNoautorts), ("hdlcloop", setHdlcloop), ("+hdlcloop", setHdlcloop),
    ("-hdlcloop", setNohdlcloop), ("rxc", setRxc), ("rxdpll", setRxdpll), ("rxbrg", setRxbrg),
    ("rxtxc", setRxtxc), ("txc", setTxc), ("txdpll", setTxdpll), ("txbrg", setTxbrg), ("txrxc", setTxrxc),
    ("dplldiv8", setDplldiv8), ("dplldiv16", setDplldiv16), ("dplldiv32", setDplldiv32), ("nrz", setNrz),
    ("nrzi", setNrzi), ("nrzb", setNrzb), ("nrzimark", setNrzimark), ("bimark", setBimark),
    ("bispace", setBispace), ("bilevel", setBilevel), ("bidiff", setBidiff), ("clock", setClock),
    ("addr", setAddr), ("crcnone", setCrcnone), ("crc16", setCrc16), ("crc32", setCrc32),
    ("prenone", setPrenone), ("prezero", setPrezero), ("preone", setPreone), ("pre10", setPre10),
    ("pre01", setPre01), ("preflag", setPreflag), ("pre8", setPre8), ("pre16", setPre16), ("pre32", setPre32),
    ("pre64", setPre64), ("rate", setRate), ("paritynone", setParitynone), ("parityodd", setParityodd),
    ("parityeven", setParityeven), ("databits", setDatabits), ("stopbits", setStopbits),
    ("stats", displayStats), ("idle0", setIdle0), ("idle1", setIdle1), ("idleflag", setIdleflag),
    ("idle01", setIdle01), ("idlemark", setIdlemark), ("idlespace", setIdlespace),
    ("idlemarkspace", setIdlemarkspace), ("clrmodcount", clearmodcount), ("quiet", setQuiet),
    ("cisco", setCisco), ("+cisco", setCisco), ("-cisco", clearCisco), ("keepalive", setKeepalive),
    ("+keepalive", setKeepalive), ("-keepalive", clearKeepalive), ("crc16ex", setCrc16ex),
    ("crc32ex", setCrc32ex)]

/-- `parse_cmdline` returns 0 or an error, or the program exits for an invalid option. -/
inductive Parsed
  | done (s : Settings)
  | fails (s : Settings)
  | exits (s : Settings)
  | undefined

/-- `parse_cmdline`; `none` when it has not ended after `fuel` options. -/
def parseCmdline : Nat → List String → Settings → Option Parsed
  | _, [], s => some (.done s)
  | 0, _ :: _, _ => none
  | fuel + 1, option :: rest, s =>
    match cmdTable.lookup option with
    | none => some (.exits s)
    | some func =>
      match func (option :: rest) s with
      | .takes count s => parseCmdline fuel ((option :: rest).drop count) s
      | .fails s => some (.fails s)
      | .undefined => some .undefined

end R56util

end Route56
