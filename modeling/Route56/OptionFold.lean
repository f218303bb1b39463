import Route56.Options
import Route56.Lib.BitField

namespace Route56.R56util

/-- What one option assigns. -/
inductive Assignment
  | mode (value : Nat)
  | loopback (value : U8)
  | interface (value : U8)
  | flags (group bits : U16)
  | encoding (value : U8)
  | clockSpeed (value : Int)
  | addrFilter (value : U8)
  | crcType (value : U16)
  | preamble (value : U8)
  | preambleLength (value : U8)
  | dataRate (value : Int)
  | dataBits (value : U8)
  | parity (value : U8)
  | stopBits (value : U8)
  | idleMode (value : Int)
  | quiet (value : Int)
  | cisco (value : Int)
  | keepalive (value : Int)
  | nothing
  deriving DecidableEq

/-- The assigned field gets its value, every other field and every flag outside the group stays. -/
def Assignment.apply (a : Assignment) (s : Settings) : Settings :=
  match a with
  | .mode value => { s with params := { s.params with mode := value } }
  | .loopback value => { s with params := { s.params with loopback := value } }
  | .interface value => { s with params := { s.params with interface := value } }
  | .flags group bits => { s with params := { s.params with flags := (s.params.flags &&& ~~~group) ||| bits } }
  | .encoding value => { s with params := { s.params with encoding := value } }
  | .clockSpeed value => { s with params := { s.params with clockSpeed := s.ulong value } }
  | .addrFilter value => { s with params := { s.params with addrFilter := value } }
  | .crcType value => { s with params := { s.params with crcType := value } }
  | .preamble value => { s with params := { s.params with preamble := value } }
  | .preambleLength value => { s with params := { s.params with preambleLength := value } }
  | .dataRate value => { s with params := { s.params with dataRate := s.ulong value } }
  | .dataBits value => { s with params := { s.params with dataBits := value } }
  | .parity value => { s with params := { s.params with parity := value } }
  | .stopBits value => { s with params := { s.params with stopBits := value } }
  | .idleMode value => { s with idleMode := value }
  | .quiet value => { s with quiet := value }
  | .cisco value => { s with cisco := value, syncpppOptionsSet := 1 }
  | .keepalive value => { s with keepalive := value, syncpppOptionsSet := 1 }
  | .nothing => s

/-- An option without argument and its assignment, or how an option reads its argument. -/
inductive OptionSpec
  | sets (a : Assignment)
  | reads (f : String → Option Assignment)

/-- A number that fits into the variable. -/
def Scan.assigned {α : Type} (f : α → Option Assignment) : Scan α → Option Assignment
  | .value n => f n
  | _ => none

def sets (name : String) (a : Assignment) : String × OptionSpec := (name, .sets a)

/-- An option that may be preceded by + and is taken back with -. -/
def switches (name : String) (on off : Assignment) : List (String × OptionSpec) :=
  [sets name on, sets ("+" ++ name) on, sets ("-" ++ name) off]

def switchesFlag (name : String) (bit : U16) : List (String × OptionSpec) :=
  switches name (.flags bit bit) (.flags bit 0)

/-- The options that `display_usage` lists. -/
def optionSpecs : List (String × OptionSpec) :=
  [sets "async" (.mode r56ModeAsync), sets "hdlc" (.mode r56ModeHdlc), sets "raw" (.mode r56ModeRaw)] ++
  switches "loopback" (.loopback 1) (.loopback 0) ++
  [sets "ifdisable" (.interface r56InterfaceDisable), sets "rs232" (.interface rs232),
    sets "rs485t" (.interface rs485Term), sets "rs485t_ne" (.interface rs485TermNe),
    sets "rs485u" (.interface rs485Noterm), sets "rs485u_ne" (.interface rs485NotermNe),
    sets "rs530" (.interface rs530), sets "rs530a" (.interface rs530a), sets "seloop" (.interface loopStd),
    sets "difloop" (.interface loopDiff), sets "v35" (.interface v35),
    sets "ua7" (.flags underrunFlags 0), sets "ua15" (.flags underrunFlags hdlcFlagUnderrunAbort15),
    sets "uflag" (.flags underrunFlags hdlcFlagUnderrunFlag),
    sets "ucrc" (.flags underrunFlags hdlcFlagUnderrunCrc)] ++
  switchesFlag "sharezero" hdlcFlagShareZero ++ switchesFlag "autocts" hdlcFlagAutoCts ++
  switchesFlag "autodcd" hdlcFlagAutoDcd ++ switchesFlag "autorts" hdlcFlagAutoRts ++
  switchesFlag "hdlcloop" hdlcFlagHdlcLoopmode ++
  [sets "rxc" (.flags rxcFlags 0), sets "rxdpll" (.flags rxcFlags hdlcFlagRxcDpll),
    sets "rxbrg" (.flags rxcFlags hdlcFlagRxcBrg), sets "rxtxc" (.flags rxcFlags hdlcFlagRxcTxcpin),
    sets "txc" (.flags txcFlags 0), sets "txdpll" (.flags txcFlags hdlcFlagTxcDpll),
    sets "txbrg" (.flags txcFlags hdlcFlagTxcBrg), sets "txrxc" (.flags txcFlags hdlcFlagTxcRxcpin),
    sets "dplldiv8" (.flags dpllDivFlags hdlcFlagDpllDiv8),
    sets "dplldiv16" (.flags dpllDivFlags hdlcFlagDpllDiv16), sets "dplldiv32" (.flags dpllDivFlags 0),
    sets "nrz" (.encoding hdlcEncodingNrz), sets "nrzi" (.encoding hdlcEncodingNrziSpace),
    sets "nrzb" (.encoding hdlcEncodingNrzb), sets "nrzimark" (.encoding hdlcEncodingNrziMark),
    sets "bimark" (.encoding hdlcEncodingBiphaseMark), sets "bispace" (.encoding hdlcEncodingBiphaseSpace),
    sets "bilevel" (.encoding hdlcEncodingBiphaseLevel),
    sets "bidiff" (.encoding hdlcEncodingDiffBiphaseLevel),
    ("clock", .reads fun arg => (sscanfInt arg).assigned fun n => some (.clockSpeed n)),
    ("addr", .reads fun arg => (sscanfHex arg).assigned fun n => some (.addrFilter (n.setWidth 8))),
    sets "crcnone" (.crcType hdlcCrcNone), sets "crc16" (.crcType hdlcCrc16Ccitt),
    sets "crc32" (.crcType hdlcCrc32Ccitt),
    sets "prenone" (.preamble hdlcPreamblePatternNone), sets "prezero" (.preamble hdlcPreamblePatternZeros),
    sets "preone" (.preamble hdlcPreamblePatternOnes), sets "pre10" (.preamble hdlcPreamblePattern10),
    sets "pre01" (.preamble hdlcPreamblePattern01), sets "preflag" (.preamble hdlcPreamblePatternFlags),
    sets "pre8" (.preambleLength hdlcPreambleLength8bits),
    sets "pre16" (.preambleLength hdlcPreambleLength16bits),
    sets "pre32" (.preambleLength hdlcPreambleLength32bits),
    sets "pre64" (.preambleLength hdlcPreambleLength64bits),
    ("rate", .reads fun arg => (sscanfInt arg).assigned fun n => some (.dataRate n)),
    sets "paritynone" (.parity asyncParityNone), sets "parityodd" (.parity asyncParityOdd),
    sets "parityeven" (.parity asyncParityEven),
    ("databits", .reads fun arg => (sscanfInt arg).assigned fun n =>
      if 5 ≤ n ∧ n ≤ 8 then some (.dataBits (BitVec.ofInt 8 n)) else none),
    ("stopbits", .reads fun arg => (sscanfInt arg).assigned fun n =>
      if 1 ≤ n ∧ n ≤ 2 then some (.stopBits (BitVec.ofInt 8 n)) else none),
    sets "stats" .nothing, sets "idle0" (.idleMode hdlcTxidleZeros), sets "idle1" (.idleMode hdlcTxidleOnes),
    sets "idleflag" (.idleMode hdlcTxidleFlags), sets "idle01" (.idleMode hdlcTxidleAltZerosOnes),
    sets "idlemark" (.idleMode hdlcTxidleMark), sets "idlespace" (.idleMode hdlcTxidleSpace),
    sets "idlemarkspace" (.idleMode hdlcTxidleAltMarkSpace), sets "clrmodcount" .nothing,
    sets "quiet" (.quiet 1)] ++
  switches "cisco" (.cisco 1) (.cisco 0) ++ switches "keepalive" (.keepalive 1) (.keepalive 0) ++
  [sets "crc16ex" (.crcType (hdlcCrc16Ccitt ||| hdlcCrcReturnEx)),
    sets "crc32ex" (.crcType (hdlcCrc32Ccitt ||| hdlcCrcReturnEx))]

/-- An argument suits an option, and makes it assign `a`. -/
def OptionSpec.accepts : OptionSpec → Option String → Assignment → Prop
  | .sets a, arg, a' => arg = none ∧ a' = a
  | .reads f, arg, a' => ∃ text, arg = some text ∧ f text = some a'

/-- An option of the list, with its argument if it takes one. -/
structure ValidOption where
  name : String
  arg : Option String
  effect : Assignment
  valid : ∃ spec, optionSpecs.lookup name = some spec ∧ spec.accepts arg effect

/-- The words of the command line. -/
def ValidOption.words (o : ValidOption) : List String := o.name :: o.arg.toList

def commandLine (opts : List ValidOption) : List String := opts.flatMap ValidOption.words

/-- The assignments one after another, the last one of a field wins. -/
def assigned (s : Settings) (opts : List ValidOption) : Settings := opts.foldl (fun s o => o.effect.apply s) s

/-- The flags whose options add the bit. -/
def addedFlags : List U16 := [hdlcFlagAutoCts, hdlcFlagAutoDcd, hdlcFlagAutoRts, hdlcFlagHdlcLoopmode]

/-- An option that adds its bit finds the flag clear. -/
def Assignment.Clear (a : Assignment) (s : Settings) : Prop :=
  ∀ bit ∈ addedFlags, a = .flags bit bit → s.params.flags &&& bit = 0

/-- What the handler of an option does. -/
def Assignment.handled (a : Assignment) (s : Settings) : Settings :=
  match a with
  | .flags group bits =>
    if group ∈ addedFlags ∧ bits = group then
      { s with params := { s.params with flags := s.params.flags + bits } }
    else a.apply s
  | a => a.apply s

/-- A handler uses up the option and its argument and makes the assignment. -/
def Handles (func : Handler) (spec : OptionSpec) : Prop :=
  ∀ name arg a rest s, spec.accepts arg a →
    func (name :: (arg.toList ++ rest)) s = .takes (1 + arg.toList.length) (a.handled s)

section Handlers

variable {a : Assignment} {group bit : U16}

theorem and_not_or_self (flags bit : U16) : (flags &&& ~~~bit) ||| bit = flags ||| bit := by
  ext i
  simp only [BitVec.getElem_or, BitVec.getElem_and, BitVec.getElem_not]
  cases flags[i] <;> cases bit[i] <;> rfl

theorem handles_setting (f : Settings → Settings) (same : f = a.handled) : Handles (setting f) (.sets a) := by
  rintro name arg a rest s ⟨rfl, rfl⟩
  simp [setting, same]

theorem handles_changeFlags (f : U16 → U16) (bits : U16)
    (same : ∀ flags, f flags =
      if group ∈ addedFlags ∧ bits = group then flags + bits else (flags &&& ~~~group) ||| bits) :
    Handles (changeFlags f) (.sets (.flags group bits)) := by
  apply handles_setting
  funext s
  simp only [same, Assignment.handled, Assignment.apply]
  split <;> rfl

theorem handles_clearFlags (set : 0 ≠ group) : Handles (clearFlags group) (.sets (.flags group 0)) := by
  apply handles_changeFlags
  intro flags
  rw [if_neg fun same => set same.2]
  exact BitVec.or_zero.symm

theorem handles_orFlags (other : bit ∉ addedFlags) : Handles (orFlags bit) (.sets (.flags bit bit)) := by
  apply handles_changeFlags
  simp [other, and_not_or_self]

theorem handles_withArgument {α : Type} (sscanf : String → Scan α) (f : α → Settings → Option Settings)
    (g : α → Option Assignment) (same : ∀ n a s, g n = some a → f n s = some (a.handled s)) :
    Handles (withArgument sscanf f) (.reads fun arg => (sscanf arg).assigned g) := by
  rintro name arg a rest s ⟨text, rfl, accepted⟩
  cases scanned : sscanf text with
  | value n =>
    simp only [scanned, Scan.assigned] at accepted
    simp [withArgument, scanned, same n a s accepted]
  | eof => simp [scanned, Scan.assigned] at accepted
  | failed => simp [scanned, Scan.assigned] at accepted
  | overflow => simp [scanned, Scan.assigned] at accepted

theorem handles_setClock : Handles setClock
    (.reads fun arg => (sscanfInt arg).assigned fun n => some (.clockSpeed n)) := by
  apply handles_withArgument
  rintro n a s ⟨⟩
  rfl

theorem handles_setAddr : Handles setAddr
    (.reads fun arg => (sscanfHex arg).assigned fun n => some (.addrFilter (n.setWidth 8))) := by
  apply handles_withArgument
  rintro n a s ⟨⟩
  rfl

theorem handles_setRate : Handles setRate
    (.reads fun arg => (sscanfInt arg).assigned fun n => some (.dataRate n)) := by
  apply handles_withArgument
  rintro n a s ⟨⟩
  rfl

theorem handles_setDatabits : Handles setDatabits
    (.reads fun arg => (sscanfInt arg).assigned fun n =>
      if 5 ≤ n ∧ n ≤ 8 then some (.dataBits (BitVec.ofInt 8 n)) else none) := by
  apply handles_withArgument
  intro n a s accepted
  split at accepted
  case isTrue range =>
    cases accepted
    exact if_neg (by omega)
  case isFalse => cases accepted

theorem handles_setStopbits : Handles setStopbits
    (.reads fun arg => (sscanfInt arg).assigned fun n =>
      if 1 ≤ n ∧ n ≤ 2 then some (.stopBits (BitVec.ofInt 8 n)) else none) := by
  apply handles_withArgument
  intro n a s accepted
  split at accepted
  case isTrue range =>
    cases accepted
    exact if_neg (by omega)
  case isFalse => cases accepted

end Handlers

/-- The table has an entry for every option, which handles it. -/
theorem cmdTable_handles :
    List.Forall₂ (fun entry spec => entry.1 = spec.1 ∧ Handles entry.2 spec.2) cmdTable optionSpecs := by
  repeat
    refine .cons ⟨by decide, ?_⟩ ?_
    swap
  · exact .nil
  all_goals first
    | exact handles_setting _ rfl
    | exact handles_clearFlags (by decide)
    | exact handles_orFlags (by decide)
    | exact handles_setClock
    | exact handles_setAddr
    | exact handles_setRate
    | exact handles_setDatabits
    | exact handles_setStopbits

/-- The loop finds a handler of every option. -/
theorem lookup_handles {table : List (String × Handler)} {specs : List (String × OptionSpec)} {name : String}
    {spec : OptionSpec}
    (entries : List.Forall₂ (fun entry spec => entry.1 = spec.1 ∧ Handles entry.2 spec.2) table specs)
    (found : specs.lookup name = some spec) : ∃ func, table.lookup name = some func ∧ Handles func spec := by
  induction entries with
  | nil => cases found
  | @cons entry listed table specs same _ ih =>
    rw [List.lookup_cons] at found
    rw [List.lookup_cons, same.1]
    cases equal : name == listed.1 with
    | true =>
      simp only [equal, Option.some.injEq] at found
      exact ⟨entry.2, by simp, found ▸ same.2⟩
    | false =>
      simp only [equal] at found
      simpa using ih found

/-- One round of the loop. -/
theorem parseCmdline_option (o : ValidOption) (fuel : Nat) (rest : List String) (s : Settings) :
    parseCmdline (fuel + 1) (o.words ++ rest) s = parseCmdline fuel rest (o.effect.handled s) := by
  obtain ⟨spec, listed, accepted⟩ := o.valid
  obtain ⟨func, found, handles⟩ := lookup_handles cmdTable_handles listed
  have handled := handles o.name o.arg o.effect rest s accepted
  simp only [ValidOption.words, List.cons_append, parseCmdline, found, handled]
  rw [Nat.add_comm 1, List.drop_succ_cons, List.drop_left]

/-- The whole loop, with enough rounds for every word. -/
theorem parseCmdline_options (opts : List ValidOption) (s : Settings) (fuel : Nat)
    (enough : (commandLine opts).length ≤ fuel) :
    parseCmdline fuel (commandLine opts) s = some (.done (opts.foldl (fun s o => o.effect.handled s) s)) := by
  induction opts generalizing s fuel with
  | nil => cases fuel <;> rfl
  | cons o opts ih =>
    have length : (commandLine (o :: opts)).length = o.arg.toList.length + 1 + (commandLine opts).length := by
      simp only [commandLine, ValidOption.words, List.flatMap_cons, List.length_append, List.length_cons]
    obtain ⟨fuel, rfl⟩ : ∃ more, fuel = more + 1 := ⟨fuel - 1, by omega⟩
    exact (parseCmdline_option o fuel (commandLine opts) s).trans (ih _ fuel (by omega))

theorem single_bit {bit : U16} (added : bit ∈ addedFlags) (flags : U16) :
    bit ≠ 0 ∧ (flags &&& bit = 0 ∨ flags &&& bit = bit) := by
  have power : ∃ i < 16, bit = BitVec.twoPow 16 i := by
    simp only [addedFlags, List.mem_cons, List.not_mem_nil, or_false] at added
    rcases added with rfl | rfl | rfl | rfl
    · exact ⟨5, by decide, rfl⟩
    · exact ⟨6, by decide, rfl⟩
    · exact ⟨7, by decide, rfl⟩
    · exact ⟨14, by decide, rfl⟩
  obtain ⟨i, range, rfl⟩ := power
  rw [BitVec.and_twoPow]
  refine ⟨fun zero => ?_, by split <;> simp⟩
  have bit := congrArg (·.getLsbD i) zero
  simp [range] at bit

/-- Adding a bit sets it if it is clear, and otherwise carries into the flag above. -/
theorem add_bit_iff {bit : U16} (added : bit ∈ addedFlags) (flags : U16) :
    flags + bit = (flags &&& ~~~bit) ||| bit ↔ flags &&& bit = 0 := by
  obtain ⟨nonzero, clear | set⟩ := single_bit added flags
  · refine iff_of_true ?_ clear
    rw [and_not_or_self]
    exact BitVec.add_eq_or_of_and_eq_zero _ _ clear
  · refine iff_of_false (fun same => nonzero ?_) (fun clear => nonzero (set.symm.trans clear))
    have kept : (flags &&& ~~~bit) ||| bit = flags :=
      calc (flags &&& ~~~bit) ||| bit = flags ||| bit := and_not_or_self flags bit
        _ = flags ||| (flags &&& bit) := by rw [set]
        _ = flags := by
          ext i
          simp only [BitVec.getElem_or, BitVec.getElem_and]
          cases flags[i] <;> rfl
    rw [kept] at same
    simpa using same

/-- A handler makes the assignment exactly when it finds an added bit clear. -/
theorem handled_eq_iff (a : Assignment) (s : Settings) : a.handled s = a.apply s ↔ a.Clear s := by
  by_cases adds : ∃ bit ∈ addedFlags, a = .flags bit bit
  · obtain ⟨bit, added, rfl⟩ := adds
    have clear : (Assignment.flags bit bit).Clear s ↔ s.params.flags &&& bit = 0 := by
      refine ⟨fun clear => clear bit added rfl, fun zero other _ same => ?_⟩
      cases same
      exact zero
    rw [clear, ← add_bit_iff added]
    simp only [Assignment.handled, added, and_self, if_true, Assignment.apply]
    exact ⟨fun same => congrArg (·.params.flags) same, fun same => by rw [same]⟩
  · refine iff_of_true ?_ fun bit added same => absurd ⟨bit, added, same⟩ adds
    cases a with
    | flags group bits =>
      refine if_neg fun add => adds ⟨group, add.1, ?_⟩
      rw [add.2]
    | _ => rfl

/-- After each option the settings are the fold of the assignments so far, and an option that is already in
effect changes nothing. -/
structure Assigns (s : Settings) (opts : List ValidOption) : Prop where
  folds : ∀ before after, opts = before ++ after → ∀ fuel ≥ (commandLine before).length,
    parseCmdline fuel (commandLine before) s = some (.done (assigned s before))
  inEffect : ∀ before o after, opts = before ++ o :: after →
    o.effect.apply (assigned s before) = assigned s before →
    ∀ fuel ≥ (commandLine (before ++ [o])).length,
      parseCmdline fuel (commandLine (before ++ [o])) s = parseCmdline fuel (commandLine before) s

/-- Every option that adds a bit finds it clear. -/
def AddsClear (s : Settings) (opts : List ValidOption) : Prop :=
  ∀ before o after, opts = before ++ o :: after → o.effect.Clear (assigned s before)

theorem handled_fold (s : Settings) (opts : List ValidOption) (clear : AddsClear s opts) :
    opts.foldl (fun s o => o.effect.handled s) s = assigned s opts := by
  induction opts generalizing s with
  | nil => rfl
  | cons o opts ih =>
    have first : o.effect.handled s = o.effect.apply s := (handled_eq_iff o.effect s).mpr (clear [] o opts rfl)
    simp only [assigned, List.foldl_cons, first]
    refine ih _ fun before o' after same => ?_
    exact clear (o :: before) o' after (congrArg (o :: ·) same)

theorem Assigns.of_clear {s : Settings} {opts : List ValidOption} (clear : AddsClear s opts) : Assigns s opts := by
  have folds : ∀ before after, opts = before ++ after → ∀ fuel ≥ (commandLine before).length,
      parseCmdline fuel (commandLine before) s = some (.done (assigned s before)) := by
    rintro before after rfl fuel enough
    rw [parseCmdline_options before s fuel enough, handled_fold s before]
    intro earlier o later same
    exact clear earlier o (later ++ after) (by rw [same, List.append_assoc, List.cons_append])
  refine ⟨folds, fun before o after same effect fuel enough => ?_⟩
  have longer : opts = (before ++ [o]) ++ after := by simpa using same
  have shorter : (commandLine before).length ≤ fuel := by
    simp only [commandLine, List.flatMap_append, List.length_append] at enough ⊢
    omega
  have unchanged : assigned s (before ++ [o]) = assigned s before := by
    simpa [assigned] using effect
  rw [folds _ _ longer fuel enough, folds _ _ same fuel shorter, unchanged]

/-- `parse_cmdline` ends for every list of valid options, and its result is the fold of their assignments,
option by option, if and only if autocts, autodcd, autorts and hdlcloop are given while their flag is clear:
they add the bit. -/
theorem options_assign_iff (s : Settings) (opts : List ValidOption) :
    (∃ r, ∀ fuel ≥ (commandLine opts).length, parseCmdline fuel (commandLine opts) s = some (.done r)) ∧
    (Assigns s opts ↔ AddsClear s opts) := by
  refine ⟨⟨_, fun fuel enough => parseCmdline_options opts s fuel enough⟩, fun assigns => ?_, .of_clear⟩
  intro before o after same
  have folds (opts : List ValidOption) (parsed : ∀ fuel ≥ (commandLine opts).length,
      parseCmdline fuel (commandLine opts) s = some (.done (assigned s opts))) :
      opts.foldl (fun s o => o.effect.handled s) s = assigned s opts := by
    have done := parsed _ le_rfl
    rw [parseCmdline_options opts s _ le_rfl] at done
    simpa using done
  have shorter := folds before (assigns.folds before (o :: after) same)
  have longer := folds (before ++ [o]) (assigns.folds _ after (by simpa using same))
  rw [← handled_eq_iff]
  simpa [assigned, shorter] using longer

/-- `autocts` is in effect. -/
def ctsInEffect : Settings where
  params := { defaultParams with flags := hdlcFlagAutoCts }
  idleMode := hdlcTxidleFlags

def autocts : ValidOption where
  name := "autocts"
  arg := none
  effect := .flags hdlcFlagAutoCts hdlcFlagAutoCts
  valid := ⟨.sets (.flags hdlcFlagAutoCts hdlcFlagAutoCts), rfl, rfl, rfl⟩

/-- Given again, `autocts` is switched off and `autodcd` on. -/
theorem options_assign_carried :
    parseCmdline 1 (commandLine [autocts]) ctsInEffect
      = some (.done { ctsInEffect with params := { defaultParams with flags := hdlcFlagAutoDcd } }) ∧
    ¬ Assigns ctsInEffect [autocts] := by
  refine ⟨rfl, fun assigns => ?_⟩
  have same : some (Parsed.done { ctsInEffect with params := { defaultParams with flags := hdlcFlagAutoDcd } }) =
      some (Parsed.done ctsInEffect) := assigns.inEffect [] autocts [] rfl rfl 1 (by decide)
  have settings := Parsed.done.inj (Option.some.inj same)
  exact absurd (congrArg (fun s => s.params.flags) settings) (by decide)

end Route56.R56util
