import Route56.Header
import Route56.Lib.Transition
import Mathlib.Data.Multiset.AddSub

namespace Route56

open Transition

/-- Where an opener is in `r56_open`: before the test of `netcount`; with the count raised;
about to call `startup`; about to call `block_til_ready`; in the loop of that, with its
`extra_count`; behind the loop, with that and whether there was no error; at `cleanup` with an
error, having raised the count or not. -/
inductive OpenPc
  | arbitrate
  | counted
  | starting
  | ready
  | waiting (extraCount : Bool)
  | leaving (extraCount ok : Bool)
  | failed (counted : Bool)
  deriving DecidableEq

/-- An opener; `hungUp` is `tty_hung_up_p`. -/
structure Opener where
  pc : OpenPc
  hungUp : Bool
  deriving DecidableEq

/-- An opener asleep in `block_til_ready`. -/
structure Sleeper where
  extraCount : Bool
  hungUp : Bool
  deriving DecidableEq

/-- The arbitration fields, the openers and the open files. The tty layer calls `r56_open`,
`r56_close` and `r56_hangup` with the lock of the tty, which only `schedule` in
`block_til_ready` releases: `running` is the opener that holds it. -/
structure PortUse where
  count : Int := 0
  netcount : Nat := 0
  initialized : Bool := false
  closing : Bool := false
  running : Option Opener := none
  asleep : Multiset Sleeper := 0
  opened : Nat := 0

/-- What an opener meets on its way: how `startup` ends, whether it does not block, carrier (or
`CLOCAL`), and a signal. -/
structure OpenEnv where
  startupOk : Bool
  nonblock : Bool
  carrier : Bool
  signal : Bool
  deriving DecidableEq

namespace PortUse

/-- The running opener goes on at `pc`. -/
def goto (s : PortUse) (o : Opener) (pc : OpenPc) : PortUse := { s with running := some { o with pc := pc } }

/-- `r56_open` returns 0. -/
def succeed (s : PortUse) : PortUse := { s with running := none, opened := s.opened + 1 }

/-- The next statements of `r56_open`, with `block_til_ready` in it. -/
def advance (s : PortUse) (o : Opener) (env : OpenEnv) : PortUse :=
  match o.pc with
  | .arbitrate =>
    if s.netcount ≠ 0 then s.goto o (.failed false)
    else { s with count := s.count + 1 }.goto o .counted
  | .counted => s.goto o (if s.count = 1 then .starting else .ready)
  | .starting =>
    if s.initialized ∨ env.startupOk then { s with initialized := true }.goto o .ready else s.goto o (.failed true)
  | .ready =>
    if env.nonblock then s.succeed
    else if o.hungUp then s.goto o (.waiting false)
    else { s with count := s.count - 1 }.goto o (.waiting true)
  | .waiting extraCount =>
    if o.hungUp ∨ ¬s.initialized then s.goto o (.leaving extraCount false)
    else if ¬s.closing ∧ env.carrier then s.goto o (.leaving extraCount true)
    else if env.signal then s.goto o (.leaving extraCount false)
    else { s with running := none, asleep := ⟨extraCount, o.hungUp⟩ ::ₘ s.asleep }
  | .leaving extraCount ok =>
    let s := { s with count := if extraCount then s.count + 1 else s.count }
    if ok then s.succeed else s.goto o (.failed true)
  | .failed _ => { s with count := if s.count ≠ 0 then s.count - 1 else s.count, running := none }

end PortUse

/-- What is known of `closeStart`, which stands for `tty_port_close_start` of the kernel: what it makes of `port.count`,
where `last` says that the tty has no other file. It takes the file that is closed off the count, and a count of zero
does not become less. -/
structure ClosesPort (closeStart : Int → Bool → Int) : Prop where
  lowers : ∀ count last, 1 ≤ count → (last = true → count = 1) → closeStart count last = count - 1
  zero : ∀ last, closeStart 0 last = 0

/-- What happens to the port. `close` is the beginning of `r56_close`, for a file that is open or
for one whose `r56_open` has `failed`; if it is the last one its `shutdown` and the end of
the closing follow. -/
inductive UseEvent
  | enter (hungUp : Bool)
  | advance (env : OpenEnv)
  | wake (sleeper : Sleeper)
  | close (failed last : Bool)
  | closeShutdown
  | closeEnd
  | hangup
  | hdlcdevOpen
  | hdlcdevStartup (ok : Bool)
  | hdlcdevShutdown
  | hdlcdevClose
  deriving DecidableEq

namespace PortUse

/-- The event can happen. -/
def enabled (s : PortUse) : UseEvent → Prop
  | .enter _ => s.running = none
  | .advance _ => s.running ≠ none
  | .wake sleeper => s.running = none ∧ sleeper ∈ s.asleep
  | .close failed last => s.running = none ∧ (failed = false → 1 ≤ s.opened) ∧
    (last = true → s.opened = (if failed then 0 else 1) ∧ s.asleep = 0)
  | .closeShutdown => s.closing = true
  | .closeEnd => s.closing = true
  | .hangup => s.running = none
  | .hdlcdevOpen => True
  | .hdlcdevStartup _ => s.netcount ≠ 0
  | .hdlcdevShutdown => s.netcount ≠ 0
  | .hdlcdevClose => s.netcount ≠ 0

/-- What the event makes of the port. -/
def next (closeStart : Int → Bool → Int) (s : PortUse) : UseEvent → PortUse
  | .enter hungUp => { s with running := some ⟨if hungUp ∨ s.closing then .failed false else .arbitrate, hungUp⟩ }
  | .advance env => match s.running with
    | some o => s.advance o env
    | none => s
  | .wake sleeper =>
    { s with running := some ⟨.waiting sleeper.extraCount, sleeper.hungUp⟩, asleep := s.asleep.erase sleeper }
  | .close failed last =>
    { s with
      count := closeStart s.count last
      opened := if failed then s.opened else s.opened - 1
      closing := s.closing || closeStart s.count last == 0 }
  | .closeShutdown => { s with initialized := false }
  | .closeEnd => { s with closing := false }
  | .hangup =>
    { s with
      initialized := false, count := 0, opened := 0
      asleep := s.asleep.map fun sleeper => { sleeper with hungUp := true } }
  | .hdlcdevOpen => if s.count ≠ 0 ∨ s.netcount ≠ 0 then s else { s with netcount := 1 }
  | .hdlcdevStartup ok => if s.initialized ∨ ok then { s with initialized := true } else { s with netcount := 0 }
  | .hdlcdevShutdown => { s with initialized := false }
  | .hdlcdevClose => { s with netcount := 0 }

end PortUse

def UseStep (closeStart : Int → Bool → Int) (s : PortUse) (e : UseEvent) (t : PortUse) : Prop :=
  s.enabled e ∧ t = s.next closeStart e

/-- The opener has passed the test of `netcount`. -/
def OpenPc.past : OpenPc → Bool
  | .arbitrate | .failed false => false
  | _ => true

/-- No tty opener has succeeded or is past the test while the network side has the port. -/
def Exclusive (s : PortUse) : Prop :=
  s.netcount = 1 → s.opened = 0 ∧ s.asleep = 0 ∧ ∀ o, s.running = some o → o.pc.past = false

/-- The opener has its count lowered. -/
def OpenPc.lowered : OpenPc → Bool
  | .waiting extraCount => extraCount
  | .leaving extraCount _ => extraCount
  | _ => false

/-- `hdlcdev_open` does not find the port free while an opener waits for carrier with the count lowered. -/
def KeepsOut (s : PortUse) (e : UseEvent) : Prop :=
  e = .hdlcdevOpen → s.count = 0 → s.netcount = 0 →
    (∀ sleeper ∈ s.asleep, sleeper.extraCount = false) ∧ ∀ o, s.running = some o → o.pc.lowered = false

/-- No call lowers a count that its own opener has not raised: `r56_open` is not entered with a
file already hung up, and `r56_close` not called for a file that `r56_open` refused. -/
def CountsOwn (s : PortUse) (e : UseEvent) : Prop :=
  s.count ≠ 0 → e ≠ .enter true ∧ ∀ last, e ≠ .close true last

/-- What the opener has added to the count. -/
def OpenPc.raised : OpenPc → Int
  | .arbitrate | .failed false => 0
  | .waiting extraCount => if extraCount then 0 else 1
  | .leaving extraCount _ => if extraCount then 0 else 1
  | _ => 1

/-- The opener will not get the port because it is being closed. -/
def OpenPc.refused : OpenPc → Bool
  | .failed _ | .waiting _ => true
  | .leaving _ ok => !ok
  | _ => false

def PortUse.raised (s : PortUse) : Int :=
  match s.running with
  | some o => o.pc.raised
  | none => 0

/-- The count is that of the open files and of the running opener, and while the network side has
the port nobody else does. -/
structure PortUse.Sound (s : PortUse) : Prop where
  count : s.count = s.opened + s.raised
  alone : s.netcount ≠ 0 → s.opened = 0 ∧ s.asleep = 0 ∧ ∀ o, s.running = some o → o.pc.past = false
  closing : s.closing = true → s.opened = 0 ∧ ∀ o, s.running = some o → o.pc.refused = true
  asleep : ∀ sleeper ∈ s.asleep, sleeper.extraCount = true
  failed : ∀ o, s.running = some o → o.pc = .failed false → s.count = 0
  plain : ∀ o, s.running = some o → o.pc = .waiting false → o.hungUp = true

theorem PortUse.Sound.exclusive {s : PortUse} (sound : s.Sound) : Exclusive s := fun one => sound.alone (by omega)

theorem OpenPc.raised_nonneg (pc : OpenPc) : 0 ≤ pc.raised := by
  unfold raised
  split
  · exact Int.le_refl 0
  · exact Int.le_refl 0
  · split <;> omega
  · split <;> omega
  · omega

theorem OpenPc.past_of_raised {pc : OpenPc} (none : pc.raised = 0) (kept : pc.lowered = false) : pc.past = false := by
  cases pc with
  | arbitrate => rfl
  | counted => exact absurd none (by decide)
  | starting => exact absurd none (by decide)
  | ready => exact absurd none (by decide)
  | waiting extraCount => cases kept; exact absurd none (by decide)
  | leaving extraCount ok => cases kept; exact absurd none (by simp [raised])
  | failed counted =>
    cases counted with
    | false => rfl
    | true => exact absurd none (by decide)

theorem OpenPc.lowered_of_past {pc : OpenPc} (before : pc.past = false) : pc.lowered = false := by
  cases pc with
  | waiting extraCount => exact absurd before (by simp [past])
  | leaving extraCount ok => exact absurd before (by simp [past])
  | _ => rfl

/-- `hdlcdev_open` takes a free port exactly when nobody waits with the count lowered. -/
theorem PortUse.Sound.hdlcdevOpen {s : PortUse} (sound : s.Sound) (closeStart : Int → Bool → Int) :
    Exclusive (s.next closeStart .hdlcdevOpen) ↔ KeepsOut s .hdlcdevOpen := by
  show Exclusive (if s.count ≠ 0 ∨ s.netcount ≠ 0 then s else { s with netcount := 1 }) ↔ _
  by_cases busy : s.count ≠ 0 ∨ s.netcount ≠ 0
  · rw [if_pos busy]
    refine iff_of_true sound.exclusive fun _ none down => ?_
    rcases busy with busy | busy
    · exact absurd none busy
    · exact absurd down busy
  · rw [if_neg busy]
    have none : s.count = 0 := by omega
    have down : s.netcount = 0 := by omega
    constructor
    · intro exclusive _ _ _
      obtain ⟨-, nobody, before⟩ := exclusive rfl
      have nobody : s.asleep = 0 := nobody
      refine ⟨fun sleeper member => ?_, fun o running => OpenPc.lowered_of_past (before o running)⟩
      rw [nobody] at member
      exact absurd member (Multiset.notMem_zero _)
    · intro keeps _
      obtain ⟨plain, kept⟩ := keeps rfl none down
      have counted := sound.count
      refine ⟨?_, ?_, fun o running => ?_⟩
      · show s.opened = 0
        have some : 0 ≤ s.raised := by
          unfold raised
          split
          · exact OpenPc.raised_nonneg _
          · exact Int.le_refl 0
        omega
      · refine Multiset.eq_zero_of_forall_notMem fun sleeper member => ?_
        exact absurd ((sound.asleep sleeper member).symm.trans (plain sleeper member)) (by decide)
      · have running : s.running = Option.some o := running
        have raised : s.raised = o.pc.raised := by
          unfold PortUse.raised
          rw [running]
        have positive := OpenPc.raised_nonneg o.pc
        exact OpenPc.past_of_raised (by omega) (kept o running)

/-- The invariant, with the running opener at `pc`. -/
structure PortUse.SoundAt (s : PortUse) (pc : OpenPc) (hungUp : Bool) : Prop where
  count : s.count = s.opened + pc.raised
  alone : s.netcount ≠ 0 → s.opened = 0 ∧ s.asleep = 0 ∧ pc.past = false
  closing : s.closing = true → s.opened = 0 ∧ pc.refused = true
  asleep : ∀ sleeper ∈ s.asleep, sleeper.extraCount = true
  failed : pc = .failed false → s.count = 0
  plain : pc = .waiting false → hungUp = true

theorem PortUse.Sound.running {s : PortUse} (sound : s.Sound) {pc : OpenPc} {hungUp : Bool}
    (running : s.running = some ⟨pc, hungUp⟩) : s.SoundAt pc hungUp := by
  refine ⟨?_, fun up => ⟨(sound.alone up).1, (sound.alone up).2.1, (sound.alone up).2.2 _ running⟩,
    fun shut => ⟨(sound.closing shut).1, (sound.closing shut).2 _ running⟩, sound.asleep, sound.failed _ running,
    sound.plain _ running⟩
  rw [sound.count, raised, running]

namespace PortUse.SoundAt

variable {s : PortUse} {pc : OpenPc} {hungUp : Bool}

/-- An opener past the test is there only while the network side has not the port. -/
theorem down (here : s.SoundAt pc hungUp) (past : pc.past = true) : s.netcount = 0 := by
  by_contra up
  exact absurd (past.symm.trans (here.alone up).2.2) (by decide)

/-- Until it is refused it is there only while the port is not being closed. -/
theorem open' (here : s.SoundAt pc hungUp) (meant : pc.refused = false) : ¬s.closing = true :=
  fun shut => absurd (meant.symm.trans (here.closing shut).2) (by decide)

/-- The opener goes on at `next` and has changed the count for it. -/
theorem goes (here : s.SoundAt pc hungUp) (next : OpenPc) (count : Int) (initialized : Bool)
    (raised : count = s.opened + next.raised) (past : s.netcount ≠ 0 → next.past = false)
    (refused : s.closing = true → next.refused = true) (fails : next = .failed false → count = 0)
    (waits : next = .waiting false → hungUp = true) :
    ({ s with count := count, initialized := initialized }.goto ⟨pc, hungUp⟩ next).Sound := by
  refine ⟨raised, fun up => ⟨(here.alone up).1, (here.alone up).2.1, ?_⟩, fun shut => ⟨(here.closing shut).1, ?_⟩,
    here.asleep, ?_, ?_⟩
  · rintro _ ⟨⟩
    exact past up
  · rintro _ ⟨⟩
    exact refused shut
  · rintro _ ⟨⟩ same
    exact fails same
  · rintro _ ⟨⟩ same
    exact waits same

/-- The opener is done, with the file opened or not. -/
theorem done (here : s.SoundAt pc hungUp) (count : Int) (opened : Nat) (same : count = opened)
    (up : s.netcount ≠ 0 → opened = 0) (shut : s.closing = true → opened = 0) :
    ({ s with count := count, running := none, opened := opened } : PortUse).Sound := by
  refine ⟨?_, fun net => ⟨up net, (here.alone net).2.1, by nofun⟩, fun closing => ⟨shut closing, by nofun⟩, here.asleep,
    by nofun, by nofun⟩
  show count = opened + 0
  omega

theorem arbitrate (here : s.SoundAt .arbitrate hungUp) (env : OpenEnv) : (s.advance ⟨.arbitrate, hungUp⟩ env).Sound := by
  have value : s.count = s.opened + 0 := here.count
  show PortUse.Sound (if s.netcount ≠ 0 then _ else _)
  split
  · rename_i up
    have none := (here.alone up).1
    exact here.goes (.failed false) s.count s.initialized value (fun _ => rfl) (fun _ => rfl) (fun _ => by omega)
      (by nofun)
  · rename_i free
    exact here.goes .counted (s.count + 1) s.initialized (show s.count + 1 = s.opened + 1 by omega)
      (fun up => absurd up free) (fun shut => absurd shut (here.open' rfl)) (by nofun) (by nofun)

theorem counted (here : s.SoundAt .counted hungUp) (env : OpenEnv) : (s.advance ⟨.counted, hungUp⟩ env).Sound := by
  have down := here.down rfl
  show PortUse.Sound (s.goto _ (if s.count = 1 then .starting else .ready))
  split
  · exact here.goes .starting s.count s.initialized here.count (fun up => absurd down up)
      (fun shut => absurd shut (here.open' rfl)) (by nofun) (by nofun)
  · exact here.goes .ready s.count s.initialized here.count (fun up => absurd down up)
      (fun shut => absurd shut (here.open' rfl)) (by nofun) (by nofun)

theorem starting (here : s.SoundAt .starting hungUp) (env : OpenEnv) : (s.advance ⟨.starting, hungUp⟩ env).Sound := by
  have down := here.down rfl
  show PortUse.Sound (if s.initialized ∨ env.startupOk then _ else _)
  split
  · exact here.goes .ready s.count true here.count (fun up => absurd down up)
      (fun shut => absurd shut (here.open' rfl)) (by nofun) (by nofun)
  · exact here.goes (.failed true) s.count s.initialized here.count (fun up => absurd down up) (fun _ => rfl) (by nofun)
      (by nofun)

theorem ready (here : s.SoundAt .ready hungUp) (env : OpenEnv) : (s.advance ⟨.ready, hungUp⟩ env).Sound := by
  have value : s.count = s.opened + 1 := here.count
  have down := here.down rfl
  show PortUse.Sound (if env.nonblock then _ else _)
  split
  · exact here.done s.count (s.opened + 1) (by omega) (fun up => absurd down up)
      (fun shut => absurd shut (here.open' rfl))
  dsimp only
  split
  · rename_i gone
    exact here.goes (.waiting false) s.count s.initialized here.count (fun up => absurd down up) (fun _ => rfl) (by nofun)
      (fun _ => gone)
  · exact here.goes (.waiting true) (s.count - 1) s.initialized (show s.count - 1 = s.opened + 0 by omega)
      (fun up => absurd down up) (fun _ => rfl) (by nofun) (by nofun)

theorem waiting {extraCount : Bool} (here : s.SoundAt (.waiting extraCount) hungUp) (env : OpenEnv) :
    (s.advance ⟨.waiting extraCount, hungUp⟩ env).Sound := by
  have down := here.down rfl
  show PortUse.Sound (if hungUp ∨ ¬s.initialized then _ else _)
  split
  · exact here.goes (.leaving extraCount false) s.count s.initialized here.count (fun up => absurd down up)
      (fun _ => rfl) (by nofun) (by nofun)
  rename_i stays
  split
  · rename_i carrier
    exact here.goes (.leaving extraCount true) s.count s.initialized here.count (fun up => absurd down up)
      (fun shut => absurd shut carrier.1) (by nofun) (by nofun)
  split
  · exact here.goes (.leaving extraCount false) s.count s.initialized here.count (fun up => absurd down up)
      (fun _ => rfl) (by nofun) (by nofun)
  · -- only an opener with its count lowered falls asleep
    have extra : extraCount = true := by
      cases extraCount with
      | true => rfl
      | false => exact absurd (here.plain rfl) fun gone => stays (.inl gone)
    subst extra
    have value : s.count = s.opened + 0 := here.count
    refine ⟨value, fun up => absurd down up, fun shut => ⟨(here.closing shut).1, by nofun⟩, ?_, by nofun, by nofun⟩
    intro sleeper member
    rcases Multiset.mem_cons.mp member with rfl | old
    · rfl
    · exact here.asleep sleeper old

theorem leaving {extraCount ok : Bool} (here : s.SoundAt (.leaving extraCount ok) hungUp) (env : OpenEnv) :
    (s.advance ⟨.leaving extraCount ok, hungUp⟩ env).Sound := by
  have down := here.down rfl
  have value : (if extraCount then s.count + 1 else s.count) = s.opened + 1 := by
    cases extraCount with
    | true =>
      have value : s.count = s.opened + 0 := here.count
      show s.count + 1 = s.opened + 1
      omega
    | false => exact here.count
  cases ok with
  | true =>
    exact here.done _ (s.opened + 1) value (fun up => absurd down up) (fun shut => absurd shut (here.open' rfl))
  | false =>
    exact here.goes (.failed true) _ s.initialized value (fun up => absurd down up) (fun _ => rfl) (by nofun) (by nofun)

theorem failed' {own : Bool} (here : s.SoundAt (.failed own) hungUp) (env : OpenEnv) :
    (s.advance ⟨.failed own, hungUp⟩ env).Sound := by
  have value : (if s.count ≠ 0 then s.count - 1 else s.count) = s.opened := by
    cases own with
    | true =>
      have value : s.count = s.opened + 1 := here.count
      rw [if_pos (by omega)]
      omega
    | false =>
      have value : s.count = s.opened + 0 := here.count
      have none := here.failed rfl
      rw [if_neg (not_not.mpr none)]
      omega
  exact here.done _ s.opened value (fun up => (here.alone up).1) (fun shut => (here.closing shut).1)

end PortUse.SoundAt

/-- Each statement group of `r56_open` keeps the invariant. -/
theorem PortUse.Sound.advance {s : PortUse} (sound : s.Sound) {o : Opener} (running : s.running = some o)
    (env : OpenEnv) : (s.advance o env).Sound := by
  obtain ⟨pc, hungUp⟩ := o
  have here := sound.running running
  cases pc with
  | arbitrate => exact here.arbitrate env
  | counted => exact here.counted env
  | starting => exact here.starting env
  | ready => exact here.ready env
  | waiting extraCount => exact here.waiting env
  | leaving extraCount ok => exact here.leaving env
  | failed own => exact here.failed' env

namespace PortUse.Sound

variable {s : PortUse}

/-- With the tty lock free the count is that of the open files. -/
theorem free (sound : s.Sound) (free : s.running = none) : s.count = s.opened := by
  have none : s.raised = 0 := by
    unfold raised
    rw [free]
  rw [sound.count, none]
  omega

/-- An opener comes in, and is refused at once or goes on to the test. -/
theorem enter (sound : s.Sound) {hungUp : Bool} (free : s.running = none) (own : CountsOwn s (.enter hungUp)) :
    PortUse.Sound { s with running := some ⟨if hungUp ∨ s.closing then .failed false else .arbitrate, hungUp⟩ } := by
  have value := sound.free free
  -- whoever is refused at once finds the count at zero
  have none (refused : hungUp = true ∨ s.closing = true) : s.count = 0 := by
    rcases refused with rfl | shut
    · by_contra some
      exact (own some).1 rfl
    · have opened := (sound.closing shut).1
      omega
  split
  · rename_i refused
    refine ⟨?_, fun up => ⟨(sound.alone up).1, (sound.alone up).2.1, ?_⟩, fun shut => ⟨(sound.closing shut).1, ?_⟩,
      sound.asleep, fun _ _ _ => none refused, ?_⟩
    · show s.count = s.opened + 0
      omega
    · rintro _ ⟨⟩
      rfl
    · rintro _ ⟨⟩
      rfl
    · rintro _ ⟨⟩ same
      exact absurd same (by nofun)
  · rename_i meant
    refine ⟨?_, fun up => ⟨(sound.alone up).1, (sound.alone up).2.1, ?_⟩,
      fun shut => absurd (.inr shut) meant, sound.asleep, ?_, ?_⟩
    · show s.count = s.opened + 0
      omega
    · rintro _ ⟨⟩
      rfl
    · rintro _ ⟨⟩ same
      exact absurd same (by nofun)
    · rintro _ ⟨⟩ same
      exact absurd same (by nofun)

/-- A sleeper goes on. -/
theorem wake (sound : s.Sound) {sleeper : Sleeper} (free : s.running = none) (member : sleeper ∈ s.asleep) :
    PortUse.Sound { s with
      running := some ⟨.waiting sleeper.extraCount, sleeper.hungUp⟩, asleep := s.asleep.erase sleeper } := by
  have value := sound.free free
  have extra := sound.asleep sleeper member
  have down : s.netcount = 0 := by
    by_contra up
    rw [(sound.alone up).2.1] at member
    exact Multiset.notMem_zero _ member
  refine ⟨?_, fun up => absurd down up, fun shut => ⟨(sound.closing shut).1, ?_⟩,
    fun other rest => sound.asleep other (Multiset.mem_of_mem_erase rest), ?_, ?_⟩
  · show s.count = s.opened + (if sleeper.extraCount then 0 else 1)
    rw [extra, if_pos rfl]
    omega
  · rintro _ ⟨⟩
    rfl
  · rintro _ ⟨⟩ same
    exact absurd same (by nofun)
  · rintro _ ⟨⟩ same
    rw [extra] at same
    exact absurd same (by simp)

/-- The count after a close that is not for the file of somebody else. -/
theorem closed_count {closeStart : Int → Bool → Int} (closes : ClosesPort closeStart) (sound : s.Sound)
    {failed last : Bool} (enabled : s.enabled (.close failed last)) (own : CountsOwn s (.close failed last)) :
    closeStart s.count last = (if failed then s.opened else s.opened - 1 : Nat) := by
  obtain ⟨free, some, alone⟩ := enabled
  have value := sound.free free
  cases failed with
  | false =>
    have some := some rfl
    have single (last : last = true) : s.count = 1 := by
      have one := (alone last).1
      rw [if_neg Bool.false_ne_true] at one
      omega
    rw [if_neg Bool.false_ne_true, closes.lowers _ _ (by omega) single]
    omega
  | true =>
    have none : s.count = 0 := by
      by_contra some
      exact (own some).2 last rfl
    rw [none, if_pos rfl, closes.zero]
    omega

theorem close {closeStart : Int → Bool → Int} (closes : ClosesPort closeStart) (sound : s.Sound) {failed last : Bool}
    (enabled : s.enabled (.close failed last)) (own : CountsOwn s (.close failed last)) :
    (s.next closeStart (.close failed last)).Sound := by
  have counted := sound.closed_count closes enabled own
  have free : s.running = none := enabled.1
  have value := sound.free free
  have nobody (o : Opener) : ¬s.running = some o := by
    rw [free]
    exact nofun
  have fewer : (if failed then s.opened else s.opened - 1) ≤ s.opened := by
    split <;> omega
  refine ⟨?_, fun up => ⟨?_, (sound.alone up).2.1, fun o running => absurd running (nobody o)⟩,
    fun shut => ⟨?_, fun o running => absurd running (nobody o)⟩, sound.asleep,
    fun o running => absurd running (nobody o), fun o running => absurd running (nobody o)⟩
  · show closeStart s.count last = _ + s.raised
    have none : s.raised = 0 := by
      unfold raised
      rw [free]
    rw [counted, none]
    exact (add_zero _).symm
  · have opened := (sound.alone up).1
    show (if failed then s.opened else s.opened - 1) = 0
    omega
  · show (if failed then s.opened else s.opened - 1) = 0
    have shut : (s.closing || closeStart s.count last == 0) = true := shut
    rcases Bool.or_eq_true _ _ |>.mp shut with before | zero
    · have opened := (sound.closing before).1
      omega
    · have zero : closeStart s.count last = 0 := eq_of_beq zero
      omega

theorem hangup (sound : s.Sound) (free : s.running = none) :
    PortUse.Sound { s with
      initialized := false, count := 0, opened := 0
      asleep := s.asleep.map fun sleeper => { sleeper with hungUp := true } } := by
  have nobody (o : Opener) : ¬s.running = some o := by
    rw [free]
    exact nofun
  refine ⟨?_, fun up => ⟨rfl, ?_, fun o running => absurd running (nobody o)⟩,
    fun _ => ⟨rfl, fun o running => absurd running (nobody o)⟩, ?_, fun _ _ _ => rfl, sound.plain⟩
  · show (0 : Int) = (0 : Nat) + s.raised
    have none : s.raised = 0 := by
      unfold raised
      rw [free]
    rw [none]
    rfl
  · show s.asleep.map _ = 0
    rw [(sound.alone up).2.1, Multiset.map_zero]
  · intro sleeper member
    obtain ⟨before, old, rfl⟩ := Multiset.mem_map.mp member
    exact sound.asleep before old

/-- Every step that meets the conditions keeps the invariant. -/
theorem step {closeStart : Int → Bool → Int} (closes : ClosesPort closeStart) {t : PortUse} {e : UseEvent}
    (sound : s.Sound) (step : UseStep closeStart s e t) (own : CountsOwn s e) (keeps : KeepsOut s e) : t.Sound := by
  obtain ⟨enabled, rfl⟩ := step
  cases e with
  | enter hungUp => exact sound.enter enabled own
  | advance env =>
    obtain ⟨o, running⟩ := Option.ne_none_iff_exists'.mp enabled
    have result : s.next closeStart (.advance env) = s.advance o env := by
      unfold next
      rw [running]
    rw [result]
    exact sound.advance running env
  | wake sleeper => exact sound.wake enabled.1 enabled.2
  | close failed last => exact sound.close closes enabled own
  | closeShutdown => exact ⟨sound.count, sound.alone, sound.closing, sound.asleep, sound.failed, sound.plain⟩
  | closeEnd => exact ⟨sound.count, sound.alone, by nofun, sound.asleep, sound.failed, sound.plain⟩
  | hangup => exact sound.hangup enabled
  | hdlcdevOpen =>
    have exclusive := (sound.hdlcdevOpen closeStart).mpr keeps
    have result : s.next closeStart .hdlcdevOpen =
        if s.count ≠ 0 ∨ s.netcount ≠ 0 then s else { s with netcount := 1 } := rfl
    rw [result] at exclusive ⊢
    split
    · exact sound
    · rename_i free
      rw [if_neg free] at exclusive
      exact ⟨sound.count, fun _ => exclusive rfl, sound.closing, sound.asleep, sound.failed, sound.plain⟩
  | hdlcdevStartup ok =>
    show PortUse.Sound (if s.initialized ∨ ok then _ else _)
    split
    · exact ⟨sound.count, sound.alone, sound.closing, sound.asleep, sound.failed, sound.plain⟩
    · exact ⟨sound.count, fun up => absurd rfl up, sound.closing, sound.asleep, sound.failed, sound.plain⟩
  | hdlcdevShutdown => exact ⟨sound.count, sound.alone, sound.closing, sound.asleep, sound.failed, sound.plain⟩
  | hdlcdevClose =>
    exact ⟨sound.count, fun up => absurd rfl up, sound.closing, sound.asleep, sound.failed, sound.plain⟩

end PortUse.Sound

/-- `tty_port_close_start` on the count. -/
def ttyPortCloseStart (count : Int) (last : Bool) : Int :=
  let count := if last ∧ count ≠ 1 then 1 else count
  if count - 1 < 0 then 0 else count - 1

theorem ttyPortCloseStart_closes : ClosesPort ttyPortCloseStart := by
  refine ⟨fun count last some single => ?_, fun last => by cases last <;> rfl⟩
  have same : (if last = true ∧ count ≠ 1 then 1 else count) = count := if_neg fun both => both.2 (single both.1)
  unfold ttyPortCloseStart
  rw [same]
  exact if_neg (by omega)

/-- The states that a list of events leads through. -/
def PortUse.states (s : PortUse) : List UseEvent → List (UseEvent × PortUse)
  | [] => []
  | e :: rest => (e, s.next ttyPortCloseStart e) :: (s.next ttyPortCloseStart e).states rest

theorem PortUse.states_run {s : PortUse} {events : List UseEvent}
    (enabled : Run (fun s e _ => s.enabled e) s (s.states events)) :
    Run (UseStep ttyPortCloseStart) s (s.states events) := by
  induction events generalizing s with
  | nil => trivial
  | cons e rest ih => exact ⟨⟨enabled.1, rfl⟩, ih enabled.2⟩

namespace PortUse

instance decidableRunning (s : PortUse) (p : Opener → Prop) [DecidablePred p] :
    Decidable (∀ o, s.running = some o → p o) :=
  inferInstanceAs (Decidable (∀ o ∈ s.running, p o))

instance decidableEnabled (s : PortUse) : DecidablePred s.enabled
  | .enter _ => inferInstanceAs (Decidable (s.running = none))
  | .advance _ => inferInstanceAs (Decidable (s.running ≠ none))
  | .wake sleeper => inferInstanceAs (Decidable (s.running = none ∧ sleeper ∈ s.asleep))
  | .close failed last => inferInstanceAs (Decidable (s.running = none ∧ (failed = false → 1 ≤ s.opened) ∧
    (last = true → s.opened = (if failed then 0 else 1) ∧ s.asleep = 0)))
  | .closeShutdown => inferInstanceAs (Decidable (s.closing = true))
  | .closeEnd => inferInstanceAs (Decidable (s.closing = true))
  | .hangup => inferInstanceAs (Decidable (s.running = none))
  | .hdlcdevOpen => inferInstanceAs (Decidable True)
  | .hdlcdevStartup _ => inferInstanceAs (Decidable (s.netcount ≠ 0))
  | .hdlcdevShutdown => inferInstanceAs (Decidable (s.netcount ≠ 0))
  | .hdlcdevClose => inferInstanceAs (Decidable (s.netcount ≠ 0))

instance decidableExclusive (s : PortUse) : Decidable (Exclusive s) :=
  inferInstanceAs (Decidable (s.netcount = 1 → s.opened = 0 ∧ s.asleep = 0 ∧ ∀ o, s.running = some o → o.pc.past = false))

instance decidableKeepsOut (s : PortUse) (e : UseEvent) : Decidable (KeepsOut s e) :=
  inferInstanceAs (Decidable (e = .hdlcdevOpen → s.count = 0 → s.netcount = 0 →
    (∀ sleeper ∈ s.asleep, sleeper.extraCount = false) ∧ ∀ o, s.running = some o → o.pc.lowered = false))

instance decidableCountsOwn (s : PortUse) (e : UseEvent) : Decidable (CountsOwn s e) :=
  inferInstanceAs (Decidable (s.count ≠ 0 → e ≠ .enter true ∧ ∀ last, e ≠ .close true last))

end PortUse

/-- `r56_open` without blocking, with a successful `startup`. -/
def openNonblock : List UseEvent :=
  .enter false :: List.replicate 4 (.advance { startupOk := true, nonblock := true, carrier := false, signal := false })

/-- The network side has the port and an opener is refused; when it has closed it a file is opened, a second opener
waits for carrier, and the network side is refused. -/
def bothSides : List UseEvent :=
  let wait := UseEvent.advance { startupOk := true, nonblock := false, carrier := false, signal := false }
  [.hdlcdevOpen, .hdlcdevStartup true, .enter false, wait, wait, .hdlcdevShutdown, .hdlcdevClose] ++ openNonblock ++
    [.enter false, wait, wait, wait, wait, .hdlcdevOpen]

/-- An opener that waits for carrier, and `hdlcdev_open` meanwhile. -/
def carrierWait : List UseEvent :=
  .enter false :: List.replicate 5 (.advance { startupOk := true, nonblock := false, carrier := false, signal := false })
    ++ [.hdlcdevOpen]

/-- A file is open; a second opener is stopped by a signal while it waits for carrier, and the close of its file takes
the count of the first. -/
def failedClose : List UseEvent :=
  openNonblock ++ .enter false ::
    List.replicate 6 (.advance { startupOk := true, nonblock := false, carrier := false, signal := true }) ++
    [.close true false, .hdlcdevOpen]

/-- Nobody waits with the count lowered here: the files' own counts are what it takes besides. -/
theorem port_shared_closed :
    Run (UseStep ttyPortCloseStart) {} (PortUse.states {} failedClose) ∧
      Run (fun s e _ => KeepsOut s e) {} (PortUse.states {} failedClose) ∧
      (last {} (PortUse.states {} failedClose)).opened = 1 ∧ (last {} (PortUse.states {} failedClose)).netcount = 1 ∧
      ¬Exclusive (last {} (PortUse.states {} failedClose)) :=
  ⟨PortUse.states_run (by decide +kernel), by decide +kernel, by decide +kernel, by decide +kernel, by decide +kernel⟩

end Route56
