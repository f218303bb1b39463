import Route56.Xmit
import Route56.Lib.Transition

namespace Route56

open Transition

/-- What was accepted: the characters taken by `r56_put_char` since `xmit_cnt` was last
zeroed, and the buffers of the `r56_write` calls that returned their full count. -/
structure Accepted where
  puts : List U8 := []
  writes : List (List U8) := []
  deriving DecidableEq

def Accepted.after (accepted : Accepted) (info : R56Struct) : Op → Accepted
  | .putChar ch => if (r56PutChar info ch).2 then { accepted with puts := accepted.puts ++ [ch] } else accepted
  | .write buf count =>
    if (r56Write info buf count).2 = count then
      { accepted with writes := accepted.writes ++ [Memory.read buf 0 count] }
    else accepted
  | op => if zeroesXmit info op then { accepted with puts := [] } else accepted

/-- A step of a port that stays in its frame oriented mode. -/
structure WireStep (s : R56Struct × Accepted) (op : Op) (t : R56Struct × Accepted) : Prop where
  step : Step s.1 op t.1
  free : ¬setsXmit s.1 op
  accepted : t.2 = s.2.after s.1 op

/-- The step loads what was accepted: a frame out of `xmit_buf` is the characters put there,
any other frame is the buffer of a write. -/
def LoadsAccepted (s : R56Struct × Accepted) (t : R56Struct × Accepted) : Prop :=
  ∃ loads, t.1.history.loads = s.1.history.loads ++ loads ∧
    ∀ load ∈ loads, if load.1 = .xmitBuf then load.2 = s.2.puts ∧ load.2.length ≤ serialXmitSize
      else load.2 ∈ t.2.writes

/-- Where `xmit_buf` is loaded `xmit_cnt` counts the characters put there, which have not wrapped. -/
def CountsPuts (s : R56Struct × Accepted) (op : Op) : Prop :=
  loadsXmitBuf s.1 op → s.1.xmitCnt = s.2.puts.length ∧ s.1.xmitCnt ≤ serialXmitSize

/-- The characters accepted stand at the start of `xmit_buf` as long as they fit, and the
frames held back are accepted. -/
structure Collected (x : Xmit) (accepted : Accepted) : Prop where
  sync : x.mode = r56ModeHdlc ∨ x.mode = r56ModeRaw
  queued : x.Queued
  head : x.head = accepted.puts.length % serialXmitSize
  buf : accepted.puts.length ≤ serialXmitSize → Memory.read x.buf 0 accepted.puts.length = accepted.puts
  held : ∀ frame ∈ x.held, frame ∈ accepted.writes

theorem Collected.collect {x : Xmit} {accepted : Accepted} (inv : Collected x accepted) (ch : U8) :
    Collected (x.collect ch) { accepted with puts := accepted.puts ++ [ch] } := by
  have length : (accepted.puts ++ [ch]).length = accepted.puts.length + 1 := List.length_append
  refine ⟨inv.sync, ⟨inv.queued.le, inv.queued.get, inv.queued.put⟩, ?_, ?_, inv.held⟩
  · rw [length, ← Nat.mod_add_mod, ← inv.head]
    rfl
  · intro fits
    rw [length] at fits ⊢
    have head : x.head = accepted.puts.length := inv.head.trans (Nat.mod_eq_of_lt fits)
    have stored := Memory.read_store x.buf accepted.puts.length ch
    rw [inv.buf (Nat.le_of_succ_le fits), ← head] at stored
    rw [← head]
    exact stored

theorem Collected.zeroed {x : Xmit} {accepted : Accepted} (inv : Collected x accepted) :
    Collected x.zeroed { accepted with puts := [] } :=
  ⟨inv.sync, ⟨inv.queued.le, inv.queued.get, inv.queued.put⟩, rfl, fun _ => rfl, inv.held⟩

theorem Collected.load {x : Xmit} {accepted : Accepted} (inv : Collected x accepted) (source : TxSource)
    (frame : List U8) : Collected (x.load source frame) accepted :=
  ⟨inv.sync, ⟨inv.queued.le, inv.queued.get, inv.queued.put⟩, inv.head, inv.buf, inv.held⟩

theorem Collected.count {x : Xmit} {accepted : Accepted} (inv : Collected x accepted) (cnt : Nat) :
    Collected { x with cnt := cnt } accepted :=
  ⟨inv.sync, ⟨inv.queued.le, inv.queued.get, inv.queued.put⟩, inv.head, inv.buf, inv.held⟩

theorem Collected.accept {x : Xmit} {accepted : Accepted} (inv : Collected x accepted) (frame : List U8) :
    Collected x { accepted with writes := accepted.writes ++ [frame] } :=
  ⟨inv.sync, inv.queued, inv.head, inv.buf, fun other member => List.mem_append_left _ (inv.held other member)⟩

theorem Collected.hold {x : Xmit} {accepted : Accepted} (inv : Collected x accepted)
    (room : x.holding < x.holders) {buffer : Nat → U8} {size : Nat}
    (taken : Memory.read buffer 0 size ∈ accepted.writes) : Collected (x.hold buffer size) accepted := by
  obtain ⟨queued, held⟩ := inv.queued.hold room buffer size
  refine ⟨inv.sync, queued, inv.head, inv.buf, fun frame member => ?_⟩
  rw [held] at member
  rcases List.mem_append.mp member with old | new
  · exact inv.held frame old
  · rw [List.mem_singleton.mp new]
    exact taken

theorem Collected.unhold {x : Xmit} {accepted : Accepted} (inv : Collected x accepted) (waiting : x.holding ≠ 0) :
    Collected x.unhold accepted ∧ (x.buffers x.get).frame ∈ accepted.writes := by
  obtain ⟨queued, held⟩ := inv.queued.unhold waiting
  have member := inv.held
  rw [held] at member
  exact ⟨⟨inv.sync, queued, inv.head, inv.buf, fun frame later => member frame (List.mem_cons_of_mem _ later)⟩,
    member _ List.mem_cons_self⟩

/-- An operation that takes no character and zeroes nothing can only accept a write. -/
theorem Collected.after {x : Xmit} {accepted : Accepted} (inv : Collected x accepted) {info : R56Struct} {op : Op}
    (kept : zeroesXmit info op = false) (refused : ∀ ch, op = .putChar ch → (r56PutChar info ch).2 = false) :
    Collected x (accepted.after info op) := by
  unfold Accepted.after
  split
  · rename_i ch
    rw [if_neg (by rw [refused ch rfl]; decide)]
    exact inv
  · split
    · exact inv.accept _
    · exact inv
  · rw [if_neg (by rw [kept]; decide)]
    exact inv

theorem after_write {accepted : Accepted} {info : R56Struct} {buf : Nat → U8} {count : Nat}
    (took : (r56Write info buf count).2 = count) :
    accepted.after info (.write buf count) =
      { accepted with writes := accepted.writes ++ [Memory.read buf 0 count] } := if_pos took

theorem after_zeroes {accepted : Accepted} {info : R56Struct} {op : Op} (zeroes : zeroesXmit info op = true) :
    accepted.after info op = { accepted with puts := [] } := by
  unfold Accepted.after
  split
  · exact absurd zeroes Bool.false_ne_true
  · exact absurd zeroes Bool.false_ne_true
  · exact if_pos zeroes

theorem loadsAccepted_nil {s t : R56Struct × Accepted} (same : t.1.history.loads = s.1.history.loads) :
    LoadsAccepted s t := ⟨[], by rw [same, List.append_nil], nofun⟩

theorem loadsAccepted_singleton {s t : R56Struct × Accepted} {source : TxSource} {frame : List U8}
    (loaded : t.1.history.loads = s.1.history.loads ++ [(source, frame)]) :
    LoadsAccepted s t ↔
      if source = .xmitBuf then frame = s.2.puts ∧ frame.length ≤ serialXmitSize else frame ∈ t.2.writes := by
  constructor
  · rintro ⟨loads, appended, accepted⟩
    have new : loads = [(source, frame)] := List.append_cancel_left (appended.symm.trans loaded)
    exact accepted (source, frame) (by rw [new]; exact List.mem_singleton_self _)
  · intro accepted
    refine ⟨[(source, frame)], loaded, fun load member => ?_⟩
    rw [List.mem_singleton.mp member]
    exact accepted

/-- A change without a load of `xmit_buf` keeps the invariant and loads accepted writes. -/
theorem change_collected {s t : R56Struct × Accepted} {op : Op} {x : Xmit} (inv : Collected s.1.xmit s.2)
    (changed : XmitChange s.1 op x) (after : t.1.xmit = x) (accepted : t.2 = s.2.after s.1 op) :
    Collected t.1.xmit t.2 ∧ LoadsAccepted s t := by
  have loads : t.1.history.loads = x.loads := congrArg Xmit.loads after
  rw [after, accepted]
  cases changed with
  | none kept refused => exact ⟨inv.after kept refused, loadsAccepted_nil loads⟩
  | @collect ch took room =>
    have puts : s.2.after s.1 (.putChar ch) = { s.2 with puts := s.2.puts ++ [ch] } := if_pos took
    rw [puts]
    exact ⟨inv.collect ch, loadsAccepted_nil loads⟩
  | @accept buf count took =>
    rw [after_write took] at accepted ⊢
    refine ⟨((inv.count count).load _ _).accept _, (loadsAccepted_singleton loads).mpr ?_⟩
    rw [if_neg (by decide), accepted]
    exact List.mem_append_right _ (List.mem_singleton_self _)
  | @hold buf count took room =>
    rw [after_write took]
    refine ⟨(inv.accept _).hold room (List.mem_append_right _ (List.mem_singleton_self _)), loadsAccepted_nil loads⟩
  | @holdUnhold buf count took room =>
    rw [after_write took] at accepted ⊢
    have held := (inv.accept (Memory.read buf 0 count)).hold room
      (List.mem_append_right _ (List.mem_singleton_self _))
    obtain ⟨kept, taken⟩ := held.unhold (Nat.succ_ne_zero _)
    refine ⟨kept, (loadsAccepted_singleton loads).mpr ?_⟩
    rw [if_neg (by decide), accepted]
    exact taken
  | @unhold report kept waiting =>
    have same : s.2.after s.1 (.interrupt report) = s.2 := if_neg (by rw [kept]; decide)
    rw [same] at accepted ⊢
    obtain ⟨still, taken⟩ := inv.unhold waiting
    refine ⟨still, (loadsAccepted_singleton loads).mpr ?_⟩
    rw [if_neg (by decide), accepted]
    exact taken
  | zero zeroes =>
    rw [after_zeroes zeroes]
    exact ⟨inv.zeroed, loadsAccepted_nil loads⟩

/-- Step lemma: the step loads what was accepted exactly when it counts the characters put. -/
theorem wireStep_collected {s t : R56Struct × Accepted} {op : Op} (inv : Collected s.1.xmit s.2)
    (step : WireStep s op t) : Collected t.1.xmit t.2 ∧ (LoadsAccepted s t ↔ CountsPuts s op) := by
  rcases exec_xmit inv.sync step.free step.step.1 with ⟨loads, loaded⟩ | ⟨quiet, changed⟩
  · have kept : zeroesXmit s.1 op = false := by
      cases op with
      | write buf count => rfl
      | flushChars => rfl
      | _ => exact absurd loads id
    have refused : ∀ ch, op = .putChar ch → (r56PutChar s.1 ch).2 = false := by
      rintro ch rfl
      exact absurd loads id
    have appended : t.1.history.loads =
        s.1.history.loads ++ [(.xmitBuf, Memory.read s.1.xmitBuf 0 s.1.xmitCnt)] := congrArg Xmit.loads loaded
    constructor
    · rw [loaded, step.accepted]
      exact (inv.load _ _).after kept refused
    · rw [loadsAccepted_singleton appended, if_pos rfl, Memory.length_read]
      constructor
      · rintro ⟨puts, fits⟩ -
        refine ⟨?_, fits⟩
        have length := congrArg List.length puts
        rwa [Memory.length_read] at length
      · intro counts
        obtain ⟨count, fits⟩ := counts loads
        refine ⟨?_, fits⟩
        rw [count] at fits ⊢
        exact inv.buf fits
  · obtain ⟨collected, accepted⟩ := change_collected inv changed rfl step.accepted
    exact ⟨collected, iff_of_true accepted fun loads => absurd loads quiet⟩

def WireCollected (s : R56Struct × Accepted) : Prop := Collected s.1.xmit s.2

/-- From an open port with nothing to send, in frame oriented mode: every frame loaded in a run
is one that was accepted exactly when every load of `xmit_buf` counts the characters put there. -/
theorem loads_accepted_iff {info : R56Struct} {run : List (Op × (R56Struct × Accepted))}
    (sync : info.synchronous) (empty : info.xmitCnt = 0 ∧ info.xmitHead = 0) (none : info.txHoldingCount = 0)
    (start : info.getTxHoldingIndex = 0 ∧ info.putTxHoldingIndex = 0) (steps : Run WireStep (info, {}) run) :
    Run (fun s _ t => LoadsAccepted s t) (info, {}) run ↔ Run (fun s op _ => CountsPuts s op) (info, {}) run := by
  have holding : info.xmit.holding = 0 := none
  have get : info.xmit.get = 0 := start.1
  have put : info.xmit.put = 0 := start.2
  have queued : info.xmit.Queued := by
    refine ⟨by omega, fun some => by omega, fun some => ?_⟩
    rw [put, get, holding]
    exact (CircularBuffer.cell_zero some).symm
  have collected : Collected info.xmit {} := by
    refine ⟨sync, queued, empty.2, fun _ => rfl, fun frame member => ?_⟩
    unfold Xmit.held at member
    rw [holding] at member
    exact absurd member List.not_mem_nil
  have preserved : ∀ s op t, WireCollected s → WireStep s op t → WireCollected t :=
    fun s op t inv step => (wireStep_collected inv step).1
  exact Run.iff_of_invariant preserved (fun s op t inv step => (wireStep_collected inv step).2) steps collected

/-- Two characters are collected and sent, and then a write. -/
theorem loads_accepted_iff_sent :
    let first := (r56PutChar openedDevice 0x41).1
    let second := (r56PutChar first 0x42).1
    let flushed := r56FlushChars second
    let idle := r56Interrupt (flushed.reporting frameSent)
    let sent := (r56Write idle (fun _ => 0x7e) 1).1
    let run : List (Op × (R56Struct × Accepted)) :=
      [(.putChar 0x41, (first, { puts := [0x41] })), (.putChar 0x42, (second, { puts := [0x41, 0x42] })),
        (.flushChars, (flushed, { puts := [0x41, 0x42] })), (.interrupt frameSent, (idle, {})),
        (.write (fun _ => 0x7e) 1, (sent, { writes := [[0x7e]] }))]
    sent.history.loads = [(.xmitBuf, [0x41, 0x42]), (.write, [0x7e])] ∧
      Run (fun s _ t => LoadsAccepted s t) (openedDevice, {}) run := by
  intro first second flushed idle sent run
  have other : (flushed.reporting frameSent).uscVector ≠ 3 := by decide
  have steps : Run WireStep (openedDevice, {}) run :=
    ⟨⟨⟨rfl, nofun⟩, id, by decide⟩, ⟨⟨rfl, nofun⟩, id, by decide⟩, ⟨⟨rfl, nofun⟩, id, by decide⟩,
      ⟨⟨rfl, fun _ => by decide⟩, other, by decide⟩, ⟨⟨rfl, nofun⟩, id, by decide⟩, trivial⟩
  have counts : Run (fun s op _ => CountsPuts s op) (openedDevice, {}) run :=
    ⟨fun _ => by decide, fun _ => by decide, fun _ => by decide, fun _ => by decide, fun _ => by decide, trivial⟩
  exact ⟨by decide, (loads_accepted_iff (by decide) (by decide) (by decide) (by decide) steps).mpr counts⟩

/-- Two writes while the tty is stopped: the second returns 0 and loads a byte of `xmit_buf`
that nobody put there. -/
theorem stopped_write_loads_xmitBuf :
    let stopped := { openedDevice with tty := { openedDevice.tty with stopped := true, hwStopped := false } }
    let first := (r56Write stopped (fun _ => 0x7e) 1).1
    let second := (r56Write first (fun _ => 0x7f) 1).1
    let run : List (Op × (R56Struct × Accepted)) :=
      [(.flow true false, (stopped, {})), (.write (fun _ => 0x7e) 1, (first, { writes := [[0x7e]] })),
        (.write (fun _ => 0x7f) 1, (second, { writes := [[0x7e]] }))]
    openedDevice.synchronous ∧ openedDevice.xmitCnt = 0 ∧ openedDevice.xmitHead = 0 ∧
      Run WireStep (openedDevice, {}) run ∧ ¬Run (fun s _ t => LoadsAccepted s t) (openedDevice, {}) run := by
  intro stopped first second run
  refine ⟨by decide, by decide, by decide,
    ⟨⟨⟨rfl, nofun⟩, id, by decide⟩, ⟨⟨rfl, nofun⟩, id, by decide⟩, ⟨⟨rfl, nofun⟩, id, by decide⟩, trivial⟩,
    fun accepted => ?_⟩
  have loaded : second.history.loads = first.history.loads ++ [(.xmitBuf, [0])] := by decide
  have put := (loadsAccepted_singleton (s := (first, { writes := [[0x7e]] }))
    (t := (second, { writes := [[0x7e]] })) loaded).mp accepted.2.2.1
  exact absurd put.1 (by decide)

end Route56
