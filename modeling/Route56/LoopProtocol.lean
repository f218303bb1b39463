import Route56.LoopAccounts
import Route56.LoopResponses

namespace Route56

open LinkedList Transition

/-- A primary and its secondaries. -/
structure Loop (ι : Type) where
  primary : Primary
  secondary : ι → Secondary

inductive LoopInput (ι : Type) where
  | primary (e : PrimaryInput)
  | secondary (i : ι) (e : SecondaryInput)

namespace Loop

variable {ι : Type}

/-- A frame that some station has sent. -/
def OnLoop (l : Loop ι) (f : LoopFrame) : Prop :=
  f ∈ Primary.sent l.primary.trace ∨ ∃ i, f ∈ Secondary.sent (l.secondary i).trace

/-- What a station receives was sent, and its filter lets it pass; the primary's filter is open. It may come late, out
of order, again or never. -/
def Heard (l : Loop ι) : LoopInput ι → Prop
  | .primary (.frame r _ _ _ _) => ∃ f, l.OnLoop f ∧ f.ArrivesAs r
  | .secondary i (.frame r _ _) =>
    ∃ f, l.OnLoop f ∧ f.ArrivesAs r ∧ (f.addr = (l.secondary i).addrFilter ∨ f.addr = broadcastAddr)
  | _ => True

variable [DecidableEq ι]

def set (l : Loop ι) (i : ι) (s : Secondary) : Loop ι := { l with secondary := Function.update l.secondary i s }

inductive Step : Loop ι → LoopInput ι → Loop ι → Prop
  | primary {l : Loop ι} {e : PrimaryInput} {p : Primary} (heard : l.Heard (.primary e)) (step : l.primary.Step e p) :
    Step l (.primary e) { l with primary := p }
  | secondary {l : Loop ι} {i : ι} {e : SecondaryInput} {s : Secondary} (heard : l.Heard (.secondary i e))
    (step : (l.secondary i).Step e s) :
    Step l (.secondary i e) (l.set i s)

/-- A request that the station with this address has sent. -/
def Asked (l : Loop ι) (addr : BitVec 8) (t : AppTransaction) : Prop :=
  ∃ i, (l.secondary i).addrFilter = addr ∧ t ∈ Secondary.requested (l.secondary i).trace

/-- A station that asked to be initialized. -/
def Joined (l : Loop ι) (addr : BitVec 8) : Prop :=
  ∃ i, (⟨addr, simControl, .absent⟩ : LoopFrame) ∈ Secondary.sent (l.secondary i).trace

/-- What holds of the loop at any time: the books of every station are right, the addresses tell the stations apart,
and what a secondary has completed is a response that the primary gave to a request of this secondary. -/
structure Inv (addr : ι → BitVec 8) (l : Loop ι) : Prop where
  primary : Primary.Books l.Asked l.Joined l.primary
  secondary : ∀ i, ∃ queued pending lost, Secondary.Accounts (l.secondary i) queued pending lost
  addrs : ∀ i, (l.secondary i).addrFilter = addr i
  completed : ∀ i, ∀ t ∈ Secondary.completed (l.secondary i).trace,
    ∃ u ∈ Primary.responded l.primary.trace, t = { u with completionTimeStamp := t.completionTimeStamp } ∧
      u.bare ∈ Secondary.requested (l.secondary i).trace

section Arrivals

variable {l : Loop ι} {addr : ι → BitVec 8} {f : LoopFrame} {r : ReceivedFrame}

omit [DecidableEq ι] in
/-- The frames on the loop, by the station that sent them. -/
theorem Inv.origin (inv : Inv addr l) (sent : l.OnLoop f) :
    (∃ i, f.addr = addr i ∧ f.info = .absent ∧ ¬ isInformation f.ctrl ∧ f ∈ Secondary.sent (l.secondary i).trace) ∨
      (∃ i t, f.addr = addr i ∧ f.info = .transaction t ∧ t.bare = t ∧
        t ∈ Secondary.requested (l.secondary i).trace) ∨
      Primary.OwnFrame l.Asked l.Joined f ∧ ∀ t, f.info = .transaction t → t ∈ Primary.responded l.primary.trace := by
  rcases sent with byPrimary | ⟨i, bySecondary⟩
  · obtain ⟨waiting, requests⟩ := inv.primary.requests
    refine .inr (.inr ⟨requests.frames f byPrimary, fun t carries => ?_⟩)
    rw [← requests.carried]
    exact List.mem_filterMap.mpr ⟨f, byPrimary, by rw [LoopFrame.transaction?, carries]⟩
  · obtain ⟨queued, pending, lost, accounts⟩ := inv.secondary i
    obtain ⟨same, ⟨t, carries, -⟩ | ⟨absent, kind⟩⟩ := accounts.frames f bySecondary
    · have listed : t ∈ Secondary.requested (l.secondary i).trace := by
        rw [← accounts.carried]
        exact List.mem_filterMap.mpr ⟨f, bySecondary, by rw [LoopFrame.transaction?, carries]⟩
      have created := accounts.order.subset (List.mem_append_left _ listed)
      exact .inr (.inl ⟨i, t, same.trans (inv.addrs i), carries, (accounts.own t created).2, listed⟩)
    · exact .inl ⟨i, same.trans (inv.addrs i), absent, kind, bySecondary⟩

omit [DecidableEq ι] in
/-- What reaches the primary is proper. -/
theorem Inv.proper (inv : Inv addr l) {e : PrimaryInput} (heard : l.Heard (.primary e)) :
    Primary.Proper l.Asked l.Joined e := by
  cases e with
  | frame r now memory copy accepted =>
    obtain ⟨f, sent, arrives⟩ := heard
    intro foreign
    rcases inv.origin sent with ⟨i, same, absent, kind, by'⟩ | ⟨i, t, same, carries, plain, listed⟩ | ⟨own, -⟩
    · refine ⟨fun information => absurd (arrives.ctrl ▸ information) kind, fun _ sim => ⟨i, ?_⟩⟩
      have shape : f = ⟨r.addr, simControl, .absent⟩ := by
        rw [← sim, arrives.addr, arrives.ctrl, ← absent]
      exact shape ▸ by'
    · refine ⟨fun _ _ => ⟨arrives.whole carries, i, ?_, ?_⟩, fun short => ?_⟩
      · rw [inv.addrs i, arrives.addr, same]
      · rw [arrives.info t carries, plain]
        exact listed
      · rw [arrives.size, LoopFrame.size, carries] at short
        exact absurd short (show 2 + sizeofTransaction ≠ 2 by decide)
    · cases own with
      | broadcast addr' => exact absurd (arrives.addr.trans addr') foreign
      | @simResponse station member =>
        refine ⟨fun information => ?_, fun short => ?_⟩
        · rw [arrives.ctrl] at information
          exact absurd information (show ¬ isInformation simControl by decide)
        · rw [arrives.size] at short
          exact absurd short (show (3 : Nat) ≠ 2 by decide)
      | @response g t carries kind response good =>
        refine ⟨fun _ request => ?_, fun short => ?_⟩
        · rw [arrives.info t carries, response] at request
          exact Bool.noConfusion request
        · rw [arrives.size, LoopFrame.size, carries] at short
          exact absurd short (show 2 + sizeofTransaction ≠ 2 by decide)
  | _ => trivial

omit [DecidableEq ι] in
/-- A response that reaches a secondary answers a request of its own. -/
theorem Inv.response (inv : Inv addr l) (distinct : Function.Injective addr) (noBroadcast : ∀ i, addr i ≠ broadcastAddr)
    {i : ι} (sent : l.OnLoop f) (arrives : f.ArrivesAs r)
    (filtered : f.addr = (l.secondary i).addrFilter ∨ f.addr = broadcastAddr) (information : isInformation r.ctrl)
    (response : r.info.request = false) :
    r.info ∈ Primary.responded l.primary.trace ∧ r.info.bare ∈ Secondary.requested (l.secondary i).trace := by
  rcases inv.origin sent with ⟨j, -, -, kind, -⟩ | ⟨j, t, -, carries, plain, -⟩ | ⟨own, given'⟩
  · exact absurd (arrives.ctrl ▸ information) kind
  · have request : t.request = true := by rw [← plain]; rfl
    rw [arrives.info t carries, request] at response
    exact Bool.noConfusion response
  · cases own with
    | broadcast addr' info kind => exact absurd (arrives.ctrl ▸ information) kind
    | @simResponse station member =>
      rw [arrives.ctrl] at information
      exact absurd information (show ¬ isInformation simControl by decide)
    | @response g t carries kind response' good =>
      obtain ⟨j, same, asked⟩ := good
      have here : j = i := by
        refine distinct ?_
        rw [inv.addrs] at same filtered
        rcases filtered with own | all
        · exact same.trans own
        · exact absurd (same.trans all) (noBroadcast j)
      rw [arrives.info t carries]
      exact ⟨given' t carries, here ▸ asked⟩

end Arrivals

section Steps

variable {l l' : Loop ι} {addr : ι → BitVec 8}

/-- What holds of the station that moved and of the others holds of every station. -/
theorem set_cases {P : ι → Secondary → Prop} {i : ι} {s : Secondary} (moved : P i s)
    (others : ∀ j, P j (l.secondary j)) : ∀ j, P j ((l.set i s).secondary j) := by
  intro j
  by_cases here : j = i
  · subst here
    simpa [set] using moved
  · simpa [set, here] using others j

theorem requested_mono {tr tr' : List SecondaryEvent} (grows : tr <+: tr') {t : AppTransaction}
    (member : t ∈ Secondary.requested tr) : t ∈ Secondary.requested tr' := by
  obtain ⟨events, rfl⟩ := grows
  rw [Secondary.requested_append]
  exact List.mem_append_left _ member

theorem responded_mono {tr tr' : List PrimaryEvent} (grows : tr <+: tr') {t : AppTransaction}
    (member : t ∈ Primary.responded tr) : t ∈ Primary.responded tr' := by
  obtain ⟨events, rfl⟩ := grows
  rw [Primary.responded_append]
  exact List.mem_append_left _ member

/-- Every step of every station keeps the invariant. -/
theorem Inv.step {e : LoopInput ι} (inv : Inv addr l) (distinct : Function.Injective addr)
    (noBroadcast : ∀ i, addr i ≠ broadcastAddr) (step : Step l e l') : Inv addr l' := by
  cases step with
  | @primary e p heard done =>
    rcases inv.primary.run (inv.proper heard) with ⟨p', run, books, grows⟩ | ⟨stuck, -⟩
    swap
    · rw [done.2] at stuck
      cases stuck
    rw [done.2, Option.some.injEq] at run
    subst run
    refine ⟨books, inv.secondary, inv.addrs, fun i t ended => ?_⟩
    obtain ⟨u, given', same, asked⟩ := inv.completed i t ended
    exact ⟨u, responded_mono grows given', same, asked⟩
  | @secondary i e s heard done =>
    obtain ⟨queued, pending, lost, accounts⟩ := inv.secondary i
    obtain ⟨s', run, ⟨queued', pending', lost', accounts', -⟩, addr', grows, ended⟩ := accounts.run e
    rw [done.2, Option.some.injEq] at run
    subst run
    have grown : ∀ j, ((l.set i s).secondary j).addrFilter = (l.secondary j).addrFilter ∧
        (l.secondary j).trace <+: ((l.set i s).secondary j).trace :=
      set_cases (P := fun j t => t.addrFilter = (l.secondary j).addrFilter ∧ (l.secondary j).trace <+: t.trace)
        ⟨addr', grows⟩ fun j => ⟨rfl, List.prefix_rfl⟩
    refine ⟨inv.primary.mono ?_ ?_, set_cases (P := fun _ t => ∃ q p l, Secondary.Accounts t q p l)
      ⟨queued', pending', lost', accounts'⟩ inv.secondary, fun j => (grown j).1.trans (inv.addrs j),
      set_cases (P := fun _ s' => ∀ t ∈ Secondary.completed s'.trace, ∃ u ∈ Primary.responded l.primary.trace,
        t = { u with completionTimeStamp := t.completionTimeStamp } ∧ u.bare ∈ Secondary.requested s'.trace)
        (fun t member => ?_) inv.completed⟩
    · rintro a t ⟨j, same, asked⟩
      exact ⟨j, (grown j).1.trans same, requested_mono (grown j).2 asked⟩
    · rintro a ⟨j, member⟩
      obtain ⟨events, whole⟩ := (grown j).2
      refine ⟨j, ?_⟩
      rw [← whole, Secondary.sent_append]
      exact List.mem_append_left _ member
    · have old : t ∈ Secondary.completed (l.secondary i).trace → ∃ u ∈ Primary.responded l.primary.trace,
          t = { u with completionTimeStamp := t.completionTimeStamp } ∧ u.bare ∈ Secondary.requested s.trace := by
        intro before
        obtain ⟨u, given', same, asked⟩ := inv.completed i t before
        exact ⟨u, given', same, requested_mono grows asked⟩
      rcases ended with same | ⟨r, now, accepted, rfl, information, response, more⟩
      · exact old (same ▸ member)
      · rw [more, List.mem_append, List.mem_singleton] at member
        rcases member with before | rfl
        · exact old before
        · obtain ⟨f, sent, arrives, filtered⟩ := heard
          obtain ⟨given', asked⟩ := inv.response distinct noBroadcast sent arrives filtered information response
          exact ⟨r.info, given', rfl, requested_mono grows asked⟩

end Steps

/-- The stations when their programs start. -/
def start (pollInterval : BitVec 32) (addr : ι → BitVec 8) (interval limit : ι → BitVec 32) : Loop ι where
  primary := Primary.start pollInterval
  secondary i := Secondary.start (addr i) (interval i) (limit i)

omit [DecidableEq ι] in
theorem inv_start (pollInterval : BitVec 32) (addr : ι → BitVec 8) (interval limit : ι → BitVec 32) :
    Inv addr (start pollInterval addr interval limit) where
  primary := Primary.books_start pollInterval
  secondary i := ⟨[], [], [], Secondary.accounts_start (addr i) (interval i) (limit i)⟩
  addrs _ := rfl
  completed _ _ impossible := absurd impossible List.not_mem_nil

/-- What a run of the stations may be trusted with. -/
structure Trusted (addr : ι → BitVec 8) (l : Loop ι) : Prop where
  /-- No secondary follows a dangling pointer. -/
  secondarySafe : ∀ i e, ((l.secondary i).run e).isSome
  /-- Nor does the primary, as long as there is memory for requests. -/
  primarySafe : ∀ e, l.Heard (.primary e) → l.primary.run e = none → l.primary.Refused e
  /-- A completed transaction is a response of the primary, unchanged, to a request that it took and that this station
  had sent. -/
  completed : ∀ i, ∀ t ∈ Secondary.completed (l.secondary i).trace,
    ∃ u ∈ Primary.responded l.primary.trace, t = { u with completionTimeStamp := t.completionTimeStamp } ∧
      u.bare ∈ (Primary.taken l.primary.trace).map AppTransaction.bare ∧
      u.bare ∈ Secondary.requested (l.secondary i).trace
  /-- No transaction is completed twice, although its frames may arrive again. -/
  once : ∀ i, (Secondary.created (l.secondary i).trace).length ≤ 2 ^ 32 →
    ((Secondary.completed (l.secondary i).trace).map AppTransaction.key).Nodup
  /-- The primary answers nothing that the station in question did not ask. -/
  asked : ∀ u ∈ Primary.responded l.primary.trace, ∃ i, u.addr = addr i ∧
    u.bare ∈ Secondary.requested (l.secondary i).trace
  /-- It settles the requests in the order in which it took them. -/
  order : (Primary.settled l.primary.trace).map AppTransaction.bare <+:
    (Primary.taken l.primary.trace).map AppTransaction.bare
  /-- Its clients are different stations, and each asked to be one. -/
  clients : ∃ clients, Primary.Clients l.Joined l.primary.clientHeap l.primary.clientList clients

omit [DecidableEq ι] in
theorem Inv.trusted {addr : ι → BitVec 8} {l : Loop ι} (inv : Inv addr l) : Trusted addr l := by
  obtain ⟨waiting, requests⟩ := inv.primary.requests
  have order : (Primary.settled l.primary.trace).map AppTransaction.bare <+:
      (Primary.taken l.primary.trace).map AppTransaction.bare := ⟨_, requests.fifo.symm⟩
  refine ⟨fun i e => ?_, fun e heard stuck => ?_, fun i t ended => ?_, fun i few => ?_, fun u given' => ?_, order,
    inv.primary.clients⟩
  · obtain ⟨queued, pending, lost, accounts⟩ := inv.secondary i
    obtain ⟨s', run, -⟩ := accounts.run e
    rw [run]
    rfl
  · rcases inv.primary.run (inv.proper heard) with ⟨p', run, -⟩ | ⟨-, refused⟩
    · rw [stuck] at run
      cases run
    · exact refused
  · obtain ⟨u, given', same, asked⟩ := inv.completed i t ended
    exact ⟨u, given', same, order.subset (List.mem_map_of_mem (Primary.responded_settled given')), asked⟩
  · obtain ⟨queued, pending, lost, accounts⟩ := inv.secondary i
    exact accounts.completed_nodup few
  · rw [← requests.carried] at given'
    obtain ⟨f, sent, carries⟩ := List.mem_filterMap.mp given'
    cases requests.frames f sent with
    | broadcast addr' info kind => simp [LoopFrame.transaction?, info] at carries
    | simResponse known => cases carries
    | @response _ t info kind response good =>
      obtain rfl : t = u := by simpa [LoopFrame.transaction?, info] using carries
      obtain ⟨i, -, asked⟩ := good
      obtain ⟨queued, pending, lost, accounts⟩ := inv.secondary i
      have created := accounts.order.subset (List.mem_append_left _ asked)
      exact ⟨i, (accounts.own t.bare created).1.trans (inv.addrs i), asked⟩

/-- Whatever the loop loses, repeats or reorders. -/
theorem loop_trusted {pollInterval : BitVec 32} {addr : ι → BitVec 8} {interval limit : ι → BitVec 32}
    (distinct : Function.Injective addr) (noBroadcast : ∀ i, addr i ≠ broadcastAddr)
    {path : List (LoopInput ι × Loop ι)} (run : Run Step (start pollInterval addr interval limit) path) :
    Trusted addr (last (start pollInterval addr interval limit) path) :=
  (Run.last_invariant (P := Inv addr) (fun _ _ _ inv step => inv.step distinct noBroadcast step) run
    (inv_start pollInterval addr interval limit)).trusted

section Single

/-- The frames on a loop with one secondary. -/
def frames (l : Loop Unit) : List LoopFrame := Primary.sent l.primary.trace ++ Secondary.sent (l.secondary ()).trace

theorem onLoop_iff (l : Loop Unit) (f : LoopFrame) : l.OnLoop f ↔ f ∈ l.frames := by
  rw [frames, List.mem_append]
  exact or_congr_right ⟨fun ⟨_, member⟩ => member, fun member => ⟨(), member⟩⟩

instance (l : Loop Unit) : DecidablePred l.Heard
  | .primary (.frame r _ _ _ _) => decidable_of_iff (∃ f ∈ l.frames, f.ArrivesAs r) (by simp only [Heard, onLoop_iff])
  | .secondary i (.frame r _ _) =>
    decidable_of_iff (∃ f ∈ l.frames, f.ArrivesAs r ∧ (f.addr = (l.secondary i).addrFilter ∨ f.addr = broadcastAddr))
      (by simp only [Heard, onLoop_iff])
  | .primary .loop | .primary .timeout | .primary (.transmit _ _ _) | .primary (.broadcast _) | .primary .alarm
  | .primary .interrupt | .secondary _ .timeout | .secondary _ (.check _ _) | .secondary _ .alarm =>
    inferInstanceAs (Decidable True)

def next (l : Loop Unit) (e : LoopInput Unit) : Option (Loop Unit) :=
  if l.Heard e then
    match e with
    | .primary e => (l.primary.next e).map fun p => { l with primary := p }
    | .secondary i e => ((l.secondary i).next e).map (l.set i)
  else none

theorem step_of_next {l l' : Loop Unit} {e : LoopInput Unit} (done : l.next e = some l') : Step l e l' := by
  unfold next at done
  split at done
  swap
  · cases done
  rename_i heard
  cases e with
  | primary e =>
    obtain ⟨p, moved, rfl⟩ := Option.map_eq_some_iff.mp done
    exact .primary heard (Primary.step_of_next moved)
  | secondary i e =>
    obtain ⟨s, moved, rfl⟩ := Option.map_eq_some_iff.mp done
    exact .secondary heard (Secondary.step_of_next moved)

/-- The station is polled and initialized, and polled again when it has a transaction, whose response completes it. -/
def conversation : List (LoopInput Unit) :=
  let taken : Nat → Bool := fun _ => true
  let t : AppTransaction := { addr := 1, request := true, transactionNumber := 1 }
  let poll : ReceivedFrame := ⟨broadcastAddr, pollBit ||| receiverReady, 2, {}⟩
  let send : List (LoopInput Unit) :=
    [.primary .timeout, .primary (.transmit (fun _ => {}) taken true), .primary .loop]
  [.primary .loop] ++ send ++
    [.secondary () (.frame poll {} taken), .primary (.frame ⟨1, simControl, 2, {}⟩ {} (some 0) true true),
      .secondary () (.check {} none), .secondary () (.frame ⟨1, simControl, 3, {}⟩ {} taken),
      .secondary () (.check {} (some 0))] ++ send ++
    [.secondary () (.frame poll {} taken), .primary (.frame ⟨1, 0x10, 2 + sizeofTransaction, t⟩ {} (some 0) true true)] ++
    send ++
    [.secondary () (.check {} none),
      .secondary () (.frame ⟨1, 0, 2 + sizeofTransaction, { t with request := false }⟩ {} taken)]

def conversationRun : List (LoopInput Unit × Loop Unit) :=
  trail next (start 0 (fun _ => 1) (fun _ => 0) fun _ => 1) conversation

theorem loop_trusted_conversation :
    Trusted (fun _ => 1) (last (start 0 (fun _ => 1) (fun _ => 0) fun _ => 1) conversationRun) ∧
      (Secondary.completed ((last (start 0 (fun _ => 1) (fun _ => 0) fun _ => 1) conversationRun).secondary ()).trace).length
        = 1 :=
  ⟨loop_trusted (fun _ _ _ => rfl) (fun _ => by decide) (run_trail _ _ fun _ _ _ _ done => step_of_next done),
    by decide +kernel⟩

end Single

end Loop

end Route56
