import Route56.LoopSecondary

namespace Route56

open LinkedList Transition

namespace SecondaryEvent

def created? : SecondaryEvent → Option AppTransaction
  | .queued t _ => some t
  | _ => none

def requested? : SecondaryEvent → Option AppTransaction
  | .waiting t _ => some t
  | _ => none

def completed? : SecondaryEvent → Option AppTransaction
  | .completed t => some t
  | _ => none

/-- The frames that the driver took. -/
def sent? : SecondaryEvent → Option LoopFrame
  | .write f true => some f
  | _ => none

end SecondaryEvent

namespace Secondary

/-- The transactions that were created so far, as they were. -/
def created (trace : List SecondaryEvent) : List AppTransaction := trace.filterMap SecondaryEvent.created?

/-- The transactions whose requests the driver took. -/
def requested (trace : List SecondaryEvent) : List AppTransaction := trace.filterMap SecondaryEvent.requested?

/-- The responses that ended a transaction. -/
def completed (trace : List SecondaryEvent) : List AppTransaction := trace.filterMap SecondaryEvent.completed?

def sent (trace : List SecondaryEvent) : List LoopFrame := trace.filterMap SecondaryEvent.sent?

/-- What a station may send: an information frame with a request, or a frame with neither. -/
structure OwnFrame (addr : BitVec 8) (f : LoopFrame) : Prop where
  addr : f.addr = addr
  kind : (∃ t, f.info = .transaction t ∧ isInformation f.ctrl) ∨ f.info = .absent ∧ ¬ isInformation f.ctrl

/-- What is in the station's queues is what the trace says about its transactions: each was sent once, is to be sent
or is lost, in the order of creation, and each that was sent was ended once or waits. -/
structure Accounts (s : Secondary) (queued pending lost : List (Nat × AppTransaction)) : Prop where
  shape : Shape s.heap s.queuedTransactionList s.pendingTransactionList queued pending lost
  numQueued : s.numQueuedTransactions = queued.length + lost.length
  numPending : s.numPendingTransactions = pending.length
  all : (created s.trace).Perm (requested s.trace ++ values queued ++ values lost)
  order : (requested s.trace ++ values queued).Sublist (created s.trace)
  answered : ((requested s.trace).map AppTransaction.key).Perm
    ((completed s.trace).map AppTransaction.key ++ (values pending).map AppTransaction.key)
  carried : (sent s.trace).filterMap LoopFrame.transaction? = requested s.trace
  frames : ∀ f ∈ sent s.trace, OwnFrame s.addrFilter f
  numbers : (created s.trace).map AppTransaction.transactionNumber =
    (List.range (created s.trace).length).map fun i => BitVec.ofNat 32 (i + 1)
  lastNumber : s.lastTransactionNumber = BitVec.ofNat 32 (created s.trace).length
  window : s.sendCount.toNat < 8
  lossy : lost ≠ [] ↔ ∃ f ∈ sent s.trace, isInformation f.ctrl ∧ ¬ isFinal f.ctrl
  own : ∀ t ∈ created s.trace, t.addr = s.addrFilter ∧ t.bare = t

section Traces

variable (tr tr' : List SecondaryEvent) (e : SecondaryEvent)

@[simp] theorem created_append : created (tr ++ tr') = created tr ++ created tr' := List.filterMap_append

@[simp] theorem requested_append : requested (tr ++ tr') = requested tr ++ requested tr' := List.filterMap_append

@[simp] theorem completed_append : completed (tr ++ tr') = completed tr ++ completed tr' := List.filterMap_append

@[simp] theorem sent_append : sent (tr ++ tr') = sent tr ++ sent tr' := List.filterMap_append

@[simp] theorem created_singleton : created [e] = e.created?.toList := by
  cases found : e.created? <;> simp [created, found]

@[simp] theorem requested_singleton : requested [e] = e.requested?.toList := by
  cases found : e.requested? <;> simp [requested, found]

@[simp] theorem completed_singleton : completed [e] = e.completed?.toList := by
  cases found : e.completed? <;> simp [completed, found]

@[simp] theorem sent_singleton : sent [e] = e.sent?.toList := by
  cases found : e.sent? <;> simp [sent, found]

@[simp] theorem log_trace (s : Secondary) : (s.log e).trace = s.trace ++ [e] := rfl

/-- Events that are about none of the station's transactions. -/
structure Quiet (addr : BitVec 8) (events : List SecondaryEvent) : Prop where
  created : created events = []
  requested : requested events = []
  completed : completed events = []
  frames : ∀ f ∈ sent events, f.addr = addr ∧ f.info = .absent ∧ ¬ isInformation f.ctrl

theorem Quiet.of_silent {addr : BitVec 8} {events : List SecondaryEvent} (noCreated : Secondary.created events = [])
    (noRequested : Secondary.requested events = []) (noCompleted : Secondary.completed events = [])
    (silent : sent events = []) : Quiet addr events := by
  refine ⟨noCreated, noRequested, noCompleted, fun f member => ?_⟩
  rw [silent] at member
  exact absurd member List.not_mem_nil

theorem Quiet.carried {addr : BitVec 8} {events : List SecondaryEvent} (quiet : Quiet addr events) :
    (sent events).filterMap LoopFrame.transaction? = [] := by
  refine List.filterMap_eq_nil_iff.mpr fun f member => ?_
  rw [LoopFrame.transaction?, (quiet.frames f member).2.1]

end Traces

section Steps

variable {s s' : Secondary} {queued pending lost : List (Nat × AppTransaction)}

/-- The fields that the accounts are about, the trace apart. -/
structure SameBooks (s' s : Secondary) : Prop where
  heap : s'.heap = s.heap
  queuedList : s'.queuedTransactionList = s.queuedTransactionList
  pendingList : s'.pendingTransactionList = s.pendingTransactionList
  numQueued : s'.numQueuedTransactions = s.numQueuedTransactions
  numPending : s'.numPendingTransactions = s.numPendingTransactions
  lastNumber : s'.lastTransactionNumber = s.lastTransactionNumber
  addr : s'.addrFilter = s.addrFilter

theorem Accounts.quiet {l : List SecondaryEvent} (accounts : Accounts s queued pending lost)
    (quiet : Quiet s.addrFilter l) (trace : s'.trace = s.trace ++ l) (same : SameBooks s' s)
    (window : s'.sendCount.toNat < 8) : Accounts s' queued pending lost := by
  have created' : created s'.trace = created s.trace := by rw [trace, created_append, quiet.created, List.append_nil]
  have requested' : requested s'.trace = requested s.trace := by
    rw [trace, requested_append, quiet.requested, List.append_nil]
  have completed' : completed s'.trace = completed s.trace := by
    rw [trace, completed_append, quiet.completed, List.append_nil]
  constructor
  · rw [same.heap, same.queuedList, same.pendingList]
    exact accounts.shape
  · rw [same.numQueued, accounts.numQueued]
  · rw [same.numPending, accounts.numPending]
  · rw [created', requested']
    exact accounts.all
  · rw [created', requested']
    exact accounts.order
  · rw [requested', completed']
    exact accounts.answered
  · rw [requested', trace, sent_append, List.filterMap_append, quiet.carried, List.append_nil, accounts.carried]
  · intro f member
    rw [trace, sent_append, List.mem_append] at member
    rw [same.addr]
    refine member.elim (accounts.frames f) fun new => ?_
    exact ⟨(quiet.frames f new).1, .inr (quiet.frames f new).2⟩
  · rw [created', accounts.numbers]
  · rw [same.lastNumber, created', accounts.lastNumber]
  · exact window
  · rw [accounts.lossy, trace, sent_append]
    constructor
    · exact fun ⟨f, member, kind⟩ => ⟨f, List.mem_append_left _ member, kind⟩
    · rintro ⟨f, member, kind⟩
      rcases List.mem_append.mp member with old | new
      · exact ⟨f, old, kind⟩
      · exact absurd kind.1 (quiet.frames f new).2.2
  · rw [created', same.addr]
    exact accounts.own

theorem addToQueuedTransactionList_eq {p : Nat} {heap : Heap AppTransaction} {list : Queue} {node : Node AppTransaction}
    (run : s.queuedTransactionList.append p s.heap = some (heap, list)) (found : heap.lookup p = some node) :
    s.addToQueuedTransactionList p = some ({ s with
      heap := heap, queuedTransactionList := list, numQueuedTransactions := s.numQueuedTransactions + 1
    }.log (.queued node.value (s.numQueuedTransactions + 1))) := by
  simp only [addToQueuedTransactionList, run, found, Option.bind_eq_bind, Option.bind_some]

theorem addToPendingTransactionList_eq {p : Nat} {heap : Heap AppTransaction} {list : Queue} {node : Node AppTransaction}
    (run : s.pendingTransactionList.append p s.heap = some (heap, list)) (found : heap.lookup p = some node) :
    s.addToPendingTransactionList p = some ({ s with
      heap := heap, pendingTransactionList := list, numPendingTransactions := s.numPendingTransactions + 1
    }.log (.waiting node.value (s.numPendingTransactions + 1))) := by
  simp only [addToPendingTransactionList, run, found, Option.bind_eq_bind, Option.bind_some]

/-- A new transaction joins the queue. -/
theorem Accounts.create (accounts : Accounts s queued pending lost) {p : Nat} (fresh : p ∉ s.heap) {t : AppTransaction}
    (number : t.transactionNumber = s.lastTransactionNumber + 1) (addr : t.addr = s.addrFilter)
    (plain : t.bare = t) :
    ∃ s', ({ s with
        lastTransactionNumber := s.lastTransactionNumber + 1, heap := s.heap.insert p ⟨t, none⟩
      } : Secondary).addToQueuedTransactionList p = some s' ∧
      Accounts s' (queued ++ [(p, t)]) pending lost ∧ s'.trace = s.trace ++ [.queued t (s.numQueuedTransactions + 1)] ∧
      s'.addrFilter = s.addrFilter := by
  have shape := accounts.shape.insert (x := (p, t)) fresh none
  obtain ⟨heap, list, run, shape'⟩ := shape.append
  obtain ⟨next, found⟩ := shape'.one.chain.lookup (List.mem_append_right queued List.mem_cons_self)
  refine ⟨_, addToQueuedTransactionList_eq run found, ?_, rfl, rfl⟩
  have length : (created (s.trace ++ [.queued t (s.numQueuedTransactions + 1)])).length =
      (created s.trace).length + 1 := by simp [created, SecondaryEvent.created?]
  have numbers : t.transactionNumber = BitVec.ofNat 32 ((created s.trace).length + 1) := by
    rw [number, accounts.lastNumber, BitVec.ofNat_add]
    rfl
  have all := accounts.all
  have order := accounts.order
  constructor
  · exact shape'
  · have num := accounts.numQueued
    simp only [log, List.length_append, List.length_cons, List.length_nil]
    push_cast
    omega
  · exact accounts.numPending
  · simp only [log_trace, created_append, requested_append, created_singleton, requested_singleton,
      SecondaryEvent.created?, SecondaryEvent.requested?, Option.toList_some, Option.toList_none, List.append_nil,
      values_append, values_cons, values_nil]
    refine (all.append_right [t]).trans ?_
    simp only [List.append_assoc]
    exact ((@List.perm_append_comm _ (values lost) _).append_left _).append_left _
  · simpa [SecondaryEvent.created?, SecondaryEvent.requested?] using order.append (List.Sublist.refl [t])
  · simpa [SecondaryEvent.requested?, SecondaryEvent.completed?] using accounts.answered
  · simpa [SecondaryEvent.sent?, SecondaryEvent.requested?] using accounts.carried
  · simpa [log, SecondaryEvent.sent?] using accounts.frames
  · simp [SecondaryEvent.created?, List.range_succ, accounts.numbers, numbers]
  · simp [log, SecondaryEvent.created?, ← numbers, number]
  · exact accounts.window
  · simpa [SecondaryEvent.sent?] using accounts.lossy
  · intro other member
    simp only [log_trace, created_append, created_singleton, SecondaryEvent.created?, Option.toList_some,
      List.mem_append, List.mem_singleton] at member
    rcases member with old | rfl
    · exact accounts.own other old
    · exact ⟨addr, plain⟩

/-- The head of the queue begins to wait for its response; what was behind it is in no queue any more. -/
theorem moveQueuedTransactionToPendingList_eq {x : Nat × AppTransaction}
    (shape : Shape s.heap s.queuedTransactionList s.pendingTransactionList (x :: queued) pending lost) :
    ∃ heap first last, s.moveQueuedTransactionToPendingList = some (true, { s with
        heap := heap, queuedTransactionList := first, pendingTransactionList := last,
        numQueuedTransactions := s.numQueuedTransactions - 1, numPendingTransactions := s.numPendingTransactions + 1
      }.log (.waiting x.2 (s.numPendingTransactions + 1))) ∧
      Shape heap first last [] (pending ++ [x]) (queued ++ lost) := by
  obtain ⟨heap, cut, shape'⟩ := shape.cut
  obtain ⟨next, found⟩ := shape'.loose x List.mem_cons_self
  obtain ⟨heap', list, run, moved⟩ := shape'.symm.append
  obtain ⟨next', found'⟩ := moved.one.chain.lookup (List.mem_append_right pending List.mem_cons_self)
  have start : s.queuedTransactionList.first = some x.1 := shape.one.chain.first
  have cleared : heap.lookup x.1 = some ⟨x.2, none⟩ := by
    obtain ⟨after, before⟩ := shape.one.chain.lookup List.mem_cons_self
    rw [setNext_eq before, Option.some.injEq] at cut
    rw [← cut, Finmap.lookup_insert]
  refine ⟨heap', ⟨none, s.queuedTransactionList.last⟩, list, ?_, moved.symm⟩
  have removed : s.removeQueuedTransationListHead = some (some x.1, { s with
      heap := heap, queuedTransactionList := ⟨none, s.queuedTransactionList.last⟩,
      numQueuedTransactions := s.numQueuedTransactions - 1 }) := by
    simp only [removeQueuedTransationListHead, start, cut, cleared, Option.bind_eq_bind, Option.bind_some]
  simp only [moveQueuedTransactionToPendingList, removed, Option.bind_eq_bind, Option.bind_some]
  rw [addToPendingTransactionList_eq (s := { s with
      heap := heap, queuedTransactionList := ⟨none, s.queuedTransactionList.last⟩,
      numQueuedTransactions := s.numQueuedTransactions - 1 }) run found']
  rfl

theorem quiet_stillPending (addr : BitVec 8) (ts : List AppTransaction) :
    Quiet addr (ts.map SecondaryEvent.stillPending) := by
  induction ts with
  | nil => exact .of_silent rfl rfl rfl rfl
  | cons t rest ih => exact ⟨ih.created, ih.requested, ih.completed, ih.frames⟩

/-- A response that matches a pending transaction ends it. -/
theorem Accounts.reconcile (accounts : Accounts s queued pending lost) (t : AppTransaction) (now : Timeval) :
    ∃ matched s' pending', s.reconcileTransaction t now = some (matched, s') ∧ Accounts s' queued pending' lost ∧
      completed s'.trace = completed s.trace ++ (if matched then [{ t with completionTimeStamp := now }] else []) ∧
      s'.addrFilter = s.addrFilter ∧ s.trace <+: s'.trace := by
  have chain : Chain s.heap s.pendingTransactionList.first pending := accounts.shape.two.chain
  have bound := chain.length_le
  let response : AppTransaction := { t with completionTimeStamp := now }
  let test : AppTransaction → Bool := fun other => other.key = response.key
  cases found : pending.find? (fun x => test x.2) with
  | none =>
    have fails : ∀ x ∈ pending, test x.2 = false := by simpa using List.find?_eq_none.mp found
    have walk := @search_none _ _ _ none _ test _ chain bound fails
    have events := quiet_stillPending s.addrFilter (values pending)
    have listed : Accounts { s with trace := s.trace ++ (values pending).map SecondaryEvent.stillPending }
        queued pending lost := accounts.quiet events rfl ⟨rfl, rfl, rfl, rfl, rfl, rfl, rfl⟩ accounts.window
    refine ⟨false, ({ s with trace := s.trace ++ (values pending).map SecondaryEvent.stillPending }.log
        (.noMatchingFound response)), pending, ?_, listed.quiet (l := [.noMatchingFound response])
      (.of_silent rfl rfl rfl rfl) rfl ⟨rfl, rfl, rfl, rfl, rfl, rfl, rfl⟩ accounts.window, ?_, rfl, ?_⟩
    · simp only [reconcileTransaction]
      erw [walk]
      rfl
    · simp [events.completed, SecondaryEvent.completed?]
    · simp
  | some x =>
    obtain ⟨passes, pre, post, rfl, fails⟩ := List.find?_eq_some_iff_append.mp found
    have matches' : x.2.key = response.key := by simpa [test] using passes
    have walk := @search_some _ _ _ none pre post x test s.heap.keys.card chain
      (by simp only [List.length_append, List.length_cons] at bound; omega)
      (fun y member => by simpa using fails y member) passes
    rw [Option.or_none] at walk
    have events := quiet_stillPending s.addrFilter (values pre)
    have listed : Accounts { s with trace := s.trace ++ (values pre).map SecondaryEvent.stillPending }
        queued (pre ++ x :: post) lost := accounts.quiet events rfl ⟨rfl, rfl, rfl, rfl, rfl, rfl, rfl⟩ accounts.window
    obtain ⟨heap, list, run, shape⟩ := accounts.shape.symm.remove
    refine ⟨true, ({ s with
        trace := s.trace ++ (values pre).map SecondaryEvent.stillPending, heap := heap,
        pendingTransactionList := list, numPendingTransactions := s.numPendingTransactions - 1
      }.log (.completed response)), pre ++ post, ?_, ?_, ?_, rfl, ?_⟩
    · simp only [reconcileTransaction]
      erw [walk]
      simp only [Option.bind_eq_bind, Option.bind_some, run]
      rfl
    · constructor
      · exact shape.symm
      · exact accounts.numQueued
      · have num := accounts.numPending
        simp only [List.length_append, List.length_cons] at num
        simp only [log, List.length_append, num]
        push_cast
        omega
      · simpa [SecondaryEvent.created?, SecondaryEvent.requested?] using listed.all
      · simpa [SecondaryEvent.created?, SecondaryEvent.requested?] using listed.order
      · have answered := listed.answered
        simp only [log_trace, requested_append, completed_append, requested_singleton, completed_singleton,
          SecondaryEvent.requested?, SecondaryEvent.completed?, Option.toList_some, Option.toList_none,
          List.append_nil, values_append, values_cons, List.map_append, List.map_cons, List.map_nil,
          List.append_assoc, List.cons_append, List.nil_append] at answered ⊢
        refine answered.trans (List.Perm.append_left _ (List.Perm.append_left _ ?_))
        rw [matches']
        exact List.perm_middle
      · simpa [SecondaryEvent.sent?, SecondaryEvent.requested?] using listed.carried
      · simpa [log, SecondaryEvent.sent?] using listed.frames
      · simpa [SecondaryEvent.created?] using listed.numbers
      · simpa [log, SecondaryEvent.created?] using listed.lastNumber
      · exact accounts.window
      · simpa [SecondaryEvent.sent?] using listed.lossy
      · simpa [log, SecondaryEvent.created?] using listed.own
    · simp [events.completed, SecondaryEvent.completed?, response]
    · simp

theorem isInformation_requestControl (receive send : BitVec 8) (last : Bool) :
    isInformation (receive <<< 5 ||| send <<< 1 ||| if last then finalBit else 0) := by
  rw [isInformation_iff, BitVec.getLsbD_or, BitVec.getLsbD_or, BitVec.getLsbD_shiftLeft, BitVec.getLsbD_shiftLeft]
  cases last <;> rfl

/-- The frame that `DoPollResponse` makes of a transaction; only the last one in the queue has the final bit. -/
def requestFrame (s : Secondary) (t : AppTransaction) (last : Bool) : LoopFrame :=
  ⟨s.addrFilter, s.nr ||| s.ns ||| (if last then finalBit else 0), .transaction t⟩

theorem sendQueuedTransactions_empty {accepted : Nat → Bool} {fuel n : Nat}
    (empty : s.queuedTransactionList.first = none) : sendQueuedTransactions accepted fuel n s = some (true, s) := by
  rw [sendQueuedTransactions]
  simp only [empty]

/-- What the driver is asked to do for the first transaction in the queue. -/
def offer (s : Secondary) (t : AppTransaction) (last accepted : Bool) : List SecondaryEvent :=
  .write (s.requestFrame t last) accepted :: if last then [.loopTxDone] else []

/-- A poll with transactions in the queue: the first one is sent and, when the driver takes it, the others are lost. -/
theorem sendQueuedTransactions_eq {x : Nat × AppTransaction} (accepted : Nat → Bool) {fuel : Nat} (n : Nat)
    (shape : Shape s.heap s.queuedTransactionList s.pendingTransactionList (x :: queued) pending lost) :
    ∃ heap first last,
      sendQueuedTransactions accepted (fuel + 1) n s = some (accepted n, if accepted n then { s with
          heap := heap, queuedTransactionList := first, pendingTransactionList := last,
          numQueuedTransactions := s.numQueuedTransactions - 1, numPendingTransactions := s.numPendingTransactions + 1,
          sendCount := (s.sendCount + 1) &&& 0x07,
          trace := s.trace ++ s.offer x.2 queued.isEmpty true ++ [.waiting x.2 (s.numPendingTransactions + 1)] }
        else { s with trace := s.trace ++ s.offer x.2 queued.isEmpty false }) ∧
      Shape heap first last [] (pending ++ [x]) (queued ++ lost) := by
  have start : s.queuedTransactionList.first = some x.1 := shape.one.chain.first
  obtain ⟨next, found, ends⟩ : ∃ next, s.heap.lookup x.1 = some ⟨x.2, next⟩ ∧ (next = none ↔ queued.isEmpty = true) := by
    obtain ⟨-, next, found, later⟩ := shape.one.chain
    refine ⟨next, found, ?_⟩
    cases queued with
    | nil => simpa using show next = none from later
    | cons y rest => simp [later.first]
  -- the trace before the transaction is moved
  let offered : Secondary := { s with trace := s.trace ++ s.offer x.2 queued.isEmpty (accepted n) }
  have calls : (if next ≠ none then s.sendFrame (s.requestFrame x.2 queued.isEmpty) (accepted n)
      else s.loopModeSendLastFrame (s.requestFrame x.2 queued.isEmpty) (accepted n)) = (accepted n, offered) := by
    by_cases more : queued.isEmpty
    · simp [ends.mpr more, loopModeSendLastFrame, sendFrame, log, offer, offered, more]
    · simp [ends.not.mpr more, sendFrame, log, offer, offered, more]
  have control : (if next = none then finalBit else 0) = if queued.isEmpty then finalBit else 0 := by
    by_cases more : queued.isEmpty
    · rw [if_pos (ends.mpr more), if_pos more]
    · rw [if_neg (ends.not.mpr more), if_neg more]
  obtain ⟨heap, first, last, moved, shape'⟩ := moveQueuedTransactionToPendingList_eq (s := offered) shape
  have empty : first.first = none := shape'.one.chain
  refine ⟨heap, first, last, ?_, shape'⟩
  rw [sendQueuedTransactions]
  simp only [start, found, Option.bind_eq_bind, Option.bind_some, control]
  rw [show (⟨s.addrFilter, s.nr ||| s.ns ||| if queued.isEmpty then finalBit else 0, .transaction x.2⟩ : LoopFrame) =
    s.requestFrame x.2 queued.isEmpty from rfl, calls]
  by_cases taken : accepted n
  · simp only [taken, if_true, moved, Option.bind_some]
    rw [sendQueuedTransactions_empty empty]
    simp [log, offered, taken]
  · simp [taken, offered]

theorem isFinal_requestControl {receive send : BitVec 8} (window : send.toNat < 8) (last : Bool) :
    isFinal (receive <<< 5 ||| send <<< 1 ||| if last then finalBit else 0) ↔ last = true := by
  have high : send.getLsbD 3 = false := Nat.testBit_lt_two_pow window
  have shifted : (send <<< 1).getLsbD 4 = false := by
    rw [BitVec.getLsbD_shiftLeft, high]
    rfl
  have shifted' : (receive <<< 5).getLsbD 4 = false := by
    rw [BitVec.getLsbD_shiftLeft]
    rfl
  rw [isFinal_iff, BitVec.getLsbD_or, BitVec.getLsbD_or, shifted, shifted', Bool.false_or, Bool.false_or]
  cases last <;> decide

/-- A request that the driver takes. -/
theorem Accounts.request {x : Nat × AppTransaction} (accounts : Accounts s (x :: queued) pending lost)
    {heap : Heap AppTransaction} {first last : Queue} (shape : Shape heap first last [] (pending ++ [x]) (queued ++ lost)) :
    Accounts { s with
      heap := heap, queuedTransactionList := first, pendingTransactionList := last,
      numQueuedTransactions := s.numQueuedTransactions - 1, numPendingTransactions := s.numPendingTransactions + 1,
      sendCount := (s.sendCount + 1) &&& 0x07,
      trace := s.trace ++ s.offer x.2 queued.isEmpty true ++ [.waiting x.2 (s.numPendingTransactions + 1)]
    } [] (pending ++ [x]) (queued ++ lost) := by
  have sent' : sent (s.offer x.2 queued.isEmpty true) = [s.requestFrame x.2 queued.isEmpty] := by
    cases queued <;> rfl
  have none' : created (s.offer x.2 queued.isEmpty true) = [] ∧ requested (s.offer x.2 queued.isEmpty true) = [] ∧
      completed (s.offer x.2 queued.isEmpty true) = [] := by
    cases queued <;> exact ⟨rfl, rfl, rfl⟩
  obtain ⟨noCreated, noRequested, noCompleted⟩ := none'
  have information : isInformation (s.requestFrame x.2 queued.isEmpty).ctrl :=
    isInformation_requestControl s.receiveCount s.sendCount queued.isEmpty
  have final : isFinal (s.requestFrame x.2 queued.isEmpty).ctrl ↔ queued.isEmpty = true :=
    isFinal_requestControl accounts.window queued.isEmpty
  have order := accounts.order
  constructor
  · exact shape
  · have num := accounts.numQueued
    simp only [List.length_cons] at num
    simp only [num, List.length_append, List.length_nil]
    push_cast
    omega
  · simp [accounts.numPending]
  · simpa [noCreated, noRequested, SecondaryEvent.created?, SecondaryEvent.requested?] using accounts.all
  · refine List.Sublist.trans ?_ (show (requested s.trace ++ [x.2] ++ values queued).Sublist (created s.trace) by
      simpa using order) |>.trans (by simp [noCreated, SecondaryEvent.created?])
    simp [noRequested, SecondaryEvent.requested?]
  · have answered := accounts.answered.append_right [x.2.key]
    simpa [noRequested, noCompleted, SecondaryEvent.requested?, SecondaryEvent.completed?] using answered
  · simp [sent', noRequested, SecondaryEvent.requested?, SecondaryEvent.sent?, accounts.carried, requestFrame,
      LoopFrame.transaction?]
  · intro f member
    simp only [sent_append, sent', sent_singleton, SecondaryEvent.sent?, Option.toList_none, List.append_nil,
      List.mem_append, List.mem_singleton] at member
    rcases member with old | rfl
    · exact accounts.frames f old
    · exact ⟨rfl, .inl ⟨x.2, rfl, information⟩⟩
  · simpa [noCreated, SecondaryEvent.created?] using accounts.numbers
  · simpa [noCreated, SecondaryEvent.created?] using accounts.lastNumber
  · have masked : ((s.sendCount + 1) &&& 0x07).toNat ≤ 7 := Nat.and_le_right
    exact Nat.lt_succ_of_le masked
  · simp only [sent_append, sent', sent_singleton, SecondaryEvent.sent?, Option.toList_none, List.append_nil,
      List.mem_append, List.mem_singleton, or_and_right, exists_or, exists_eq_left, ← accounts.lossy, final, information,
      true_and]
    cases queued <;> simp
  · simpa [noCreated, SecondaryEvent.created?] using accounts.own

/-- What a step may do to the accounts: what is lost stays lost, and only a response ends a transaction. -/
structure Advance (e : SecondaryInput) (s s' : Secondary) (lost : List (Nat × AppTransaction)) : Prop where
  books : ∃ queued pending lost', Accounts s' queued pending lost' ∧ lost <:+ lost'
  addr : s'.addrFilter = s.addrFilter
  trace : s.trace <+: s'.trace
  ended : completed s'.trace = completed s.trace ∨
    ∃ r now accepted, e = .frame r now accepted ∧ isInformation r.ctrl ∧ r.info.request = false ∧
      completed s'.trace = completed s.trace ++ [{ r.info with completionTimeStamp := now }]

theorem Accounts.advance_quiet {e : SecondaryInput} {l : List SecondaryEvent}
    (accounts : Accounts s queued pending lost) (quiet : Quiet s.addrFilter l)
    (trace : s'.trace = s.trace ++ l) (same : SameBooks s' s) (window : s'.sendCount.toNat < 8) :
    Advance e s s' lost := by
  refine ⟨⟨queued, pending, lost, accounts.quiet quiet trace same window, List.suffix_rfl⟩, same.addr, ⟨l, trace.symm⟩,
    .inl ?_⟩
  rw [trace, completed_append, quiet.completed, List.append_nil]

theorem quiet_lastFrame {f : LoopFrame} {addr : BitVec 8} (own : f.addr = addr) (absent : f.info = .absent)
    (kind : ¬ isInformation f.ctrl) (accepted : Bool) : Quiet addr [.write f accepted, .loopTxDone] := by
  refine ⟨rfl, rfl, rfl, fun g member => ?_⟩
  cases accepted with
  | false => exact absurd member List.not_mem_nil
  | true =>
    obtain rfl := List.mem_singleton.mp (show g ∈ [f] from member)
    exact ⟨own, absent, kind⟩

theorem isInformation_poll (receive : BitVec 8) :
    ¬ isInformation (receive <<< 5 ||| receiverReady ||| finalBit) := by
  rw [isInformation_iff]
  simp [receiverReady, finalBit]

theorem Accounts.poll (accounts : Accounts s queued pending lost) (accepted : Nat → Bool) (e : SecondaryInput) :
    ∃ result s', s.doPollResponse accepted = some (result, s') ∧ Advance e s s' lost := by
  cases queued with
  | nil =>
    have empty : s.queuedTransactionList.first = none := accounts.shape.one.chain
    let frame : LoopFrame := ⟨s.addrFilter, s.nr ||| receiverReady ||| finalBit, .absent⟩
    refine ⟨accepted 0, (s.loopModeSendLastFrame frame (accepted 0)).2, by simp only [doPollResponse, empty]; rfl, ?_⟩
    refine accounts.advance_quiet (quiet_lastFrame (f := frame) rfl rfl (isInformation_poll _) (accepted 0)) ?_
      ⟨rfl, rfl, rfl, rfl, rfl, rfl, rfl⟩ accounts.window
    simp [loopModeSendLastFrame, sendFrame, log]
  | cons x rest =>
    have some' : s.queuedTransactionList.first = some x.1 := accounts.shape.one.chain.first
    have nodes := Chain.length_le accounts.shape.one.chain
    obtain ⟨fuel, enough⟩ : ∃ fuel, s.heap.keys.card = fuel + 1 :=
      ⟨s.heap.keys.card - 1, by simp only [List.length_cons] at nodes; omega⟩
    obtain ⟨heap, first, last, run, shape⟩ := sendQueuedTransactions_eq accepted 0 accounts.shape
    refine ⟨_, _, by simp only [doPollResponse, some', enough]; exact run, ?_⟩
    by_cases taken : accepted 0
    · rw [if_pos taken]
      refine ⟨⟨_, _, _, accounts.request shape, List.suffix_append rest lost⟩, rfl, ?_, .inl ?_⟩
      · simp
      · cases rest <;> simp [offer, completed, SecondaryEvent.completed?]
    · rw [if_neg taken]
      refine accounts.advance_quiet (l := s.offer x.2 rest.isEmpty false) ?_ rfl
        ⟨rfl, rfl, rfl, rfl, rfl, rfl, rfl⟩ accounts.window
      cases rest <;> exact .of_silent rfl rfl rfl rfl

theorem Accounts.processRxFrame (accounts : Accounts s queued pending lost) (r : ReceivedFrame) (now : Timeval)
    (accepted : Nat → Bool) :
    ∃ more s', s.processRxFrame r now accepted = some (more, s') ∧ Advance (.frame r now accepted) s s' lost := by
  have last : ∀ (f : LoopFrame), f.addr = s.addrFilter → f.info = .absent → ¬ isInformation f.ctrl →
      Quiet s.addrFilter [.write f (accepted 0), .loopTxDone] := fun f own absent kind =>
    quiet_lastFrame own absent kind _
  have nothing : Quiet s.addrFilter [] := .of_silent rfl rfl rfl rfl
  have stays : Advance (.frame r now accepted) s s lost :=
    accounts.advance_quiet nothing (List.append_nil _).symm ⟨rfl, rfl, rfl, rfl, rfl, rfl, rfl⟩ accounts.window
  rw [Secondary.processRxFrame]
  by_cases disc : r.size = 2 ∧ r.ctrl = discControl
  · rw [if_pos disc]
    by_cases ready : s.initialized
    · rw [if_pos ready]
      refine ⟨_, _, rfl, ?_⟩
      refine accounts.advance_quiet (last ⟨s.addrFilter, discControl, .absent⟩ rfl rfl
        (show ¬ isInformation discControl by decide)) ?_ ?_ ?_
      · cases accepted 0 <;> exact List.append_assoc _ _ _
      · cases accepted 0 <;> exact ⟨rfl, rfl, rfl, rfl, rfl, rfl, rfl⟩
      · cases accepted 0 <;> exact accounts.window
    · rw [if_neg ready]
      exact ⟨false, s, rfl, stays⟩
  rw [if_neg disc]
  by_cases ready : s.initialized
  swap
  · rw [if_pos (by simpa using ready)]
    by_cases poll : r.size = 2 ∧ isFinal r.ctrl ∧ isReceiverReady r.ctrl
    · rw [if_pos poll]
      refine ⟨_, _, rfl, ?_⟩
      refine accounts.advance_quiet (last ⟨s.addrFilter, simControl, .absent⟩ rfl rfl
        (show ¬ isInformation simControl by decide)) ?_ ⟨rfl, rfl, rfl, rfl, rfl, rfl, rfl⟩ accounts.window
      simp [sendSIMRequest, loopModeSendLastFrame, sendFrame]
    rw [if_neg poll]
    by_cases sim : r.size = 3 ∧ r.ctrl = simControl
    · rw [if_pos sim]
      exact ⟨_, _, rfl, accounts.advance_quiet nothing (List.append_nil _).symm ⟨rfl, rfl, rfl, rfl, rfl, rfl, rfl⟩
        (show (0 : BitVec 8).toNat < 8 by decide)⟩
    · rw [if_neg sim]
      exact ⟨true, s, rfl, stays⟩
  rw [if_neg (by simpa using ready)]
  by_cases poll : r.size = 2 ∧ isPoll r.ctrl
  · obtain ⟨result, s', run, advance⟩ := accounts.poll accepted (.frame r now accepted)
    rw [if_pos poll, run]
    exact ⟨false, s', rfl, advance⟩
  rw [if_neg poll]
  by_cases information : isInformation r.ctrl
  · rw [if_pos information]
    by_cases request : r.info.request
    · rw [if_pos request]
      exact ⟨_, s, rfl, stays⟩
    · obtain ⟨matched, s', pending', run, accounts', ended, addr, trace⟩ := accounts.reconcile r.info now
      rw [if_neg request, run]
      refine ⟨_, s', rfl, ⟨queued, pending', lost, accounts', List.suffix_rfl⟩, addr, trace, ?_⟩
      cases matched with
      | false => exact .inl (by simpa using ended)
      | true => exact .inr ⟨r, now, accepted, rfl, information, by simpa using request, ended⟩
  · rw [if_neg information]
    exact ⟨true, s, rfl, stays⟩

theorem Accounts.checkForNewTransactions (accounts : Accounts s queued pending lost) (now : Timeval)
    (memory : Option Nat) :
    ∃ s', s.checkForNewTransactions now memory = some s' ∧ Advance (.check now memory) s s' lost := by
  have nothing : Quiet s.addrFilter [] := .of_silent rfl rfl rfl rfl
  have stays : Advance (.check now memory) s s lost :=
    accounts.advance_quiet nothing (List.append_nil _).symm ⟨rfl, rfl, rfl, rfl, rfl, rfl, rfl⟩ accounts.window
  rw [Secondary.checkForNewTransactions]
  by_cases running : s.newTransactionTimer ≠ 0
  · rw [if_pos running]
    exact ⟨s, rfl, stays⟩
  rw [if_neg running]
  by_cases limit : s.numTransactions ≠ 0 ∧ s.numTransactions ≤ s.lastTransactionNumber
  · rw [if_pos limit]
    exact ⟨_, rfl, accounts.advance_quiet nothing (List.append_nil _).symm ⟨rfl, rfl, rfl, rfl, rfl, rfl, rfl⟩
      accounts.window⟩
  rw [if_neg limit]
  cases granted : malloc s.heap memory with
  | none => exact ⟨s, rfl, stays⟩
  | some p =>
    let t : AppTransaction :=
      { addr := s.addrFilter, request := true, transactionNumber := s.lastTransactionNumber + 1, creationTimeStamp := now }
    obtain ⟨s', run, books, trace, addr⟩ := accounts.create (malloc_fresh granted) (t := t) rfl rfl rfl
    refine ⟨{ s' with newTransactionTimer := s'.newTransactionInterval }, ?_, ?_⟩
    · dsimp only
      erw [run]
      rfl
    · refine ⟨⟨_, _, _, books.quiet (.of_silent rfl rfl rfl rfl) (List.append_nil _).symm
        ⟨rfl, rfl, rfl, rfl, rfl, rfl, rfl⟩ books.window, List.suffix_rfl⟩, addr, ⟨_, trace.symm⟩, .inl ?_⟩
      simp [trace, SecondaryEvent.completed?]

/-- A step from a state whose accounts are right has a result, and its accounts are right. -/
theorem Accounts.run (accounts : Accounts s queued pending lost) (e : SecondaryInput) :
    ∃ s', s.run e = some s' ∧ Advance e s s' lost := by
  have nothing : Quiet s.addrFilter [] := .of_silent rfl rfl rfl rfl
  cases e with
  | frame r now accepted =>
    by_cases passed : r.Passed false
    · obtain ⟨more, s', run, books, addr, trace, ended⟩ := accounts.processRxFrame r now accepted
      refine ⟨if more then s' else { s' with phase := .checking }, by simp [Secondary.run, passed, run], ?_⟩
      cases more with
      | true => exact ⟨books, addr, trace, ended⟩
      | false =>
        obtain ⟨queued', pending', lost', accounts', longer⟩ := books
        refine ⟨⟨queued', pending', lost', ?_, longer⟩, addr, trace, ended⟩
        exact accounts'.quiet (.of_silent rfl rfl rfl rfl) (List.append_nil _).symm
          ⟨rfl, rfl, rfl, rfl, rfl, rfl, rfl⟩ accounts'.window
    · exact absurd (fun impossible => nomatch impossible) passed
  | timeout =>
    exact ⟨_, rfl, accounts.advance_quiet nothing (List.append_nil _).symm ⟨rfl, rfl, rfl, rfl, rfl, rfl, rfl⟩
      accounts.window⟩
  | check now memory =>
    by_cases ready : s.initialized
    · obtain ⟨s', run, books, addr, trace, ended⟩ := accounts.checkForNewTransactions now memory
      refine ⟨{ s' with phase := .receiving }, by simp [Secondary.run, ready, run], ?_, addr, trace, ended⟩
      obtain ⟨queued', pending', lost', accounts', longer⟩ := books
      refine ⟨queued', pending', lost', ?_, longer⟩
      exact accounts'.quiet (.of_silent rfl rfl rfl rfl) (List.append_nil _).symm
        ⟨rfl, rfl, rfl, rfl, rfl, rfl, rfl⟩ accounts'.window
    · exact ⟨{ s with phase := .receiving }, by simp [Secondary.run, ready],
        accounts.advance_quiet nothing (List.append_nil _).symm ⟨rfl, rfl, rfl, rfl, rfl, rfl, rfl⟩ accounts.window⟩
  | alarm =>
    refine ⟨s.alarm, rfl, accounts.advance_quiet nothing ?_ ?_ ?_⟩ <;> unfold alarm <;> dsimp only <;> split
    · exact (List.append_nil _).symm
    · exact (List.append_nil _).symm
    · exact ⟨rfl, rfl, rfl, rfl, rfl, rfl, rfl⟩
    · exact ⟨rfl, rfl, rfl, rfl, rfl, rfl, rfl⟩
    · exact accounts.window
    · exact accounts.window

end Steps

/-- `APP_DATA` after `GetProfile`. -/
def start (addr : BitVec 8) (interval limit : BitVec 32) : Secondary :=
  { addrFilter := addr, newTransactionInterval := interval, numTransactions := limit }

theorem accounts_start (addr : BitVec 8) (interval limit : BitVec 32) : Accounts (start addr interval limit) [] [] [] where
  shape := Shape.empty
  numQueued := rfl
  numPending := rfl
  all := List.Perm.refl _
  order := List.Sublist.refl _
  answered := List.Perm.refl _
  carried := rfl
  frames := by simp [start, sent]
  numbers := rfl
  lastNumber := rfl
  window := show (0 : BitVec 8).toNat < 8 by decide
  lossy := by simp [start, sent]
  own := by simp [start, created]

theorem Accounts.last {s : Secondary} {queued pending lost : List (Nat × AppTransaction)}
    {p : List (SecondaryInput × Secondary)} (accounts : Accounts s queued pending lost) (path : Run Step s p) :
    ∃ queued' pending' lost', Accounts (Transition.last s p) queued' pending' lost' ∧ lost <:+ lost' := by
  induction p generalizing s queued pending lost with
  | nil => exact ⟨queued, pending, lost, accounts, List.suffix_rfl⟩
  | cons head rest ih =>
    obtain ⟨e, t⟩ := head
    obtain ⟨⟨-, here⟩, later⟩ := path
    obtain ⟨s', run, ⟨queued₁, pending₁, lost₁, accounts₁, longer⟩, -⟩ := accounts.run e
    obtain rfl : s' = t := Option.some.inj (run.symm.trans here)
    obtain ⟨queued₂, pending₂, lost₂, accounts₂, longer'⟩ := ih accounts₁ later
    exact ⟨queued₂, pending₂, lost₂, accounts₂, longer.trans longer'⟩

/-- Whatever frames reach a secondary station, in whatever order: it never follows a dangling pointer, and its queues,
its counts and its trace agree. -/
theorem secondary_accounts {addr : BitVec 8} {interval limit : BitVec 32} {p : List (SecondaryInput × Secondary)}
    (path : Run Step (start addr interval limit) p) :
    (∀ e, ((Transition.last (start addr interval limit) p).run e).isSome) ∧
      ∃ queued pending lost, Accounts (Transition.last (start addr interval limit) p) queued pending lost := by
  obtain ⟨queued, pending, lost, accounts, -⟩ := (accounts_start addr interval limit).last path
  refine ⟨fun e => ?_, queued, pending, lost, accounts⟩
  obtain ⟨s', run, -⟩ := accounts.run e
  rw [run]
  rfl

/-- The station is initialized and polled when it has two transactions. -/
def polled : List SecondaryInput :=
  [.frame ⟨1, simControl, 3, {}⟩ {} fun _ => true, .check {} (some 0), .timeout, .check {} (some 1),
    .frame ⟨broadcastAddr, pollBit ||| receiverReady, 2, {}⟩ {} fun _ => true]

/-- It makes a third one and receives the response to the first. -/
def answered : List SecondaryInput :=
  [.check {} (some 2), .frame ⟨1, 0, 2 + sizeofTransaction, { addr := 1, transactionNumber := 1 }⟩ {} fun _ => true]

def polledRun : List (SecondaryInput × Secondary) := trail next (start 1 0 0) polled

theorem run_polled : Run Step (start 1 0 0) polledRun := run_trail _ _ fun _ _ _ _ done => step_of_next done

theorem secondary_accounts_polled :
    ∃ queued pending lost, Accounts (Transition.last (start 1 0 0) polledRun) queued pending lost :=
  (secondary_accounts run_polled).2

section Once

variable {s : Secondary} {queued pending lost : List (Nat × AppTransaction)}

/-- The numbers differ until there are more transactions than numbers. -/
theorem Accounts.created_nodup (accounts : Accounts s queued pending lost)
    (few : (created s.trace).length ≤ 2 ^ 32) : ((created s.trace).map AppTransaction.key).Nodup := by
  have numbers : ((created s.trace).map AppTransaction.transactionNumber).Nodup := by
    rw [accounts.numbers]
    refine List.Nodup.map_on (fun i hi j hj same => ?_) List.nodup_range
    have same' := congrArg BitVec.toNat same
    simp only [BitVec.toNat_ofNat] at same'
    rw [List.mem_range] at hi hj
    omega
  refine List.Nodup.of_map Prod.fst ?_
  rwa [List.map_map]

theorem Accounts.completed_nodup (accounts : Accounts s queued pending lost)
    (few : (created s.trace).length ≤ 2 ^ 32) : ((completed s.trace).map AppTransaction.key).Nodup := by
  have all : ((created s.trace).map AppTransaction.key).Perm (((requested s.trace).map AppTransaction.key ++
      (values queued).map AppTransaction.key) ++ (values lost).map AppTransaction.key) := by
    simpa using accounts.all.map AppTransaction.key
  have split := (List.nodup_append.mp (all.nodup_iff.mp (accounts.created_nodup few))).1
  exact (List.nodup_append.mp (accounts.answered.nodup_iff.mp (List.nodup_append.mp split).1)).1

/-- Over a whole run no transaction is completed twice, only one that was sent is completed, and one that is lost is
never sent or completed any more; some transaction is lost exactly if a request went out without the final bit. -/
theorem secondary_once {addr : BitVec 8} {interval limit : BitVec 32} {p q : List (SecondaryInput × Secondary)}
    (path : Run Step (start addr interval limit) (p ++ q))
    (few : (created (Transition.last (start addr interval limit) (p ++ q)).trace).length ≤ 2 ^ 32)
    (accounts : Accounts (Transition.last (start addr interval limit) p) queued pending lost) :
    ((completed (Transition.last (start addr interval limit) (p ++ q)).trace).map AppTransaction.key).Nodup ∧
      (∀ t ∈ completed (Transition.last (start addr interval limit) (p ++ q)).trace,
        t.key ∈ (requested (Transition.last (start addr interval limit) (p ++ q)).trace).map AppTransaction.key) ∧
      (∀ x ∈ lost, x.2 ∈ created (Transition.last (start addr interval limit) (p ++ q)).trace ∧
        x.2.key ∉ (requested (Transition.last (start addr interval limit) (p ++ q)).trace).map AppTransaction.key ∧
        x.2.key ∉ (completed (Transition.last (start addr interval limit) (p ++ q)).trace).map AppTransaction.key) ∧
      (lost ≠ [] ↔ ∃ f ∈ sent (Transition.last (start addr interval limit) p).trace,
        isInformation f.ctrl ∧ ¬ isFinal f.ctrl) := by
  obtain ⟨queued', pending', lost', later, longer⟩ := accounts.last (run_append.mp path).2
  rw [← last_append] at later
  generalize Transition.last (start addr interval limit) (p ++ q) = t at few later ⊢
  have nodup := later.created_nodup few
  have all : ((created t.trace).map AppTransaction.key).Perm (((requested t.trace).map AppTransaction.key ++
      (values queued').map AppTransaction.key) ++ (values lost').map AppTransaction.key) := by
    simpa using later.all.map AppTransaction.key
  obtain ⟨-, -, apart⟩ := List.nodup_append.mp (all.nodup_iff.mp nodup)
  have answered := later.answered
  have once := later.completed_nodup few
  have asked : ∀ k ∈ (completed t.trace).map AppTransaction.key, k ∈ (requested t.trace).map AppTransaction.key :=
    fun k member => answered.mem_iff.mpr (List.mem_append_left _ member)
  refine ⟨once, fun r member => asked _ (List.mem_map_of_mem member), fun x member => ?_, accounts.lossy⟩
  have kept : x.2 ∈ values lost' := List.mem_map_of_mem (longer.subset member)
  have out : x.2.key ∉ (requested t.trace).map AppTransaction.key := fun again =>
    apart _ (List.mem_append_left _ again) _ (List.mem_map_of_mem kept) rfl
  exact ⟨later.all.mem_iff.mpr (List.mem_append_right _ kept), out, fun again => out (asked _ again)⟩

def answeredRun : List (SecondaryInput × Secondary) := trail next (Transition.last (start 1 0 0) polledRun) answered

theorem secondary_once_answered :
    (completed (Transition.last (start 1 0 0) (polledRun ++ answeredRun)).trace).length = 1 ∧
      ∃ t ∈ created (Transition.last (start 1 0 0) (polledRun ++ answeredRun)).trace,
        t.key ∉ (requested (Transition.last (start 1 0 0) (polledRun ++ answeredRun)).trace).map AppTransaction.key := by
  have path : Run Step (start 1 0 0) (polledRun ++ answeredRun) :=
    run_append.mpr ⟨run_polled, run_trail _ _ fun _ _ _ _ done => step_of_next done⟩
  refine ⟨by decide +kernel, ?_⟩
  obtain ⟨queued, pending, lost, accounts⟩ := secondary_accounts_polled
  obtain ⟨-, -, kept, lossy⟩ := secondary_once path (by decide +kernel) accounts
  obtain ⟨x, member⟩ := List.exists_mem_of_ne_nil lost (lossy.mpr (by decide +kernel))
  exact ⟨x.2, (kept x member).1, (kept x member).2.1⟩

end Once

end Secondary

end Route56
