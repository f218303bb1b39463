import Route56.LoopPrimary

namespace Route56

open LinkedList Transition

namespace PrimaryEvent

def taken? : PrimaryEvent → Option AppTransaction
  | .queued t _ => some t
  | _ => none

def settled? : PrimaryEvent → Option AppTransaction
  | .responseSent t => some t
  | .discarded t => some t
  | _ => none

def responded? : PrimaryEvent → Option AppTransaction
  | .responseSent t => some t
  | _ => none

/-- The frames that the driver took. -/
def sent? : PrimaryEvent → Option LoopFrame
  | .write f true => some f
  | _ => none

end PrimaryEvent

namespace Primary

/-- The requests that were queued, with the time of their receipt. -/
def taken (trace : List PrimaryEvent) : List AppTransaction := trace.filterMap PrimaryEvent.taken?

/-- The requests that were answered or discarded. -/
def settled (trace : List PrimaryEvent) : List AppTransaction := trace.filterMap PrimaryEvent.settled?

def responded (trace : List PrimaryEvent) : List AppTransaction := trace.filterMap PrimaryEvent.responded?

def sent (trace : List PrimaryEvent) : List LoopFrame := trace.filterMap PrimaryEvent.sent?

section Traces

variable (tr tr' : List PrimaryEvent) (e : PrimaryEvent)

@[simp] theorem taken_append : taken (tr ++ tr') = taken tr ++ taken tr' := List.filterMap_append

@[simp] theorem settled_append : settled (tr ++ tr') = settled tr ++ settled tr' := List.filterMap_append

@[simp] theorem responded_append : responded (tr ++ tr') = responded tr ++ responded tr' := List.filterMap_append

@[simp] theorem sent_append : sent (tr ++ tr') = sent tr ++ sent tr' := List.filterMap_append

@[simp] theorem taken_singleton : taken [e] = e.taken?.toList := by
  cases found : e.taken? <;> simp [taken, found]

@[simp] theorem settled_singleton : settled [e] = e.settled?.toList := by
  cases found : e.settled? <;> simp [settled, found]

@[simp] theorem responded_singleton : responded [e] = e.responded?.toList := by
  cases found : e.responded? <;> simp [responded, found]

@[simp] theorem sent_singleton : sent [e] = e.sent?.toList := by
  cases found : e.sent? <;> simp [sent, found]

@[simp] theorem log_trace (p : Primary) : (p.log e).trace = p.trace ++ [e] := rfl

end Traces

variable (Good : BitVec 8 → AppTransaction → Prop) (Member : BitVec 8 → Prop)

/-- What the primary may send: a broadcast that carries nothing, the answer to a station's wish to be initialized, or
the response to a request. -/
inductive OwnFrame : LoopFrame → Prop
  | broadcast {f : LoopFrame} (addr : f.addr = broadcastAddr) (info : f.info = .absent)
      (kind : ¬ isInformation f.ctrl) : OwnFrame f
  | simResponse {addr : BitVec 8} (member : Member addr) : OwnFrame ⟨addr, simControl, .address addr⟩
  | response {f : LoopFrame} {t : AppTransaction} (info : f.info = .transaction t) (kind : isInformation f.ctrl)
      (response : t.request = false) (good : Good f.addr t.bare) : OwnFrame f

/-- The list of clients has a station once. -/
structure Clients (heap : Heap Client) (list : Option Nat) (clients : List (Nat × Client)) : Prop where
  shape : ∃ last, Shape heap ⟨list, last⟩ {} clients [] []
  distinct : ((values clients).map Client.addr).Nodup
  members : ∀ c ∈ values clients, Member c.addr

/-- The requests that were taken are those settled, in this order, and those in the queue. -/
structure Requests (p : Primary) (waiting : List (Nat × ReceivedFrame)) : Prop where
  queue : Shape p.heap p.queuedTransactionList {} waiting [] []
  count : p.numQueuedTransactions = waiting.length
  fifo : (taken p.trace).map AppTransaction.bare =
    (settled p.trace).map AppTransaction.bare ++ (values waiting).map fun r => r.info.bare
  requests : ∀ r ∈ values waiting, r.Whole ∧ Good r.addr r.info.bare
  carried : (sent p.trace).filterMap LoopFrame.transaction? = responded p.trace
  frames : ∀ f ∈ sent p.trace, OwnFrame Good Member f

variable {Good Member} {p p' : Primary} {clients : List (Nat × Client)} {waiting : List (Nat × ReceivedFrame)}
  {heap : Heap Client} {list : Option Nat}

section ClientList

theorem findClient_eq (known : Clients Member p.clientHeap p.clientList clients) (addr : BitVec 8) :
    (p.findClient addr = some none ∧ ∀ c ∈ values clients, c.addr ≠ addr) ∨
      ∃ pre x post, clients = pre ++ x :: post ∧ x.2.addr = addr ∧
        p.findClient addr = some (some (pre.getLast?.map Prod.fst, x.1)) := by
  obtain ⟨last, shape⟩ := known.shape
  have chain : Chain p.clientHeap p.clientList clients := shape.one.chain
  have bound := chain.length_le
  let test : Client → Bool := fun c => c.addr = addr
  cases found : clients.find? (fun x => test x.2) with
  | none =>
    have fails : ∀ x ∈ clients, test x.2 = false := by simpa using List.find?_eq_none.mp found
    refine .inl ⟨?_, fun c member => ?_⟩
    · simp only [findClient]
      rw [search_none chain bound fails, Option.map_some]
    · obtain ⟨x, listed, rfl⟩ := List.mem_map.mp member
      simpa [test] using fails x listed
  | some x =>
    obtain ⟨passes, pre, post, rfl, fails⟩ := List.find?_eq_some_iff_append.mp found
    refine .inr ⟨pre, x, post, rfl, by simpa [test] using passes, ?_⟩
    have walk := @search_some _ _ _ none pre post x test p.clientHeap.keys.card chain
      (by simp only [List.length_append, List.length_cons] at bound; omega)
      (fun y member => by simpa using fails y member) passes
    rw [Option.or_none] at walk
    simp only [findClient]
    rw [walk, Option.map_some]

theorem getClientInfo_eq (known : Clients Member p.clientHeap p.clientList clients) (addr : BitVec 8) :
    (p.getClientInfo addr = some none ∧ ∀ c ∈ values clients, c.addr ≠ addr) ∨
      ∃ pre x post, clients = pre ++ x :: post ∧ x.2.addr = addr ∧ p.getClientInfo addr = some (some x.1) := by
  rcases findClient_eq known addr with ⟨found, unknown⟩ | ⟨pre, x, post, split, same, found⟩
  · exact .inl ⟨by rw [getClientInfo, found]; rfl, unknown⟩
  · exact .inr ⟨pre, x, post, split, same, by rw [getClientInfo, found]; rfl⟩

/-- A client's counts are changed in its place. -/
theorem Clients.setValue {pre post : List (Nat × Client)} {x : Nat × Client}
    (known : Clients Member heap list (pre ++ x :: post)) {c : Client} (same : c.addr = x.2.addr) :
    ∃ heap', LinkedList.setValue heap x.1 c = some heap' ∧ Clients Member heap' list (pre ++ (x.1, c) :: post) := by
  obtain ⟨last, shape⟩ := known.shape
  obtain ⟨heap', run, shape'⟩ := shape.setValue c
  have addrs : (values (pre ++ (x.1, c) :: post)).map Client.addr = (values (pre ++ x :: post)).map Client.addr := by
    simp [same]
  refine ⟨heap', run, ⟨last, shape'⟩, by rw [addrs]; exact known.distinct, fun d member => ?_⟩
  have listed : d.addr ∈ (values (pre ++ x :: post)).map Client.addr := addrs ▸ List.mem_map_of_mem member
  obtain ⟨e, old, eq⟩ := List.mem_map.mp listed
  exact eq ▸ known.members e old

theorem Clients.deallocate (known : Clients Member p.clientHeap p.clientList clients) (addr : BitVec 8) :
    ∃ heap list clients', p.deallocateClient addr = some { p with clientHeap := heap, clientList := list } ∧
      Clients Member heap list clients' := by
  rcases findClient_eq known addr with ⟨found, -⟩ | ⟨pre, x, post, rfl, -, found⟩
  · refine ⟨p.clientHeap, p.clientList, clients, ?_, known⟩
    simp only [deallocateClient, found, Option.bind_eq_bind, Option.bind_some]
  · obtain ⟨last, shape⟩ := known.shape
    obtain ⟨h', q', run, shape'⟩ := shape.remove
    obtain ⟨h, cut, rfl⟩ := Queue.remove_unlinks run
    refine ⟨_, _, pre ++ post, ?_, ⟨q'.last, shape'⟩, ?_, fun c member => known.members c ?_⟩
    · simp only [deallocateClient, found, Option.bind_eq_bind, Option.bind_some, cut]
    · refine known.distinct.sublist (List.Sublist.map _ (List.Sublist.map _ ?_))
      exact (List.sublist_cons_self x post).append_left pre
    · simp only [values_append, values_cons, List.mem_append, List.mem_cons] at member ⊢
      exact member.imp_right .inr

/-- A station that asks to be initialized becomes a client, or its counts are reset. -/
theorem Clients.allocate (known : Clients Member p.clientHeap p.clientList clients) {addr : BitVec 8}
    (member : Member addr) (memory : Option Nat) :
    ∃ allocated heap list clients', p.allocateClient addr memory =
        some (allocated, { p with clientHeap := heap, clientList := list }) ∧ Clients Member heap list clients' := by
  rcases findClient_eq known addr with ⟨found, unknown⟩ | ⟨pre, x, post, rfl, same, found⟩
  swap
  · obtain ⟨last, shape⟩ := known.shape
    obtain ⟨next, here⟩ := Segment.lookup shape.one.chain (x := x) (by simp)
    obtain ⟨heap, run, known'⟩ := known.setValue (c := { x.2 with nr := 0, ns := 0 }) rfl
    refine ⟨true, heap, p.clientList, _, ?_, known'⟩
    simp only [allocateClient, found, here, run, Option.bind_eq_bind, Option.bind_some]
  cases granted : malloc p.clientHeap memory with
  | none =>
    refine ⟨false, p.clientHeap, p.clientList, clients, ?_, known⟩
    simp only [allocateClient, found, granted, Option.bind_eq_bind, Option.bind_some]
  | some a =>
    obtain ⟨last, shape⟩ := known.shape
    let c : Client := { addr := addr }
    have shape' := shape.insert (x := (a, c)) (malloc_fresh granted) none
    obtain ⟨heap, q, run, grown⟩ := shape'.append
    have joined : Clients Member heap q.first (clients ++ [(a, c)]) := by
      refine ⟨⟨q.last, grown⟩, ?_, fun d listed => ?_⟩
      · simp only [values_append, values_cons, values_nil, List.map_append, List.map_cons, List.map_nil,
          List.nodup_append, List.mem_map, List.mem_singleton]
        refine ⟨known.distinct, List.nodup_singleton _, ?_⟩
        intro b present b' new same
        obtain ⟨d, listed, rfl⟩ := present
        exact unknown d listed (same.trans new)
      · simp only [values_append, values_cons, values_nil, List.mem_append, List.mem_singleton] at listed
        rcases listed with old | rfl
        · exact known.members d old
        · exact member
    -- the code walks to the last client, where a queue keeps a pointer to it
    obtain ⟨next, here⟩ := shape'.loose (a, c) List.mem_cons_self
    have inserted : (p.clientHeap.insert a ⟨c, none⟩).lookup a = some ⟨c, none⟩ := Finmap.lookup_insert _
    have cleared : setNext (p.clientHeap.insert a ⟨c, none⟩) a none = some (p.clientHeap.insert a ⟨c, none⟩) := by
      rw [setNext_eq inserted, Finmap.insert_insert]
    refine ⟨true, heap, q.first, clients ++ [(a, c)], ?_, joined⟩
    cases start : p.clientList with
    | none =>
      simp only [Queue.append, cleared, start, Option.bind_eq_bind, Option.bind_some, Option.some.injEq,
        Prod.mk.injEq] at run
      obtain ⟨rfl, rfl⟩ := run
      simp only [allocateClient, found, granted, start, Option.bind_eq_bind, Option.bind_some]
      rfl
    | some first =>
      have chain : Chain (p.clientHeap.insert a ⟨c, none⟩) (some first) clients := start ▸ shape'.one.chain
      cases ended : clients.getLast? with
      | none =>
        rw [List.getLast?_eq_none_iff.mp ended] at chain
        exact absurd (show some first = none from chain) (Option.some_ne_none first)
      | some y =>
        have atEnd : last = some y.1 := shape'.one.atEnd y ended
        have walk := tail_eq chain chain.length_le
        rw [ended, Option.map_some] at walk
        simp only [Queue.append, cleared, start, atEnd, Option.bind_eq_bind, Option.bind_some] at run
        cases linked : setNext (p.clientHeap.insert a ⟨c, none⟩) y.1 (some a) with
        | none => simp [linked] at run
        | some heap' =>
          simp only [linked, Option.bind_some, Option.some.injEq, Prod.mk.injEq] at run
          obtain ⟨rfl, rfl⟩ := run
          simp only [allocateClient, found, granted, start, Option.bind_eq_bind, Option.bind_some]
          erw [walk]
          simp only [Option.bind_some]
          erw [linked]
          rfl

end ClientList

theorem responded_settled {tr : List PrimaryEvent} {t : AppTransaction} (member : t ∈ responded tr) : t ∈ settled tr := by
  obtain ⟨e, listed, found⟩ := List.mem_filterMap.mp member
  refine List.mem_filterMap.mpr ⟨e, listed, ?_⟩
  cases e <;> simp_all [PrimaryEvent.responded?, PrimaryEvent.settled?]

section RequestQueue

/-- Frames that the driver takes and events that settle nothing. -/
theorem Requests.quiet {l : List PrimaryEvent} (requests : Requests Good Member p waiting)
    (trace : p'.trace = p.trace ++ l) (noTaken : taken l = []) (noSettled : settled l = [])
    (noResponded : responded l = [])
    (frames : ∀ f ∈ sent l, OwnFrame Good Member f ∧ f.transaction? = none) (heap : p'.heap = p.heap)
    (queue : p'.queuedTransactionList = p.queuedTransactionList)
    (count : p'.numQueuedTransactions = p.numQueuedTransactions) : Requests Good Member p' waiting := by
  have nothing : (sent l).filterMap LoopFrame.transaction? = [] :=
    List.filterMap_eq_nil_iff.mpr fun f member => (frames f member).2
  constructor
  · rw [heap, queue]
    exact requests.queue
  · rw [count, requests.count]
  · rw [trace, taken_append, settled_append, noTaken, noSettled, List.append_nil, List.append_nil, requests.fifo]
  · exact requests.requests
  · rw [trace, sent_append, responded_append, List.filterMap_append, nothing, noResponded, List.append_nil,
      List.append_nil, requests.carried]
  · intro f member
    rw [trace, sent_append, List.mem_append] at member
    exact member.elim (requests.frames f) fun new => (frames f new).1

theorem Requests.write (requests : Requests Good Member p waiting) {f : LoopFrame} (own : OwnFrame Good Member f)
    (empty : f.transaction? = none) (accepted : Bool) : Requests Good Member (p.sendFrame f accepted).2 waiting := by
  refine requests.quiet (l := [.write f accepted]) rfl rfl rfl rfl (fun g member => ?_) rfl rfl rfl
  cases accepted with
  | false => exact absurd member List.not_mem_nil
  | true =>
    obtain rfl := List.mem_singleton.mp (show g ∈ [f] from member)
    exact ⟨own, empty⟩

/-- A request that finds memory joins the queue. -/
theorem Requests.queueTransaction (requests : Requests Good Member p waiting) {r : ReceivedFrame} (whole : r.Whole)
    (good : Good r.addr r.info.bare) (now : Timeval) {m : Option Nat} (granted : (malloc p.heap m).isSome)
    (copy : Bool) :
    ∃ done p' waiting', p.queueTransaction r now m copy = some (done, p') ∧ Requests Good Member p' waiting' ∧
      p'.clientHeap = p.clientHeap ∧ p'.clientList = p.clientList ∧ p.trace <+: p'.trace := by
  obtain ⟨a, at'⟩ := Option.isSome_iff_exists.mp granted
  let r' : ReceivedFrame := { r with info := { r.info with primaryReceiptTimeStamp := now } }
  have logged : Requests Good Member (p.log (.queuing r'.info)) waiting :=
    requests.quiet (l := [.queuing r'.info]) rfl rfl rfl rfl (fun g member => absurd member List.not_mem_nil) rfl
      rfl rfl
  cases copy with
  | false =>
    refine ⟨false, p.log (.queuing r'.info), waiting, ?_, logged, rfl, rfl, List.prefix_append _ _⟩
    simp only [Primary.queueTransaction]
    erw [at']
    rfl
  | true =>
    have shape := requests.queue.insert (x := (a, r')) (malloc_fresh at') none
    obtain ⟨heap, list, run, shape'⟩ := shape.append
    refine ⟨true, ({ p.log (.queuing r'.info) with
        heap := heap, queuedTransactionList := list, numQueuedTransactions := p.numQueuedTransactions + 1
      }.log (.queued r'.info (p.numQueuedTransactions + 1))), waiting ++ [(a, r')], ?_, ?_, rfl, rfl, ?_⟩
    · simp only [Primary.queueTransaction]
      erw [at']
      dsimp only
      erw [run]
      rfl
    · constructor
      · exact shape'
      · simp [log, requests.count]
      · simp only [log_trace, taken_append, settled_append, taken_singleton, settled_singleton, PrimaryEvent.taken?,
          PrimaryEvent.settled?, Option.toList_some, Option.toList_none, List.append_nil, List.map_append, List.map_cons,
          List.map_nil, values_append, values_cons, values_nil, requests.fifo, List.append_assoc]
        rfl
      · intro q member
        simp only [values_append, values_cons, values_nil, List.mem_append, List.mem_singleton] at member
        rcases member with old | rfl
        · exact requests.requests q old
        · exact ⟨whole, good⟩
      · simp only [log_trace, sent_append, responded_append, sent_singleton, responded_singleton, PrimaryEvent.sent?,
          PrimaryEvent.responded?, Option.toList_none, List.append_nil, requests.carried]
      · simp only [log_trace, sent_append, sent_singleton, PrimaryEvent.sent?, Option.toList_none, List.append_nil]
        exact requests.frames
    · simp

/-- The first request leaves the queue when it is settled, whatever the driver took of it before. -/
theorem Requests.settle {x : Nat × ReceivedFrame} (requests : Requests Good Member p (x :: waiting))
    {q : Primary} {l : List PrimaryEvent} {t : AppTransaction} (same : t.bare = x.2.info.bare)
    (trace : q.trace = p.trace ++ l) (noTaken : taken l = []) (settled' : settled l = [t])
    (carried : (sent l).filterMap LoopFrame.transaction? = responded l)
    (frames : ∀ f ∈ sent l, OwnFrame Good Member f) (heap : q.heap = p.heap)
    (queue : q.queuedTransactionList = p.queuedTransactionList)
    (count : q.numQueuedTransactions = p.numQueuedTransactions) :
    ∃ q', q.removeQueuedTransationListHead = some q' ∧ Requests Good Member q' waiting ∧
      q'.clientHeap = q.clientHeap ∧ q'.clientList = q.clientList ∧ q'.trace = q.trace := by
  have start : q.queuedTransactionList.first = some x.1 := by
    rw [queue]
    exact requests.queue.one.chain.first
  obtain ⟨h, queue', run, shape⟩ := requests.queue.pop
  rw [← heap, ← queue] at run
  refine ⟨{ q with
    heap := h, queuedTransactionList := queue', numQueuedTransactions := q.numQueuedTransactions - 1 }, ?_, ?_, rfl,
    rfl, rfl⟩
  · simp only [removeQueuedTransationListHead, start, run, Option.bind_eq_bind, Option.bind_some]
  constructor
  · exact shape
  · have num := requests.count
    simp only [List.length_cons] at num
    dsimp only
    rw [count, num]
    push_cast
    omega
  · have fifo := requests.fifo
    simp only [values_cons, List.map_cons] at fifo
    simp only [trace, taken_append, settled_append, noTaken, settled', List.append_nil, List.map_append, List.map_cons,
      List.map_nil, fifo, same, List.append_assoc, List.cons_append, List.nil_append]
  · exact fun r member => requests.requests r (List.mem_cons_of_mem _ member)
  · simp only [trace, sent_append, responded_append, List.filterMap_append, carried, requests.carried]
  · intro f member
    simp only [trace, sent_append, List.mem_append] at member
    exact member.elim (requests.frames f) (frames f)

/-- What is known of the first request does not depend on what the primary adds to it. -/
theorem Requests.stamp {x : Nat × ReceivedFrame} (requests : Requests Good Member p (x :: waiting)) {t : AppTransaction}
    (same : t.bare = x.2.info.bare) (clientHeap : Heap Client) :
    ∃ h, LinkedList.setValue p.heap x.1 { x.2 with info := t } = some h ∧
      Requests Good Member { p with heap := h, clientHeap := clientHeap } ((x.1, { x.2 with info := t }) :: waiting) := by
  obtain ⟨h, run, shape⟩ := @Shape.setValue _ _ _ _ _ _ [] _ _ requests.queue { x.2 with info := t }
  have fifo := requests.fifo
  obtain ⟨whole, good⟩ := requests.requests x.2 List.mem_cons_self
  refine ⟨h, run, shape, requests.count, ?_, fun r member => ?_, requests.carried, requests.frames⟩
  · simpa [same] using fifo
  · rcases List.mem_cons.mp member with rfl | later
    · exact ⟨whole, same ▸ good⟩
    · exact requests.requests r (List.mem_cons_of_mem _ later)

theorem isInformation_responseControl (ns : BitVec 8) : isInformation (ns <<< 1) := by
  rw [isInformation_iff, BitVec.getLsbD_shiftLeft]
  rfl

/-- The loop over the queue settles requests until the driver takes no more. -/
theorem Requests.sendQueuedResponses (now : Nat → Timeval) (accepted : Nat → Bool) {fuel : Nat} (n : Nat)
    (requests : Requests Good Member p waiting) (known : Clients Member p.clientHeap p.clientList clients)
    (enough : waiting.length ≤ fuel) :
    ∃ p' waiting' clients', Primary.sendQueuedResponses now accepted fuel n p = some p' ∧
      Requests Good Member p' waiting' ∧ Clients Member p'.clientHeap p'.clientList clients' ∧ p.trace <+: p'.trace := by
  induction fuel generalizing n p waiting clients with
  | zero =>
    have empty := List.eq_nil_of_length_eq_zero (Nat.le_zero.mp enough)
    subst empty
    have none' : p.queuedTransactionList.first = none := requests.queue.one.chain
    refine ⟨p, [], clients, ?_, requests, known, List.prefix_rfl⟩
    rw [Primary.sendQueuedResponses]
    simp only [none']
  | succ fuel ih =>
    cases waiting with
    | nil =>
      have none' : p.queuedTransactionList.first = none := requests.queue.one.chain
      refine ⟨p, [], clients, ?_, requests, known, List.prefix_rfl⟩
      rw [Primary.sendQueuedResponses]
      simp only [none']
    | cons x rest =>
      have start : p.queuedTransactionList.first = some x.1 := requests.queue.one.chain.first
      obtain ⟨next, here⟩ := Segment.lookup requests.queue.one.chain (x := x) List.mem_cons_self
      obtain ⟨whole, good⟩ := requests.requests x.2 List.mem_cons_self
      have fewer : rest.length ≤ fuel := by simpa using enough
      rw [Primary.sendQueuedResponses]
      simp only [start, here, Option.bind_eq_bind, Option.bind_some, whole, not_true_eq_false, if_false]
      rcases getClientInfo_eq known x.2.addr with ⟨found, -⟩ | ⟨pre, c, post, rfl, same, found⟩
      · simp only [found, Option.bind_some]
        obtain ⟨p₁, run, requests₁, heap₁, list₁, trace₁⟩ := requests.settle (q := p.log (.discarded x.2.info))
          (l := [.discarded x.2.info]) rfl rfl rfl rfl rfl (by simp [sent, PrimaryEvent.sent?]) rfl rfl rfl
        have known₁ : Clients Member p₁.clientHeap p₁.clientList clients := by
          rw [heap₁, list₁]
          exact known
        obtain ⟨p', waiting', clients', run', requests', known', trace'⟩ := ih (n + 1) requests₁ known₁ fewer
        refine ⟨p', waiting', clients', by simp only [run, Option.bind_some, run'], requests', known', ?_⟩
        have grows : p.trace <+: p₁.trace := by
          rw [trace₁]
          exact List.prefix_append _ _
        exact grows.trans trace'
      · let t : AppTransaction := { x.2.info with primaryTimeStamp := now n, request := false }
        let f : LoopFrame := ⟨x.2.addr, c.2.ns <<< 1, .transaction t⟩
        obtain ⟨last, shape⟩ := known.shape
        obtain ⟨after, entry⟩ := Segment.lookup shape.one.chain (x := c) (by simp)
        obtain ⟨clientHeap, counted, known'⟩ := known.setValue (c := { c.2 with ns := (c.2.ns + 1) &&& 0x07 }) rfl
        obtain ⟨h, stamped, requests'⟩ := requests.stamp (t := t) rfl clientHeap
        have own : OwnFrame Good Member f := .response rfl (isInformation_responseControl c.2.ns) rfl good
        simp only [found, Option.bind_some, entry]
        erw [stamped, counted]
        simp only [Option.bind_some, sendFrame]
        cases taken' : accepted n with
        | false =>
          refine ⟨_, _, _, rfl, requests'.quiet (l := [.write f false]) rfl rfl rfl rfl
            (fun g member => absurd member List.not_mem_nil) rfl rfl rfl, known', List.prefix_append _ _⟩
        | true =>
          simp only [if_true]
          obtain ⟨p₁, run, requests₁, heap₁, list₁, trace₁⟩ := requests'.settle
            (q := ({ p with heap := h, clientHeap := clientHeap }.log (.write f true)).log (.responseSent t))
            (l := [.write f true] ++ [.responseSent t]) (t := t) rfl (List.append_assoc _ _ _) rfl rfl rfl
            (fun g member => by rwa [List.mem_singleton.mp (show g ∈ [f] from member)]) rfl rfl rfl
          have known₁ : Clients Member p₁.clientHeap p₁.clientList
              (pre ++ (c.1, { c.2 with ns := (c.2.ns + 1) &&& 0x07 }) :: post) := by
            rw [heap₁, list₁]
            exact known'
          obtain ⟨p', waiting', clients', run', requests'', known'', trace'⟩ := ih (n + 1) requests₁ known₁ fewer
          refine ⟨p', waiting', clients', ?_, requests'', known'', ?_⟩
          · erw [run]
            simp only [Option.bind_some, run']
          · have grows : p.trace <+: p₁.trace := by
              rw [trace₁]
              exact (List.prefix_append _ _).trans (List.prefix_append _ _)
            exact grows.trans trace'

theorem ownFrame_poll (f : LoopFrame) (addr : f.addr = broadcastAddr) (info : f.info = .absent)
    (control : f.ctrl = pollBit ||| receiverReady ∨ f.ctrl = discControl) :
    OwnFrame Good Member f ∧ f.transaction? = none := by
  refine ⟨.broadcast addr info ?_, by rw [LoopFrame.transaction?, info]⟩
  rcases control with poll | disc
  · rw [poll]
    decide
  · rw [disc]
    decide

theorem Requests.sendGeneralPoll (requests : Requests Good Member p waiting) (accepted : Bool) :
    Requests Good Member (p.sendGeneralPoll accepted).2 waiting := by
  obtain ⟨own, empty⟩ := @ownFrame_poll Good Member
    ⟨broadcastAddr, pollBit ||| receiverReady, .absent⟩ rfl rfl (.inl rfl)
  exact requests.write own empty accepted

end RequestQueue

/-- The books of the primary. -/
structure Books (Good : BitVec 8 → AppTransaction → Prop) (Member : BitVec 8 → Prop) (p : Primary) : Prop where
  clients : ∃ clients, Clients Member p.clientHeap p.clientList clients
  requests : ∃ waiting, Requests Good Member p waiting

theorem Requests.setIdle (requests : Requests Good Member p waiting) (mode : Nat) :
    Requests Good Member (p.log (.setIdle mode)) waiting :=
  requests.quiet (l := [.setIdle mode]) rfl rfl rfl rfl (fun _ member => absurd member List.not_mem_nil) rfl rfl rfl

theorem Books.sendTransactionResponses (books : Books Good Member p) (now : Nat → Timeval) (accepted : Nat → Bool)
    (pollAccepted : Bool) :
    ∃ p', p.sendTransactionResponses now accepted pollAccepted = some p' ∧ Books Good Member p' ∧
      p.trace <+: p'.trace := by
  obtain ⟨⟨clients, known⟩, waiting, requests⟩ := books
  have bound : waiting.length ≤ p.heap.keys.card := Chain.length_le requests.queue.one.chain
  cases waiting with
  | nil =>
    have none' : p.queuedTransactionList.first = none := requests.queue.one.chain
    exact ⟨p, by simp only [Primary.sendTransactionResponses, none'], ⟨⟨clients, known⟩, [], requests⟩, List.prefix_rfl⟩
  | cons x rest =>
    have start : p.queuedTransactionList.first = some x.1 := requests.queue.one.chain.first
    obtain ⟨next, here⟩ := Segment.lookup requests.queue.one.chain (x := x) List.mem_cons_self
    simp only [Primary.sendTransactionResponses, start, here, Option.bind_eq_bind, Option.bind_some]
    cases more : next.isSome with
    | false =>
      simp only [Bool.false_eq_true, if_false]
      obtain ⟨p₁, waiting₁, clients₁, run, requests₁, known₁, grows⟩ :=
        requests.sendQueuedResponses now accepted 0 known bound
      refine ⟨(p₁.sendGeneralPoll pollAccepted).2, by rw [run]; rfl,
        ⟨⟨clients₁, known₁⟩, waiting₁, requests₁.sendGeneralPoll pollAccepted⟩, grows.trans (List.prefix_append _ _)⟩
    | true =>
      simp only [if_true]
      obtain ⟨p₁, waiting₁, clients₁, run, requests₁, known₁, grows⟩ :=
        (requests.setIdle hdlcTxidleFlags).sendQueuedResponses now accepted 0 known bound
      refine ⟨(p₁.sendGeneralPoll pollAccepted).2.log (.setIdle hdlcTxidleOnes), by erw [run]; rfl,
        ⟨⟨clients₁, known₁⟩, waiting₁, (requests₁.sendGeneralPoll pollAccepted).setIdle _⟩, ?_⟩
      have idle : p.trace <+: (p.log (.setIdle hdlcTxidleFlags)).trace := List.prefix_append _ _
      exact idle.trans (grows.trans ((List.prefix_append _ _).trans (List.prefix_append _ _)))

theorem Books.checkTransmit (books : Books Good Member p) (now : Nat → Timeval) (accepted : Nat → Bool)
    (pollAccepted : Bool) :
    ∃ p', p.checkTransmit now accepted pollAccepted = some p' ∧ Books Good Member p' ∧ p.trace <+: p'.trace := by
  rw [Primary.checkTransmit]
  by_cases running : p.pollTimer ≠ 0
  · rw [if_pos running]
    exact ⟨p, rfl, books, List.prefix_rfl⟩
  rw [if_neg running]
  by_cases queued : p.queuedTransactionList.first ≠ none
  · obtain ⟨p₁, run, ⟨clients₁, waiting₁, requests₁⟩, grows⟩ :=
      books.sendTransactionResponses now accepted pollAccepted
    rw [if_pos queued, run]
    exact ⟨_, rfl, ⟨clients₁, waiting₁, { requests₁ with }⟩, grows⟩
  · rw [if_neg queued]
    obtain ⟨clients, waiting, requests⟩ := books
    exact ⟨_, rfl, ⟨clients, waiting, { requests.sendGeneralPoll pollAccepted with }⟩, List.prefix_append _ _⟩

/-- The frame that arrives, if one does, is what is known of requests and of stations. -/
def Proper (Good : BitVec 8 → AppTransaction → Prop) (Member : BitVec 8 → Prop) : PrimaryInput → Prop
  | .frame r _ _ _ _ => r.addr ≠ broadcastAddr →
    (isInformation r.ctrl → r.info.request = true → r.Whole ∧ Good r.addr r.info.bare) ∧
      (r.size = 2 → r.ctrl = simControl → Member r.addr)
  | _ => True

variable {Good' : BitVec 8 → AppTransaction → Prop} {Member' : BitVec 8 → Prop}

theorem OwnFrame.mono {f : LoopFrame} (good : ∀ a t, Good a t → Good' a t) (member : ∀ a, Member a → Member' a)
    (own : OwnFrame Good Member f) : OwnFrame Good' Member' f := by
  cases own with
  | broadcast addr info kind => exact .broadcast addr info kind
  | simResponse known => exact .simResponse (member _ known)
  | response info kind response known => exact .response info kind response (good _ _ known)

/-- More may be known of the requests and of the stations later. -/
theorem Books.mono (books : Books Good Member p) (good : ∀ a t, Good a t → Good' a t)
    (member : ∀ a, Member a → Member' a) : Books Good' Member' p := by
  obtain ⟨⟨clients, known⟩, waiting, requests⟩ := books
  refine ⟨⟨clients, known.shape, known.distinct, fun c listed => member _ (known.members c listed)⟩, waiting, ?_⟩
  exact ⟨requests.queue, requests.count, requests.fifo,
    fun r listed => ⟨(requests.requests r listed).1, good _ _ (requests.requests r listed).2⟩, requests.carried,
    fun f taken => (requests.frames f taken).mono good member⟩

theorem Books.processRxFrames (books : Books Good Member p) {r : ReceivedFrame} (now : Timeval) (memory : Option Nat)
    (copy accepted : Bool) (good : isInformation r.ctrl → r.info.request = true → r.Whole ∧ Good r.addr r.info.bare)
    (member : r.size = 2 → r.ctrl = simControl → Member r.addr) :
    (∃ p', p.processRxFrames r now memory copy accepted = some p' ∧ Books Good Member p' ∧ p.trace <+: p'.trace) ∨
      p.processRxFrames r now memory copy accepted = none ∧ malloc p.heap memory = none := by
  have stays : Books Good Member p := books
  obtain ⟨⟨clients, known⟩, waiting, requests⟩ := books
  rw [Primary.processRxFrames]
  by_cases sim : r.size = 2 ∧ r.ctrl = simControl
  · obtain ⟨allocated, heap, list, clients', run, known'⟩ := known.allocate (member sim.1 sim.2) memory
    have requests' : Requests Good Member { p with clientHeap := heap, clientList := list } waiting := { requests with }
    rw [if_pos sim, run]
    cases allocated with
    | false => exact .inl ⟨_, rfl, ⟨⟨clients', known'⟩, waiting, requests'⟩, List.prefix_rfl⟩
    | true =>
      refine .inl ⟨_, rfl, ⟨⟨clients', known'⟩, waiting, ?_⟩, List.prefix_append _ _⟩
      exact requests'.write (.simResponse (member sim.1 sim.2)) rfl accepted
  rw [if_neg sim]
  by_cases disc : r.size = 2 ∧ r.ctrl = discControl
  · obtain ⟨heap, list, clients', run, known'⟩ := known.deallocate r.addr
    rw [if_pos disc, run]
    exact .inl ⟨_, rfl, ⟨⟨clients', known'⟩, waiting, { requests with }⟩, List.prefix_rfl⟩
  rw [if_neg disc]
  by_cases information : isInformation r.ctrl
  swap
  · rw [if_neg information]
    exact .inl ⟨p, rfl, stays, List.prefix_rfl⟩
  rw [if_pos information]
  rcases getClientInfo_eq known r.addr with ⟨found, -⟩ | ⟨pre, c, post, -, -, found⟩
  · rw [found]
    exact .inl ⟨p, rfl, stays, List.prefix_rfl⟩
  rw [found]
  by_cases request : r.info.request
  · cases granted : malloc p.heap memory with
    | none =>
      have refused : p.queueTransaction r now memory copy = none := by
        rw [Primary.queueTransaction]
        erw [granted]
      exact .inr ⟨by simp [request, refused], rfl⟩
    | some a =>
      obtain ⟨whole, good'⟩ := good information request
      obtain ⟨done, p', waiting', run, requests', heap, list, grows⟩ :=
        requests.queueTransaction whole good' now (m := memory) (by rw [granted]; rfl) copy
      refine .inl ⟨p', by simp [request, run], ⟨⟨clients, ?_⟩, waiting', requests'⟩, grows⟩
      rw [heap, list]
      exact known
  · exact .inl ⟨p, by simp [request], stays, List.prefix_rfl⟩

theorem Books.processRxDiscFrames (books : Books Good Member p) (r : ReceivedFrame) :
    ∃ p', p.processRxDiscFrames r = some p' ∧ Books Good Member p' ∧ p.trace <+: p'.trace := by
  rw [Primary.processRxDiscFrames]
  by_cases disc : r.size = 2 ∧ r.ctrl = discControl
  · obtain ⟨⟨clients, known⟩, waiting, requests⟩ := books
    obtain ⟨heap, list, clients', run, known'⟩ := known.deallocate r.addr
    rw [if_pos disc, run]
    exact ⟨_, rfl, ⟨⟨clients', known'⟩, waiting, { requests with }⟩, List.prefix_rfl⟩
  · rw [if_neg disc]
    exact ⟨p, rfl, books, List.prefix_rfl⟩

theorem Books.broadcastDisc (books : Books Good Member p) (accepted : Bool) :
    Books Good Member (p.broadcastDisc accepted) ∧ p.trace <+: (p.broadcastDisc accepted).trace := by
  obtain ⟨⟨clients, known⟩, waiting, requests⟩ := books
  unfold Primary.broadcastDisc
  split
  · obtain ⟨own, empty⟩ := @ownFrame_poll Good Member ⟨broadcastAddr, discControl, .absent⟩ rfl rfl
      (.inr rfl)
    have requests' := requests.write own empty accepted
    cases accepted with
    | false => exact ⟨⟨⟨clients, known⟩, waiting, { requests' with }⟩, List.prefix_append _ _⟩
    | true => exact ⟨⟨⟨clients, known⟩, waiting, { requests' with }⟩, List.prefix_append _ _⟩
  · exact ⟨⟨⟨clients, known⟩, waiting, { requests with }⟩, List.prefix_rfl⟩

/-- There is no memory for the entry of a request. -/
def Refused (p : Primary) (e : PrimaryInput) : Prop :=
  ∃ r now memory copy accepted, e = .frame r now memory copy accepted ∧ malloc p.heap memory = none

/-- A step of the primary keeps its books, unless the program falls over missing memory. -/
theorem Books.run (books : Books Good Member p) {e : PrimaryInput} (proper : Proper Good Member e) :
    (∃ p', p.run e = some p' ∧ Books Good Member p' ∧ p.trace <+: p'.trace) ∨ p.run e = none ∧ Refused p e := by
  have phases : ∀ phase : PrimaryPhase, Books Good Member { p with phase := phase } := fun phase =>
    ⟨books.clients, books.requests.imp fun _ requests => { requests with }⟩
  cases e with
  | loop =>
    by_cases leave : p.exitApplication
    · refine .inl ⟨{ p with pollTimer := p.pollInterval, exitApplication := false, phase := .disconnecting },
        by simp [Primary.run, leave], ⟨books.clients, books.requests.imp fun _ requests => { requests with }⟩,
        List.prefix_rfl⟩
    · exact .inl ⟨{ p with phase := .receiving }, by simp [Primary.run, leave], phases _, List.prefix_rfl⟩
  | frame r now memory copy accepted =>
    by_cases passed : r.Passed true
    · obtain ⟨good, member⟩ := proper (passed rfl)
      by_cases main : p.phase = .receiving
      · simp only [Primary.run, if_pos passed, if_pos main]
        exact (books.processRxFrames now memory copy accepted good member).imp_right fun refused =>
          ⟨refused.1, r, now, memory, copy, accepted, rfl, refused.2⟩
      · simp only [Primary.run, if_pos passed, if_neg main]
        exact .inl (books.processRxDiscFrames r)
    · exact .inl ⟨p, by simp [Primary.run, passed], books, List.prefix_rfl⟩
  | timeout =>
    by_cases main : p.phase = .receiving
    · exact .inl ⟨{ p with phase := .transmitting }, by simp [Primary.run, main], phases _, List.prefix_rfl⟩
    by_cases leave : p.clientList = none ∨ p.exitApplication
    · exact .inl ⟨{ p with phase := .ended }, by simp only [Primary.run, if_neg main, if_pos leave], phases _,
        List.prefix_rfl⟩
    · exact .inl ⟨{ p with phase := .disconnecting }, by simp only [Primary.run, if_neg main, if_neg leave], phases _,
        List.prefix_rfl⟩
  | transmit now accepted pollAccepted =>
    obtain ⟨p₁, run, ⟨clients₁, waiting₁, requests₁⟩, grows⟩ := books.checkTransmit now accepted pollAccepted
    exact .inl ⟨{ p₁ with phase := .top }, by simp [Primary.run, run], ⟨clients₁, waiting₁, { requests₁ with }⟩, grows⟩
  | broadcast accepted => exact .inl ⟨p.broadcastDisc accepted, rfl, books.broadcastDisc accepted⟩
  | alarm =>
    refine .inl ⟨p.alarm, rfl, ?_⟩
    unfold Primary.alarm
    dsimp only
    split
    · exact ⟨⟨books.clients, books.requests.imp fun _ requests => { requests with }⟩, List.prefix_rfl⟩
    · exact ⟨⟨books.clients, books.requests.imp fun _ requests => { requests with }⟩, List.prefix_rfl⟩
  | interrupt =>
    exact .inl ⟨{ p with exitApplication := true }, rfl,
      ⟨books.clients, books.requests.imp fun _ requests => { requests with }⟩, List.prefix_rfl⟩

def start (interval : BitVec 32) : Primary := { pollInterval := interval }

theorem books_start (interval : BitVec 32) : Books Good Member (start interval) where
  clients := ⟨[], ⟨none, Shape.empty⟩, by simp, by simp⟩
  requests := ⟨[], Shape.empty, rfl, rfl, by simp, rfl, by simp [start, sent]⟩

/-- Whatever frames reach the primary: as long as it has memory for a request it never follows a dangling pointer, it
settles the requests in the order in which it took them, and what held of each request it took holds of what it
answers. -/
theorem primary_books {interval : BitVec 32} {path : List (PrimaryInput × Primary)}
    (run : Run (fun p e q => Step p e q ∧ Proper Good Member e) (start interval) path) :
    Books Good Member (last (start interval) path) ∧
      ∀ e, Proper Good Member e → (last (start interval) path).run e = none → Refused (last (start interval) path) e := by
  have books := Run.last_invariant (P := Books Good Member) (fun p e q books step => ?_) run (books_start interval)
  · refine ⟨books, fun e proper stuck => ?_⟩
    rcases books.run proper with ⟨p', done, -⟩ | ⟨-, refused⟩
    · rw [stuck] at done
      cases done
    · exact refused
  · obtain ⟨⟨-, done⟩, proper⟩ := step
    rcases books.run proper with ⟨p', done', books', -⟩ | ⟨stuck, -⟩
    · rw [done, Option.some.injEq] at done'
      exact done' ▸ books'
    · rw [stuck] at done
      cases done

/-- The primary polls, a station joins and its request is answered. -/
def served : List PrimaryInput :=
  [.loop, .frame ⟨1, simControl, 2, {}⟩ {} (some 0) true true,
    .frame ⟨1, 0x10, 2 + sizeofTransaction, { addr := 1, request := true, transactionNumber := 1 }⟩ {} (some 0) true true,
    .timeout, .transmit (fun _ => {}) (fun _ => true) true]

theorem primary_books_served :
    Books (fun addr t => t.addr = addr) (fun addr => addr = 1) (last (start 0) (trail next (start 0) served)) ∧
      (responded (last (start 0) (trail next (start 0) served)).trace).length = 1 := by
  have proper : ∀ e ∈ served, Proper (fun addr t => t.addr = addr) (fun addr => addr = 1) e := by
    intro e member
    simp only [served, List.mem_cons, List.not_mem_nil, or_false] at member
    rcases member with rfl | rfl | rfl | rfl | rfl
    · trivial
    · exact fun _ => ⟨fun kind => absurd kind (by decide), fun _ _ => rfl⟩
    · exact fun _ => ⟨fun _ _ => ⟨by decide, rfl⟩, fun short => absurd short (by decide)⟩
    · trivial
    · trivial
  exact ⟨(primary_books (run_trail _ _ fun _ e member _ done => ⟨step_of_next done, proper e member⟩)).1,
    by decide +kernel⟩

end Primary

end Route56
