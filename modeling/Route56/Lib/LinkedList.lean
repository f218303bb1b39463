import Mathlib.Data.Finmap
import Mathlib.Tactic

namespace LinkedList

variable {α : Type}

structure Node (α : Type) where
  value : α
  next : Option Nat

/-- The allocated nodes by their addresses. -/
abbrev Heap (α : Type) := Finmap fun _ : Nat => Node α

/-- The nodes from one pointer up to another, each with its address. -/
def Segment (h : Heap α) : Option Nat → List (Nat × α) → Option Nat → Prop
  | p, [], q => p = q
  | p, x :: rest, q => p = some x.1 ∧ ∃ next, h.lookup x.1 = some ⟨x.2, next⟩ ∧ Segment h next rest q

/-- The nodes from a pointer to the end of the list. -/
abbrev Chain (h : Heap α) (p : Option Nat) (xs : List (Nat × α)) : Prop := Segment h p xs none

def addresses (xs : List (Nat × α)) : List Nat := xs.map Prod.fst

def values (xs : List (Nat × α)) : List α := xs.map Prod.snd

@[simp] theorem addresses_nil : addresses ([] : List (Nat × α)) = [] := rfl

@[simp] theorem addresses_cons (x : Nat × α) (xs : List (Nat × α)) : addresses (x :: xs) = x.1 :: addresses xs := rfl

@[simp] theorem addresses_append (xs ys : List (Nat × α)) : addresses (xs ++ ys) = addresses xs ++ addresses ys :=
  List.map_append

@[simp] theorem values_nil : values ([] : List (Nat × α)) = [] := rfl

@[simp] theorem values_cons (x : Nat × α) (xs : List (Nat × α)) : values (x :: xs) = x.2 :: values xs := rfl

@[simp] theorem values_append (xs ys : List (Nat × α)) : values (xs ++ ys) = values xs ++ values ys :=
  List.map_append

theorem mem_addresses {x : Nat × α} {xs : List (Nat × α)} (member : x ∈ xs) : x.1 ∈ addresses xs :=
  List.mem_map_of_mem member

section Segments

variable {h h' : Heap α} {p q m : Option Nat} {xs ys : List (Nat × α)} {x : Nat × α}

theorem segment_append : Segment h p (xs ++ ys) q ↔ ∃ m, Segment h p xs m ∧ Segment h m ys q := by
  induction xs generalizing p with
  | nil => exact ⟨fun seg => ⟨p, rfl, seg⟩, fun ⟨m, start, seg⟩ => (show p = m from start) ▸ seg⟩
  | cons x rest ih =>
    constructor
    · rintro ⟨start, next, here, later⟩
      obtain ⟨m, front, back⟩ := ih.mp later
      exact ⟨m, ⟨start, next, here, front⟩, back⟩
    · rintro ⟨m, ⟨start, next, here, front⟩, back⟩
      exact ⟨start, next, here, ih.mpr ⟨m, front, back⟩⟩

theorem Segment.first (seg : Segment h p (x :: xs) q) : p = some x.1 := seg.1

/-- The nodes are allocated. -/
theorem Segment.lookup (seg : Segment h p xs q) (member : x ∈ xs) : ∃ next, h.lookup x.1 = some ⟨x.2, next⟩ := by
  obtain ⟨front, back, rfl⟩ := List.append_of_mem member
  obtain ⟨m, -, -, next, here, -⟩ := segment_append.mp seg
  exact ⟨next, here⟩

/-- Only the nodes of the segment matter. -/
theorem Segment.congr (seg : Segment h p xs q) (same : ∀ a ∈ addresses xs, h'.lookup a = h.lookup a) :
    Segment h' p xs q := by
  induction xs generalizing p with
  | nil => exact seg
  | cons y rest ih =>
    obtain ⟨start, next, here, later⟩ := seg
    refine ⟨start, next, ?_, ih later fun a member => same a (List.mem_cons_of_mem _ member)⟩
    rw [same y.1 List.mem_cons_self, here]

theorem Segment.insert {a : Nat} {node : Node α} (seg : Segment h p xs q) (off : a ∉ addresses xs) :
    Segment (h.insert a node) p xs q :=
  seg.congr fun _ member => Finmap.lookup_insert_of_ne h fun same => off (same ▸ member)

theorem Segment.erase {a : Nat} (seg : Segment h p xs q) (off : a ∉ addresses xs) : Segment (h.erase a) p xs q :=
  seg.congr fun _ member => Finmap.lookup_erase_ne fun same => off (same ▸ member)

/-- The last node of a segment can be made to point elsewhere. -/
theorem Segment.redirect {y : Nat × α} {r : Option Nat} (seg : Segment h p (xs ++ [y]) q)
    (once : y.1 ∉ addresses xs) : Segment (h.insert y.1 ⟨y.2, r⟩) p (xs ++ [y]) r := by
  obtain ⟨m, front, start, -⟩ := segment_append.mp seg
  exact segment_append.mpr ⟨m, front.insert once, start, r, Finmap.lookup_insert h, rfl⟩

theorem Chain.unique (one : Chain h p xs) (two : Chain h p ys) : xs = ys := by
  induction xs generalizing p ys with
  | nil =>
    cases ys with
    | nil => rfl
    | cons y rest => exact absurd ((show p = none from one).symm.trans two.1) nofun
  | cons x rest ih =>
    cases ys with
    | nil => exact absurd ((show p = none from two).symm.trans one.1) nofun
    | cons y others =>
      obtain ⟨start, next, here, later⟩ := one
      obtain ⟨start', next', here', later'⟩ := two
      have address : x.1 = y.1 := Option.some.inj (start.symm.trans start')
      rw [address, here'] at here
      obtain ⟨value, follows⟩ := Node.mk.inj (Option.some.inj here)
      subst follows
      rw [ih later later', Prod.ext address value.symm]

/-- A list does not come back to a node: from there on it would not end. -/
theorem Chain.nodup (chain : Chain h p xs) : (addresses xs).Nodup := by
  induction xs generalizing p with
  | nil => exact List.nodup_nil
  | cons x rest ih =>
    obtain ⟨start, next, here, later⟩ := chain
    refine List.nodup_cons.mpr ⟨fun again => ?_, ih later⟩
    obtain ⟨y, member, same⟩ := List.mem_map.mp again
    obtain ⟨front, back, rfl⟩ := List.append_of_mem member
    obtain ⟨m, -, rest⟩ := segment_append.mp later
    have whole : Chain h (some x.1) (x :: (front ++ y :: back)) := ⟨rfl, next, here, later⟩
    have inner : Chain h (some x.1) (y :: back) := same ▸ rest.first ▸ rest
    have lengths := congrArg List.length (whole.unique inner)
    simp only [List.length_cons, List.length_append] at lengths
    omega

/-- There are no more nodes in a list than in the heap. -/
theorem Chain.length_le (chain : Chain h p xs) : xs.length ≤ h.keys.card := by
  have inside : (addresses xs).toFinset ⊆ h.keys := by
    intro a member
    obtain ⟨x, here, rfl⟩ := List.mem_map.mp (List.mem_toFinset.mp member)
    obtain ⟨next, found⟩ := Segment.lookup chain here
    exact Finmap.mem_keys.mpr (Finmap.mem_of_lookup_eq_some found)
  have card := Finset.card_le_card inside
  rwa [List.toFinset_card_of_nodup chain.nodup, addresses, List.length_map] at card

end Segments

/-- `malloc` gives an address not in use, or none. -/
def malloc (h : Heap α) (choice : Option Nat) : Option Nat := choice.filter fun a => a ∉ h

theorem malloc_fresh {h : Heap α} {choice : Option Nat} {a : Nat} (granted : malloc h choice = some a) : a ∉ h := by
  simpa using (Option.filter_eq_some_iff.mp granted).2

def setNext (h : Heap α) (p : Nat) (next : Option Nat) : Option (Heap α) :=
  (h.lookup p).map fun node => h.insert p ⟨node.value, next⟩

def setValue (h : Heap α) (p : Nat) (value : α) : Option (Heap α) :=
  (h.lookup p).map fun node => h.insert p ⟨value, node.next⟩

/-- Walk from `p` until a value passes the test: the values that did not, and where there is one the node found with
the one before it. -/
def search (h : Heap α) (test : α → Bool) : Nat → Option Nat → Option Nat → Option (List α × Option (Option Nat × Nat))
  | _, _, none => some ([], none)
  | 0, _, some _ => none
  | fuel + 1, before, some p => do
    let node ← h.lookup p
    if test node.value then some ([], some (before, p))
    else do
      let (passed, found) ← search h test fuel (some p) node.next
      some (node.value :: passed, found)

/-- Walk from `p` to the last node. -/
def tail (h : Heap α) : Nat → Nat → Option Nat
  | 0, _ => none
  | fuel + 1, p => do
    let node ← h.lookup p
    match node.next with
    | none => some p
    | some q => tail h fuel q

/-- Take the node at `p` out of the list from `first`, where `before` is the node before it; the node itself stays. -/
def unlink (h : Heap α) (first before : Option Nat) (p : Nat) : Option (Heap α × Option Nat) := do
  let node ← h.lookup p
  if some p = first then some (h, node.next)
  else do
    let before ← before
    let h ← setNext h before node.next
    some (h, first)

/-- A list with a pointer to its last node. -/
structure Queue where
  first : Option Nat := none
  last : Option Nat := none
  deriving DecidableEq

def Queue.append (q : Queue) (p : Nat) (h : Heap α) : Option (Heap α × Queue) := do
  let h ← setNext h p none
  match q.first with
  | none => some (h, ⟨some p, some p⟩)
  | some first => do
    let tail ← q.last
    let h ← setNext h tail (some p)
    some (h, ⟨some first, some p⟩)

/-- Take the node at `p` out of a queue and free it; the one before it may be the last then. -/
def Queue.remove (q : Queue) (before : Option Nat) (p : Nat) (h : Heap α) : Option (Heap α × Queue) := do
  let (h, first) ← unlink h q.first before p
  match before with
  | none => some (h.erase p, ⟨first, q.last⟩)
  | some b => do
    let node ← h.lookup b
    some (h.erase p, ⟨first, if node.next = none then some b else q.last⟩)

/-- Free the first node of a queue. -/
def Queue.pop (q : Queue) (h : Heap α) : Option (Heap α × Queue) := do
  let p ← q.first
  let node ← h.lookup p
  some (h.erase p, ⟨node.next, q.last⟩)

section Operations

variable {h h' : Heap α} {p q before : Option Nat} {xs pre post : List (Nat × α)} {x : Nat × α} {a : Nat}
  {node : Node α} {test : α → Bool} {fuel : Nat}

theorem setNext_eq (found : h.lookup a = some node) (next : Option Nat) :
    setNext h a next = some (h.insert a ⟨node.value, next⟩) := by
  rw [setNext, found, Option.map_some]

theorem setValue_eq (found : h.lookup a = some node) (value : α) :
    setValue h a value = some (h.insert a ⟨value, node.next⟩) := by
  rw [setValue, found, Option.map_some]

theorem mem_insert_of_lookup (found : h.lookup a = some node) (other : Node α) (b : Nat) :
    b ∈ h.insert a other ↔ b ∈ h := by
  rw [Finmap.mem_insert, or_iff_right_of_imp]
  rintro rfl
  exact Finmap.mem_of_lookup_eq_some found

theorem search_none (chain : Chain h p xs) (enough : xs.length ≤ fuel) (fails : ∀ x ∈ xs, test x.2 = false) :
    search h test fuel before p = some (values xs, none) := by
  induction xs generalizing p before fuel with
  | nil =>
    obtain rfl : p = none := chain
    cases fuel <;> rfl
  | cons x rest ih =>
    obtain ⟨rfl, next, here, later⟩ := chain
    obtain ⟨more, rfl⟩ : ∃ more, fuel = more + 1 := ⟨fuel - 1, by simp only [List.length_cons] at enough; omega⟩
    have inner := @ih next (some x.1) more later (by simpa using enough) fun y member =>
      fails y (List.mem_cons_of_mem _ member)
    simp only [search, here, Option.bind_eq_bind, Option.bind_some, fails x List.mem_cons_self, inner,
      Bool.false_eq_true, if_false, values_cons]

theorem search_some (chain : Chain h p (pre ++ x :: post)) (enough : pre.length < fuel)
    (fails : ∀ y ∈ pre, test y.2 = false) (passes : test x.2 = true) :
    search h test fuel before p =
      some (values pre, some ((pre.getLast?.map Prod.fst).or before, x.1)) := by
  induction pre generalizing p before fuel with
  | nil =>
    obtain ⟨rfl, next, here, -⟩ := chain
    obtain ⟨more, rfl⟩ : ∃ more, fuel = more + 1 := ⟨fuel - 1, by simp only [List.length_nil] at enough; omega⟩
    simp [search, here, passes]
  | cons y rest ih =>
    obtain ⟨rfl, next, here, later⟩ := chain
    obtain ⟨more, rfl⟩ : ∃ more, fuel = more + 1 := ⟨fuel - 1, by simp only [List.length_cons] at enough; omega⟩
    have inner := @ih next (some y.1) more later (by simpa using enough) fun z member =>
      fails z (List.mem_cons_of_mem _ member)
    have before' : ((y :: rest).getLast?.map Prod.fst).or before = (rest.getLast?.map Prod.fst).or (some y.1) := by
      rw [List.getLast?_cons]
      cases rest.getLast? <;> rfl
    rw [before']
    simp only [search, here, Option.bind_eq_bind, Option.bind_some, fails y List.mem_cons_self, inner,
      Bool.false_eq_true, if_false, values_cons]

theorem tail_eq {first : Nat} (chain : Chain h (some first) xs) (enough : xs.length ≤ fuel) :
    tail h fuel first = xs.getLast?.map Prod.fst := by
  induction xs generalizing first fuel with
  | nil => exact absurd (show some first = none from chain) nofun
  | cons x rest ih =>
    obtain ⟨start, next, here, later⟩ := chain
    obtain rfl : first = x.1 := Option.some.inj start
    obtain ⟨more, rfl⟩ : ∃ more, fuel = more + 1 := ⟨fuel - 1, by simp only [List.length_cons] at enough; omega⟩
    cases rest with
    | nil =>
      obtain rfl : next = none := later
      simp [tail, here]
    | cons y others =>
      obtain rfl : next = some y.1 := later.first
      have inner := ih later (by simpa using enough)
      simp only [tail, here, Option.bind_eq_bind, Option.bind_some, inner, List.getLast?_cons_cons]

/-- Unlinking a node leaves the others in their order. -/
theorem unlink_spec (chain : Chain h p (pre ++ x :: post)) :
    ∃ h' q, unlink h p (pre.getLast?.map Prod.fst) x.1 = some (h', q) ∧ Chain h' q (pre ++ post) ∧
      (∀ a ∉ addresses pre, h'.lookup a = h.lookup a) ∧ ∀ a, a ∈ h' ↔ a ∈ h := by
  have nodup := chain.nodup
  obtain ⟨m, front, rfl, next, here, back⟩ := segment_append.mp chain
  rcases List.eq_nil_or_concat' pre with rfl | ⟨init, y, rfl⟩
  · obtain rfl : p = some x.1 := front
    exact ⟨h, next, by simp [unlink, here], back, fun _ _ => rfl, fun _ => Iff.rfl⟩
  · simp only [addresses_append, addresses_cons, List.append_assoc, List.cons_append, List.nil_append,
      List.nodup_append, List.nodup_cons, List.mem_cons, not_or] at nodup
    obtain ⟨-, ⟨⟨differs, off⟩, offX, -⟩, apart⟩ := nodup
    obtain ⟨after, atY⟩ := front.lookup (List.mem_append_right init List.mem_cons_self)
    have notFirst : some x.1 ≠ p := by
      cases init with
      | nil => rw [front.first]; exact fun same => differs (Option.some.inj same).symm
      | cons z rest =>
        rw [front.first]
        exact fun same => apart z.1 List.mem_cons_self x.1 (.inr (.inl rfl)) (Option.some.inj same).symm
    refine ⟨h.insert y.1 ⟨y.2, next⟩, p, ?_, ?_, ?_, ?_⟩
    · simp [unlink, here, notFirst, setNext, atY]
    · exact segment_append.mpr ⟨next, front.redirect fun again => apart y.1 again y.1 (.inl rfl) rfl, back.insert off⟩
    · intro a out
      refine Finmap.lookup_insert_of_ne h fun same => out ?_
      simp [same]
    · exact mem_insert_of_lookup atY _

/-- A node is taken out of a queue as out of a list. -/
theorem Queue.remove_unlinks {q q' : Queue} (run : q.remove before a h = some (h', q')) :
    ∃ h₁, unlink h q.first before a = some (h₁, q'.first) ∧ h' = h₁.erase a := by
  cases cut : unlink h q.first before a with
  | none => simp [Queue.remove, cut] at run
  | some result =>
    obtain ⟨h₁, first⟩ := result
    cases before with
    | none =>
      simp only [Queue.remove, cut, Option.bind_eq_bind, Option.bind_some, Option.some.injEq, Prod.mk.injEq] at run
      obtain ⟨rfl, rfl⟩ := run
      exact ⟨h₁, rfl, rfl⟩
    | some b =>
      simp only [Queue.remove, cut, Option.bind_eq_bind, Option.bind_some] at run
      cases found : h₁.lookup b with
      | none => simp [found] at run
      | some node =>
        simp only [found, Option.bind_some, Option.some.injEq, Prod.mk.injEq] at run
        obtain ⟨rfl, rfl⟩ := run
        exact ⟨h₁, rfl, rfl⟩

/-- The list of a queue, whose last node the pointer finds. -/
structure Queue.Holds (h : Heap α) (q : Queue) (xs : List (Nat × α)) : Prop where
  chain : Chain h q.first xs
  atEnd : ∀ x, xs.getLast? = some x → q.last = some x.1

theorem Queue.Holds.congr {q : Queue} (holds : q.Holds h xs) (same : ∀ a ∈ addresses xs, h'.lookup a = h.lookup a) :
    q.Holds h' xs :=
  ⟨Segment.congr holds.chain same, holds.atEnd⟩

/-- Appending a node moves it to the end of the list. -/
theorem Queue.append_spec {q : Queue} (holds : q.Holds h xs) (found : h.lookup a = some node)
    (off : a ∉ addresses xs) :
    ∃ h' q', q.append a h = some (h', q') ∧ q'.Holds h' (xs ++ [(a, node.value)]) ∧
      (∀ b, b ≠ a → b ∉ addresses xs → h'.lookup b = h.lookup b) ∧ ∀ b, b ∈ h' ↔ b ∈ h := by
  have ended : ∀ x, (xs ++ [(a, node.value)]).getLast? = some x → some a = some x.1 := by
    intro x last
    rw [List.getLast?_concat, Option.some.injEq] at last
    rw [← last]
  have same : ∀ b, b ≠ a → (h.insert a ⟨node.value, none⟩).lookup b = h.lookup b := fun b differs =>
    Finmap.lookup_insert_of_ne h differs
  rcases List.eq_nil_or_concat' xs with rfl | ⟨init, y, rfl⟩
  · have empty : q.first = none := holds.chain
    refine ⟨h.insert a ⟨node.value, none⟩, ⟨some a, some a⟩, ?_, ⟨⟨rfl, none, Finmap.lookup_insert h, rfl⟩, ended⟩,
      fun b differs _ => same b differs, mem_insert_of_lookup found _⟩
    simp only [Queue.append, setNext_eq found, empty, Option.bind_eq_bind, Option.bind_some]
  · have once : y.1 ∉ addresses init := by
      have nodup := holds.chain.nodup
      simp only [addresses_append, addresses_cons, addresses_nil, List.nodup_append] at nodup
      exact fun again => nodup.2.2 y.1 again y.1 List.mem_cons_self rfl
    have differs : y.1 ≠ a := fun same => off (by simp [← same])
    obtain ⟨after, atY⟩ := Segment.lookup holds.chain (List.mem_append_right init List.mem_cons_self)
    have atY' : (h.insert a ⟨node.value, none⟩).lookup y.1 = some ⟨y.2, after⟩ := by rw [same _ differs, atY]
    have tail : q.last = some y.1 := holds.atEnd y List.getLast?_concat
    have front : Chain (h.insert a ⟨node.value, none⟩) q.first (init ++ [y]) := Segment.insert holds.chain off
    obtain ⟨first, start⟩ : ∃ first, q.first = some first := by
      cases init with
      | nil => exact ⟨_, holds.chain.first⟩
      | cons z rest => exact ⟨_, holds.chain.first⟩
    refine ⟨(h.insert a ⟨node.value, none⟩).insert y.1 ⟨y.2, some a⟩, ⟨q.first, some a⟩, ?_, ⟨?_, ended⟩, ?_, ?_⟩
    · simp only [Queue.append, setNext_eq found, start, tail, setNext_eq atY', Option.bind_eq_bind, Option.bind_some]
    · refine segment_append.mpr ⟨some a, front.redirect once, rfl, none, ?_, rfl⟩
      rw [Finmap.lookup_insert_of_ne _ differs.symm, Finmap.lookup_insert]
    · intro b differs' out
      rw [Finmap.lookup_insert_of_ne _ fun same => out (by simp [same]), same b differs']
    · intro b
      rw [mem_insert_of_lookup atY', mem_insert_of_lookup found]

/-- A heap that two queues and some nodes in neither share, and nothing else. -/
structure Shape (h : Heap α) (q p : Queue) (qs ps os : List (Nat × α)) : Prop where
  one : q.Holds h qs
  two : p.Holds h ps
  loose : ∀ x ∈ os, ∃ next, h.lookup x.1 = some ⟨x.2, next⟩
  apart : (addresses (qs ++ (ps ++ os))).Nodup
  allocated : ∀ a, a ∈ h ↔ a ∈ addresses (qs ++ (ps ++ os))

end Operations

namespace Shape

variable {h : Heap α} {q p : Queue} {qs ps os pre post : List (Nat × α)} {x : Nat × α}

theorem empty : Shape (∅ : Heap α) {} {} [] [] [] where
  one := ⟨rfl, by simp⟩
  two := ⟨rfl, by simp⟩
  loose := by simp
  apart := by simp
  allocated := by simp [Finmap.notMem_empty]

theorem symm (shape : Shape h q p qs ps os) : Shape h p q ps qs os := by
  have moved : (addresses (qs ++ (ps ++ os))).Perm (addresses (ps ++ (qs ++ os))) := by
    refine List.Perm.map _ ?_
    rw [← List.append_assoc, ← List.append_assoc]
    exact List.Perm.append_right os List.perm_append_comm
  exact ⟨shape.two, shape.one, shape.loose, moved.nodup_iff.mp shape.apart,
    fun a => (shape.allocated a).trans moved.mem_iff⟩

theorem disjoint (shape : Shape h q p qs ps os) {a : Nat} (member : a ∈ addresses qs) :
    a ∉ addresses ps ∧ a ∉ addresses os := by
  have apart := shape.apart
  simp only [addresses_append, List.nodup_append, List.mem_append] at apart
  exact ⟨fun two => apart.2.2 a member a (.inl two) rfl, fun loose => apart.2.2 a member a (.inr loose) rfl⟩

/-- A node of its own. -/
theorem insert (shape : Shape h q p qs ps os) (fresh : x.1 ∉ h) (next : Option Nat) :
    Shape (h.insert x.1 ⟨x.2, next⟩) q p qs ps (x :: os) := by
  have new := (shape.allocated x.1).not.mp fresh
  have same : ∀ a, a ≠ x.1 → (h.insert x.1 ⟨x.2, next⟩).lookup a = h.lookup a := fun a differs =>
    Finmap.lookup_insert_of_ne h differs
  have moved : (addresses (qs ++ (ps ++ x :: os))).Perm (x.1 :: addresses (qs ++ (ps ++ os))) := by
    rw [← addresses_cons]
    refine List.Perm.map _ ?_
    rw [← List.append_assoc, ← List.append_assoc]
    exact List.perm_middle
  simp only [addresses_append, List.mem_append, not_or] at new
  refine ⟨shape.one.congr fun a member => same a fun eq => new.1 (eq ▸ member),
    shape.two.congr fun a member => same a fun eq => new.2.1 (eq ▸ member), ?_, ?_, ?_⟩
  · intro y listed
    rcases List.mem_cons.mp listed with rfl | member
    · exact ⟨next, Finmap.lookup_insert h⟩
    · obtain ⟨after, found⟩ := shape.loose y member
      exact ⟨after, (same y.1 fun eq => new.2.2 (eq ▸ mem_addresses member)).trans found⟩
  · refine moved.nodup_iff.mpr (List.nodup_cons.mpr ⟨?_, shape.apart⟩)
    exact (shape.allocated x.1).not.mp fresh
  · intro a
    rw [moved.mem_iff, List.mem_cons, Finmap.mem_insert, shape.allocated]

/-- A loose node joins the queue at its end. -/
theorem append (shape : Shape h q p qs ps (x :: os)) :
    ∃ h' q', q.append x.1 h = some (h', q') ∧ Shape h' q' p (qs ++ [x]) ps os := by
  obtain ⟨next, found⟩ := shape.loose x List.mem_cons_self
  have apart := shape.apart
  simp only [addresses_append, addresses_cons, List.nodup_append, List.nodup_cons, List.mem_append,
    List.mem_cons] at apart
  obtain ⟨-, ⟨-, ⟨notLoose, -⟩, twoApart⟩, oneApart⟩ := apart
  have off : x.1 ∉ addresses qs := fun member => oneApart x.1 member x.1 (.inr (.inl rfl)) rfl
  have moved : (addresses (qs ++ [x] ++ (ps ++ os))).Perm (addresses (qs ++ (ps ++ x :: os))) := by
    refine List.Perm.map _ ?_
    rw [List.append_assoc]
    exact List.Perm.append_left qs (@List.perm_middle _ x ps os).symm
  obtain ⟨h', q', run, holds, same, keys⟩ := Queue.append_spec shape.one found off
  refine ⟨h', q', run, holds, ?_, ?_, moved.nodup_iff.mpr shape.apart, fun a => ?_⟩
  · exact shape.two.congr fun a member => same a (twoApart a member x.1 (.inl rfl))
      fun inOne => oneApart a inOne a (.inl member) rfl
  · intro y member
    obtain ⟨after, at'⟩ := shape.loose y (List.mem_cons_of_mem _ member)
    refine ⟨after, (same y.1 ?_ ?_).trans at'⟩
    · exact fun eq => notLoose (eq ▸ mem_addresses member)
    · exact fun inOne => oneApart y.1 inOne y.1 (.inr (.inr (mem_addresses member))) rfl
  · rw [keys, shape.allocated, moved.mem_iff]

/-- Where the first node of a queue is cut off and the list made empty, all of its nodes are loose. -/
theorem cut (shape : Shape h q p (x :: qs) ps os) :
    ∃ h', setNext h x.1 none = some h' ∧ Shape h' ⟨none, q.last⟩ p [] ps (x :: (qs ++ os)) := by
  obtain ⟨next, found⟩ := Segment.lookup shape.one.chain List.mem_cons_self
  have apart := shape.disjoint (a := x.1) List.mem_cons_self
  have nodup := shape.apart
  simp only [List.cons_append, addresses_cons, List.nodup_cons] at nodup
  have same : ∀ a, a ≠ x.1 → (h.insert x.1 ⟨x.2, none⟩).lookup a = h.lookup a := fun a differs =>
    Finmap.lookup_insert_of_ne h differs
  have moved : (addresses (ps ++ (x :: (qs ++ os)))).Perm (addresses (x :: qs ++ (ps ++ os))) := by
    refine List.Perm.map _ ?_
    rw [← List.cons_append, ← List.append_assoc, ← List.append_assoc]
    exact List.Perm.append_right os List.perm_append_comm
  refine ⟨_, setNext_eq found none, ⟨rfl, nofun⟩, ?_, ?_, moved.nodup_iff.mpr shape.apart, fun a => ?_⟩
  · exact shape.two.congr fun a member => same a fun eq => apart.1 (eq ▸ member)
  · intro y listed
    rcases List.mem_cons.mp listed with rfl | member
    · exact ⟨none, Finmap.lookup_insert h⟩
    · have away : y.1 ≠ x.1 := by
        refine fun eq => nodup.1 (eq ▸ mem_addresses ?_)
        rcases List.mem_append.mp member with inOne | inLoose
        · exact List.mem_append_left _ inOne
        · exact List.mem_append_right _ (List.mem_append_right _ inLoose)
      rcases List.mem_append.mp member with inOne | inLoose
      · obtain ⟨after, at'⟩ := Segment.lookup shape.one.chain (List.mem_cons_of_mem x inOne)
        exact ⟨after, (same _ away).trans at'⟩
      · obtain ⟨after, at'⟩ := shape.loose y inLoose
        exact ⟨after, (same _ away).trans at'⟩
  · rw [mem_insert_of_lookup found, shape.allocated, List.nil_append, moved.mem_iff]

/-- A value in a queue is changed in its place. -/
theorem setValue (shape : Shape h q p (pre ++ x :: post) ps os) (value : α) :
    ∃ h', setValue h x.1 value = some h' ∧ Shape h' q p (pre ++ (x.1, value) :: post) ps os := by
  have listed : ∀ y : α, addresses (pre ++ (x.1, y) :: post) = addresses (pre ++ x :: post) := fun y => by simp
  have member : x.1 ∈ addresses (pre ++ x :: post) := by simp
  obtain ⟨inTwo, inLoose⟩ := shape.disjoint member
  have nodup := shape.one.chain.nodup
  simp only [addresses_append, addresses_cons, List.nodup_append, List.nodup_cons, List.mem_cons] at nodup
  obtain ⟨-, ⟨offPost, -⟩, apart⟩ := nodup
  have offPre : x.1 ∉ addresses pre := fun again => apart x.1 again x.1 (.inl rfl) rfl
  obtain ⟨m, front, start, next, found, back⟩ := segment_append.mp shape.one.chain
  refine ⟨_, setValue_eq found value, ⟨?_, fun y last => ?_⟩, ⟨Segment.insert shape.two.chain inTwo, shape.two.atEnd⟩,
    fun y loose => ?_, ?_, fun a => ?_⟩
  · exact segment_append.mpr ⟨m, front.insert offPre, start, next, Finmap.lookup_insert h, back.insert offPost⟩
  · have atEnd := shape.one.atEnd
    simp only [List.getLast?_append, List.getLast?_cons, Option.some_or, Option.some.injEq] at atEnd last
    rw [← last]
    cases others : post.getLast? with
    | none => simpa [others] using atEnd x (by simp [others])
    | some z => simpa [others] using atEnd z (by simp [others])
  · obtain ⟨after, at'⟩ := shape.loose y loose
    have differs : y.1 ≠ x.1 := fun eq => inLoose (eq ▸ mem_addresses loose)
    exact ⟨after, (Finmap.lookup_insert_of_ne h differs).trans at'⟩
  · rw [addresses_append, listed, ← addresses_append]
    exact shape.apart
  · rw [mem_insert_of_lookup found, shape.allocated]
    simp only [addresses_append, addresses_cons]

/-- The first node of a queue is freed. -/
theorem pop (shape : Shape h q p (x :: qs) ps os) :
    ∃ h' q', q.pop h = some (h', q') ∧ Shape h' q' p qs ps os := by
  obtain ⟨start, next, found, later⟩ := shape.one.chain
  have apart := shape.apart
  simp only [List.cons_append, addresses_cons, addresses_append, List.nodup_cons, List.mem_append, not_or] at apart
  obtain ⟨⟨offOne, offTwo, offLoose⟩, nodup⟩ := apart
  refine ⟨h.erase x.1, ⟨next, q.last⟩, ?_, ⟨later.erase offOne, fun y last => ?_⟩,
    ⟨Segment.erase shape.two.chain offTwo, shape.two.atEnd⟩, ?_, ?_, fun a => ?_⟩
  · simp only [Queue.pop, start, found, Option.bind_eq_bind, Option.bind_some]
  · refine shape.one.atEnd y ?_
    rw [List.getLast?_cons, last, Option.getD_some]
  · intro y member
    obtain ⟨after, at'⟩ := shape.loose y member
    have differs : y.1 ≠ x.1 := fun eq => offLoose (eq ▸ mem_addresses member)
    exact ⟨after, (Finmap.lookup_erase_ne differs).trans at'⟩
  · simpa only [addresses_append] using nodup
  · have here := shape.allocated a
    rw [Finmap.mem_erase, here]
    simp only [List.cons_append, addresses_cons, addresses_append, List.mem_cons, List.mem_append]
    constructor
    · rintro ⟨differs, same | member⟩
      · exact absurd same differs
      · exact member
    · intro member
      refine ⟨?_, .inr member⟩
      rintro rfl
      rcases member with one | two | loose
      · exact offOne one
      · exact offTwo two
      · exact offLoose loose

/-- A node in the middle of a queue is freed. -/
theorem remove (shape : Shape h q p (pre ++ x :: post) ps os) :
    ∃ h' q', q.remove (pre.getLast?.map Prod.fst) x.1 h = some (h', q') ∧ Shape h' q' p (pre ++ post) ps os := by
  have moved : (addresses (pre ++ x :: post ++ (ps ++ os))).Perm (x.1 :: addresses (pre ++ post ++ (ps ++ os))) := by
    rw [← addresses_cons]
    refine List.Perm.map _ ?_
    rw [List.append_assoc, List.append_assoc]
    exact List.perm_middle
  have nodup := List.nodup_cons.mp (moved.nodup_iff.mp shape.apart)
  obtain ⟨off, rest⟩ := nodup
  simp only [addresses_append, List.mem_append, not_or] at off
  obtain ⟨⟨offPre, offPost⟩, offTwo, offLoose⟩ := off
  have apartPre : ∀ a ∈ addresses pre, a ∉ addresses ps ∧ a ∉ addresses os := fun a member =>
    shape.disjoint (by rw [addresses_append]; exact List.mem_append_left _ member)
  obtain ⟨h', first, run, chain, same, keys⟩ := unlink_spec shape.one.chain
  obtain ⟨last, ended, atEnd⟩ : ∃ last, q.remove (pre.getLast?.map Prod.fst) x.1 h = some (h'.erase x.1, ⟨first, last⟩) ∧
      ∀ y, (pre ++ post).getLast? = some y → last = some y.1 := by
    have endOf : ∀ y, post.getLast? = some y → q.last = some y.1 := by
      intro y last
      refine shape.one.atEnd y ?_
      rw [List.getLast?_append, List.getLast?_cons, last]
      rfl
    rcases List.eq_nil_or_concat' pre with rfl | ⟨init, b, rfl⟩
    · exact ⟨q.last, by simp [Queue.remove, show unlink h q.first none x.1 = _ from run], fun y last => endOf y last⟩
    · obtain ⟨m, front, back⟩ := segment_append.mp chain
      obtain ⟨c, -, start, next, found, follows⟩ := segment_append.mp front
      obtain rfl : next = m := follows
      rw [List.getLast?_concat] at run
      refine ⟨if next = none then some b.1 else q.last, ?_, fun y last => ?_⟩
      · rw [List.getLast?_concat]
        simp only [Option.map_some] at run
        simp only [Queue.remove, run, found, Option.bind_eq_bind, Option.bind_some, Option.map_some]
      · cases post with
        | nil =>
          rw [List.append_nil, List.getLast?_concat, Option.some.injEq] at last
          rw [if_pos (show next = none from back), last]
        | cons z others =>
          rw [if_neg (by rw [back.first]; nofun)]
          refine endOf y ?_
          rwa [List.getLast?_append, List.getLast?_cons, Option.some_or, ← List.getLast?_cons] at last
  refine ⟨h'.erase x.1, ⟨first, last⟩, ended, ⟨Segment.erase chain ?_, atEnd⟩, ⟨?_, shape.two.atEnd⟩, ?_, ?_, ?_⟩
  · rw [addresses_append, List.mem_append, not_or]
    exact ⟨offPre, offPost⟩
  · exact (Segment.congr shape.two.chain fun a member => same a fun inPre => (apartPre a inPre).1 member).erase offTwo
  · intro y member
    obtain ⟨after, at'⟩ := shape.loose y member
    have out : y.1 ∈ addresses os := mem_addresses member
    have differs : y.1 ≠ x.1 := fun eq => offLoose (eq ▸ out)
    refine ⟨after, (Finmap.lookup_erase_ne differs).trans ?_⟩
    exact (same y.1 fun inPre => (apartPre y.1 inPre).2 out).trans at'
  · exact rest
  · intro a
    rw [Finmap.mem_erase, keys, shape.allocated, moved.mem_iff, List.mem_cons]
    have gone : x.1 ∉ addresses (pre ++ post ++ (ps ++ os)) := (List.nodup_cons.mp (moved.nodup_iff.mp shape.apart)).1
    constructor
    · rintro ⟨differs, rfl | member⟩
      · exact absurd rfl differs
      · exact member
    · exact fun member => ⟨fun eq => gone (eq ▸ member), .inr member⟩

end Shape

end LinkedList
